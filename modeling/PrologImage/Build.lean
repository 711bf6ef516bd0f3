import PrologImage.Loader
import PrologImage.Request

/-!
Contract: the two actions on a request.

Owns: checking the sources, saving an image after all sources are loaded, and the failure for a
request that lacks an output.

Does not own: reading the request (`Request`) or printing anything (`Application`).
-/

namespace PrologImage

/-- The actions that a command can name. -/
inductive Action where
  | precompile
  | syntaxCheck
deriving DecidableEq, Repr

def Action.word : Action → String
  | .precompile => "precompile"
  | .syntaxCheck => "syntax_check"

def Action.ofWord (word : String) : Except ForeignError Action :=
  if word = Action.precompile.word then .ok .precompile
  else if word = Action.syntaxCheck.word then .ok .syntaxCheck
  else .error (.unknownAction word)

namespace Build

variable {σ : Type}

/-- The failure of a request to save an image that does not say where. -/
def outputMissing : Failure :=
  .plain .usage "precompile requires an output file (-o)."
    (some "Pass -o <output> after the inputs.")

/-- Loads all inputs of a request, or stops with the first error. -/
def loadInputs (loader : Loader σ) (request : Request) : Step (Loading σ) Unit := do
  match ← loader.loadAll request.verbose request.inputs with
  | some { diagnostic := some diagnostic, .. } => throw (.reported (.notLoaded diagnostic))
  | _ => return ()

/-- Loads all inputs of a request; an output is ignored. -/
def syntaxCheck (loader : Loader σ) (request : Request) : Step (Loading σ) Unit :=
  loadInputs loader request

/-- Loads all inputs of a request and saves the image: the path of the image. -/
def precompile (loader : Loader σ) (request : Request) (options : SaveOptions) :
    Step (Loading σ) Path := do
  match request.output with
  | none => throw (.reported outputMissing)
  | some output =>
      loadInputs loader request
      let loading ← get
      match ← Loading.ofBackend
          (loader.backend.saveImage loading.loaded output options request.verbose) with
      | some diagnostic => throw (.reported (.notLoaded diagnostic))
      | none => return output

end Build

end PrologImage
