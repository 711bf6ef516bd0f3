import PrologImage.Path
import PrologImage.Step

/-!
Contract: loading sources one by one, each on top of the ones before it.

Owns: what a backend can be asked, the list of sources loaded so far, and the order in which
sources are announced and loaded.

Does not own: how a backend answers (`Interpreter.Backend`).

A source is announced, then the backend is asked to load all sources loaded so far and this one.
The source counts as loaded exactly when the backend answers that there is no error. Loading a
list stops at the first source with an error.
-/

namespace PrologImage

structure SaveOptions where
  goal : String := "true"
  toplevel : String := "prolog"
  standAlone : Bool := false
deriving DecidableEq, Repr

/-- What can load sources and save images. An answer is the first error, or none. -/
structure Backend (σ : Type) where
  consult : (sources : List Path) → (verbose : Bool) → Step σ (Option Diagnostic)
  saveImage : (sources : List Path) → (output : Path) → (options : SaveOptions) →
    (verbose : Bool) → Step σ (Option Diagnostic)

/-- The sources loaded so far, in order, and the state of the backend. -/
structure Loading (σ : Type) where
  loaded : List Path
  backend : σ

/-- The outcome of loading one source. -/
structure LoadResult where
  path : Path
  diagnostic : Option Diagnostic := none
deriving DecidableEq

def LoadResult.ok (result : LoadResult) : Bool :=
  result.diagnostic.isNone

/-- A step of the backend, as a step of loading. -/
def Loading.ofBackend {σ α : Type} (step : Step σ α) : Step (Loading σ) α :=
  step.within Loading.backend fun backend loading => { loading with backend }

/-- A backend, and what is done with a path before it is loaded. -/
structure Loader (σ : Type) where
  backend : Backend σ
  announce : Path → σ → σ

namespace Loader

variable {σ : Type}

/-- Loads one source on top of those already loaded. -/
def load (loader : Loader σ) (path : Path) (verbose : Bool) : Step (Loading σ) LoadResult := do
  modify fun loading => { loading with backend := loader.announce path loading.backend }
  let loading ← get
  let diagnostic ← Loading.ofBackend (loader.backend.consult (loading.loaded ++ [path]) verbose)
  if diagnostic.isNone then
    modify fun loading => { loading with loaded := loading.loaded ++ [path] }
  return { path, diagnostic }

/-- Loads sources in order: the result for the first that has an error, or none. -/
def loadAll (loader : Loader σ) (verbose : Bool) :
    List Path → Step (Loading σ) (Option LoadResult)
  | [] => return none
  | path :: rest => do
      let result ← loader.load path verbose
      if result.ok then loadAll loader verbose rest
      else return some result

end Loader

end PrologImage
