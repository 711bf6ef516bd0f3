import PrologImage.Path

/-!
Contract: what a build is asked to do, and how the arguments after the separator say it.

Owns: the division of an argument list at its separator, the payload grammar, and the one way in
which a payload can be refused.

Does not own: the options before the separator (`CommandLine`).

A payload token is a switch (`-v`, `-c`, `-o`) or a plain token. A plain token is governed by the
last `-c` or `-o` before it: it is an input after `-c`, the output after `-o`, and nothing when
there is no such switch. `-v` asks for verbose mode and governs nothing.
-/

namespace PrologImage

/-- The token that ends the options and starts the payload. -/
def separator : String := "--"

/-- The arguments before the first separator, and those after it. Without a separator all
arguments are options. -/
def splitArguments : List String → List String × List String
  | [] => ([], [])
  | argument :: rest =>
      if argument = separator then ([], rest)
      else (argument :: (splitArguments rest).1, (splitArguments rest).2)

/-- What a build is asked to do. -/
structure Request where
  verbose : Bool := false
  inputs : List Path := []
  output : Option Path := none
deriving DecidableEq

/-- Why a payload is refused. -/
inductive RequestError where
  | secondOutput
deriving DecidableEq, Repr

def RequestError.message : RequestError → String
  | .secondOutput => "cannot have more than 1 output file."

/-- The switches that govern the plain tokens after them. -/
inductive Switch where
  | inputs
  | output
deriving DecidableEq, Repr

/-- The switch that a token is, if it is one that governs. -/
def Switch.ofToken? (token : String) : Option Switch :=
  if token = "-c" then some .inputs
  else if token = "-o" then some .output
  else none

namespace Request

/-- Adds a plain token under the switch that governs it. -/
def add (request : Request) (switch : Option Switch) (token : String) :
    Except RequestError Request :=
  match switch with
  | none => .ok request
  | some .inputs => .ok { request with inputs := request.inputs ++ [Path.ofText token] }
  | some .output =>
      match request.output with
      | some _ => .error .secondOutput
      | none => .ok { request with output := some (Path.ofText token) }

/-- Reads the tokens of a payload from left to right. -/
def readTokens (switch : Option Switch) (request : Request) :
    List String → Except RequestError Request
  | [] => .ok request
  | token :: rest =>
      if token = "-v" then readTokens switch { request with verbose := true } rest
      else
        match Switch.ofToken? token with
        | some governing => readTokens (some governing) request rest
        | none => do
            let extended ← request.add switch token
            readTokens switch extended rest

/-- The request in the payload of an argument list. -/
def ofArguments (arguments : List String) : Except RequestError Request :=
  readTokens none {} (splitArguments arguments).2

end Request

end PrologImage
