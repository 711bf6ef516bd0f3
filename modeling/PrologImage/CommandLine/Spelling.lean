import PrologImage.Text.Digit

/-!
Contract: what each argument before the payload can be, seen by itself.

Owns: the options with their spellings, and whether an argument is an option, a plain argument, or
an option that is not known.

A long option may be shortened to any start that no other option has, and may carry its value
after an equals sign. A short option may be joined with what follows it. A negative number, a
single dash, the empty argument and an unknown option with a blank in it are plain arguments.
-/

namespace PrologImage.CommandLine

inductive OptionName where
  | help
  | version
  | interpreter
  | timeLimit
  | logLevel
deriving DecidableEq, Repr

def OptionName.spellings : OptionName → List String
  | .help => ["-h", "--help"]
  | .version => ["-V", "--version"]
  | .interpreter => ["--swipl"]
  | .timeLimit => ["--timeout"]
  | .logLevel => ["--log-level"]

/-- An option as messages name it. -/
def OptionName.title (name : OptionName) : String :=
  String.intercalate "/" name.spellings

def OptionName.takesValue : OptionName → Bool
  | .help | .version => false
  | .interpreter | .timeLimit | .logLevel => true

/-- The options before the command, in the order of the help. -/
def leadingOptions : List OptionName :=
  [.help, .version, .interpreter, .timeLimit, .logLevel]

/-- The options after the command. -/
def commandOptions : List OptionName := [.help]

/-- Each spelling of some options with its option. -/
def spelled (options : List OptionName) : List (String × OptionName) :=
  options.flatMap fun name => name.spellings.map (·, name)

/-- What an argument is: a plain argument, an option with the value that is joined to it, or an
option that is not known. A short option and what is joined to it are kept apart from a long one,
because more short options may be joined. -/
inductive Spelling where
  | plain
  | long (name : OptionName) (joined : Option String)
  | short (name : OptionName) (joined : Option String)
  | unknown
deriving DecidableEq, Repr

/-- Whether an argument is written like a negative number: digits with a point before the last of
them, or without one. A line feed at the end does not count. -/
def isNegativeNumber (argument : List Char) : Bool :=
  match argument with
  | '-' :: number =>
      let body := if number.getLast? = some '\n' then number.dropLast else number
      match body.dropWhile Text.isDigit with
      | [] => body ≠ []
      | '.' :: fraction => fraction ≠ [] && fraction.all Text.isDigit
      | _ => false
  | _ => false

/-- An argument divided at its first equals sign. -/
def atEquals (argument : List Char) : List Char × Option (List Char) :=
  match argument.dropWhile (· ≠ '=') with
  | _ :: value => (argument.takeWhile (· ≠ '='), some value)
  | [] => (argument, none)

/-- An option under a spelling, with what is joined to it. -/
def Spelling.ofSpelling (spelling : String) (name : OptionName) (joined : Option String) :
    Spelling :=
  if spelling.length = 2 then .short name joined else .long name joined

/-- The options whose spellings an argument can be short for: of a long one any start, of a short
one the two characters that the argument starts with. -/
def abbreviated (options : List OptionName) (argument : List Char) :
    List (String × Spelling) :=
  match argument with
  | '-' :: '-' :: _ =>
      let (start, value) := atEquals argument
      (spelled options).filterMap fun (spelling, name) =>
        if start.isPrefixOf spelling.toList then
          some (spelling, .ofSpelling spelling name (value.map String.ofList))
        else none
  | _ =>
      (spelled options).filterMap fun (spelling, name) =>
        if spelling.toList = argument.take 2 then
          some (spelling, .ofSpelling spelling name (some (String.ofList (argument.drop 2))))
        else none

/-- What an argument with a dash in front is, unless it is short for several options: then their
spellings. -/
def spellingOf (options : List OptionName) (argument : String) : Except (List String) Spelling :=
  let characters := argument.toList
  if characters.head? ≠ some '-' then .ok .plain
  else
    match (spelled options).lookup argument with
    | some name => .ok (.ofSpelling argument name none)
    | none =>
        if characters = ['-'] then .ok .plain
        else
          let (start, value) := atEquals characters
          let exact := (spelled options).lookup (String.ofList start)
          match exact, value with
          | some name, some value =>
              .ok (.ofSpelling (String.ofList start) name (some (String.ofList value)))
          | _, _ =>
              match abbreviated options characters with
              | [(_, spelling)] => .ok spelling
              | [] =>
                  if isNegativeNumber characters || characters.contains ' ' then .ok .plain
                  else .ok .unknown
              | several => .error (several.map (·.1))

end PrologImage.CommandLine
