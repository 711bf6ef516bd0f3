import PrologImage.Build
import PrologImage.CommandLine.Spelling
import PrologImage.Decimal.Reader
import PrologImage.Session
import PrologImage.Text.UpperCase

/-!
Contract: the arguments before the payload.

Owns: the commands, the settings that options make, what a command line asks for, and every way in
which the arguments before the payload can be refused.

All arguments are looked at by themselves first. Then they are taken from left to right: help and
version answer as soon as they are met, the first plain argument is the command, and what follows
the command belongs to it. A refusal that is met first wins; unknown options and stray arguments
are refused together at the end, after a missing command.
-/

namespace PrologImage.CommandLine

inductive Command where
  | build (action : Action)
  | doctor
deriving DecidableEq, Repr

namespace Command

def all : List Command := [.build .precompile, .build .syntaxCheck, .doctor]

def word : Command → String
  | .build action => action.word
  | .doctor => "doctor"

def ofWord? (word : String) : Option Command :=
  all.find? fun command => command.word = word

end Command

/-- Why the arguments before the payload are refused. -/
inductive OptionError where
  | ambiguous (argument : String) (spellings : List String)
  | valueMissing (name : OptionName)
  | valueIgnored (name : OptionName) (value : String)
  | notSeconds (value : String)
  | notLogLevel (value : String)
  | notCommand (value : String)
  | commandMissing
  | unrecognized (arguments : List String)
deriving DecidableEq, Repr

def invalidChoice (value : String) (words : List String) : String :=
  let choices := String.intercalate ", " (words.map Text.Literal.quoted)
  s!"invalid choice: {Text.Literal.quoted value} (choose from {choices})"

def aboutOption (name : OptionName) (complaint : String) : String :=
  s!"argument {name.title}: {complaint}"

def OptionError.message : OptionError → String
  | .ambiguous argument spellings =>
      s!"ambiguous option: {argument} could match " ++ String.intercalate ", " spellings
  | .valueMissing name => aboutOption name "expected one argument"
  | .valueIgnored name value =>
      aboutOption name ("ignored explicit argument " ++ Text.Literal.quoted value)
  | .notSeconds value =>
      aboutOption .timeLimit ("invalid float value: " ++ Text.Literal.quoted value)
  | .notLogLevel value =>
      aboutOption .logLevel (invalidChoice value (LogLevel.all.map LogLevel.name))
  | .notCommand value =>
      "argument command: " ++ invalidChoice value (Command.all.map Command.word)
  | .commandMissing => "the following arguments are required: command"
  | .unrecognized arguments => "unrecognized arguments: " ++ String.intercalate " " arguments

def OptionError.failure (error : OptionError) : Failure :=
  .plain .usage error.message
    (some "Run 'plbuild --help' for usage; payload arguments go after '--'.")

structure Options where
  interpreter : Option String := none
  limit : Option Decimal.Double := none
  logLevel : LogLevel := .warning
deriving DecidableEq, Repr

/-- What the arguments before the payload ask for. -/
inductive Invocation where
  | help (command : Option Command)
  | version
  | run (options : Options) (command : Command)
deriving DecidableEq, Repr

/-- An argument with what it is by itself. -/
structure Argument where
  text : String
  spelling : Spelling
deriving DecidableEq, Repr

def spellings (options : List OptionName) : List String → Except OptionError (List Argument)
  | [] => .ok []
  | text :: rest =>
      match spellingOf options text with
      | .error several => .error (.ambiguous text several)
      | .ok spelling => do
          let others ← spellings options rest
          return ⟨text, spelling⟩ :: others

/-- Checks that what is joined to a short option without a value is a row of further ones. -/
def checkJoined (options : List OptionName) (name : OptionName) :
    List Char → Except OptionError Unit
  | [] => .ok ()
  | character :: rest =>
      match (spelled options).lookup (String.ofList ['-', character]) with
      | some next => checkJoined options next rest
      | none => .error (.valueIgnored name (String.ofList (character :: rest)))

/-- Checks what is joined to a short option without a value. -/
def checkShort (options : List OptionName) (name : OptionName) :
    Option String → Except OptionError Unit
  | none => .ok ()
  | some joined =>
      if joined.isEmpty then .error (.valueIgnored name joined)
      else checkJoined options name joined.toList

/-- The settings with one more value. -/
def Options.set (options : Options) (name : OptionName) (value : String) :
    Except OptionError Options :=
  match name with
  | .interpreter => .ok { options with interpreter := some value }
  | .timeLimit =>
      match Decimal.Double.ofText? value with
      | some seconds => .ok { options with limit := some seconds }
      | none => .error (.notSeconds value)
  | .logLevel =>
      match LogLevel.ofName? (Text.upperCase value) with
      | some level => .ok { options with logLevel := level }
      | none => .error (.notLogLevel (Text.upperCase value))
  | .help | .version => .ok options

/-- What an option without a value asks for. -/
def answerOf (name : OptionName) (command : Option Command) : Invocation :=
  if name = .version then .version else .help command

/-- Takes the arguments of a command: the ones that it has no use for, or help. -/
def takeCommandArguments (command : Command) :
    List Argument → Except OptionError (List String ⊕ Invocation)
  | [] => .ok (.inl [])
  | argument :: rest =>
      match argument.spelling with
      | .long name (some value) => .error (.valueIgnored name value)
      | .long name none => .ok (.inr (answerOf name (some command)))
      | .short name joined => do
          checkShort commandOptions name joined
          return .inr (answerOf name (some command))
      | .plain | .unknown => do
          match ← takeCommandArguments command rest with
          | .inl others => return .inl (argument.text :: others)
          | .inr invocation => return .inr invocation

/-- Takes a command and its arguments, after the settings and the unknown options before it. -/
def takeCommand (options : Options) (unknown : List String) (word : String)
    (arguments : List String) : Except OptionError Invocation :=
  match Command.ofWord? word with
  | none => .error (.notCommand word)
  | some command => do
      let spelledArguments ← spellings commandOptions arguments
      match ← takeCommandArguments command spelledArguments with
      | .inr invocation => return invocation
      | .inl stray =>
          if unknown ++ stray = [] then return .run options command
          else .error (.unrecognized (unknown ++ stray))

/-- Takes the arguments from left to right, after the settings and the unknown options so far. -/
def take (options : Options) (unknown : List String) :
    List Argument → Except OptionError Invocation
  | [] => .error .commandMissing
  | ⟨text, .plain⟩ :: rest => takeCommand options unknown text (rest.map Argument.text)
  | ⟨text, .unknown⟩ :: rest => take options (unknown ++ [text]) rest
  | ⟨_, .long name (some value)⟩ :: rest =>
      if name.takesValue then do
        let extended ← options.set name value
        take extended unknown rest
      else .error (.valueIgnored name value)
  | ⟨_, .long name none⟩ :: ⟨value, .plain⟩ :: rest =>
      if name.takesValue then do
        let extended ← options.set name value
        take extended unknown rest
      else .ok (answerOf name none)
  | ⟨_, .long name none⟩ :: _ =>
      if name.takesValue then .error (.valueMissing name) else .ok (answerOf name none)
  | ⟨_, .short name joined⟩ :: _ => do
      checkShort leadingOptions name joined
      return answerOf name none

/-- What the arguments before the payload ask for. -/
def Invocation.ofArguments (arguments : List String) : Except OptionError Invocation := do
  take {} [] (← spellings leadingOptions arguments)

end PrologImage.CommandLine
