import Playground.Command.Spec

/-!
# Faults of command lines

Why a command line is not followed.  A request for help or for the version is one of the reasons:
it is answered instead.
-/

namespace Playground.Command

/-- Why a command line is not followed. -/
inductive Fault where
  | help (text : String)
  | version
  /-- nothing was given at all -/
  | nothingGiven
  | missingCommand
  | unknownCommand (name : String) (similar : List String) (usage : String)
  | unknownArgument (text : String) (similar : Option String) (tips : List String)
      (usage : String)
  | givenTwice (argument : Argument) (usage : String)
  | valueMissing (argument : Argument)
  | valueInvalid (argument : Argument) (value : String) (similar : Option String)
  | valueUnneeded (argument : Argument) (value : String) (usage : String)
  | argumentsMissing (arguments : List Argument) (usage : String)
deriving DecidableEq, Inhabited, Repr

namespace Fault

/-- A usage line. -/
def usageLine (usage : String) : String := "\n\nUsage: " ++ usage

/-- What is said at the end of every message. -/
def helpHint : String := "\n\nFor more information, try '--help'.\n"

/-- A list of words in brackets. -/
def wordList (name : String) (words : List String) : String :=
  if words.isEmpty then "" else "\n  [" ++ name ++ ": " ++ ", ".intercalate words ++ "]"

/-- A tip on words that are alike. -/
def similarTip (kind : String) (words : List String) : String :=
  let quoted := words.map fun w => "'" ++ w ++ "'"
  match quoted with
  | [w] => "a similar " ++ kind ++ " exists: " ++ w
  | ws => "some similar " ++ kind ++ "s exist: " ++ ", ".intercalate ws

/-- Tips, each on a line of its own. -/
def tipLines (tips : List String) : String :=
  if tips.isEmpty then "" else "\n" ++ String.join (tips.map fun t => "\n  tip: " ++ t)

/-- The words for a fault. -/
def message : Fault → String
  | help text => text
  | version => versionText
  | nothingGiven => programHelp
  | missingCommand =>
    "error: '" ++ programName ++ "' requires a subcommand but one was not provided"
      ++ wordList "subcommands" commandNames ++ usageLine programUsage ++ helpHint
  | unknownCommand name similar usage =>
    "error: unrecognized subcommand '" ++ name ++ "'"
      ++ tipLines (if similar.isEmpty then [] else [similarTip "subcommand" similar])
      ++ usageLine usage ++ helpHint
  | unknownArgument text similar tips usage =>
    "error: unexpected argument '" ++ text ++ "' found"
      ++ tipLines ((similar.toList.map fun w => similarTip "argument" [w]) ++ tips)
      ++ usageLine usage ++ helpHint
  | givenTwice argument usage =>
    "error: the argument '" ++ argument.text ++ "' cannot be used multiple times"
      ++ usageLine usage ++ helpHint
  | valueMissing argument =>
    "error: a value is required for '" ++ argument.text ++ "' but none was supplied"
      ++ wordList "possible values" argument.choices ++ helpHint
  | valueInvalid argument value similar =>
    "error: invalid value '" ++ value ++ "' for '" ++ argument.text ++ "'"
      ++ wordList "possible values" argument.choices
      ++ tipLines (similar.toList.map fun w => similarTip "value" [w]) ++ helpHint
  | valueUnneeded argument value usage =>
    "error: unexpected value '" ++ value ++ "' for '" ++ argument.text
      ++ "' found; no more were expected" ++ usageLine usage ++ helpHint
  | argumentsMissing arguments usage =>
    "error: the following required arguments were not provided:"
      ++ String.join (arguments.map fun a => "\n  " ++ a.text) ++ usageLine usage ++ helpHint

/-- Whether the message is an answer to what was asked for. -/
def isAnswer : Fault → Bool
  | help _ | version => true
  | _ => false

end Fault

end Playground.Command
