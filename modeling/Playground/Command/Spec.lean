/-!
# The command line

The commands of the program, their arguments and options, and the help on them.
-/

namespace Playground.Command

/-- What may be given to a command: a place for a value, an option, or a switch. -/
structure Argument where
  name : String
  help : String
  short : Option Char := none
  /-- the long name; without one the argument is known by its place -/
  long : Option String := none
  /-- the name of its value; a switch has none -/
  value : Option String := none
  required : Bool := false
  /-- the values that are allowed, if not all are -/
  choices : List String := []
  default : Option String := none
  /-- the value may be empty -/
  mayBeEmpty : Bool := false
  /-- the place of an option among those of its command -/
  order : Nat := 0
deriving DecidableEq, Inhabited, Repr

/-- A command. -/
structure Spec where
  name : String
  alternative : String
  about : String
  positionals : List Argument := []
  options : List Argument := []
deriving DecidableEq, Inhabited, Repr

/-! ### Options of all commands -/

/-- Whether output is coloured. -/
def colorOption : Argument :=
  { name := "color", long := some "color", value := some "COLOR", default := some "auto"
    choices := ["auto", "always", "never"], order := 0
    help := "Control colored output (auto, always, never)" }

/-- Whether details are shown. -/
def verboseOption : Argument :=
  { name := "verbose", short := some 'v', long := some "verbose", order := 1
    help := "Enable verbose output for debugging" }

/-- Where the configuration is. -/
def configOption : Argument :=
  { name := "config", short := some 'C', long := some "config", value := some "CONFIG"
    default := some "playground.toml", order := 2
    help := "Config file path (default: playground.toml)" }

/-- Asks for help. -/
def helpOption : Argument :=
  { name := "help", short := some 'h', long := some "help", help := "Print help" }

/-- Asks for the version. -/
def versionOption : Argument :=
  { name := "version", short := some 'V', long := some "version", help := "Print version" }

/-- The options that every command has. -/
def sharedOptions : List Argument := [colorOption, verboseOption, configOption]

/-! ### Commands -/

/-- The file that is compiled or shared. -/
def fileArgument : Argument :=
  { name := "file", value := some "FILE", help := "Source file (default: index.tsx)" }

/-- Where the output goes. -/
def outOption : Argument :=
  { name := "out", short := some 'o', long := some "out", value := some "OUT"
    help := "Output directory (default: [sandbox] out)" }

/-- The commands, in the order in which they are listed. -/
def commands : List Spec :=
  [{ name := "compile", alternative := "c"
     about := "Compile the source once and write the sandbox"
     positionals := [fileArgument], options := [outOption] },
   { name := "watch", alternative := "w"
     about := "Recompile whenever the source has been quiet for a while"
     positionals := [fileArgument]
     options :=
       [outOption,
        { name := "link", short := some 'l', long := some "link", value := some "LINK"
          mayBeEmpty := true, order := 1
          help := "Start from a permalink instead of the file's content" },
        { name := "no_stdin", long := some "no-stdin", order := 2
          help := "Do not read permalinks from stdin" }] },
   { name := "share", alternative := "s", about := "Print the permalink for a source file"
     positionals := [fileArgument] },
   { name := "open", alternative := "o", about := "Restore the source carried by a permalink"
     positionals :=
       [{ name := "link", value := some "LINK", required := true, mayBeEmpty := true
          help := "Permalink URL, \x60#fragment\x60 or bare fragment" }]
     options :=
       [{ name := "write", short := some 'w', long := some "write", value := some "WRITE"
          help := "Write the source to this file instead of stdout" }] },
   { name := "libs", alternative := "l", about := "List the library snapshot" }]

/-- The name of the program. -/
def programName : String := "tsplay"

/-- The program with its version. -/
def versionText : String := "tsplay 0.1.0\n"

/-- What the program is. -/
def programAbout : String :=
  "live TSX playground engine - compile as you type, share as a link"

/-- What the command is that gives help. -/
def helpAbout : String := "Print this message or the help of the given subcommand(s)"

/-- The command with a name. -/
def command? (name : String) : Option Spec :=
  commands.find? fun c => c.name = name || c.alternative = name

/-- All names of commands. -/
def commandNames : List String :=
  commands.flatMap (fun c => [c.name, c.alternative]) ++ ["help"]

/-! ### How arguments are written -/

namespace Argument

/-- An argument as it is written; `needed` says whether a place has to be filled. -/
def usageText (a : Argument) (needed : Bool) : String :=
  match a.long, a.value with
  | some long, some value => "--" ++ long ++ " <" ++ value ++ ">"
  | some long, none => "--" ++ long
  | none, some value => if needed then "<" ++ value ++ ">" else "[" ++ value ++ "]"
  | none, none => a.name

/-- An argument as it is named in messages. -/
def text (a : Argument) : String := a.usageText a.required

/-- The left side of the line on an argument. -/
def label (a : Argument) : String :=
  match a.short, a.long with
  | some c, some _ => "-" ++ c.toString ++ ", " ++ a.text
  | none, some _ => "    " ++ a.text
  | _, none => a.text

/-- The right side of the line on an argument. -/
def description (a : Argument) : String :=
  let default := match a.default with
    | some d => " [default: " ++ d ++ "]"
    | none => ""
  let choices :=
    if a.choices.isEmpty then ""
    else " [possible values: " ++ ", ".intercalate a.choices ++ "]"
  a.help ++ default ++ choices

end Argument

/-! ### Help -/

/-- Lines in two columns. -/
def columns (lines : List (String × String)) : String :=
  let width := (lines.map fun l => l.1.length).foldl max 0
  String.join <| lines.map fun (left, right) =>
    "  " ++ left ++ String.ofList (List.replicate (width - left.length) ' ') ++ "  " ++ right
      ++ "\n"

/-- What options of the same place are sorted by: their letter, a small one first, or their long
name. -/
def Argument.key (a : Argument) : String :=
  match a.short with
  | some c => String.ofList [c.toLower, if c.isLower then '0' else '1']
  | none => a.long.getD a.name

/-- The options of a command in the order in which they are listed. -/
def listed (options : List Argument) : List Argument :=
  (options ++ sharedOptions).mergeSort fun a b =>
    a.order < b.order || a.order == b.order && a.key ≤ b.key

/-- The usage of a command. -/
def Spec.usage (c : Spec) : String :=
  " ".intercalate ([programName, c.name, "[OPTIONS]"] ++ c.positionals.map Argument.text)

/-- The usage of the program. -/
def programUsage : String := programName ++ " [OPTIONS] <COMMAND>"

/-- A list of arguments under a heading. -/
def argumentList (heading : String) (arguments : List Argument) : String :=
  if arguments.isEmpty then ""
  else "\n" ++ heading ++ ":\n" ++ columns (arguments.map fun a => (a.label, a.description))

/-- The help on a command. -/
def Spec.helpText (c : Spec) : String :=
  c.about ++ "\n\nUsage: " ++ c.usage ++ "\n" ++ argumentList "Arguments" c.positionals
    ++ argumentList "Options" (listed c.options ++ [helpOption])

/-- The help on the program. -/
def programHelp : String :=
  let lines := commands.map fun c => (c.name, c.about ++ " [alias: " ++ c.alternative ++ "]")
  programAbout ++ "\n\nUsage: " ++ programUsage ++ "\n\nCommands:\n"
    ++ columns (lines ++ [("help", helpAbout)])
    ++ argumentList "Options" (listed [] ++ [helpOption, versionOption])

/-- The help on the command that gives help. -/
def helpHelp : String :=
  helpAbout ++ "\n\nUsage: " ++ programName ++ " help [COMMAND]...\n\nArguments:\n"
    ++ columns [("[COMMAND]...", "Print help for the subcommand(s)")]

end Playground.Command
