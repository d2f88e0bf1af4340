import Playground.Config.Decode
import Playground.Config.Options
import Playground.Failure
import Playground.Files.Tree
import Playground.Link.Url
import Playground.Log
import Playground.Pattern.Reader

/-!
# Loading configurations

`load` reads the configuration of a playground from a file.  Without a file every key has its
default.  The folder of the file is the root that all paths of the configuration start from.

`PlaygroundOptions.problems` lists everything that would make a configuration fail later: filters
that are no patterns, a window that is empty, a page that is no link.  `Problem.report` shows all
of them at once.
-/

namespace Playground.Config

open Files Playground.Pattern
open Remark (dimmed inBold inColour)

/-! ### Validation -/

/-- A value that cannot be used. -/
structure Problem where
  /-- the path of its key -/
  field : String
  message : String
  hint : Option String := none
deriving DecidableEq, Inhabited, Repr

/-- A key, as it is shown in a sentence. -/
def fieldText (field : String) : String := inColour "94" ("\x60" ++ field ++ "\x60")

/-- A problem, as it is shown. -/
def Problem.text (p : Problem) : String :=
  let hint := match p.hint with
    | some hint => "\n  " ++ inColour "33" "hint:" ++ " " ++ hint
    | none => ""
  dimmed "[" ++ inColour "36" p.field ++ dimmed "]" ++ "\n" ++ inColour "31" "→" ++ " "
    ++ p.message ++ hint

/-- All problems, as they are shown; how many there are is said if there is more than one. -/
def Problem.report (ps : List Problem) : String :=
  let total :=
    if ps.length > 1 then
      "\n\n" ++ dimmed "found" ++ " " ++ inBold (inColour "31" (toString ps.length)) ++ " "
        ++ dimmed "errors"
    else ""
  inBold (inColour "31" "config validation failed:") ++ "\n\n"
    ++ "\n\n".intercalate (ps.map Problem.text) ++ total

/-- The directory and the pattern of a root, or why its filter is no pattern. -/
def RootOptions.pattern (r : RootOptions) : Except Refusal (String × Option Node) :=
  match r.filter with
  | none => .ok (r.dir, none)
  | some filter => (Node.ofText filter).map fun node => (r.dir, some node)

/-- The problem of a root. -/
def RootOptions.problem? (r : RootOptions) : Option Problem :=
  match r.filter with
  | none => none
  | some filter =>
    match Node.ofText filter with
    | .ok _ => none
    | .error e =>
      some ⟨"libs.roots.filter",
        "invalid filter for \x60" ++ r.dir ++ "\x60: " ++ e.report filter, none⟩

/-- The roots, ready for use. -/
def LibsOptions.patterns (o : LibsOptions) : Except Refusal (List (String × Option Node)) :=
  o.roots.mapM RootOptions.pattern

/-- The problem of the window. -/
def SchedulerOptions.problem? (o : SchedulerOptions) : Option Problem :=
  if o.quiescence = 0 then
    some ⟨"scheduler.quiescence_ms", "must be greater than zero",
      some "use 2000 for the default two second window"⟩
  else none

/-- The page that fragments are attached to. -/
def ShareOptions.base (o : ShareOptions) : Except Link.LinkError Link.Url :=
  Link.Url.parse o.baseUrl

/-- The problem of the page. -/
def ShareOptions.problem? (o : ShareOptions) : Option Problem :=
  match Link.Url.parse o.baseUrl with
  | .ok _ => none
  | .error e =>
    some ⟨"share.base_url", "\x60" ++ o.baseUrl ++ "\x60 is not a valid URL: " ++ e.message,
      some "use an absolute URL such as https://example.com/playground/"⟩

/-- Everything that is wrong with a configuration. -/
def PlaygroundOptions.problems (o : PlaygroundOptions) : List Problem :=
  o.libs.roots.filterMap RootOptions.problem? ++ o.scheduler.problem?.toList
    ++ o.share.problem?.toList

/-! ### Files -/

/-- Why there is no configuration. -/
inductive ConfigError where
  | unreadable (path : String) (fault : IoFault)
  | malformed (text : String)
  | invalid (problems : List Problem)
deriving DecidableEq, Inhabited, Repr

namespace ConfigError

/-- The words for an error. -/
def message : ConfigError → String
  | unreadable path _ => "IO error when reading \x60" ++ path ++ "\x60"
  | malformed _ => "Config file parsing error"
  | invalid problems => Problem.report problems

/-- What an error was caused by. -/
def cause? : ConfigError → Option String
  | unreadable _ fault => some fault.message
  | malformed text => some text
  | invalid _ => none

/-- The error as a failure. -/
def failure (e : ConfigError) : Failure := ⟨e.message, e.cause?.toList⟩

end ConfigError

/-- The configuration in a text, and the keys that were ignored. -/
def ofText (source : String) : Except ConfigError (PlaygroundOptions × List String) :=
  (PlaygroundOptions.ofToml source).mapError fun f => .malformed (f.text source)

/-- A configuration that can be used as it is, or what is wrong with it. -/
def validated (o : PlaygroundOptions) : Except ConfigError PlaygroundOptions :=
  if o.problems.isEmpty then .ok o else .error (.invalid o.problems)

/-- A configuration, and where it was found. -/
structure Project where
  options : PlaygroundOptions
  /-- the path of the file -/
  file : String
  /-- the folder of the file -/
  root : String
deriving DecidableEq, Inhabited, Repr

namespace Project

variable (p : Project)

/-- A path from the root. -/
def under (path : String) : String := join p.root path

/-- The folder that library files are keyed from. -/
def libsBase : String := p.under p.options.libs.base

/-- The folder that is written to, unless another one is asked for. -/
def outDir (asked : Option String) : String := asked.getD (p.under p.options.sandbox.out)

/-- The file that is edited, unless another one is asked for. -/
def source (asked : Option String) : String := asked.getD (p.under "index.tsx")

end Project

/-- The project of some options from a file in the working directory. -/
def projectOf (disk : Disk) (path : String) (options : PlaygroundOptions) : Project :=
  let file := join disk.home path
  ⟨options, file, (parent? file).getD disk.home⟩

/-- What is printed about keys that were ignored. -/
def ignoredRemark (file : String) (ignored : List String) : List Remark :=
  if ignored.isEmpty then []
  else
    [⟨"warning", "unknown fields in " ++ (lastPart? file).getD file ++ ", ignoring:", false⟩]

/-- The lines on keys that were ignored. -/
def ignoredLines (ignored : List String) : String :=
  String.join (ignored.map fun key => "- " ++ key ++ "\n")

/-- What loading a configuration leads to. -/
structure Loaded where
  result : Except ConfigError Project
  remarks : List Remark := []
  /-- what is said on the side -/
  notes : String := ""

/-- The configuration in a file of the working directory. -/
def load (disk : Disk) (path : String) : Loaded :=
  let file := join disk.home path
  let finish (options : PlaygroundOptions) : Except ConfigError Project :=
    (validated options).map (projectOf disk path)
  if disk.hasAny file then
    match disk.content file with
    | .error fault => { result := .error (.unreadable file fault) }
    | .ok source =>
      match ofText source with
      | .error e => { result := .error e }
      | .ok (options, ignored) =>
        { result := finish options
          remarks := ignoredRemark file ignored
          notes := ignoredLines ignored }
  else
    { result := finish {}
      remarks := [.detail "config" (file ++ " not found, using defaults")] }

end Playground.Config
