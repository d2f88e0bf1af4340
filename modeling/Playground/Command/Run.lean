import Playground.Command.Desk
import Playground.Command.Line
import Playground.Command.Watch

/-!
# Running command lines

`run` follows a command line on a disk.  Most commands come to an end of their own; a watch goes on.
-/

namespace Playground.Command

open Config Files Session Share

/-! ### Commands -/

/-- Compiles the source once, and writes what a session writes. -/
def compileOnce (p : Project) (file out : Option String) : Job Unit := do
  let source := p.source file
  let out := p.outDir out
  let store ← loadLibrary p
  let layout ← layOut p source out
  let (outcome, s) := (sessionOf p store (← get).disk none).start (setupOf p layout) 0
  modify (·.after s)
  let shown := ((← get).disk.content layout.pane).toOption.getD ""
  match outcome with
  | .emitted =>
    Job.say "compile" (source ++ " -> " ++ out)
    if let some fragment := s.sync.current then
      Job.say "share" (layout.link fragment).text
  | .diagnostics count =>
    Job.complain (shown ++ "\n")
    throw ⟨source ++ " has " ++ toString count ++ " diagnostic(s)", []⟩
  | .failed =>
    Job.complain (shown ++ "\n")
    throw ⟨"failed to compile " ++ source, []⟩

/-- Prints the permalink of a source. -/
def shareSource (p : Project) (file : Option String) : Job Unit := do
  let source := p.source file
  let text ← Job.ofExcept (fun fault => ⟨"failed to read " ++ source, [fault.message]⟩)
    ((← get).disk.content source)
  let base ← linkBase p
  Job.print ((permalink base (encode ⟨text⟩)).text ++ "\n")

/-- The source that a link carries. -/
def sourceOfLink (link : String) : Except Failure String :=
  match fragmentOf link with
  | none => .error ⟨"\x60" ++ link ++ "\x60 carries no fragment", []⟩
  | some fragment =>
    match tryDecode fragment with
    | .ok state => .ok state.source
    | .error e => .error (e.failure.within "permalink could not be decoded")

/-- Writes the source that a link carries into a file, or prints it. -/
def restoreSource (link : String) (file : Option String) : Job Unit := do
  let source ← Job.ofExcept id (sourceOfLink link)
  match file with
  | none => Job.print source
  | some path =>
    Job.onDisk fun w =>
      DiskWorld.reply (DiskWorld.steps [(·.makeParent path), (·.write path source)] w)
    Job.say "share" ("restored " ++ path)

/-- A number at the right edge of a column. -/
def column (width : Nat) (n : Nat) : String :=
  let digits := toString n
  String.ofList (List.replicate (width - digits.length) ' ') ++ digits

/-- Lists the library files with their sizes. -/
def listLibrary (p : Project) : Job Unit := do
  let store ← loadLibrary p
  let files := store.listing
  let sizes := files.map fun (_, content) => content.utf8ByteSize
  Job.print (String.join (files.map fun (path, content) =>
    column 9 content.utf8ByteSize ++ "  " ++ path ++ "\n"))
  Job.say "libs" (toString store.size ++ " files, " ++ toString (sizes.foldl (· + ·) 0) ++
    " bytes under " ++ p.libsBase)

/-! ### Command lines -/

/-- What becomes of a command line. -/
inductive Run where
  | ended (exit : Nat) (desk : Desk)
  | watching (watch : Watch)

/-- What becomes of a job. -/
def Run.ofJob (job : Job Run) (desk : Desk) : Run :=
  match job.run desk with
  | (.ok r, _) => r
  | (.error f, desk) => .ended 1 (desk.complaining ("Error: " ++ f.report ++ "\n"))

/-- A job that comes to an end. -/
def Run.ending (job : Job Unit) : Job Run := do
  job
  return .ended 0 (← get)

/-- What a task does, started at some time. -/
def Task.job (config : String) (now : Nat) (time : String) : Task → Job Run
  | .compile file out => Run.ending do compileOnce (← loadProject config) file out
  | .share file => Run.ending do shareSource (← loadProject config) file
  | .openLink link write => Run.ending (restoreSource link write)
  | .libs => Run.ending do listLibrary (← loadProject config)
  | .watch file out link noInput => do
    return .watching (← startWatch (← loadProject config) file out link noInput now time)

/-- Follows a command line, at some time. -/
def run (disk : Files.Disk) (words : List String) (now : Nat) (time : String) : Run :=
  let desk : Desk := { disk }
  match Invocation.ofWords words with
  | .error f =>
    if f.isAnswer then .ended 0 (desk.printing f.message)
    else .ended 2 (desk.complaining f.message)
  | .ok i => Run.ofJob (i.task.job i.config now time) { desk with verbose := i.verbose }

end Playground.Command
