import Playground.Command.Run
import Playground.Files.Tree
import Std.Time.Zoned

/-!
# The program

The outermost layer: it reads the working directory, follows the command line, prints what was
said and writes back what was changed.  A watch looks at its source file and at pasted lines again
and again.
-/

namespace Playground.Program

open Command Files

/-- What an entry of a folder leads to, with all that is in it. -/
partial def readEntry (e : IO.FS.DirEntry) : IO Tree := do
  if !(← e.path.isDir) then return .file (← IO.FS.readBinFile e.path)
  let mut entries := #[]
  for inner in (← e.path.readDir) do
    try entries := entries.push (inner.fileName, ← readEntry inner)
    catch _ => pure ()
  return .folder entries.toList

/-- The disk as seen from the working directory. -/
def readDisk : IO Disk := do
  let home := (← IO.currentDir).toString
  return ⟨home, ← readEntry ⟨home, "."⟩⟩

/-- The path of some names from a folder on. -/
def pathOf (home : String) (names : List String) : String := names.foldl join home

/-- Makes one change on the disk. -/
def apply (home : String) : Change → IO Unit
  | .make names => IO.FS.createDirAll (pathOf home names)
  | .write names bytes => IO.FS.writeBinFile (pathOf home names) bytes
  | .remove names => IO.FS.removeFile (pathOf home names)

/-- Prints what was said at a desk, and writes back what changed since the given disk. -/
def settle (before : Disk) (desk : Desk) : IO Unit := do
  (← IO.getStdout).putStr desk.output
  (← IO.getStdout).flush
  (← IO.getStderr).putStr desk.complaints
  (Tree.changes (some before.tree) desk.disk.tree).forM (apply before.home)

/-- The time of the day. -/
def timeNow : IO String := do
  return Session.timeOfDay (← Std.Time.Timestamp.now).toSecondsSinceUnixEpoch.val.toNat

/-- Keeps the lines that are typed. -/
partial def readLines (input : IO.FS.Stream) (lines : IO.Ref (Array String)) : IO Unit := do
  let line ← input.getLine
  if line.isEmpty then return
  lines.modify (·.push line)
  readLines input lines

/-- The source file on the disk, if it can be read. -/
def sourceBytes (w : Watch) : IO (Option ByteArray) := do
  try return some (← IO.FS.readBinFile w.target)
  catch _ => return none

/-- Goes on with a watch: takes in the source if it changed and the lines that were typed, and
runs a pass that is due. -/
partial def goOn (lines : IO.Ref (Array String)) (seen : Option ByteArray) (w : Watch) :
    IO Unit := do
  let now ← IO.monoMsNow
  let before := w.desk.disk
  let bytes ← sourceBytes w
  let changed := bytes.map (·.data) != seen.map (·.data)
  let typed ← lines.swap #[]
  let disk :=
    match bytes with
    | some b => (before.write w.target b).toOption.getD before
    | none => before
  let w := if changed then w.fileEvent ⟨.modified .content, [w.target]⟩ disk now else w
  let w := typed.foldl (fun w line => w.line line now) w
  let w := w.tick now (← timeNow)
  settle (if changed then disk else before) w.desk
  IO.sleep 20
  goOn lines (← sourceBytes w) { w with desk := { w.desk with output := "", complaints := "" } }

/-- Follows a command line; the answer is the exit code. -/
def follow (words : List String) : IO UInt32 := do
  let disk ← readDisk
  match run disk words (← IO.monoMsNow) (← timeNow) with
  | .ended exit desk =>
    settle disk desk
    return exit.toUInt32
  | .watching w =>
    settle disk w.desk
    let lines ← IO.mkRef #[]
    if w.readsInput then
      discard (IO.asTask (readLines (← IO.getStdin) lines) .dedicated)
    goOn lines (← sourceBytes w) { w with desk := { w.desk with output := "", complaints := "" } }
    return 0

end Playground.Program

/-- Follows the command line that the program is called with. -/
def main (words : List String) : IO UInt32 := Playground.Program.follow words
