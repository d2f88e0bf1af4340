import Playground.Command.Desk
import Playground.Session.FileEvents
import Playground.Session.WatchStatus

/-!
# Watching

A watch is a session on a disk that goes on until it is interrupted.  It takes in what happens to
the source file and the permalinks that are pasted, and runs a pass when it has been quiet.
-/

namespace Playground.Command

open Config Files Session Share

/-- A watch that goes on. -/
structure Watch where
  setup : Setup DiskWorld
  /-- the path of the source in the events of its folder -/
  target : String
  /-- permalinks can be pasted -/
  readsInput : Bool
  session : State DiskWorld
  status : WatchStatus := {}
  desk : Desk

namespace Watch

variable (w : Watch)

/-- Takes over what the session has changed and noted. -/
def settled (s : State DiskWorld) : Watch :=
  { w with desk := w.desk.after s, session := { s with scene := { s.scene with remarks := [] } } }

/-- The session with the disk as it is now. -/
def current : State DiskWorld :=
  { w.session with
    scene := { w.session.scene with world := { w.session.scene.world with disk := w.desk.disk } } }

/-- Shows the outcome of a pass at a time of the day. -/
def report (time : String) (outcome : PassOutcome) : Watch :=
  let (text, status) := w.status.display time (Status.ofOutcome outcome)
  let fragment := w.session.sync.current.getD ""
  { w with
    status
    desk := (w.desk.printing text).noting [.detail "share" ("fragment " ++ fragment)] }

/-- Takes in an event of the editor. -/
def editorEvent (e : EditorEvent) (now : Nat) : Watch :=
  w.settled (w.current.event w.setup e now)

/-- Takes in a line that was pasted. -/
def line (text : String) (now : Nat) : Watch :=
  match w.readsInput, fragmentOf text with
  | true, some fragment => w.editorEvent (.fragmentChanged fragment) now
  | _, _ => w

/-- Takes in something that happened in the folder of the source, on a disk as it is now. -/
def fileEvent (e : FileEvent) (disk : Disk) (now : Nat) : Watch :=
  let w := { w with desk := { w.desk with disk } }
  match e.signal? w.target with
  | none => w
  | some .accessed => w.editorEvent .cursorMoved now
  | some .changed =>
    match disk.content w.target with
    | .ok text => w.editorEvent (.contentChanged text) now
    | .error _ => w

/-- When the next pass is due, if one is. -/
def deadline? : Option Nat := w.session.scheduler.deadline?

/-- Runs a pass if one is due. -/
def tick (now : Nat) (time : String) : Watch :=
  match w.current.tick w.setup now with
  | (some outcome, s) => (w.settled s).report time outcome
  | (none, _) => w

/-- What was said when the watch ended. -/
def stop : Desk :=
  let passes := toString w.session.passes
  w.desk.noting [.detail "actor" "shutdown signal received",
    .detail "actor" ("session stopped after " ++ passes ++ " passes"),
    .detail "actor" "stopped", ⟨"watch", "stopped after " ++ passes ++ " passes", false⟩]

end Watch

/-- A path in quotes. -/
def quotedPath (path : String) : String :=
  "\"" ++ String.join (path.toList.map fun c =>
    if c = '"' || c = '\\' then "\\" ++ c.toString else c.toString) ++ "\""

/-- The path under which the events of a file are told: from the root if the file is there. -/
def watchedPath (disk : Disk) (source : String) : String :=
  match disk.find source, disk.locate source with
  | .ok _, .ok names => names.foldl join disk.home
  | _, _ => source

/-- Checks that the folder of a file can be watched. -/
def checkWatched (disk : Disk) (target : String) : Except Failure Unit :=
  let folder := ((parent? target).filter (· ≠ "")).getD "."
  match disk.find folder with
  | .ok _ => .ok ()
  | .error fault =>
    let reason := if fault = .notFound then "No path was found." else fault.message
    .error ⟨"watcher failed: " ++ reason ++ " about [" ++ quotedPath (join disk.home folder)
      ++ "]", []⟩

/-- Starts a watch, and compiles the source at once. -/
def startWatch (p : Project) (file out link : Option String) (noInput : Bool)
    (now : Nat) (time : String) : Job Watch := do
  let source := p.source file
  let out := p.outDir out
  let store ← loadLibrary p
  let layout ← layOut p source out
  Job.say "watch" (source ++ " -> " ++ out)
  if !noInput then Job.say "watch" "paste a permalink to navigate"
  let disk := (← get).disk
  let target := watchedPath disk source
  Job.ofExcept id (checkWatched disk target)
  Job.note [.detail "watch" ("watching " ++ target), .detail "actor" "start"]
  let setup := setupOf p layout
  let (outcome, s) := (sessionOf p store disk (link.bind fragmentOf)).start setup now
  let w : Watch := { setup, target, readsInput := !noInput, session := s, desk := ← get }
  return (w.settled s).report time outcome

end Playground.Command
