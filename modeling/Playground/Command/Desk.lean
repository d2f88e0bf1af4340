import Playground.Config.Load
import Playground.Emit.Standard
import Playground.Session.Basic
import Playground.Session.OnDisk
import Playground.Snapshot.Load

/-!
# What commands work with

A command works on a disk and says something on the way; a failure ends it.  This module has the
steps that commands share: loading the configuration and the library files, and setting up a
session on the disk.
-/

namespace Playground.Command

open Compiler Config Files Session Share Snapshot

/-- A disk, and what has been said. -/
structure Desk where
  disk : Disk
  /-- details are shown -/
  verbose : Bool := false
  /-- what was printed -/
  output : String := ""
  /-- what was printed on the side -/
  complaints : String := ""

namespace Desk

variable (d : Desk)

/-- The desk after something was printed. -/
def printing (text : String) : Desk := { d with output := d.output ++ text }

/-- The desk after something was noted. -/
def noting (remarks : List Remark) : Desk := d.printing (Remark.shown d.verbose remarks)

/-- The desk after something was printed on the side. -/
def complaining (text : String) : Desk := { d with complaints := d.complaints ++ text }

/-- The desk as a session leaves it. -/
def after (s : State DiskWorld) : Desk :=
  { d.noting s.scene.remarks.reverse with disk := s.scene.world.disk }

end Desk

/-- What a command does at a desk, until a failure ends it. -/
abbrev Job := ExceptT Failure (StateM Desk)

namespace Job

/-- Prints a text. -/
def print (text : String) : Job Unit := modify (·.printing text)

/-- Notes something. -/
def note (remarks : List Remark) : Job Unit := modify (·.noting remarks)

/-- Says something under a topic. -/
def say (topic message : String) : Job Unit := note [⟨topic, message, false⟩]

/-- Prints a text on the side. -/
def complain (text : String) : Job Unit := modify (·.complaining text)

/-- The outcome of something that may have failed. -/
def ofExcept {ε α : Type} (failure : ε → Failure) : Except ε α → Job α
  | .ok a => return a
  | .error e => throw (failure e)

/-- Does something on a world of the disk, and keeps what was changed if it failed. -/
def onDisk (act : DiskWorld → Reply × DiskWorld) : Job Unit := do
  let (reply, w) := act ⟨(← get).disk, none⟩
  modify fun d => { d.noting reply.remarks with disk := w.disk }
  match reply.failure with
  | none => return
  | some f => throw f

end Job

/-- Loads the configuration. -/
def loadProject (path : String) : Job Project := do
  let loaded := Config.load (← get).disk path
  Job.note loaded.remarks
  Job.complain loaded.notes
  Job.ofExcept ConfigError.failure loaded.result

/-- The folders that library files are taken from. -/
def libRoots (p : Project) : Job (List LibRoot) :=
  match p.options.libs.patterns with
  | .ok roots => return roots.map fun (dir, filter) => ⟨dir, filter⟩
  | .error _ => throw ⟨"invalid [libs] filter", []⟩

/-- Loads the library files; without their base there are none. -/
def loadLibrary (p : Project) : Job Store := do
  match loadSnapshot (← get).disk p.libsBase (← libRoots p) with
  | some (remarks, store) =>
    Job.note (remarks ++ [.detail "libs" ("loaded " ++ toString store.size ++ " files")])
    return store
  | none =>
    Job.say "warning" (p.libsBase ++ " does not exist, compiling without libraries")
    return Store.empty

/-- The page that links are made for. -/
def linkBase (p : Project) : Job Link.Url :=
  Job.ofExcept (fun e => ⟨"invalid [share] base_url", [e.message]⟩) p.options.share.base

/-- Makes the output folder, and lays out the files of a session. -/
def layOut (p : Project) (source out : String) : Job FileLayout := do
  Job.onDisk fun w =>
    DiskWorld.reply (w.changed ("failed to create " ++ out) (FileOps.ofDisk.makeFolder out w.disk))
  let base ← linkBase p
  return ⟨source, out, base, some (join out "permalink.txt")⟩

/-- How a session of a project works. -/
def setupOf (p : Project) (layout : FileLayout) : Setup DiskWorld where
  service := Emit.standardTools.service
  options := p.options.compiler
  pipeline := Emit.standardPipeline p.options.compiler
  renderer := rendererOf p.options
  around := layout.surroundings

/-- A session of a project that has not been started. -/
def sessionOf (p : Project) (store : Store) (disk : Disk) (fragment : Option String) :
    State DiskWorld :=
  State.initial store p.options.scheduler.quiescence ⟨disk, fragment⟩

end Playground.Command
