import Playground.Files.Tree
import Playground.Session.Surroundings
import Playground.Share.Location

/-!
# Sessions on a disk

A session may have files for its surroundings: the source is a file that is edited elsewhere, the
pane and the sandbox are files of an output folder, and the permalink is written into a file.  The
pane and the sandbox are written beside their files first, and then moved, so that nobody reads
half of them.
-/

namespace Playground.Session

open Files Link Share

/-- The files of a session. -/
structure FileLayout where
  /-- the file that is edited -/
  source : String
  /-- the folder of the pane and of the sandbox -/
  out : String
  /-- the page that fragments are attached to -/
  base : Url
  /-- the file that the permalink is written into -/
  permalinkFile : Option String := none

/-- A disk, and the fragment of the location. -/
structure DiskWorld where
  disk : Disk
  fragment : Option String := none

/-- The operations on files that a session uses.  One that fails says how it left the disk. -/
structure FileOps where
  /-- makes a folder, and the folders that it lies in -/
  makeFolder : String → Disk → Except (IoFault × Disk) Disk
  /-- writes a text into a file -/
  writeText : String → String → Disk → Except (IoFault × Disk) Disk
  /-- moves a file to the place of another -/
  rename : String → String → Disk → Except (IoFault × Disk) Disk
  removeFile : String → Disk → Except (IoFault × Disk) Disk

/-- The operations of a disk, which change nothing if they fail. -/
def FileOps.ofDisk : FileOps where
  makeFolder path disk := (disk.makeFolder path).mapError (·, disk)
  writeText path text disk := (disk.writeText path text).mapError (·, disk)
  rename source target disk := (disk.rename source target).mapError (·, disk)
  removeFile path disk := (disk.removeFile path).mapError (·, disk)

/-- The outcome of an operation on files, with a reason if it failed. -/
def DiskWorld.changed (w : DiskWorld) (words : String) :
    Except (IoFault × Disk) Disk → Except (Failure × DiskWorld) DiskWorld
  | .ok disk => .ok { w with disk }
  | .error (fault, disk) => .error (⟨words, [fault.message]⟩, { w with disk })

/-- Replies to an operation on files; what it changed before it failed stays changed. -/
def DiskWorld.reply : Except (Failure × DiskWorld) DiskWorld → Reply × DiskWorld
  | .ok w => ({}, w)
  | .error (f, w) => (.failed f, w)

namespace DiskWorld

/-- A step that may fail, and then says how it left the world. -/
abbrev Step := DiskWorld → Except (Failure × DiskWorld) DiskWorld

variable (w : DiskWorld)

/-- Makes the folder of a file. -/
def makeParent (path : String) (ops : FileOps := .ofDisk) :
    Except (Failure × DiskWorld) DiskWorld :=
  match parent? path with
  | none => .ok w
  | some folder => w.changed ("failed to create " ++ folder) (ops.makeFolder folder w.disk)

/-- Writes a text into a file. -/
def write (path text : String) (ops : FileOps := .ofDisk) :
    Except (Failure × DiskWorld) DiskWorld :=
  w.changed ("failed to write " ++ path) (ops.writeText path text w.disk)

/-- Replaces a file by another one. -/
def replace (source target : String) (ops : FileOps := .ofDisk) :
    Except (Failure × DiskWorld) DiskWorld :=
  w.changed ("failed to replace " ++ target) (ops.rename source target w.disk)

/-- Does one step after another, up to one that fails. -/
def steps : List Step → Step
  | [], w => .ok w
  | step :: rest, w =>
    match step w with
    | .ok w => steps rest w
    | .error e => .error e

/-- The file that a text is written into before it takes the place of another. -/
def draft (path : String) : String := withEnding "tmp" path

/-- Writes a file so that nobody sees a part of it. -/
def writeWhole (path text : String) (ops : FileOps := .ofDisk) :
    Except (Failure × DiskWorld) DiskWorld :=
  DiskWorld.steps [(·.makeParent path ops), (·.write (draft path) text ops),
    (·.replace (draft path) path ops)] w

/-- Removes a file, unless it is gone already. -/
def clear (path : String) (ops : FileOps := .ofDisk) : Except (Failure × DiskWorld) DiskWorld :=
  match ops.removeFile path w.disk with
  | .error (.notFound, disk) => .ok { w with disk }
  | result => w.changed ("failed to clear " ++ path) result

end DiskWorld

namespace FileLayout

variable (l : FileLayout)

/-- The file of the pane. -/
def pane : String := join l.out "output.js"

/-- The file of the sandbox. -/
def sandbox : String := join l.out "index.html"

/-- The link of the location. -/
def link (fragment : String) : Url := permalink l.base fragment

/-- The files as the surroundings of a session. -/
def surroundings (ops : FileOps := .ofDisk) : Surroundings DiskWorld where
  editorText w := (w.disk.content l.source).toOption
  setEditor text w := DiskWorld.reply
    (DiskWorld.steps [(·.makeParent l.source ops), (·.write l.source text ops)] w)
  setPane text w := DiskWorld.reply (w.writeWhole l.pane text ops)
  load document w := DiskWorld.reply (w.writeWhole l.sandbox document ops)
  clear w := DiskWorld.reply (w.clear l.sandbox ops)
  fragment w := w.fragment
  setFragment fragment w :=
    -- the location has the fragment even if the file cannot be written
    let w := { w with fragment := some fragment }
    let url := (l.link fragment).text
    let (reply, w) := DiskWorld.reply (DiskWorld.steps
      (l.permalinkFile.toList.map fun path w => w.write path (url ++ "\n") ops) w)
    ({ reply with remarks := [.detail "share" url] }, w)

end FileLayout

end Playground.Session
