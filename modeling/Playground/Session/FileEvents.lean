import Playground.Files.Path

/-!
# Events of files

A file watcher tells everything that happens in a folder.  `FileEvent.signal?` says what an event
means for one file of it.
-/

namespace Playground.Session

/-- What is modified. -/
inductive Modification where
  | content
  | name
  /-- times and permissions -/
  | metadata
  | other
deriving DecidableEq, Inhabited, Repr

/-- What happens to files. -/
inductive FileEventKind where
  | created
  | modified (what : Modification)
  | removed
  /-- closed after it was open for writing -/
  | closedWritten
  /-- opened, read or closed otherwise -/
  | accessed
  | other
deriving DecidableEq, Inhabited, Repr

/-- Something that happens to files. -/
structure FileEvent where
  kind : FileEventKind
  paths : List String
deriving DecidableEq, Inhabited, Repr

/-- What an event means for a file. -/
inductive FileSignal where
  /-- the content may be another one -/
  | changed
  | accessed
deriving DecidableEq, Inhabited, Repr

/-- What a kind of event means for the files that it is about. -/
def FileEventKind.signal? : FileEventKind → Option FileSignal
  | created | closedWritten => some .changed
  | modified .metadata => none
  | modified _ => some .changed
  | accessed => some .accessed
  | removed | other => none

/-- What an event means for a file. -/
def FileEvent.signal? (e : FileEvent) (target : String) : Option FileSignal :=
  if e.paths.any fun path => Files.samePath path target then e.kind.signal? else none

end Playground.Session
