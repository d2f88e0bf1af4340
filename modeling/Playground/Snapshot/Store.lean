/-!
# Snapshot stores

A store maps paths to the contents of files.  It is built once from a list of files, of which
the last one of a path counts, and never changes.
-/

namespace Playground.Snapshot

/-- Files by path; no path occurs twice, and they are in the order of their bytes. -/
structure Store where
  entries : List (String × String)
deriving DecidableEq, Inhabited, Repr

namespace Store

/-- Whether one path comes before another, byte by byte. -/
def before (a b : String) : Bool := decide (a.toList < b.toList)

/-- Puts a file in its place among ordered files. -/
def insertInto (path content : String) : List (String × String) → List (String × String)
  | [] => [(path, content)]
  | (p, c) :: rest =>
    if path = p then (path, content) :: rest
    else if before path p then (path, content) :: (p, c) :: rest
    else (p, c) :: insertInto path content rest

/-- The store without files. -/
def empty : Store := ⟨[]⟩

/-- The store with one more file, which replaces the one of its path. -/
def insert (s : Store) (path content : String) : Store := ⟨insertInto path content s.entries⟩

/-- The store of some files. -/
def ofEntries (files : List (String × String)) : Store :=
  files.foldl (fun s f => s.insert f.1 f.2) empty

/-- The content of a file. -/
def get? (s : Store) (path : String) : Option String := s.entries.lookup path

/-- The content of a file, for those who keep it. -/
def shared? (s : Store) (path : String) : Option String := s.entries.lookup path

/-- Whoever looks a file up finds the same. -/
@[simp] theorem shared?_eq (s : Store) (path : String) : s.shared? path = s.get? path := rfl

/-- Whether there is such a file. -/
def contains (s : Store) (path : String) : Bool := (s.get? path).isSome

/-- The number of files. -/
def size (s : Store) : Nat := s.entries.length

/-- Whether there are no files. -/
def isEmpty (s : Store) : Bool := s.entries.isEmpty

/-- All files by the order of their paths. -/
def listing (s : Store) : List (String × String) :=
  s.entries.mergeSort fun a b => !before b.1 a.1

end Store

end Playground.Snapshot
