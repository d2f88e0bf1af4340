import Playground.Files.Tree
import Playground.Log
import Playground.Pattern.Node
import Playground.Snapshot.Store

/-!
# Loading snapshots

`loadSnapshot` takes the files of some folders into a store.  What starts with a dot is hidden and
passed over, and so are files that are no texts.  Keys are the paths below a base, with slashes
between their parts.
-/

namespace Playground.Snapshot

open Files Pattern

/-- A folder to take files from: its path below the base, and the pattern of their keys. -/
structure LibRoot where
  dir : String
  filter : Option Node := none
deriving Inhabited

/-- Whether a key qualifies. -/
def LibRoot.accepts (r : LibRoot) (key : String) : Bool :=
  match r.filter with
  | none => true
  | some node => node.occursIn key

/-- A key with slashes between its parts. -/
def normalKey (path : String) : String := path.map fun c => if c = '\\' then '/' else c

/-- Whether a name is hidden. -/
def isHidden (name : String) : Bool := Text.startsWith ['.'] name.toList

/-- Whether names come in order, one within the other. -/
def namesBefore : List String → List String → Bool
  | [], _ => true
  | _ :: _, [] => false
  | a :: as, b :: bs => if a = b then namesBefore as bs else Store.before a b

/-- The files of a tree that are not hidden, in the order of their names. -/
def visibleFiles (t : Tree) : List (List String × ByteArray) :=
  (t.files.filter fun f => !f.1.any isHidden).mergeSort fun a b => namesBefore a.1 b.1

/-- The keys and bytes of the files of a root that qualify; `dir` is the path of the root. -/
def LibRoot.candidates (r : LibRoot) (base dir : String) (t : Tree) :
    List (String × ByteArray) :=
  (visibleFiles t).filterMap fun (names, bytes) => do
    let key := normalKey (← below? base (names.foldl join dir))
    if r.accepts key then some (key, bytes) else none

/-- The files of some roots, and what is noted about roots that are missing. -/
def gather (disk : Disk) (base : String) : List LibRoot → List Remark × List (String × ByteArray)
  | [] => ([], [])
  | r :: rest =>
    let (remarks, files) := gather disk base rest
    let dir := join base r.dir
    match disk.find dir with
    | .ok (.folder entries) => (remarks, r.candidates base dir (.folder entries) ++ files)
    | _ => (⟨"libs", "skipping missing root " ++ dir, false⟩ :: remarks, files)

/-- The text of a file, if it is one. -/
def readable (file : String × ByteArray) : Option (String × String) :=
  (String.fromUTF8? file.2).map fun text => (file.1, text)

/-- What is noted about a file. -/
def fileRemark (file : String × ByteArray) : String :=
  if (readable file).isSome then "file: " ++ file.1 else "skip non-utf8: " ++ file.1

/-- The snapshot of some roots, and what is noted on the way; nothing if there is no base. -/
def loadSnapshot (disk : Disk) (base : String) (roots : List LibRoot) :
    Option (List Remark × Store) :=
  if disk.hasFolder base then
    let (missing, files) := gather disk base roots
    -- of files with the same key the one from the later root stays
    let store := Store.ofEntries (files.filterMap readable)
    let notes := (files.map fileRemark).mergeSort fun a b => !Store.before b a
    some (missing ++ notes.map (.detail "libs")
      ++ [.detail "libs" ("snapshot: " ++ toString store.size ++ " files")], store)
  else none

/-- What is said about a base that is missing. -/
def missingBase (base : String) : String :=
  "library base directory \x60" ++ base ++ "\x60 does not exist"

end Playground.Snapshot
