import Playground.Files.Path

/-!
# Trees of files

A tree is a file or a folder of named trees.  `Tree.changes` lists what has to be done to a tree so
that it becomes another one: the folders to make, the files to write and what to remove, each under
the names that lead to it.

A `Disk` is a tree with a working directory at its root; its operations fail the way those of an
operating system do, and then change nothing.
-/

namespace Playground.Files

open Text

/-- A file, or a folder with its entries. -/
inductive Tree where
  | file (bytes : ByteArray)
  | folder (entries : List (String × Tree))

instance : Inhabited Tree := ⟨.folder []⟩

/-- Why an operation on files fails. -/
inductive IoFault where
  | notFound
  | alreadyExists
  | notADirectory
  | isADirectory
  | notText
deriving DecidableEq, Inhabited, Repr

/-- The words for a fault. -/
def IoFault.message : IoFault → String
  | .notFound => "No such file or directory (os error 2)"
  | .alreadyExists => "File exists (os error 17)"
  | .notADirectory => "Not a directory (os error 20)"
  | .isADirectory => "Is a directory (os error 21)"
  | .notText => "stream did not contain valid UTF-8"

/-- Something to do to a tree of files. -/
inductive Change where
  | make (names : List String)
  | write (names : List String) (bytes : ByteArray)
  | remove (names : List String)

namespace Change

/-- The change within a folder of the given name. -/
def under (name : String) : Change → Change
  | make names => make (name :: names)
  | write names bytes => write (name :: names) bytes
  | remove names => remove (name :: names)

end Change

namespace Tree

/-- Whether a tree is a folder. -/
def isFolder : Tree → Bool
  | file _ => false
  | folder _ => true

/-- What lies in a tree under some names, one within the other. -/
def at? : List String → Tree → Option Tree
  | [], t => some t
  | _ :: _, file _ => none
  | name :: names, folder entries => (entries.lookup name).bind (at? names)

/-- Entries with another tree under a name, or without one. -/
def replaceEntry (name : String) (t : Option Tree) : List (String × Tree) → List (String × Tree)
  | [] => t.toList.map fun t => (name, t)
  | e :: rest =>
    if e.1 = name then (t.toList.map fun t => (name, t)) ++ rest
    else e :: replaceEntry name t rest

/-- The tree with another one under some names, or without one; folders are made on the way. -/
def put (value : Option Tree) : List String → Tree → Tree
  | [], t => value.getD t
  | [name], folder entries => folder (replaceEntry name value entries)
  | name :: names, folder entries =>
    let inner := (entries.lookup name).getD (folder [])
    folder (replaceEntry name (some (put value names inner)) entries)
  | _ :: _, file bytes => file bytes

/-- Makes the folders that parts lead through, given the names of the folder that was reached, last
one first. -/
def makeFolders : List String → List String → Tree → Except IoFault Tree
  | _, [], t => .ok t
  | reached, part :: parts, t =>
    if part = ".." then makeFolders (reached.drop 1) parts t
    else
      let names := (part :: reached).reverse
      match t.at? names with
      | some (.folder _) => makeFolders (part :: reached) parts t
      -- only the file that the path ends at is said to exist
      | some (.file _) => .error (if parts.isEmpty then .alreadyExists else .notADirectory)
      | none => makeFolders (part :: reached) parts (t.put (some (.folder [])) names)

mutual

/-- The files of a tree, each with the names that lead to it. -/
def files : Tree → List (List String × ByteArray)
  | file bytes => [([], bytes)]
  | folder entries => filesOfEntries entries

/-- The files of some entries. -/
def filesOfEntries : List (String × Tree) → List (List String × ByteArray)
  | [] => []
  | (name, t) :: rest =>
    ((files t).map fun (names, bytes) => (name :: names, bytes)) ++ filesOfEntries rest

end

/-! ### Changes -/

/-- The entries of a folder that is there. -/
def entries : Option Tree → List (String × Tree)
  | some (folder es) => es
  | _ => []

/-- The names that one list of entries has and another has not. -/
def missing (before after : List (String × Tree)) : List String :=
  (before.map (·.1)).filter fun name => (after.lookup name).isNone

mutual

/-- What has to be done to what is there so that it becomes the tree. -/
def changes (before : Option Tree) : Tree → List Change
  | file bytes =>
    match before with
    | some (file old) => if old.data == bytes.data then [] else [.write [] bytes]
    | _ => [.write [] bytes]
  | folder es =>
    let made : List Change := if (before.map isFolder).getD false then [] else [.make []]
    -- what is gone is removed before the entries that stay are gone through
    made ++ (missing (entries before) es).map (fun name => .remove [name]) ++
      changesOfEntries (entries before) es

/-- What has to be done so that the entries of a folder become the given ones. -/
def changesOfEntries (before : List (String × Tree)) : List (String × Tree) → List Change
  | [] => []
  | (name, t) :: rest =>
    (changes (before.lookup name) t).map (Change.under name) ++ changesOfEntries before rest

end

end Tree

/-- A tree of files with a working directory at its root. -/
structure Disk where
  /-- the path of the working directory -/
  home : String
  tree : Tree := .folder []

namespace Disk

variable (disk : Disk)

/-- The parts of a path, taken from the working directory, if it lies there. -/
def inner? (path : String) : Option (List String) :=
  match below? disk.home path with
  | some rest => some ((components rest).filter (· ≠ "."))
  | none =>
    if isAbsolute path then none else some ((components path).filter (· ≠ "."))

/-- Follows the parts of a path, given the names of the folder that was reached, last one first:
the names of what the path leads to, which need not exist in its folder. -/
def follow : List String → List String → Except IoFault (List String)
  | reached, [] => .ok reached.reverse
  | reached, part :: parts =>
    match disk.tree.at? reached.reverse with
    | none => .error .notFound
    | some (.file _) => .error .notADirectory
    | some (.folder _) =>
      -- also a folder that two dots leave again has to be there
      if part = ".." then
        match reached with
        | [] => .error .notFound
        | _ :: up => follow up parts
      else follow (part :: reached) parts

/-- The names of what a path leads to. -/
def locate (path : String) : Except IoFault (List String) :=
  match disk.inner? path with
  | none => .error .notFound
  | some parts => disk.follow [] parts

/-- What a path leads to. -/
def find (path : String) : Except IoFault Tree := do
  if path.isEmpty then throw .notFound
  let names ← disk.locate path
  match disk.tree.at? names with
  | some t => return t
  | none => throw .notFound

/-- Whether there is anything under a path. -/
def hasAny (path : String) : Bool := (disk.find path).toOption.isSome

/-- Whether there is a folder under a path. -/
def hasFolder (path : String) : Bool :=
  match disk.find path with
  | .ok t => t.isFolder
  | .error _ => false

/-- The bytes of a file. -/
def bytes (path : String) : Except IoFault ByteArray := do
  match ← disk.find path with
  | .file bytes => return bytes
  | .folder _ => throw .isADirectory

/-- The text of a file. -/
def content (path : String) : Except IoFault String := do
  match String.fromUTF8? (← disk.bytes path) with
  | some s => return s
  | none => throw .notText

/-- Makes a folder, and those that its path leads through. -/
def makeFolder (path : String) : Except IoFault Disk :=
  if path.isEmpty then .ok disk
  else
    match disk.inner? path with
    | none => .ok disk
    | some parts => (disk.tree.makeFolders [] parts).map fun tree => { disk with tree }

/-- Writes a file into a folder that exists. -/
def write (path : String) (bytes : ByteArray) : Except IoFault Disk := do
  if path.isEmpty then throw .notFound
  let names ← disk.locate path
  match disk.tree.at? names with
  | some (.folder _) => throw .isADirectory
  | _ => return { disk with tree := disk.tree.put (some (.file bytes)) names }

/-- Writes a text. -/
def writeText (path text : String) : Except IoFault Disk := disk.write path text.toUTF8

/-- Removes a file. -/
def removeFile (path : String) : Except IoFault Disk := do
  match ← disk.find path with
  | .folder _ => throw .isADirectory
  | .file _ => return { disk with tree := disk.tree.put none (← disk.locate path) }

/-- Moves a file to the place of another. -/
def rename (source target : String) : Except IoFault Disk := do
  let bytes ← disk.bytes source
  let moved ← disk.write target bytes
  moved.removeFile source

end Disk

end Playground.Files
