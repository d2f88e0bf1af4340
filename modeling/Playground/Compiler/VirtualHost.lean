import Playground.Compiler.Dialog
import Playground.Compiler.Options
import Playground.Log
import Playground.Snapshot.Store
import Playground.Text.Chars

/-!
# The virtual host

Answers every question from a snapshot store and the text being edited; nothing touches a disk.
The root of the host is `/`, so a path may have one leading slash.  A file of the store hides the
text being edited under the same path.  The only write that is kept is that of the output file.
-/

namespace Playground.Compiler

open Playground.Script Playground.Snapshot Playground.Text

/-- The path of the text being edited. -/
def sourcePath : String := "index.tsx"

/-- The path of the script that is emitted. -/
def outputPath : String := "index.js"

/-- A path without one leading slash. -/
def hostPath (path : String) : String :=
  match path.toList with
  | '/' :: rest => String.ofList rest
  | _ => path

/-- The path of the default library of some options. -/
def libraryPath (options : CompilerOptions) : String :=
  String.ofList (trimEnds ['/'] options.libRoot.toList) ++ "/" ++ options.target.libraryFile

/-! ### Dialects by path -/

/-- The name of a file within its directory. -/
def fileName (path : String) : List Char :=
  ((pieces '/' path.toList).filter fun p => !p.isEmpty && p != ['.']).getLastD []

/-- What follows the last dot of a file name, if something comes before it. -/
def extension? (name : List Char) : Option String :=
  match pieces '.' name with
  | [] | [_] => none
  -- a dot in front hides a file, and starts no extension
  | [[], _] => none
  | ps => ps.getLast?.map String.ofList

/-- The dialect of a file; a file of no known kind is read as typed markup. -/
def dialectOf (path : String) : Dialect :=
  let name := fileName path
  match extension? name with
  | some "js" => { typed := false, markup := false, goal := .either }
  | some "jsx" => { typed := false, markup := true, goal := .either }
  | some "mjs" => { typed := false, markup := false, goal := .module }
  | some "cjs" => { typed := false, markup := false, goal := .script }
  | some "ts" =>
    { typed := true, markup := false, declarations := endsWith ".d.ts".toList name
      goal := .either }
  | some "mts" =>
    { typed := true, markup := false, declarations := endsWith ".d.mts".toList name
      noAngleCast := true, goal := .module }
  | some "cts" =>
    { typed := true, markup := false, declarations := endsWith ".d.cts".toList name
      noAngleCast := true, goal := .script }
  | some "tsx" => { typed := true, markup := true, goal := .either }
  | _ => { typed := true, markup := true, goal := .module }

/-! ### The host -/

/-- The store, the text being edited, and what was written since the output was last taken. -/
structure VirtualHost where
  store : Store
  buffer : String
  output : Option String := none
  /-- what was noted, the latest first -/
  remarks : List Remark := []
deriving Inhabited

namespace VirtualHost

/-- The content of a file, as both reading and parsing see it. -/
def content? (h : VirtualHost) (path : String) : Option String :=
  match h.store.shared? (hostPath path) with
  | some text => some text
  | none => if hostPath path = sourcePath then some h.buffer else none

/-- Whether there is such a file. -/
def exists? (h : VirtualHost) (path : String) : Bool :=
  h.store.contains (hostPath path) || hostPath path == sourcePath

/-- A file with its tree. -/
def sourceFile? (h : VirtualHost) (path : String) : Option SourceFile :=
  (h.content? path).map fun text =>
    ⟨hostPath path, text, Parsed.ofText (dialectOf (hostPath path)) text⟩

/-- Keeps what is written to the output file and drops the rest. -/
def write (h : VirtualHost) (path data : String) : VirtualHost :=
  if hostPath path = outputPath then { h with output := some data } else h

/-- The output, which is gone afterwards. -/
def takeOutput (h : VirtualHost) : Option String × VirtualHost :=
  (h.output, { h with output := none })

/-- Replaces the text being edited. -/
def edit (h : VirtualHost) (text : String) : VirtualHost := { h with buffer := text }

/-- Notes something. -/
def remark (h : VirtualHost) (topic message : String) : VirtualHost :=
  { h with remarks := .detail topic message :: h.remarks }

/-- How a truth value is noted. -/
def truth (b : Bool) : String := if b then "true" else "false"

/-- Where the host found a file. -/
def foundIn (h : VirtualHost) (path : String) : String :=
  if h.store.contains (hostPath path) then "hit"
  else if hostPath path = sourcePath then "buffer"
  else "not found"

/-- What the virtual host answers. -/
def host : Host VirtualHost where
  fileExists path h :=
    let found := h.exists? path
    (found, h.remark "host" ("fileExists " ++ hostPath path ++ " " ++ truth found))
  readFile path h :=
    let text := h.content? path
    (text, h.remark "host" ("readFile " ++ hostPath path ++ " " ++ truth text.isSome))
  sourceFile path h :=
    (h.sourceFile? path,
      h.remark "host" ("getSourceFile " ++ hostPath path ++ " " ++ h.foundIn path))
  libraryFile options h := (libraryPath options, h)
  writeFile path data h :=
    (h.remark "host" ("writeFile " ++ hostPath path)).write path data
  debug topic message h := h.remark topic message

end VirtualHost

end Playground.Compiler
