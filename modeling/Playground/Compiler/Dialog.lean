import Playground.Compiler.Options
import Playground.Script.Parse.Program

/-!
# Dialogs with a host

A compiler knows files only through its host.  `Dialog` is what the compiler does as a value:
the questions it asks, what it writes and what it notes in the log, one after another, with every
step depending on the answers before it.  A host answers a dialog with `Dialog.run`, and a dialog
can be recorded with `Dialog.calls`.
-/

namespace Playground.Compiler

open Playground.Script

/-- A file as the host hands it out: its path, its text and what reading the text yields. -/
structure SourceFile where
  path : String
  text : String
  parsed : Parsed
deriving Inhabited

/-- A conversation with a host that ends in a result. -/
inductive Dialog (α : Type) where
  | done (result : α)
  | fileExists (path : String) (next : Bool → Dialog α)
  | readFile (path : String) (next : Option String → Dialog α)
  | sourceFile (path : String) (next : Option SourceFile → Dialog α)
  | libraryFile (options : CompilerOptions) (next : String → Dialog α)
  | writeFile (path data : String) (next : Dialog α)
  | debug (topic message : String) (next : Dialog α)

namespace Dialog

variable {α β : Type}

/-- Goes on with another dialog. -/
def bind : Dialog α → (α → Dialog β) → Dialog β
  | done a, f => f a
  | fileExists path next, f => fileExists path fun b => (next b).bind f
  | readFile path next, f => readFile path fun s => (next s).bind f
  | sourceFile path next, f => sourceFile path fun s => (next s).bind f
  | libraryFile options next, f => libraryFile options fun p => (next p).bind f
  | writeFile path data next, f => writeFile path data (next.bind f)
  | debug topic message next, f => debug topic message (next.bind f)

instance : Monad Dialog where
  pure := done
  bind := bind

instance [Inhabited α] : Inhabited (Dialog α) := ⟨done default⟩

/-- Asks whether a file exists. -/
def askExists (path : String) : Dialog Bool := fileExists path done

/-- Asks for the text of a file. -/
def askText (path : String) : Dialog (Option String) := readFile path done

/-- Asks for a file with its tree. -/
def askSource (path : String) : Dialog (Option SourceFile) := sourceFile path done

/-- Asks for the path of the default library of some options. -/
def askLibrary (options : CompilerOptions) : Dialog String := libraryFile options done

/-- Writes a file. -/
def write (path data : String) : Dialog Unit := writeFile path data (done ())

/-- Notes something in the log. -/
def note (topic message : String) : Dialog Unit := debug topic message (done ())

end Dialog

/-- What a host does with the steps of a dialog, over a state of its own. -/
structure Host (σ : Type) where
  fileExists : String → σ → Bool × σ
  readFile : String → σ → Option String × σ
  sourceFile : String → σ → Option SourceFile × σ
  libraryFile : CompilerOptions → σ → String × σ
  writeFile : String → String → σ → σ
  debug : String → String → σ → σ

/-- The result of a dialog with a host, and the state the host is left in. -/
def Dialog.run {σ α : Type} (h : Host σ) : Dialog α → σ → α × σ
  | .done a, s => (a, s)
  | .fileExists path next, s =>
    let (b, s) := h.fileExists path s
    (next b).run h s
  | .readFile path next, s =>
    let (t, s) := h.readFile path s
    (next t).run h s
  | .sourceFile path next, s =>
    let (f, s) := h.sourceFile path s
    (next f).run h s
  | .libraryFile options next, s =>
    let (p, s) := h.libraryFile options s
    (next p).run h s
  | .writeFile path data next, s => next.run h (h.writeFile path data s)
  | .debug topic message next, s => next.run h (h.debug topic message s)

/-- A step of a dialog, with whether the answer was positive. -/
structure Call where
  kind : String
  path : String
  positive : Bool
deriving DecidableEq, Inhabited

/-- A host that also records what was asked of files and written, the latest first. -/
def Host.recording {σ : Type} (h : Host σ) : Host (σ × List Call) where
  fileExists path s :=
    let (b, t) := h.fileExists path s.1
    (b, t, ⟨"exists", path, b⟩ :: s.2)
  readFile path s :=
    let (r, t) := h.readFile path s.1
    (r, t, ⟨"read", path, r.isSome⟩ :: s.2)
  sourceFile path s :=
    let (r, t) := h.sourceFile path s.1
    (r, t, ⟨"source", path, r.isSome⟩ :: s.2)
  libraryFile options s :=
    let (p, t) := h.libraryFile options s.1
    (p, t, s.2)
  writeFile path data s := (h.writeFile path data s.1, ⟨"write", path, true⟩ :: s.2)
  debug topic message s := (h.debug topic message s.1, s.2)

end Playground.Compiler
