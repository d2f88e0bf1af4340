import Playground.Compiler.Dialog
import Playground.Compiler.Options
import Playground.Script.Parse.Program
import Playground.Script.Print.Program

/-!
# Pipelines

A draft is a program between being read and being printed.  A pipeline lists what is done to a draft
before it is lowered and what is done to the script that is printed.  The transforms run in the order
of the lists, and the first that fails ends the pass.  `Pipeline.prepare` and `Pipeline.finish` are
the two folds.
-/

namespace Playground.Compiler

open Playground.Script

/-! ### Drafts -/

/-- A program on its way from the reader to the printer. -/
structure Draft where
  program : Node
  /-- the comments of the source -/
  comments : List Comment
  isModule : Bool
  /-- the source has type syntax -/
  typed : Bool
  /-- the text the program was read from -/
  source : String
deriving Inhabited

namespace Draft

/-- The draft of what was read. -/
def ofParsed (source : String) (dialect : Dialect) (p : Parsed) : Draft :=
  { program := p.program, comments := p.comments.toList, isModule := p.isModule
    typed := dialect.typed, source }

/-- The text of a draft. -/
def text (d : Draft) : String := d.program.print {} d.comments

/-- The statements of a draft. -/
def body (d : Draft) : List Node :=
  match d.program.shape with
  | .program _ _ body => body
  | _ => []

/-- The draft with other statements. -/
def withBody (d : Draft) (body : List Node) : Draft :=
  match d.program.shape with
  | .program hashbang directives _ =>
    { d with program := d.program.withShape (.program hashbang directives body) }
  | _ => d

end Draft

/-! ### Pipelines -/

/-- A transform failed. -/
structure TransformError where
  transform : String
  message : String
deriving DecidableEq, Inhabited, Repr

/-- The failure on one line. -/
def TransformError.text (e : TransformError) : String :=
  "transform \x60" ++ e.transform ++ "\x60 failed: " ++ e.message

/-- Changes a program before it is lowered. -/
structure PreEmit where
  name : String
  apply : CompilerOptions → Draft → Except TransformError Draft

/-- Changes the printed script. -/
structure PostEmit where
  name : String
  apply : CompilerOptions → String → Except TransformError String

/-- The transforms of a pass. -/
structure Pipeline where
  preEmit : List PreEmit := []
  postEmit : List PostEmit := []

namespace Pipeline

/-- The pipeline that changes nothing. -/
def empty : Pipeline := {}

/-- Adds a transform at the end of the first list. -/
def withPreEmit (p : Pipeline) (t : PreEmit) : Pipeline := { p with preEmit := p.preEmit ++ [t] }

/-- Adds a transform at the end of the second list. -/
def withPostEmit (p : Pipeline) (t : PostEmit) : Pipeline :=
  { p with postEmit := p.postEmit ++ [t] }

/-- The names of the transforms, in the order they run. -/
def names (p : Pipeline) : List String := p.preEmit.map (·.name) ++ p.postEmit.map (·.name)

/-- What the first list makes of a program. -/
def prepare (p : Pipeline) (options : CompilerOptions) (d : Draft) :
    Except TransformError Draft :=
  p.preEmit.foldlM (fun d t => t.apply options d) d

/-- What the second list makes of a script. -/
def finish (p : Pipeline) (options : CompilerOptions) (code : String) :
    Except TransformError String :=
  p.postEmit.foldlM (fun code t => t.apply options code) code

/-- The names of the transforms that run until one fails, that one included. -/
def started {τ α : Type} (name : τ → String) (apply : τ → α → Except TransformError α) :
    List τ → α → List String
  | [], _ => []
  | t :: ts, a =>
    name t ::
      match apply t a with
      | .ok b => started name apply ts b
      | .error _ => []

/-- Notes one line for every name. -/
def noteAll (stage : String) : List String → Dialog Unit
  | [] => return ()
  | n :: ns => do
    Dialog.note "pipeline" (stage ++ " " ++ n)
    noteAll stage ns

/-- Runs the first list, noting each transform. -/
def runPreEmit (p : Pipeline) (options : CompilerOptions) (d : Draft) :
    Dialog (Except TransformError Draft) := do
  noteAll "pre-emit" (started (·.name) (fun t d => t.apply options d) p.preEmit d)
  return p.prepare options d

/-- Runs the second list, noting each transform. -/
def runPostEmit (p : Pipeline) (options : CompilerOptions) (code : String) :
    Dialog (Except TransformError String) := do
  noteAll "post-emit" (started (·.name) (fun t code => t.apply options code) p.postEmit code)
  return p.finish options code

end Pipeline

end Playground.Compiler
