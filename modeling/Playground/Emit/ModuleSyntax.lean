import Playground.Compiler.Pipeline
import Playground.Compiler.Resolve
import Playground.Text.Chars

/-!
# Stripping module syntax

A script that is run on its own may not import or export, so the declarations that do are cut
from the printed text; what they declare stays.  `ModuleSyntax.edits` says what is cut, by the
bytes the statements cover, and `splice` cuts it and leaves every other byte alone.
-/

namespace Playground.Emit

open Playground.Compiler Playground.Script

/-- A stretch of a text and what it is replaced by. -/
structure Edit where
  span : Span
  replacement : String
deriving DecidableEq, Inhabited, Repr

/-- The text between two byte offsets. -/
def slice (code : String) (span : Span) : String :=
  String.Pos.Raw.extract code ⟨span.start⟩ ⟨span.stop⟩

/-- Where the text goes on behind an edit: a removal takes the line end behind it along. -/
def Edit.resume (code : String) (e : Edit) : Nat :=
  if e.replacement.isEmpty && slice code ⟨e.span.stop, e.span.stop + 1⟩ == "\n" then
    e.span.stop + 1
  else e.span.stop

/-- Applies edits that lie in order and do not overlap, from a byte on. -/
def spliceFrom (code : String) (start : Nat) : List Edit → String
  | [] => slice code ⟨start, code.utf8ByteSize⟩
  | e :: rest =>
    slice code ⟨start, e.span.start⟩ ++ e.replacement ++ spliceFrom code (e.resume code) rest

/-- Applies edits that lie in order and do not overlap. -/
def splice (code : String) (edits : List Edit) : String := spliceFrom code 0 edits

namespace ModuleSyntax

/-- What stays of `export default`: a declaration without a name is only an expression. -/
def defaultText (code : String) (declaration : Node) : String :=
  let text := slice code declaration.span
  match declaration.shape with
  | .function f =>
    if f.role = .expression then text ++ ";"
    else if f.name.isSome then text
    else "(" ++ text ++ ");"
  | .classDef c =>
    if c.isExpression then text ++ ";"
    else if c.name.isSome then text
    else "(" ++ text ++ ");"
  | .interface .. => ""
  | _ => text ++ ";"

/-- What stays of a statement that imports or exports. -/
def replacement? (code : String) (statement : Node) : Option String :=
  match statement.shape with
  | .importDecl .. => some ""
  | .exportAll .. => some ""
  | .exportNamed _ (some declaration) _ _ _ => some (slice code declaration.span)
  | .exportNamed _ none _ _ _ => some ""
  | .exportDefault declaration => some (defaultText code declaration)
  | _ => none

/-- The edits for some statements. -/
def edits (code : String) (statements : List Node) : List Edit :=
  statements.filterMap fun n => (replacement? code n).map fun r => ⟨n.span, r⟩

/-- The dialect of scripts that were emitted. -/
def emittedDialect (options : CompilerOptions) (goal : Goal) : Dialect :=
  { typed := false, markup := options.jsx = .preserve, goal }

/-- The statements of a script, or why it cannot be read. -/
def statements (options : CompilerOptions) (code : String) : Except String (List Node) :=
  let parsed := Parsed.ofText (emittedDialect options .module) code
  match parsed.faults with
  | f :: _ => .error f.message
  | [] => .ok (programBody parsed.program)

/-- The script without module syntax. -/
def strip (options : CompilerOptions) (code : String) : Except TransformError String :=
  match statements options code with
  | .error message => .error ⟨"strip-module-syntax", message⟩
  | .ok statements => .ok (splice code (edits code statements))

end ModuleSyntax

/-- Strips module syntax from the script. -/
def stripModuleSyntax : PostEmit := ⟨"strip-module-syntax", ModuleSyntax.strip⟩

end Playground.Emit
