import Playground.Script.Scope
import Playground.Script.Parse.Statement

/-!
# Programs

Ties the constructs together and reads a whole text.  `Parsed` is what reading yields: the tree,
the comments, the faults, and whether the text is a module.
-/

namespace Playground.Script

namespace Parse

/-- The grammar with room for the given number of nested constructs. -/
def Grammar.level : Nat → Grammar
  | 0 => default
  | n + 1 =>
    { expression := delay fun _ => Parse.expression (level n)
      assignment := delay fun _ => Parse.assignment (level n)
      unary := delay fun _ => Parse.unary (level n)
      leftHand := delay fun _ => Parse.leftHand (level n)
      statement := fun place => delay fun _ => Parse.statement (level n) place
      type := delay fun _ => Parse.type (level n)
      target := delay fun _ => Parse.target (level n)
      classAfter := fun start decorators isExpression => delay fun _ =>
        Parse.classFrom (level n) start decorators isExpression false false
      markup := fun inChild => delay fun _ => Parse.markup (level n) inChild }

/-- The line that names the program to run a script with, without its mark. -/
def hashbang : Parse (Option String) := do
  if (← slice 0 2) == "#!" then
    skip 2
    return some (← takeRun (!isLineEnd ·))
  else return none

/-- What stands in front of the first token: a byte order mark, or the line that names the
program to run a script with. -/
def programHead : Parse (Option String) := do
  if (← slice 0 3) == "\uFEFF" then
    -- the byte order mark is taken like a token
    pass
    setToken .unknown "Unknown" false false "" none
    take
    return none
  else hashbang

/-- A whole text. -/
def program : Parse Node := do
  let size := (← read).text.utf8ByteSize
  let mark ← programHead
  scan
  let g := Grammar.level (4 * size + 64)
  let (directives, body) ← bodyFrom g false (← left) true [] []
  return .mk ⟨0, size⟩ (.program mark directives body)

end Parse

/-- What reading a text yields. -/
structure Parsed where
  /-- the tree; it has no statements if reading stopped early -/
  program : Node
  comments : Array Comment
  /-- why the text is refused, in the order of the complaints -/
  faults : List Fault
  /-- reading stopped early -/
  stopped : Bool
  isModule : Bool
deriving Inhabited

namespace Parsed

/-! ### Exports that occur twice -/

/-- The name that a node in a list of exports stands for. -/
def exportedName (n : Node) : List Named :=
  match n.shape with
  | .propertyName name | .reference name | .stringLit name _ => [⟨name, n.span.start⟩]
  | _ => []

/-- The names a statement exports, the default apart. -/
def exportedNames (n : Node) : List Named :=
  match n.shape with
  | .exportNamed _ (some d) _ _ _ => Names.vars d ++ Names.lexical d
  | .exportNamed _ none specifiers _ _ =>
    specifiers.flatMap fun s =>
      match s.shape with
      | .exportSpecifier _ exported _ => exportedName exported
      | _ => []
  | .exportAll _ (some exported) _ _ => exportedName exported
  | _ => []

/-- A fault for every name that occurs again. -/
def duplicates (cause : String → Cause) : List Named → List String → List Fault
  | [], _ => []
  | n :: rest, seen =>
    if seen.contains n.name then ⟨cause n.name, n.start, false⟩ :: duplicates cause rest seen
    else duplicates cause rest (n.name :: seen)

/-- What is wrong with the exports of some statements taken together. -/
def exportFaults (body : List Node) : List Fault :=
  let defaults := body.filter fun n => n.shape matches .exportDefault _
  duplicates .duplicateExport (body.flatMap exportedNames) [] ++
    if defaults.length > 1 then
      defaults.head?.toList.map fun n => ⟨.duplicateDefault, n.span.start, false⟩
    else []

/-! ### Reading -/

/-- The faults that are known only when all is read. -/
def lateFaults (dialect : Dialect) (s : ParseState) : List Fault :=
  let isScript := dialect.goal == .script || (dialect.goal == .either && !s.sawModule)
  let covers := s.coverInits.reverse.map fun start => ⟨.coverInitializer, start, false⟩
  let awaits :=
    if isScript then s.awaitsOutside.map fun start => ⟨.awaitOutside, start, false⟩ else []
  covers ++ awaits

/-- Reads a text in a dialect, however long it is. -/
def read (dialect : Dialect) (text : String) : Parsed :=
  let context : Context :=
    { topLevel := true, inAsync := dialect.goal == .module, ambient := dialect.declarations }
  let start : ParseState := { toNotes := { context } }
  let comment (c : Comment) : Comment :=
    { c with text := String.Pos.Raw.extract text ⟨c.start⟩ ⟨c.stop⟩ }
  let isModule (s : ParseState) : Bool :=
    match dialect.goal with
    | .module => true
    | .script => false
    | .either => s.sawModule
  match Parse.program.run ⟨text, dialect⟩ start with
  | .ok program s =>
    let exports := if dialect.typed then [] else exportFaults program.scopeBody
    { program, comments := s.trivia.comments.map comment
      faults := s.scanFaults.toList ++ s.faults.toList ++ lateFaults dialect s ++ exports
      stopped := false, isModule := isModule s }
  | .error fault s =>
    { program := .mk ⟨0, text.utf8ByteSize⟩ (.program none [] [])
      comments := s.trivia.comments.map comment
      faults := s.scanFaults.toList ++ s.faults.toList ++ [fault]
      stopped := true, isModule := isModule s }

/-- The most bytes of a text that is read. -/
def sizeLimit : Nat := 4294967295

/-- What becomes of a text that is too long. -/
def overlong (dialect : Dialect) (text : String) : Parsed :=
  { program := .mk ⟨0, text.utf8ByteSize⟩ (.program none [] [])
    comments := #[]
    faults := [⟨.overlong, 0, false⟩]
    stopped := true, isModule := dialect.goal == .module }

/-- Reads a text in a dialect, unless it is too long. -/
def ofText (dialect : Dialect) (text : String) : Parsed :=
  if sizeLimit < text.utf8ByteSize then overlong dialect text else read dialect text

end Parsed

end Playground.Script
