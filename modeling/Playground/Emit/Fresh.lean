import Playground.Script.Names

/-!
# Fresh names

Names made up for a program start with a low line and clash with no name of the program.
`Fresh.make` numbers the names of one base: `_a`, `_a2`, `_a3`.  `nameOf` reads a base off the
expression that a name is to hold the value of.
-/

namespace Playground.Emit

open Playground.Script

/-- How many low lines the names of one base start with, and the highest number after it. -/
structure FreshEntry where
  lines : Nat
  number : Nat
deriving Inhabited

/-- The names that are taken, by base. -/
structure Fresh where
  entries : List (String × FreshEntry) := []
deriving Inhabited

namespace Fresh

/-- A name without the low lines it starts with and the digits it ends in. -/
def base (name : String) : String :=
  let cs := name.toList.dropWhile (· == '_')
  String.ofList (cs.reverse.dropWhile Char.isDigit).reverse

/-- The low lines a name starts with. -/
def lines (name : String) : Nat := (name.toList.takeWhile (· == '_')).length

/-- The number a name ends in. -/
def number (name : String) : Nat :=
  let digits := (name.toList.reverse.takeWhile Char.isDigit).reverse
  if digits.isEmpty then 1 else (String.ofList digits).toNat?.getD 1

/-- The entry that covers two. -/
def FreshEntry.join (a b : FreshEntry) : FreshEntry :=
  if a.lines < b.lines then b
  else if b.lines < a.lines then a
  else ⟨a.lines, max a.number b.number⟩

/-- Takes a name that the program has. -/
def take (f : Fresh) (name : String) : Fresh :=
  if lines name = 0 then f
  else
    let b := base name
    let e : FreshEntry := ⟨lines name, number name⟩
    match f.entries.lookup b with
    | some old =>
      ⟨f.entries.map fun (k, v) => (k, if k = b then FreshEntry.join old e else v)⟩
    | none => ⟨(b, e) :: f.entries⟩

/-- The names a program leaves free. -/
def ofProgram (program : Node) : Fresh := (Names.all program).foldl take {}

/-- Makes up a name. -/
def make (f : Fresh) (name : String) : String × Fresh :=
  let b := base name
  match f.entries.lookup b with
  | some e =>
    let n := e.number + 1
    (String.ofList (List.replicate e.lines '_') ++ b ++ toString n,
      ⟨f.entries.map fun (k, v) => (k, if k = b then ⟨e.lines, n⟩ else v)⟩)
  | none => ("_" ++ b, ⟨(b, ⟨1, 1⟩) :: f.entries⟩)

end Fresh

/-! ### Names after expressions -/

/-- The words of an expression that a name for its value is made of, some levels down. -/
def nameParts : Nat → Node → List String
  | 0, _ => []
  | k + 1, n =>
    match n.shape with
    | .reference name => [name]
    | .binding name => [name]
    | .propertyName name => [name]
    | .privateName name => [name]
    | .stringLit value _ => [value]
    | .numberLit _ raw => raw.toList
    | .bigIntLit digits => [digits]
    | .boolLit value => [if value then "true" else "false"]
    | .nullLit => ["null"]
    | .thisExpr => ["this"]
    | .superExpr => ["super"]
    | .metaProperty owner name => [owner, name]
    | .importCall .. => ["import"]
    | .member object name _ => nameParts k object ++ [name]
    | .privateMember object name _ => nameParts k object ++ [name]
    | .index object key _ => nameParts k object ++ nameParts k key
    | .call callee _ _ _ _ => nameParts k callee
    | .newExpr callee _ _ _ => nameParts k callee
    | .chain inner => nameParts k inner
    | .paren inner => nameParts k inner
    | .unary _ argument => nameParts k argument
    | .update _ _ target => nameParts k target
    | .await argument => nameParts k argument
    | .yieldExpr _ argument => argument.toList.flatMap (nameParts k)
    | .assign _ target _ => nameParts k target
    | .function f => f.name.toList.flatMap (nameParts k)
    | .classDef c => c.name.toList.flatMap (nameParts k)
    | .objectLit properties => properties.flatMap (nameParts k)
    | .property _ _ _ _ key _ => nameParts k key
    | .spread argument => nameParts k argument
    | _ => []

/-- The characters of a name with those that no name has replaced: a letter after them is
written large. -/
def camelCase : Bool → List Char → List Char
  | _, [] => []
  | raise, c :: cs =>
    if c.isAlphanum || c == '_' || c == '$' || 128 ≤ c.toNat then
      (if raise then c.toUpper else c) :: camelCase false cs
    else camelCase true cs

/-- Words with a sign between them; low lines in front of the first one are left out. -/
def joinParts (name part : List Char) : List Char :=
  if name.isEmpty then part.dropWhile (· == '_') else name ++ '$' :: part

/-- The base of a name for the value of an expression. -/
def nameOf (n : Node) : String :=
  match (nameParts n.depth n).foldl (fun name part => joinParts name part.toList) [] with
  | [] => "ref"
  | cs =>
    let cs := camelCase false (cs.take 20)
    if cs.isEmpty then "ref" else String.ofList cs

end Playground.Emit
