import Playground.Text.Chars

/-!
# TOML documents

A document is a table.  Tables keep their entries in the order in which they were made, and know
whether they came about only as part of a longer name.

What is wrong with a document is told by a fault, which has a message and, where that is known, the
bytes it is about; it is shown with the line they are on.
-/

namespace Playground.Toml

open Playground.Text

/-! ### Faults -/

/-- A stretch of bytes. -/
structure Span where
  start : Nat
  stop : Nat
deriving DecidableEq, Inhabited, Repr

/-- What is wrong, and where. -/
structure Fault where
  message : String
  span : Option Span
deriving DecidableEq, Inhabited, Repr

/-- The line of a byte, counted from 0, and the number of characters before it on that line. -/
def placeOf (bytes : ByteArray) (offset : Nat) : Nat × Nat :=
  if bytes.isEmpty then (0, offset)
  else
    let safe := min offset (bytes.size - 1)
    let before := (bytes.extract 0 safe).toList
    let line := before.count 10
    let onLine := (before.reverse.takeWhile (· ≠ 10)).reverse
    let here := onLine ++ [bytes.get! safe]
    let column :=
      match String.fromUTF8? ⟨here.toArray⟩ with
      | some s => s.length - 1
      | none => onLine.length
    (line, column + (offset - safe))

/-- So many blanks. -/
def blanks (n : Nat) : String := String.ofList (List.replicate n ' ')

/-- The fault as it is shown: the line with a mark under the bytes it is about. -/
def Fault.text (f : Fault) (source : String) : String :=
  match f.span with
  | none => f.message ++ "\n"
  | some span =>
    let (line, column) := placeOf source.toUTF8 span.start
    let number := toString (line + 1)
    let content := String.ofList ((pieces '\n' source.toList).getD line [])
    let marks := min (span.stop - span.start) (content.utf8ByteSize - column)
    let gutter := blanks (number.length + 1) ++ "|"
    "TOML parse error at line " ++ number ++ ", column " ++ toString (column + 1) ++ "\n"
      ++ gutter ++ "\n"
      ++ number ++ " | " ++ content ++ "\n"
      ++ gutter ++ blanks (column + 1) ++ String.ofList (List.replicate (max 1 marks) '^') ++ "\n"
      ++ f.message ++ "\n"

/-! ### Documents -/

/-- A key, and where it stands. -/
structure Key where
  text : String
  span : Span
deriving DecidableEq, Inhabited, Repr

mutual

/-- A value. -/
inductive Value where
  | string (s : String) (span : Span)
  | integer (n : Int) (span : Span)
  | float (x : Float) (span : Span)
  | boolean (b : Bool) (span : Span)
  | datetime (text : String) (span : Span)
  | array (items : List Value) (span : Span)
  | inlineTable (table : Table) (span : Span)

/-- What a key of a table leads to. -/
inductive Item where
  | value (v : Value)
  | table (t : Table)
  | tables (ts : List Table) (span : Option Span)

/-- A table. -/
structure Table where
  entries : List (Key × Item)
  /-- it came about as part of a longer name -/
  implicit : Bool
  /-- that name was a dotted key -/
  dotted : Bool
  span : Option Span

end

instance : Inhabited Value := ⟨.boolean false default⟩

/-- A table without entries. -/
def Table.empty : Table := ⟨[], false, false, none⟩

instance : Inhabited Table := ⟨.empty⟩

instance : Inhabited Item := ⟨.table .empty⟩

/-- Where a value stands. -/
def Value.span : Value → Span
  | string _ s | integer _ s | float _ s | boolean _ s | datetime _ s | array _ s
  | inlineTable _ s => s

/-- The kind of a value. -/
def Value.kind : Value → String
  | string .. => "string" | integer .. => "integer" | float .. => "float"
  | boolean .. => "boolean" | datetime .. => "datetime" | array .. => "array"
  | inlineTable .. => "inline table"

/-- The value, placed elsewhere. -/
def Value.withSpan (s : Span) : Value → Value
  | string x _ => string x s
  | integer x _ => integer x s
  | float x _ => float x s
  | boolean x _ => boolean x s
  | datetime x _ => datetime x s
  | array x _ => array x s
  | inlineTable x _ => inlineTable x s

/-- Where an item stands, as far as it stands in one place. -/
def Item.span : Item → Option Span
  | value v => some v.span
  | table t => t.span
  | tables _ s => s

namespace Table

/-- The item of a key. -/
def find? (t : Table) (key : String) : Option Item :=
  (t.entries.find? fun e => e.1.text = key).map (·.2)

/-- Puts an item in the place of the one of its key, or behind all others. -/
def put (t : Table) (key : Key) (item : Item) : Table :=
  let rec go : List (Key × Item) → List (Key × Item)
    | [] => [(key, item)]
    | e :: rest => if e.1.text = key.text then (e.1, item) :: rest else e :: go rest
  { t with entries := go t.entries }

/-- The table without a key. -/
def erase (t : Table) (key : String) : Table :=
  { t with entries := t.entries.filter fun e => e.1.text ≠ key }

end Table

end Playground.Toml
