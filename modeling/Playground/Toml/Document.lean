import Playground.Toml.Scalar

/-!
# Reading documents

`Document.parse` reads a text line by line: keys with values, and headers that say in which table
the following keys belong.
-/

namespace Playground.Toml

/-! ### Keys -/

/-- Whether a byte may stand in a key without quotes. -/
def isBare (b : UInt8) : Bool :=
  (65 ≤ b && b ≤ 90) || (97 ≤ b && b ≤ 122) || (48 ≤ b && b ≤ 57) || b == 45 || b == 95

/-- A character of a basic string, escaped if it cannot stand for itself. -/
def escapedChar (c : Char) : List Char :=
  match c with
  | '\x08' => ['\\', 'b']
  | '\t' => ['\\', 't']
  | '\n' => ['\\', 'n']
  | '\x0c' => ['\\', 'f']
  | '\r' => ['\\', 'r']
  | '"' => ['\\', '"']
  | '\\' => ['\\', '\\']
  | c =>
    if c.toNat < 32 || c.toNat = 127 then
      let digits := (Nat.toDigits 16 c.toNat).map Char.toUpper
      ['\\', 'u'] ++ List.replicate (4 - digits.length) '0' ++ digits
    else [c]

/-- A key as it is written in messages about headers: bare if it can be; as a literal string if that
spares an escape and is possible; as a basic string otherwise. -/
def Key.written (k : Key) : String :=
  let cs := k.text.toList
  let isControl (c : Char) : Bool := (c.toNat < 32 && c ≠ '\t') || c.toNat = 127
  if !cs.isEmpty && k.text.toUTF8.toList.all isBare then k.text
  else if cs.any (fun c => c = '"' || c = '\\') && !cs.any (fun c => c = '\x27' || isControl c) then
    "\x27" ++ k.text ++ "\x27"
  else "\"" ++ String.ofList (cs.flatMap escapedChar) ++ "\""

/-- The complaint about a nesting that is too deep. -/
def tooDeep : String := "recursion limit exceeded"

/-- The deepest nesting. -/
def depthLimit : Nat := 80

/-- The texts of keys with dots between them. -/
def dottedText (path : List Key) : String := ".".intercalate (path.map (·.text))

/-- The complaint about a key that is there already. -/
def duplicateKey (key : String) : Option (List Key) → String
  | none => "duplicate key \x60" ++ key ++ "\x60"
  | some [] => "duplicate key \x60" ++ key ++ "\x60 in document root"
  | some path => "duplicate key \x60" ++ key ++ "\x60 in table \x60" ++ dottedText path ++ "\x60"

/-- The complaint about a key of something that is no table. -/
def notATable (path : List Key) (kind : String) : String :=
  "dotted key \x60" ++ dottedText path ++ "\x60 attempted to extend non-table type ("
    ++ kind ++ ")"

namespace Reader

/-- A part of a key. -/
def simpleKey : Reader Key := do
  blanks
  let (text, span) ← placed do
    match ← peek with
    | none => fail
    | some b =>
      if is '"' b then basicString
      else if is '\'' b then literalString
      else takeSome isBare
  blanks
  return ⟨text, span⟩

/-- A key: parts with dots between them. -/
def key : Reader (List Key) :=
  tryMap (label "key" (someItems simpleKey (char '.'))) fun path =>
    if path.length ≥ depthLimit then .error tooDeep else .ok path

end Reader

/-! ### Tables within a line -/

/-- Changes the table that a path leads to, making the tables on the way. -/
def InlineTable.descend (change : Table → Except String Table) (whole : List Key) :
    List Key → Table → Except String Table
  | [], t => change t
  | k :: rest, t => do
    match t.find? k.text with
    | none =>
      let child ← descend change whole rest ⟨[], true, true, none⟩
      return t.put k (.value (.inlineTable child k.span))
    | some (.value (.inlineTable child span)) =>
      -- what is written out in braces cannot be added to
      if !child.implicit then throw (duplicateKey k.text none)
      let child ← descend change whole rest child
      return t.put k (.value (.inlineTable child span))
    | some (.value v) =>
      throw (notATable (whole.take (whole.length - rest.length)) v.kind)
    | some _ => throw (duplicateKey k.text none)

/-- Adds a key with a value. -/
def InlineTable.add (t : Table) (entry : List Key × Value) : Except String Table := do
  let (path, v) := entry
  match path.getLast? with
  | none => return t
  | some last =>
    let front := path.dropLast
    InlineTable.descend (fun t => do
      if t.dotted = front.isEmpty then throw (duplicateKey last.text none)
      match t.find? last.text with
      | none => return t.put last (.value v)
      | some _ => throw (duplicateKey last.text none)) front front t

/-! ### Values -/

namespace Reader

/-- What is expected where no value starts. -/
def notAValue {α : Type} (p : Reader α) : Reader α :=
  expecting ["\x60\"\x60", "\x60'\x60"] (label "string" p)

/-- A key with a value in a table within a line. -/
def inlineEntry (value : Reader Value) : Reader (List Key × Value) := do
  let path ← key
  final do
    expecting ["\x60.\x60", "\x60=\x60"] (char '=')
    blanks
    let v ← value
    blanks
    return (path, v)

/-- An array of values. -/
def array (value : Reader Value) : Reader Value := do
  char '['
  let item : Reader Value := do
    gap
    let v ← value
    gap
    return v
  let vs ← final do
    if (← peek) = some 93 then return []
    let vs ← items item (char ',')
    if !vs.isEmpty then
      let _ ← opt (char ',')
    gap
    return vs
  expecting ["\x60]\x60"] (label "array" (final (char ']')))
  return .array vs default

/-- A table within a line. -/
def inlineTable (value : Reader Value) : Reader Value := do
  char '\x7b'
  let entries : Reader (List (List Key × Value)) := do
    let entries ← items (inlineEntry value) (char ',')
    blanks
    return entries
  let table ← final (tryMap entries fun entries => entries.foldlM InlineTable.add Table.empty)
  expecting ["\x60\x7d\x60"] (label "inline table" (final (char '\x7d')))
  return .inlineTable table default

/-- A value that starts with a byte, over a reader for the values inside of it. -/
def valueFrom (inner : Reader Value) (b : UInt8) : Reader Value :=
  let asFloat : Reader Value := do return .float (← float) default
  let asInteger : Reader Value := do return .integer (← integer) default
  let fixed (name : String) (v : Value) : Reader Value := do
    word name
    return v
  if is '"' b || is '\'' b then do return .string (← string) default
  else if is '[' b then array inner
  else if is '\x7b' b then inlineTable inner
  else if is '+' b || is '-' b || isDigit b then
    alt [do return .datetime (datetimeText (← passed datetime)) default, asFloat, asInteger]
  else if is '_' b then expecting ["leading digit"] asInteger
  else if is '.' b then expecting ["leading digit"] asFloat
  else if is 't' b then notAValue (final (fixed "true" (.boolean true default)))
  else if is 'f' b then notAValue (final (fixed "false" (.boolean false default)))
  else if is 'i' b then notAValue (fixed "inf" (.float (1.0 / 0.0) default))
  else if is 'n' b then notAValue (fixed "nan" (.float (0.0 / 0.0) default))
  else notAValue fail

/-- A value, nested at most so deep. -/
def value : Nat → Reader Value
  | 0 => failFor tooDeep
  | n + 1 => do
    match ← peek with
    | none => fail
    | some b =>
      if n = 0 && (is '[' b || is '\x7b' b) then failFor tooDeep
      let (v, span) ← placed (valueFrom (value n) b)
      return v.withSpan span

end Reader

/-! ### Tables -/

/-- Changes the table that a path leads to, making the tables on the way; of several tables the
last one is meant. -/
def Table.descend {α : Type} (change : Table → Except String (α × Table)) (dotted : Bool)
    (whole : List Key) : List Key → Table → Except String (α × Table)
  | [], t => change t
  | k :: rest, t => do
    match t.find? k.text with
    | none =>
      let (a, child) ← descend change dotted whole rest ⟨[], true, dotted, none⟩
      return (a, t.put k (.table child))
    | some (.value v) =>
      throw (notATable (whole.take (whole.length - rest.length)) v.kind)
    | some (.tables ts span) =>
      let (a, last) ← descend change dotted whole rest (ts.getLast?.getD .empty)
      return (a, t.put k (.tables (ts.dropLast ++ [last]) span))
    | some (.table child) =>
      -- a header may lead through a table that has a header of its own, a dotted key may not
      if dotted && !child.implicit then throw (duplicateKey k.text none)
      let (a, child) ← descend change dotted whole rest child
      return (a, t.put k (.table child))

/-- Changes the table in which the last key of a path belongs. -/
def Table.change {α : Type} (t : Table) (dotted : Bool) (path : List Key)
    (f : Key → List Key → Table → Except String (α × Table)) : Except String (α × Table) :=
  match path.getLast? with
  | none => .error tooDeep
  | some last =>
    let front := path.dropLast
    Table.descend (f last front) dotted front front t

/-- A document while it is read: the tables that are done, and the one that is open. -/
structure Draft where
  root : Table
  current : Table
  path : List Key
  isItem : Bool

namespace Draft

/-- The document before its first line. -/
def start : Draft := ⟨.empty, { Table.empty with span := some ⟨0, 0⟩ }, [], false⟩

/-- Adds a key with a value to the open table. -/
def addEntry (d : Draft) (path : List Key) (v : Value) : Except String Draft := do
  let span := d.current.span.map fun s => ⟨s.start, v.span.stop⟩
  let ((), current) ← d.current.change true path fun last front t => do
    -- only dotted keys add to a table that came about by one, and to no other table
    if t.dotted = front.isEmpty then throw (duplicateKey last.text none)
    match t.find? last.text with
    | none => return ((), t.put last (.value v))
    | some _ => throw (duplicateKey last.text (some d.path))
  return { d with current := { current with span } }

/-- The stretch from the first of some tables to the last. -/
def stretch (ts : List Table) : Option Span := do
  let first ← (← ts.head?).span
  let last ← (← ts.getLast?).span
  return ⟨first.start, last.stop⟩

/-- Puts the open table into its place. -/
def close (d : Draft) : Except String Draft := do
  if d.path.isEmpty then return { d with root := d.current, current := .empty }
  let ((), root) ← d.root.change false d.path fun last front t => do
    if d.isItem then
      match t.find? last.text with
      | some (.tables ts _) =>
        let ts := ts ++ [d.current]
        return ((), t.put last (.tables ts (stretch ts)))
      | _ => throw (duplicateKey last.written (some front))
    else return ((), t.put last (.table d.current))
  return ⟨root, .empty, [], false⟩

/-- Starts a table.  One that came about as part of a longer name goes on. -/
def openTable (d : Draft) (path : List Key) (span : Span) : Except String Draft := do
  let d ← d.close
  let (current, root) ← d.root.change false path fun last front t =>
    match t.find? last.text with
    | none => .ok (.empty, t)
    | some (.table child) =>
      if child.implicit && !child.dotted then .ok (child, t.erase last.text)
      else .error (duplicateKey last.written (some front))
    | some _ => .error (duplicateKey last.written (some front))
  let current := { current with implicit := false, dotted := false, span := some span }
  return ⟨root, current, path, false⟩

/-- Starts a table in a list of tables. -/
def openItem (d : Draft) (path : List Key) (span : Span) : Except String Draft := do
  let d ← d.close
  let ((), root) ← d.root.change false path fun last front t =>
    match t.find? last.text with
    | none => .ok ((), t.put last (.tables [] none))
    | some (.tables ..) => .ok ((), t)
    | some _ => .error (duplicateKey last.written (some front))
  return ⟨root, ⟨[], false, false, some span⟩, path, true⟩

end Draft

namespace Reader

/-- What is expected at the end of a line. -/
def endOfEntry : Reader Unit := expecting ["newline", "\x60#\x60"] lineRest

/-- A key with a value on a line of its own. -/
def entry (d : Draft) : Reader Draft :=
  tryMap (do
    let path ← key
    final do
      expecting ["\x60.\x60", "\x60=\x60"] (char '=')
      blanks
      let v ← value depthLimit
      endOfEntry
      return (path, v)) fun (path, v) => d.addEntry path v

/-- A header in brackets. -/
def header (opening closing : String) (f : List Key → Span → Except String Draft) :
    Reader Draft :=
  tryMap (do
    let (path, span) ← placed do
      word opening
      let path ← final key
      expecting ["\x60.\x60", "\x60" ++ closing ++ "\x60"] (final (word closing))
      return path
    expecting ["newline", "\x60#\x60"] (final lineRest)
    return (path, span)) fun (path, span) => f path span

/-- A header. -/
def anyHeader (d : Draft) : Reader Draft :=
  label "table header" do
    let start ← get
    if (← read).size < start + 2 then fail
    if ← sees "[[" then header "[[" "]]" d.openItem else header "[" "]" d.openTable

/-- Lines, so many at most. -/
def linesFrom : Nat → Draft → Reader Draft
  | 0, d => return d
  | n + 1, d => do
    let line : Reader Draft := do
      let d ← match ← peek with
        | none => fail
        | some b =>
          if is '#' b then
            final do comment; lineEnd
            pure d
          else if is '[' b then final (anyHeader d)
          else if is '\n' b || is '\r' b then
            newline
            pure d
          else final (entry d)
      blanks
      return d
    match ← opt line with
    | none => return d
    | some d => linesFrom n d

/-- A document. -/
def document : Reader Table := do
  let _ ← opt (word "\ufeff")
  blanks
  let d ← linesFrom (← left) Draft.start
  eof
  match d.close with
  | .ok d => return d.root
  | .error cause => failFor cause

end Reader

/-- The span of the character at a place, or of what is left of it. -/
def charSpan (bytes : ByteArray) (offset : Nat) : Span :=
  let isInner (i : Nat) : Bool := i < bytes.size && 128 ≤ bytes.get! i && bytes.get! i < 192
  let back := ((List.range 4).find? fun i => !isInner (offset - i)).getD 0
  let start := offset - back
  let more := ((List.range 4).takeWhile fun i => isInner (start + 1 + i)).length
  ⟨start, min bytes.size (start + 1 + more)⟩

/-- The document of a text. -/
def parse (source : String) : Except Fault Table :=
  let bytes := source.toUTF8
  match Reader.document bytes 0 with
  | .ok t _ => .ok t
  | .error s offset => .error ⟨s.message, some (charSpan bytes offset)⟩

end Playground.Toml
