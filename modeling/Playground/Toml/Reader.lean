import Playground.Toml.Tree

/-!
# Reading with alternatives

The reader goes along bytes.  When it stops, the place where it stands is where the fault is
reported, and the fault knows what was being read and what was expected.  A fault that is final
is not made good by another alternative.
-/

namespace Playground.Toml

/-- Why a reader stopped. -/
structure Stop where
  isFinal : Bool := false
  /-- what was being read, the innermost -/
  label : Option String := none
  expected : List String := []
  cause : Option String := none
deriving DecidableEq, Inhabited, Repr

/-- The wording of a stop. -/
def Stop.message (s : Stop) : String :=
  let label := (s.label.map ("invalid " ++ ·)).toList
  let expected :=
    if s.expected.isEmpty then [] else ["expected " ++ ", ".intercalate s.expected]
  "\n".intercalate (label ++ expected ++ s.cause.toList)

/-- A reader over bytes; its state is the place it stands at. -/
abbrev Reader := ReaderT ByteArray (EStateM Stop Nat)

namespace Reader

variable {α β : Type}

/-- Stops, so that another alternative may be tried. -/
def fail : Reader α := throw {}

/-- Stops for good. -/
def failFor (cause : String) : Reader α := throw { isFinal := true, cause := some cause }

/-- What the reader stops with is final. -/
def final (p : Reader α) : Reader α := do
  try p catch s => throw { s with isFinal := true }

/-- Says what is being read. -/
def label (name : String) (p : Reader α) : Reader α := do
  try p catch s => throw { s with label := s.label <|> some name }

/-- Says what is expected. -/
def expecting (names : List String) (p : Reader α) : Reader α := do
  try p catch s => throw { s with expected := s.expected ++ names }

/-- What a reader reads, if it does. -/
def opt (p : Reader α) : Reader (Option α) := do
  let start ← get
  try return some (← p)
  catch s =>
    if s.isFinal then throw s
    set start
    return none

/-- The first of some readers that reads something. -/
def alt : List (Reader α) → Reader α
  | [] => fail
  | [p] => p
  | p :: ps => do
    match ← opt p with
    | some a => return a
    | none => alt ps

/-- Reads again and again. -/
def many (p : Reader α) : Nat → Reader (List α)
  | 0 => return []
  | n + 1 => do
    match ← opt p with
    | none => return []
    | some a => return a :: (← many p n)

/-- The number of bytes left, and one more. -/
def left : Reader Nat := do return (← read).size + 1 - (← get)

/-- Reads again and again, as long as anything is left. -/
def repeated (p : Reader α) : Reader (List α) := do many p (← left)

/-- Checks what was read, and maps it; a complaint is about the place where it started. -/
def tryMap (p : Reader α) (f : α → Except String β) : Reader β := do
  let start ← get
  let a ← p
  match f a with
  | .ok b => return b
  | .error cause =>
    set start
    throw { cause := some cause }

/-- Reads only what satisfies a test. -/
def verify (p : Reader α) (test : α → Bool) : Reader α := do
  let start ← get
  let a ← p
  if test a then return a
  set start
  fail

/-- The next byte, if there is one. -/
def peek : Reader (Option UInt8) := do return (← read)[← get]?

/-- A byte that satisfies a test. -/
def oneOf (test : UInt8 → Bool) : Reader UInt8 := do
  match ← peek with
  | some b =>
    if test b then
      modify (· + 1)
      return b
    else fail
  | none => fail

/-- Whether a byte is the given ASCII character. -/
def is (c : Char) (b : UInt8) : Bool := b.toNat = c.toNat

/-- The given ASCII character. -/
def char (c : Char) : Reader Unit := do
  let _ ← oneOf (is c)

/-- Whether the given text comes next. -/
def sees (s : String) : Reader Bool := do
  let start ← get
  return ((← read).extract start (start + s.utf8ByteSize)).data == s.toUTF8.data

/-- The given text. -/
def word (s : String) : Reader Unit := do
  if ← sees s then modify (· + s.utf8ByteSize) else fail

/-- Passes bytes that satisfy a test. -/
def skipWhile (test : UInt8 → Bool) : Nat → Reader Unit
  | 0 => return ()
  | n + 1 => do
    match ← peek with
    | some b =>
      if test b then
        modify (· + 1)
        skipWhile test n
    | none => return ()

/-- The text from a place up to here. -/
def textFrom (start : Nat) : Reader String := do
  return (String.fromUTF8? ((← read).extract start (← get))).getD ""

/-- At most so many bytes that satisfy a test. -/
def takeUpTo (n : Nat) (test : UInt8 → Bool) : Reader String := do
  let start ← get
  skipWhile test n
  textFrom start

/-- Any number of bytes that satisfy a test. -/
def takeWhile (test : UInt8 → Bool) : Reader String := do takeUpTo (← left) test

/-- At least one byte that satisfies a test. -/
def takeSome (test : UInt8 → Bool) : Reader String := verify (takeWhile test) (!·.isEmpty)

/-- The text that a reader passes. -/
def passed (p : Reader α) : Reader String := do
  let start ← get
  let _ ← p
  textFrom start

/-- What a reader reads, with its place. -/
def placed (p : Reader α) : Reader (α × Span) := do
  let start ← get
  let a ← p
  return (a, ⟨start, ← get⟩)

/-- What a reader reads, which is put back. -/
def ahead (p : Reader α) : Reader α := do
  let start ← get
  let a ← p
  set start
  return a

/-- The end. -/
def eof : Reader Unit := do if (← peek).isSome then fail

/-- Items with a separator between them, behind the first one. -/
def moreItems (p : Reader α) (separator : Reader Unit) : Reader (List α) :=
  repeated do
    separator
    p

/-- At least one item. -/
def someItems (p : Reader α) (separator : Reader Unit) : Reader (List α) := do
  let first ← p
  return first :: (← moreItems p separator)

/-- Any number of items. -/
def items (p : Reader α) (separator : Reader Unit) : Reader (List α) := do
  match ← opt p with
  | none => return []
  | some first => return first :: (← moreItems p separator)

/-! ### Blanks and comments -/

/-- A blank. -/
def isBlank (b : UInt8) : Bool := b == 32 || b == 9

/-- Blanks. -/
def blanks : Reader Unit := do skipWhile isBlank (← left)

/-- The end of a line. -/
def newline : Reader Unit := alt [char '\n', do char '\r'; char '\n']

/-- The end of a line or of the text. -/
def lineEnd : Reader Unit := alt [newline, eof]

/-- A comment. -/
def comment : Reader Unit := do
  char '#'
  skipWhile (fun b => b == 9 || (32 ≤ b && b ≤ 126) || 128 ≤ b) (← left)

/-- The rest of a line: at most a comment. -/
def lineRest : Reader Unit := do
  blanks
  let _ ← opt comment
  lineEnd

/-- Blanks and ends of lines. -/
def blanksAndNewlines : Reader Unit := do
  let _ ← repeated (alt [newline, do let _ ← takeSome isBlank])

/-- Blanks, comments and ends of lines, in so many steps at most. -/
def gapFrom : Nat → Reader Unit
  | 0 => return ()
  | n + 1 => do
    let start ← get
    blanks
    match ← peek with
    | some b =>
      if is '#' b then do comment; newline
      else if is '\n' b || is '\r' b then newline
      else return ()
    | none => return ()
    if (← get) ≠ start then gapFrom n

/-- Blanks, comments and ends of lines. -/
def gap : Reader Unit := do gapFrom (← left)

end Reader

end Playground.Toml
