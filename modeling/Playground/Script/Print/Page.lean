import Playground.Script.Letter
import Playground.Script.Operator
import Playground.Script.Surrogate
import Playground.Script.Token
import Playground.Script.Tree

/-!
# The page a program is printed on

`Print` writes to a page that knows its last character, its indentation and the comments that
still wait for the code they lead.  `Printers` holds the printers of the constructs that nest;
each level of it prints one node deeper.
-/

namespace Playground.Script

/-- How a program is printed. -/
structure Style where
  /-- without blanks, comments and lines of its own -/
  compact : Bool := false
deriving DecidableEq, Inhabited

/-- The page so far. -/
structure Page where
  text : String := ""
  last : Char := '\n'
  indent : Nat := 0
  /-- the next indentation is a single blank -/
  indentAsBlank : Bool := false
  needsSemicolon : Bool := false
  /-- where the current statement starts -/
  statementStart : Option Nat := none
  /-- where the body of the current arrow function starts -/
  arrowStart : Option Nat := none
  /-- where the current default export starts -/
  exportStart : Option Nat := none
  /-- where the last numeral ended that a dot may not follow -/
  numeralEnd : Option Nat := none
  /-- where the last pattern literal ended -/
  patternEnd : Option Nat := none
  /-- the last operator sign, and where it ended -/
  lastSign : Option (String × Nat) := none
  /-- the comments that wait, by the start of the code they lead -/
  waiting : List (Nat × List Comment) := []
deriving Inhabited

/-- The printer's monad. -/
abbrev Print := ReaderT Style (StateM Page)

/-- What the surroundings of an expression forbid in it. -/
structure Room where
  /-- a call needs parentheses -/
  noCall : Bool := false
  /-- the operator `in` needs parentheses -/
  noIn : Bool := false
deriving DecidableEq, Inhabited

namespace Print

/-! ### Characters -/

/-- Writes a text. -/
def put (s : String) : Print Unit :=
  modify fun p =>
    if s.isEmpty then p
    else { p with text := p.text ++ s, last := s.back }

/-- Whether the page is to be compact. -/
def isCompact : Print Bool := return (← read).compact

/-- The bytes written so far. -/
def position : Print Nat := return (← get).text.utf8ByteSize

/-- Writes a blank unless the page is compact. -/
def blank : Print Unit := do if !(← isCompact) then put " "

/-- Ends the line unless the page is compact. -/
def newline : Print Unit := do if !(← isCompact) then put "\n"

/-- Indents the line. -/
def startLine : Print Unit := do
  if ← isCompact then return ()
  let p ← get
  if p.indentAsBlank then
    put " "
    modify ({ · with indentAsBlank := false })
  else put (String.ofList (List.replicate p.indent '\t'))

/-- Writes more deeply indented. -/
def indented (body : Print Unit) : Print Unit := do
  modify fun p => { p with indent := p.indent + 1 }
  body
  modify fun p => { p with indent := p.indent - 1 }

/-- Separates a word from a word before it. -/
def spaceBeforeWord : Print Unit := do
  let p ← get
  if p.text.isEmpty then return ()
  if isIdentPart p.last || p.patternEnd == some p.text.utf8ByteSize then put " "

/-- Writes a word. -/
def word (s : String) : Print Unit := do
  spaceBeforeWord
  put s

/-- Writes a word that stands in front of something else. -/
def leadingWord (s : String) : Print Unit := do
  word s
  blank

/-- Separates a sign from a sign it would run together with. -/
def spaceBeforeSign (sign : String) : Print Unit := do
  let p ← get
  match p.lastSign with
  | some (last, stop) =>
    if stop == p.text.utf8ByteSize then
      let clash :=
        (last == "+" && (sign == "+" || sign == "++")) ||
        (last == "-" && (sign == "-" || sign == "--")) ||
        (last == "--" && sign == ">")
      if clash then put " "
  | none => return ()

/-- Writes an operator sign. -/
def sign (s : String) : Print Unit := do
  spaceBeforeSign s
  put s
  modify fun p => { p with lastSign := some (s, p.text.utf8ByteSize) }

/-- Writes something, in parentheses if need be. -/
def wrapped (wrap : Bool) (body : Print Unit) : Print Unit := do
  if wrap then put "("
  body
  if wrap then put ")"

/-- Ends a statement. -/
def endStatement : Print Unit := do
  if ← isCompact then modify ({ · with needsSemicolon := true })
  else put ";\n"

/-- Writes the semicolon that a compact page held back. -/
def heldSemicolon : Print Unit := do
  if (← get).needsSemicolon then
    put ";"
    modify ({ · with needsSemicolon := false })

/-- Writes something for each item, with a separator in between. -/
def separated {α : Type} (separator : Print Unit) (item : α → Print Unit) : List α → Print Unit
  | [] => return ()
  | [x] => item x
  | x :: xs => do
    item x
    separator
    separated separator item xs

/-- Writes something for each item, with commas in between. -/
def commas {α : Type} (item : α → Print Unit) (xs : List α) : Print Unit :=
  separated (do put ","; blank) item xs

/-- Writes a body in braces; an empty one stays on its line. -/
def braces (isEmpty : Bool) (body : Print Unit) : Print Unit := do
  put "\x7b"
  if isEmpty then body
  else
    newline
    indented body
    startLine
  put "\x7d"

/-! ### Comments -/

/-- The lines of a text. -/
def linesOf (s : String) : List String :=
  ((((s.replace "\r\n" "\n").replace "\r" "\n").replace "\u2028" "\n").replace "\u2029"
    "\n").splitOn "\n"

/-- Writes the lines of a comment that spans lines, after the first. -/
def commentLines : List String → Print Unit
  | [] => return ()
  | l :: ls => do
    put "\n"
    startLine
    put l.trimAsciiStart.toString
    commentLines ls

/-- Writes a comment. -/
def comment (c : Comment) : Print Unit := do
  match linesOf c.text with
  | [] => return ()
  | l :: ls =>
    put l
    commentLines ls

/-- Writes comments that lead what follows, given the comment before them. -/
def leadingComments : Option Comment → List Comment → Print Unit
  | _, [] => return ()
  | previous, c :: cs => do
    match previous with
    | none =>
      if c.newlineBefore then
        let p ← get
        if p.text.isEmpty || p.last == '\t' then pure ()
        else if p.last == '\n' then startLine
        else
          put "\n"
          startLine
      else startLine
    | some before =>
      if !before.isBlock || before.newlineAfter then
        put "\n"
        startLine
      else if c.kind == .legal then put "\n"
      else put " "
    comment c
    if cs.isEmpty then
      if !c.isBlock || c.newlineAfter then put "\n"
      else modify ({ · with indentAsBlank := true })
    leadingComments (some c) cs

/-- Takes the comments that wait for the given place. -/
def takeComments (start : Nat) : Print (List Comment) := do
  let p ← get
  match p.waiting.lookup start with
  | some cs =>
    set { p with waiting := p.waiting.filter (·.1 != start) }
    return cs
  | none => return []

/-- Writes the comments that lead what starts at the given place. -/
def commentsAt (start : Nat) : Print Unit := do
  leadingComments none (← takeComments start)

/-- The comments that lead code, by the place they lead; marks of pure calls are left out. -/
def waitingComments (cs : List Comment) : List (Nat × List Comment) :=
  let leading := cs.filterMap fun c =>
    match c.leads with
    | some start => if c.kind == .pure then none else some (start, c)
    | none => none
  let starts := (leading.map (·.1)).eraseDups
  starts.map fun s => (s, (leading.filter (·.1 == s)).map (·.2))

end Print

/-- The printers of the constructs that nest. -/
structure Printers where
  /-- an expression among operators of the given strength -/
  expr : Strength → Room → Node → Print Unit
  /-- a statement on lines of its own -/
  stmt : Node → Print Unit
  /-- everything else: patterns, members, types, clauses -/
  part : Node → Print Unit

instance : Inhabited Printers :=
  ⟨fun _ _ _ => pure (), fun _ => pure (), fun _ => pure ()⟩

/-! ### Quoted text -/

/-- The characters a string value is written with between the given quotes. -/
def quotedBody (quote : Char) : List Char → String
  | [] => ""
  | c :: cs =>
    let here :=
      if c == quote then "\\" ++ c.toString
      else if c == '\\' then "\\\\"
      else if c == '\x00' then
        if (cs.head?.map Char.isDigit).getD false then "\\x00" else "\\0"
      else if c == '\x07' then "\\x07"
      else if c == '\x08' then "\\b"
      else if c == '\x0b' then "\\v"
      else if c == '\x0c' then "\\f"
      else if c == '\n' then (if quote == '\x60' then "\n" else "\\n")
      else if c == '\r' then "\\r"
      else if c == '\x1b' then "\\x1B"
      else if c == '\u2028' then "\\u2028"
      else if c == '\u2029' then "\\u2029"
      else if c == '\u00a0' then "\\xA0"
      else if c == '$' && quote == '\x60' && cs.head? == some '\x7b' then "\\$"
      else if c == '<' && ((String.ofList (cs.take 7)).toLower == "/script") then "<\\"
      else c.toString
    here ++ quotedBody quote cs

/-- The cost of writing a value between the given quotes, in escapes. -/
def quoteCost (quote : Char) : List Char → Nat
  | [] => 0
  | c :: cs =>
    let here : Nat :=
      if c == quote then 1
      else if c == '\n' then (if quote == '\x60' then 0 else 1)
      else if c == '$' && quote == '\x60' && cs.head? == some '\x7b' then 1
      else 0
    here + quoteCost quote cs

/-- The quotes that need the fewest escapes; among equals the backtick comes first, where it is
allowed, and then the double quotes. -/
def bestQuote (allowBacktick : Bool) (value : String) : Char :=
  let cs := value.toList
  let double := quoteCost '\x22' cs
  let single := quoteCost '\x27' cs
  let back := quoteCost '\x60' cs
  let (best, cost) := if single < double then ('\x27', single) else ('\x22', double)
  if allowBacktick && back ≤ cost then '\x60' else best

/-- A value that shows halves of pairs by their digits, with each half as an escape. -/
def escapeHalves : List Char → List Char
  | '\uFFFD' :: 'f' :: 'f' :: 'f' :: 'd' :: cs => '\uFFFD' :: escapeHalves cs
  | '\uFFFD' :: cs => '\\' :: 'u' :: escapeHalves cs
  | c :: cs => c :: escapeHalves cs
  | [] => []

/-- A value between the given quotes. -/
def quoted (quote : Char) (value : String) : String :=
  quote.toString ++ quotedBody quote value.toList ++ quote.toString

/-- A string literal: as it was written, in double quotes if it can be, or else its value. -/
def Print.stringLiteral (allowBacktick : Bool) (value : String) (raw : Option String) :
    Print Unit := do
  if ← isCompact then
    let text := quoted (bestQuote allowBacktick value) value
    let halves := (raw.map fun r => hasLoneSurrogate r.toList).getD false
    put (if halves then String.ofList (escapeHalves text.toList) else text)
  else
    match raw with
    | some raw =>
      let body := ((raw.drop 1).dropEnd 1).toString
      if body.contains '\x22' then put raw
      else put ("\x22" ++ body ++ "\x22")
    | none => put (quoted '\x22' value)

end Playground.Script
