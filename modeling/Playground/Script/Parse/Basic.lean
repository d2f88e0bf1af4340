import Playground.Script.Parse.Scan

/-!
# The grammar's vocabulary

Expecting and taking tokens, ends of statements, lists, and `Grammar`: the constructs that nest.
Every nested construct is read by the grammar one level down, and `Grammar.level` builds as many
levels as the source has room for, so reading always ends.
-/

namespace Playground.Script.Parse

/-! ### Asking and taking -/

/-- Whether the current token is the given word or punctuation. -/
def isAt (s : String) : Parse Bool := return (← token).isText s

/-- Whether the current token is one of the given words or punctuation. -/
def isAtAny (ss : List String) : Parse Bool := return (← token).isAny ss

/-- The marks that are left behind when texts are merged. -/
def mergeMarks : List String := ["<<<<<<<", "=======", ">>>>>>>", "|||||||"]

/-- Whether a line starts here with a mark that was left behind when texts were merged. -/
def atMergeMarker (start : Nat) : Parse Bool := do
  let before ← slice (start - 1) start
  if start != 0 && before != "\n" && before != "\r" then return false
  let mark ← slice start (start + 7)
  if !mergeMarks.contains mark then return false
  let after ← slice (start + 7) (start + 8)
  return mark == "=======" || after == " "

/-- Stops at the current token.  If it could not be scanned, or the source ended, the scanner's
own complaint says more. -/
def unexpected {α : Type} : Parse α := do
  let s ← get
  let t := s.token
  if t.kind == .eof || t.kind == .unknown then
    match s.scanFaults.back? with
    | some fault =>
      modify fun s => { s with scanFaults := s.scanFaults.pop }
      stop fault
    | none => pure ()
  if ← atMergeMarker t.start then fail .mergeMarker t.start
  fail .unexpectedToken t.start

/-- Takes a word; it may not be written with escapes. -/
def bumpWord : Parse Unit := do
  let t ← token
  if t.escaped && t.kind == .word then note .escapedKeyword t.start
  bump

/-- Takes the given word or punctuation if it comes next. -/
def eat (s : String) : Parse Bool := do
  if ← isAt s then
    bumpWord
    return true
  else return false

/-- Takes the given word or punctuation, which must come next. -/
def expect (s : String) : Parse Unit := do
  if !(← isAt s) then
    let t ← token
    fail (.expected s t.text) t.start
  bumpWord

/-- Takes the given word or punctuation if it comes next and the dialect is typed. -/
def eatTyped (s : String) : Parse Bool := do
  if (← dialect).typed then eat s else return false

/-- A node from the given start to the end of the last token taken. -/
def node (start : Nat) (shape : Shape Node) : Parse Node := do
  return .mk ⟨start, (← get).lastStop⟩ shape

/-- Whether a statement may end here without a semicolon. -/
def canEndStatement : Parse Bool := do
  let t ← token
  return t.onNewLine || t.kind == .eof || t.isAny [";", "\x7d"]

/-- Takes the semicolon that ends a statement, or finds that none is needed. -/
def endStatement : Parse Unit := do
  if ← eat ";" then return ()
  if ← canEndStatement then return ()
  fail .missingSemicolon (← get).lastStop

/-- Whether the token after the current one satisfies a test. -/
def nextIs (test : Token → Bool) : Parse Bool :=
  ahead do
    bump
    return test (← token)

/-- The next tokens, the current one included, as a question asked of the second. -/
def nextOnSameLine (test : Token → Bool) : Parse Bool :=
  nextIs fun t => !t.onNewLine && test t

/-! ### Lists -/

/-- The items of a list up to, but without, its closing mark; each is followed by the separator
or the mark.  Answers also where a separator in front of the mark stands. -/
def itemsUntil (closing separator : String) (item : Parse Node) :
    Nat → List Node → Parse (List Node × Option Nat)
  | 0, acc => return (acc.reverse, none)
  | n + 1, acc => do
    let x ← item
    let acc := x :: acc
    let t ← token
    if t.isText closing || t.kind == .eof then return (acc.reverse, none)
    if !t.isText separator then
      fail (.expectedSeparator separator closing t.text) t.start
    bump
    if ← isAt closing then return (acc.reverse, some t.start)
    itemsUntil closing separator item n acc

/-- A list with a closing mark, which stays. -/
def listUntil (closing separator : String) (item : Parse Node) :
    Parse (List Node × Option Nat) := do
  let t ← token
  if t.isText closing || t.kind == .eof then return ([], none)
  itemsUntil closing separator item (← left) []

/-- Items one after another until the closing mark or the end of the source. -/
def repeatUntil (closing : String) (item : Parse (Option Node)) :
    Nat → List Node → Parse (List Node)
  | 0, acc => return acc.reverse
  | n + 1, acc => do
    let t ← token
    if t.isText closing || t.kind == .eof then return acc.reverse
    match ← item with
    | some x => repeatUntil closing item n (x :: acc)
    | none => return acc.reverse

/-- Items between two marks, without separators. -/
def between (opening closing : String) (item : Parse (Option Node)) : Parse (List Node) := do
  expect opening
  let items ← repeatUntil closing item (← left) []
  expect closing
  return items

/-! ### The constructs that nest -/

/-- Where a statement stands. -/
inductive Place where
  /-- in a list of statements -/
  | list
  /-- the body of a conditional -/
  | conditional
  /-- the body of another statement -/
  | body
  /-- after a label -/
  | label
deriving DecidableEq, Inhabited

/-- The constructs in which constructs nest. -/
structure Grammar where
  /-- an expression that may be a sequence -/
  expression : Parse Node
  /-- an expression without a comma on top -/
  assignment : Parse Node
  /-- an operand with its unary operators -/
  unary : Parse Node
  /-- a callee with its property accesses and calls -/
  leftHand : Parse Node
  statement : Place → Parse Node
  type : Parse Node
  /-- a pattern or a name that is bound -/
  target : Parse Node
  /-- a class, after its decorators, as a declaration or as an expression -/
  classAfter : Nat → List Node → Bool → Parse Node
  /-- an element of markup; `inChild` if it stands among the children of another -/
  markup : Bool → Parse Node

instance : Inhabited Grammar :=
  ⟨default, default, default, default, fun _ => default, default, default,
    fun _ _ _ => default, fun _ => default⟩

/-! ### Names -/

/-- A name that is bound. -/
def bindingName : Parse Node := do
  let t ← token
  if t.isReserved then fail (.reservedWord t.text) t.start
  if !t.isBindable then unexpected
  let c ← context
  if c.inAsync && t.isText "await" then note (.wordInAsync "await") t.start
  if c.inGenerator && t.isText "yield" then note (.wordInGenerator "yield") t.start
  bump
  node t.start (.binding t.value)

/-- A name that is used. -/
def referenceName : Parse Node := do
  let t ← token
  if !t.isBindable then unexpected
  let c ← context
  if c.inAsync && t.isText "await" then note (.wordInAsync "await") t.start
  if c.inGenerator && t.isText "yield" then note (.wordInGenerator "yield") t.start
  bump
  node t.start (.reference t.value)

/-- A name of a property or of a label; any word will do. -/
def anyName : Parse (String × Span) := do
  let t ← token
  if !t.isName then unexpected
  bump
  return (t.value, t.span)

/-- A string literal. -/
def stringLiteral : Parse Node := do
  let t ← token
  if t.kind != .string then unexpected
  let raw ← slice t.start t.stop
  bump
  node t.start (.stringLit t.value (some raw))

end Playground.Script.Parse
