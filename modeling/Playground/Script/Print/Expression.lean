import Playground.Script.Numeral
import Playground.Script.Print.Page

/-!
# Printing expressions

Every expression is printed among operators of a known strength and gets parentheses where it
binds more weakly.
-/

namespace Playground.Script.Print

variable (g : Printers)

/-! ### Literals -/

/-- A number. -/
def number (strength : Strength) (x : Float) : Print Unit := do
  let positive (y : Float) : Print Unit := do
    let text := compactNumber y
    put text
    if !takesDot text then modify fun p => { p with numeralEnd := some p.text.utf8ByteSize }
  if x.isNaN then word "NaN"
  else if x.isInf then
    let compact ← isCompact
    wrapped ((compact && strength.atLeast .multiply) || (x < 0 && strength.atLeast .unary)) do
      if x < 0 then sign "-" else spaceBeforeWord
      put (if compact then "1/0" else "Infinity")
  else if x < 0 || (x == 0 && x.toBits != 0) then
    if strength.atLeast .unary then
      put "(-"
      positive x.abs
      put ")"
    else
      spaceBeforeSign "-"
      put "-"
      positive x.abs
  else
    spaceBeforeWord
    positive x

/-- A truth value. -/
def boolean (strength : Strength) (b : Bool) : Print Unit := do
  if ← isCompact then
    wrapped (strength.atLeast .unary) (sign (if b then "!0" else "!1"))
  else word (if b then "true" else "false")

/-- A pattern literal; it keeps its distance from a slash. -/
def pattern (body flags : String) : Print Unit := do
  let p ← get
  if !p.text.isEmpty && p.last == '/' then put " "
  put ("/" ++ body ++ "/" ++ flags)
  modify fun p => { p with patternEnd := some p.text.utf8ByteSize }

/-- The stretches of a template with the holes between them. -/
def templateBody : List Quasi → List Node → Print Unit
  | [], _ => return ()
  | [q], _ => put q.raw
  | q :: qs, x :: xs => do
    put q.raw
    put "$\x7b"
    g.expr .lowest {} x
    put "\x7d"
    templateBody qs xs
  | q :: qs, [] => do
    put q.raw
    templateBody qs []

/-- A template. -/
def template (quasis : List Quasi) (values : List Node) : Print Unit := do
  put "\x60"
  templateBody g quasis values
  put "\x60"

/-! ### Lists -/

/-- Items between brackets; more than `limit` of them stand on lines of their own. -/
def bracketed (opening closing : String) (limit : Nat) (padded : Bool) (item : Node → Print Unit)
    (items : List Node) : Print Unit := do
  put opening
  if items.length > limit then
    let body : Print Unit := do
      newline
      separated (do put ","; newline) (fun x => do startLine; item x) items
      newline
    indented body
    startLine
  else if !items.isEmpty then
    if padded then blank
    commas item items
    if padded then blank
  put closing

/-- Whether an element is left out. -/
def isHole (n : Node) : Bool := match n.shape with | .hole => true | _ => false

/-- An element of an array. -/
def element (n : Node) : Print Unit := do
  match n.shape with
  | .hole => return ()
  | _ => g.expr .comma {} n

/-- The elements of an array; a hole at the end needs a comma of its own. -/
def array (elements : List Node) : Print Unit := do
  let holeAtEnd := (elements.getLast?.map isHole).getD false
  put "["
  let closing : Print Unit := do if holeAtEnd then put ","
  if elements.length > 2 then
    let body : Print Unit := do
      newline
      separated (do put ","; newline) (fun x => do startLine; element g x) elements
      closing
      newline
    indented body
    startLine
  else
    commas (element g) elements
    closing
  put "]"

/-- The arguments of a call. -/
def arguments (args : List Node) : Print Unit := do
  put "("
  commas (g.expr .comma {}) args
  put ")"

/-! ### Properties -/

/-- A node without the parentheses around it. -/
def unwrapped (n : Node) : Node :=
  match n.shape with
  | .paren inner => inner
  | _ => n

/-- Whether a property of an object can be written by the name of its value alone. -/
def isShorthand (key value : Node) : Bool :=
  match key.shape, (unwrapped value).shape with
  | .propertyName a, .reference b => a == b && a != "__proto__"
  | _, _ => false

/-- The name of a property. -/
def key (computed : Bool) (n : Node) : Print Unit := do
  let negative : Bool := match n.shape with
    | .numberLit x _ => x < 0 || x.isInf
    | _ => false
  if computed || negative then
    put "["
    g.expr .comma {} n
    put "]"
  else
    match n.shape with
    | .propertyName name => word name
    | _ => g.part n

/-- Parameters, return type and body of a function. -/
def signature (f : Function Node) : Print Unit := do
  f.typeParams.forM g.part
  put "("
  match f.thisParam, f.params.shape with
  | some p, .params items =>
    g.part p
    if !items.isEmpty then
      put ","
      blank
  | _, _ => pure ()
  g.part f.params
  put ")"
  match f.returnType with
  | some t =>
    put ":"
    blank
    g.part t
  | none => pure ()
  match f.body with
  | some b =>
    blank
    g.part b
  | none => put ";"

/-- The words in front of the name of a method. -/
def methodWords (kind : MethodKind) (f : Function Node) : Print Unit := do
  match kind with
  | .getter => leadingWord "get"
  | .setter => leadingWord "set"
  | _ => pure ()
  if f.isAsync then leadingWord "async"
  if f.isGenerator then put "*"

/-- A property of an object. -/
def property (kind : MethodKind) (isMethod computed : Bool) (k value : Node) : Print Unit := do
  match kind, isMethod, value.shape with
  | .method, false, _ =>
    if isShorthand k value && !computed then g.expr .comma {} value
    else
      key g computed k
      put ":"
      blank
      g.expr .comma {} value
  | _, _, .function f =>
    methodWords kind f
    key g computed k
    signature g f
  | _, _, _ => g.expr .comma {} value

/-- An object. -/
def object (properties : List Node) : Print Unit := do
  let here ← position
  let p ← get
  wrapped (p.statementStart == some here || p.arrowStart == some here)
    (bracketed "\x7b" "\x7d" 1 true g.part properties)

/-! ### Functions and classes -/

/-- A function. -/
def function (f : Function Node) : Print Unit := do
  let here ← position
  let p ← get
  let atStart := p.statementStart == some here || p.exportStart == some here
  wrapped (f.role == .expression && (atStart || f.wrapped)) do
    if f.declared then word "declare "
    if f.isAsync then word "async "
    word "function"
    if f.isGenerator then
      put "*"
      blank
    match f.name with
    | some n =>
      spaceBeforeWord
      g.part n
    | none => pure ()
    signature g f

/-- Whether an arrow function's only parameter is a plain name. -/
def hasPlainParam (f : Arrow Node) : Bool :=
  match f.typeParams, f.returnType, f.params.shape with
  | none, none, .params [p] =>
    match p.shape with
    | .param ⟨[], _, target, none, none⟩ =>
      match target.shape with
      | .binding _ => true
      | _ => false
    | _ => false
  | _, _, _ => false

/-- An arrow function. -/
def arrow (strength : Strength) (room : Room) (f : Arrow Node) : Print Unit := do
  wrapped (strength.atLeast .assign || f.wrapped) do
    if f.isAsync then
      word "async"
      blank
    f.typeParams.forM g.part
    let bare := (← isCompact) && hasPlainParam f
    if bare && f.isAsync then spaceBeforeWord
    wrapped (!bare) (g.part f.params)
    match f.returnType with
    | some t =>
      put ":"
      blank
      g.part t
    | none => pure ()
    blank
    put "=>"
    blank
    match f.concise, f.body.shape with
    | true, .functionBody _ [s] =>
      match s.shape with
      | .exprStmt x =>
        modify fun p => { p with arrowStart := some p.text.utf8ByteSize }
        g.expr .comma { noIn := room.noIn } x
      | _ => g.part f.body
    | _, _ => g.part f.body

/-- The decorators in front of a declaration, each with a blank behind it. -/
def decorators (ds : List Node) : Print Unit :=
  ds.forM fun d => do
    g.part d
    put " "

/-- The members of a class. -/
def classBody (members : List Node) : Print Unit := do
  braces members.isEmpty do
    members.forM fun m => do
      heldSemicolon
      commentsAt m.span.start
      startLine
      g.part m
  modify ({ · with needsSemicolon := false })

/-- A class. -/
def classDefinition (c : Class Node) : Print Unit := do
  let here ← position
  let p ← get
  let atStart := p.statementStart == some here || p.exportStart == some here
  wrapped (c.isExpression && atStart) do
    decorators g c.decorators
    if c.declared then word "declare "
    if c.isAbstract then word "abstract "
    word "class"
    match c.name with
    | some n =>
      put " "
      g.part n
    | none => pure ()
    c.typeParams.forM g.part
    match c.heritage with
    | some h =>
      put " extends "
      g.expr .update {} h
      c.heritageArgs.forM g.part
    | none => pure ()
    if !c.implemented.isEmpty then
      put " implements "
      commas g.part c.implemented
    blank
    classBody g c.members

/-! ### Operators -/

/-- The strengths the operands of a binary operator are printed among. -/
def operandStrengths (op : BinaryOp) (left : Node) : Strength × Strength :=
  let s := op.strength
  if op == .exp then
    let leftStrength : Strength :=
      match (unwrapped left).shape with
      | .unary .. | .await _ => .call
      | .numberLit x _ => if x < 0 then .call else s
      | _ => s
    (leftStrength, .multiply)
  else (weaker s, s)
where
  /-- The next weaker strength. -/
  weaker : Strength → Strength
    | .multiply => .add | .add => .shift | .shift => .compare | .compare => .equals
    | .equals => .bitAnd | .bitAnd => .bitXor | .bitXor => .bitOr | .bitOr => .logicalAnd
    | .logicalAnd => .logicalOr | .logicalOr => .nullish | .nullish => .conditional
    | s => s

/-- Whether an operand is a logical expression of the kind that may not stand bare beside the
other kind. -/
def isMixed (op : LogicalOp) (n : Node) : Bool :=
  match (unwrapped n).shape with
  | .logical other .. => op == .coalesce && other != .coalesce
  | _ => false

/-- The strengths the operands of a logical operator are printed among. -/
def logicalStrengths (op : LogicalOp) (left right : Node) : Strength × Strength :=
  let s := op.strength
  let leftStrength := if isMixed op left then .unary else operandStrengths.weaker s
  let rightStrength := if isMixed op right then .unary else s
  (leftStrength, rightStrength)

/-- An operator between its operands. -/
def infixSign (text : String) (isWord : Bool) : Print Unit := do
  blank
  if isWord then word text else sign text
  blank

/-- A binary expression. -/
def binary (strength : Strength) (room : Room) (op : BinaryOp) (left right : Node) :
    Print Unit := do
  let wrap := strength.atLeast op.strength || (op == .isIn && room.noIn)
  let room : Room := if wrap then {} else { noIn := room.noIn }
  let (l, r) := operandStrengths op left
  wrapped wrap do
    g.expr l room left
    infixSign op.text op.isWord
    g.expr r room right

/-- A logical expression. -/
def logical (strength : Strength) (room : Room) (op : LogicalOp) (left right : Node) :
    Print Unit := do
  let wrap := strength.atLeast op.strength
  let room : Room := if wrap then {} else { noIn := room.noIn }
  let (l, r) := logicalStrengths op left right
  wrapped wrap do
    g.expr l room left
    infixSign op.text false
    g.expr r room right

/-- An expression with an operator in front. -/
def unary (strength : Strength) (room : Room) (op : UnaryOp) (x : Node) : Print Unit := do
  wrapped (strength.atLeast .unary) do
    if op.isWord then
      word op.text
      blank
    else sign op.text
    g.expr .exponent { noIn := room.noIn } x

/-- A step of a variable. -/
def update (strength : Strength) (room : Room) (op : UpdateOp) (leading : Bool) (x : Node) :
    Print Unit := do
  if leading then
    wrapped (strength.atLeast .unary) do
      sign op.text
      g.expr .unary room x
  else
    wrapped (strength.atLeast .update) do
      g.expr .update room x
      put op.text
      modify fun p => { p with lastSign := some (op.text, p.text.utf8ByteSize) }

/-- A choice between two expressions. -/
def conditional (strength : Strength) (room : Room) (test yes no : Node) : Print Unit := do
  let wrap := strength.atLeast .conditional
  let noIn := room.noIn && !wrap
  wrapped wrap do
    g.expr .conditional { noIn } test
    blank
    put "?"
    blank
    g.expr .yield {} yes
    blank
    put ":"
    blank
    g.expr .yield { noIn } no

/-- An assignment. -/
def assign (strength : Strength) (room : Room) (op : AssignOp) (target value : Node) :
    Print Unit := do
  let here ← position
  let p ← get
  let isObject := match target.shape with | .objectPattern _ => true | _ => false
  let atStart := p.statementStart == some here || p.arrowStart == some here
  let wrap := (isObject && atStart) || strength.atLeast .assign
  let room : Room := if wrap then {} else { noIn := room.noIn }
  wrapped wrap do
    match target.shape with
    | .objectPattern _ | .arrayPattern _ => g.part target
    | _ => g.expr .update room target
    blank
    put op.text
    blank
    g.expr .comma room value

/-! ### Calls and members -/

/-- The mark of a call that is free of effects. -/
def pureMark : String := "/* @__PURE__ */ "

/-- A call. -/
def call (strength : Strength) (room : Room) (callee : Node) (typeArgs : Option Node)
    (args : List Node) (optional isPure : Bool) : Print Unit := do
  let here ← position
  let p ← get
  let isStatement := p.statementStart == some here
  let isExport := p.exportStart == some here
  let isPure := isPure && !(← isCompact)
  let wrap := strength.atLeast .call || room.noCall || (strength.atLeast .update && isPure)
  wrapped wrap do
    if isPure then put pureMark
    if isExport then modify fun p => { p with exportStart := some p.text.utf8ByteSize }
    else if isStatement then modify fun p => { p with statementStart := some p.text.utf8ByteSize }
    g.expr .update {} callee
    if optional then put "?."
    typeArgs.forM g.part
    arguments g args

/-- A construction. -/
def construct (strength : Strength) (callee : Node) (typeArgs : Option Node) (args : List Node)
    (isPure : Bool) : Print Unit := do
  let isPure := isPure && !(← isCompact)
  wrapped (strength.atLeast .new || (strength.atLeast .update && isPure)) do
    if isPure then put pureMark
    word "new"
    blank
    g.expr .new { noCall := true } callee
    typeArgs.forM g.part
    if !(← isCompact) || !args.isEmpty || strength.atLeast .update then arguments g args

/-- A property by its name; a numeral keeps its distance from the dot. -/
def member (room : Room) (x : Node) (name : String) (optional : Bool) : Print Unit := do
  g.expr .update { noCall := room.noCall } x
  if optional then put "?"
  else
    let p ← get
    if p.numeralEnd == some p.text.utf8ByteSize then put " "
  put "."
  put name

/-- A property by an expression in brackets. -/
def index (room : Room) (x k : Node) (optional : Bool) : Print Unit := do
  let isLet := match x.shape with | .reference name => name == "let" | _ => false
  let isLet := isLet || (match (unwrapped x).shape with | .reference n => n == "let" | _ => false)
  wrapped isLet (g.expr .update { noCall := room.noCall } x)
  if optional then put "?."
  put "["
  g.expr .lowest {} k
  put "]"

/-- A module that is loaded when the expression is evaluated. -/
def importCall (strength : Strength) (room : Room) (phase : Option String) (source : Node)
    (options : Option Node) : Print Unit := do
  wrapped (strength.atLeast .call || room.noCall) do
    word "import"
    phase.forM fun p => put ("." ++ p)
    put "("
    g.expr .comma {} source
    match options with
    | some o =>
      put ","
      blank
      g.expr .comma {} o
    | none => pure ()
    put ")"

/-! ### All expressions -/

/-- An expression. -/
def expression (strength : Strength) (room : Room) (n : Node) : Print Unit := do
  match n.shape with
  | .reference name | .binding name | .propertyName name => word name
  | .privateName name =>
    put "#"
    put name
  | .nullLit => word "null"
  | .boolLit b => boolean strength b
  | .numberLit x _ => number strength x
  | .bigIntLit digits =>
    word digits
    put "n"
  | .stringLit value raw => stringLiteral true value raw
  | .regexLit body flags => pattern body flags
  | .template quasis values => template g quasis values
  | .taggedTemplate tag typeArgs quasi =>
    g.expr .update {} tag
    typeArgs.forM g.part
    g.expr .lowest {} quasi
  | .thisExpr => word "this"
  | .superExpr => word "super"
  | .metaProperty owner name =>
    word owner
    put ("." ++ name)
  | .arrayLit elements => array g elements
  | .objectLit properties => object g properties
  | .spread x =>
    put "..."
    g.expr .comma {} x
  | .function f => function g f
  | .arrow f => arrow g strength room f
  | .classDef c => classDefinition g c
  | .unary op x => unary g strength room op x
  | .update op leading x => update g strength room op leading x
  | .binary op l r => binary g strength room op l r
  | .logical op l r => logical g strength room op l r
  | .conditional test yes no => conditional g strength room test yes no
  | .assign op target value => assign g strength room op target value
  | .sequence parts =>
    let wrap := strength.atLeast .comma
    wrapped wrap (commas (g.expr .lowest { noIn := room.noIn && !wrap }) parts)
  | .call callee typeArgs args optional isPure =>
    call g strength room callee typeArgs args optional isPure
  | .newExpr callee typeArgs args isPure => construct g strength callee typeArgs args isPure
  | .member x name optional => member g room x name optional
  | .index x k optional => index g room x k optional
  | .privateMember x name optional =>
    g.expr .update { noCall := room.noCall } x
    if optional then put "?"
    put (".#" ++ name)
  | .chain inner => wrapped (strength.atLeast .update) (g.expr .lowest {} inner)
  | .privateIn name right =>
    wrapped (strength.atLeast .compare || room.noIn) do
      put ("#" ++ name)
      put " in "
      g.expr .equals { noIn := false } right
  | .importCall phase source options => importCall g strength room phase source options
  | .await x =>
    wrapped (strength.atLeast .unary) do
      word "await"
      blank
      g.expr .exponent { noIn := room.noIn } x
  | .yieldExpr delegate x =>
    wrapped (strength.atLeast .assign) do
      word "yield"
      if delegate then put "*"
      match x with
      | some y =>
        blank
        g.expr .yield {} y
      | none => pure ()
  | .paren inner => g.expr strength room inner
  | .asType x t =>
    wrapped (strength.atLeast .shift) do
      g.expr .exponent { noIn := room.noIn } x
      put " as "
      g.part t
  | .satisfiesType x t =>
    put "("
    g.expr strength {} x
    put " satisfies "
    g.part t
    put ")"
  | .angleCast t x =>
    wrapped (strength.atLeast .compare) do
      put "<"
      g.part t
      put ">"
      g.expr .member {} x
  | .nonNull x =>
    g.expr strength room x
    put "!"
  | .instantiate x args =>
    g.expr strength room x
    g.part args
  | _ => g.part n

end Playground.Script.Print
