import Playground.Script.Parse.Class
import Playground.Script.Parse.Markup

/-!
# Expressions

Reads expressions from sequences and assignments down to names and literals.  Binary operators
are read by climbing: `binary` reads an operand and every operator that binds more strongly than
the one before.
-/

namespace Playground.Script.Parse

variable (g : Grammar)

/-! ### Literals -/

/-- A pattern literal; the current token is its `/`. -/
def patternLiteral : Parse Node := do
  let start := (← token).start
  let (pattern, flags) ← scanPattern
  if !(← get).scanFaults.isEmpty then unexpected' start
  bump
  node start (.regexLit pattern flags)
where
  /-- Stops at the literal; the scanner's complaints stand by themselves. -/
  unexpected' (start : Nat) : Parse Unit := fail .unexpectedToken start

/-- A template. -/
def templateLiteral (tagged : Bool) : Parse Node := do
  let start := (← token).start
  let (quasis, values) ←
    templateParts (within ({ · with allowIn := true }) g.expression) tagged
  node start (.template quasis values)

/-! ### Arrays and objects -/

/-- An element that takes all items of a value. -/
def spreadItem : Parse Node := do
  let start := (← token).start
  bump
  let argument ← within ({ · with allowIn := true }) g.assignment
  node start (.spread argument)

/-- An element of an array. -/
def arrayElement : Parse Node := do
  let t ← token
  if t.isText "," then return .mk ⟨t.start, t.start⟩ .hole
  if t.isText "..." then spreadItem g
  else within ({ · with allowIn := true }) g.assignment

/-- The elements of an array, up to its closing bracket. -/
def arrayElements (start : Nat) : Nat → List Node → Parse (List Node)
  | 0, acc => return acc.reverse
  | n + 1, acc => do
    let t ← token
    if t.isText "]" || t.kind == .eof then return acc.reverse
    let x ← arrayElement g
    let u ← token
    if u.isText "]" || u.kind == .eof then return (x :: acc).reverse
    if !u.isText "," then fail (.expectedSeparator "," "]" u.text) u.start
    bump
    if ← isAt "]" then
      modify fun s => { s with lastCommas := (start, u.start) :: s.lastCommas }
      return (x :: acc).reverse
    arrayElements start n (x :: acc)

/-- An array. -/
def arrayLiteral : Parse Node := do
  let start := (← token).start
  bump
  let elements ← within ({ · with inDecorator := false }) (arrayElements g start (← left) [])
  expect "]"
  node start (.arrayLit elements)

/-- Whether the word modifies the name of a property behind it. -/
def atPropertyWord (word : String) : Parse Bool := do
  if !(← isAt word) then return false
  nextIs fun t =>
    t.isName || t.kind == .string || t.kind == .number || t.kind == .bigInt ||
      t.isText "[" || (t.kind == .privateIdent) || (word == "async" && t.isText "*")

/-- A property of an object. -/
def objectProperty : Parse Node := do
  let t ← token
  if t.isText "..." then return ← spreadItem g
  if ← atAccessorWord "get" then
    bump
    let (key, computed) ← propertyKey g
    let value ← methodFunction g .ordinary false false
    checkAccessor .getter value
    return ← node t.start (.property .getter false computed false key value)
  if ← atAccessorWord "set" then
    bump
    let (key, computed) ← propertyKey g
    let value ← methodFunction g .ordinary false false
    checkAccessor .setter value
    return ← node t.start (.property .setter false computed false key value)
  -- in front of a line end the word is the name of the property
  let isAsync ← do
    if ← atPropertyWord "async" then
      let sameLine ← nextOnSameLine fun _ => true
      if sameLine then
        bump
        pure true
      else pure false
    else pure false
  let isGenerator ← eat "*"
  let word ← token
  let (key, computed) ← propertyKey g
  splitLeftAngle
  if isAsync || isGenerator || (← isAtAny ["(", "<"]) then
    let value ← methodFunction g .ordinary isAsync isGenerator
    return ← node t.start (.property .method true computed false key value)
  if word.isBindable && !(← isAt ":") then
    let c ← context
    if c.inAsync && word.isText "await" then note (.wordInAsync "await") word.start
    if c.inGenerator && word.isText "yield" then note (.wordInGenerator "yield") word.start
    let name : Node := .mk word.span (.reference word.value)
    if ← isAt "=" then
      bump
      let value ← within ({ · with allowIn := true }) g.assignment
      let initial ← node t.start (.withDefault name value)
      -- right only if the object turns out to be a pattern
      modify fun s => { s with coverInits := t.start :: s.coverInits }
      return ← node t.start (.property .method false false true key initial)
    return ← node t.start (.property .method false false true key name)
  expect ":"
  let value ← within ({ · with allowIn := true }) g.assignment
  node t.start (.property .method false computed false key value)

/-- An object. -/
def objectLiteral : Parse Node := do
  let start := (← token).start
  bump
  let (properties, comma) ←
    within ({ · with inDecorator := false }) (listUntil "\x7d" "," (objectProperty g))
  match comma with
  | some c => modify fun s => { s with lastCommas := (start, c) :: s.lastCommas }
  | none => pure ()
  expect "\x7d"
  node start (.objectLit properties)

/-! ### Calls and members -/

/-- An argument of a call. -/
def argument : Parse Node := do
  if ← isAt "..." then spreadItem g
  else within ({ · with allowIn := true, inDecorator := false }) g.assignment

/-- The arguments of a call. -/
def arguments : Parse (List Node) := do
  expect "("
  let (args, _) ← listUntil ")" "," (argument g)
  expect ")"
  return args

/-- What `import` means as an expression: a call or `import.meta`. -/
def importExpression : Parse Node := do
  let t ← token
  bump
  let phase ←
    if ← eat "." then
      let u ← token
      if u.isText "meta" then
        bump
        modify fun s => { s with sawModule := true }
        return ← node t.start (.metaProperty "import" "meta")
      else if u.isAny ["source", "defer"] then
        bump
        pure (some u.text)
      else fail .importMeta t.start
    else pure none
  expect "("
  if ← eat ")" then fail .importEmpty t.start
  let source ← within ({ · with allowIn := true }) g.assignment
  let options ← do
    if ← eat "," then
      if ← isAt ")" then pure none
      else some <$> within ({ · with allowIn := true }) g.assignment
    else pure none
  let _ ← eat ","
  if !(← eat ")") then fail .importArguments t.start
  node t.start (.importCall phase source options)

/-- Notes an expression with type arguments that a property is taken of. -/
def checkInstantiated (n : Node) : Parse Unit :=
  match n.shape with
  | .instantiate .. => note .instantiationAccess n.span.start
  | _ => return ()

/-- The operations behind a primary expression that bind as strongly as a member access; the
flag tells whether an optional access was among them. -/
def memberRest (start : Nat) : Nat → Node → Bool → Parse (Node × Bool)
  | 0, n, chained => return (n, chained)
  | k + 1, n, chained => do
    let t ← token
    if t.isText "." then
      bump
      checkInstantiated n
      memberRest start k (← dotted start n false) chained
    else if t.isText "?." then
      -- a call behind the mark is left to `callRest`
      let u ← preview (bump *> token) default
      if u.isText "[" && !(← context).inDecorator then
        bump
        memberRest start k (← indexed start n true) true
      else if u.isName || u.kind == .privateIdent then
        bump
        checkInstantiated n
        memberRest start k (← dotted start n true) true
      else return (n, chained)
    else if t.isText "[" && !(← context).inDecorator then
      memberRest start k (← indexed start n false) chained
    else if t.isText "!" && !t.onNewLine && (← dialect).typed then
      bump
      memberRest start k (← node start (.nonNull n)) chained
    else if t.isTemplateStart then
      if chained then note .optionalTemplate t.start
      let (tag, typeArgs) :=
        match n.shape with
        | .instantiate inner args => (inner, some args)
        | _ => (n, none)
      let quasi ← templateLiteral g true
      memberRest start k (← node start (.taggedTemplate tag typeArgs quasi)) chained
    else if t.isAny ["<", "<<"] then
      match ← expressionTypeArguments g with
      | some args => memberRest start k (← node start (.instantiate n args)) chained
      | none => return (n, chained)
    else return (n, chained)
where
  /-- A property by its name, behind the dot. -/
  dotted (start : Nat) (object : Node) (optional : Bool) : Parse Node := do
    let t ← token
    if t.kind == .privateIdent then
      bump
      node start (.privateMember object t.value optional)
    else
      let (name, _) ← anyName
      node start (.member object name optional)
  /-- A property by an expression in brackets. -/
  indexed (start : Nat) (object : Node) (optional : Bool) : Parse Node := do
    expect "["
    let key ← within ({ · with allowIn := true }) g.expression
    expect "]"
    node start (.index object key optional)

/-- Calls and accesses behind an expression. -/
def callRest (start : Nat) : Nat → Node → Bool → Parse (Node × Bool)
  | 0, n, chained => return (n, chained)
  | k + 1, n, chained => do
    let (n, chained) ← memberRest g start (← left) n chained
    let optional ← eat "?."
    let chained := chained || optional
    let typeArgs ← if optional then expressionTypeArguments g else pure none
    if optional && (← token).isTemplateStart then
      note .optionalTemplate (← token).start
      let quasi ← templateLiteral g true
      callRest start k (← node start (.taggedTemplate n typeArgs quasi)) chained
    else if typeArgs.isSome || (← isAt "(") then
      let (callee, typeArgs) :=
        if optional then (n, typeArgs)
        else
          match n.shape with
          | .instantiate inner args => (inner, some args)
          | _ => (n, typeArgs)
      let args ← arguments g
      callRest start k (← node start (.call callee typeArgs args optional false)) chained
    else if optional then unexpected
    else return (n, chained)

/-! ### Primary expressions -/

/-- Remembers that a function stands in parentheses. -/
def markWrapped (n : Node) : Node :=
  match n.shape with
  | .function f => n.withShape (.function { f with wrapped := true })
  | .arrow f => n.withShape (.arrow { f with wrapped := true })
  | _ => n

/-- An expression in parentheses. -/
def parenthesized : Parse Node := do
  let start := (← token).start
  bump
  let inside (c : Context) : Context := { c with allowIn := true, inDecorator := false }
  let t ← token
  let (items, comma) ← within inside (listUntil ")" "," g.assignment)
  match items with
  | [] =>
    expect ")"
    fail .emptyParens start
  | [x] =>
    match comma with
    | some c => fail (.expected ")" ",") c
    | none => pure ()
    expect ")"
    node start (.paren (markWrapped x))
  | x :: _ =>
    match comma with
    | some c => fail (.expected ")" ",") c
    | none => pure ()
    let stop := (← get).lastStop
    let _ := x
    expect ")"
    node start (.paren (.mk ⟨t.start, stop⟩ (.sequence items)))

mutual

/-- An expression with `new` in front. -/
def newExpression : Nat → Parse Node
  | 0 => unexpected
  | n + 1 => do
    let t ← token
    bump
    if ← eat "." then
      if !(← isAt "target") then fail .newTarget t.start
      bump
      return ← node t.start (.metaProperty "new" "target")
    let calleeStart := (← token).start
    let (callee, chained) ← memberOrHigher n calleeStart
    let (callee, typeArgs) :=
      match callee.shape with
      | .instantiate inner args => (inner, some args)
      | _ => (callee, none)
    match callee.shape with
    | .importCall .. => note .newImport calleeStart
    | _ => pure ()
    let args ← if ← isAt "(" then arguments g else pure []
    if chained then note .optionalNew t.start
    node t.start (.newExpr callee typeArgs args false)

/-- An expression without operators and calls. -/
def primary : Nat → Parse Node
  | 0 => unexpected
  | n + 1 => do
    let t ← token
    if t.kind == .number then
      bump
      let raw ← slice t.start t.stop
      node t.start (.numberLit (numeralValue raw) (some raw))
    else if t.kind == .bigInt then
      bump
      node t.start (.bigIntLit (bigNumeralDigits (← slice t.start t.stop)))
    else if t.kind == .string then stringLiteral
    else if t.isTemplateStart then templateLiteral g false
    else if t.isText "this" then
      bump
      node t.start .thisExpr
    else if t.isText "null" then
      bump
      node t.start .nullLit
    else if t.isAny ["true", "false"] then
      bump
      node t.start (.boolLit (t.text == "true"))
    else if t.isText "[" then arrayLiteral g
    else if t.isText "\x7b" then objectLiteral g
    else if t.isText "(" then parenthesized g
    else if t.isAny ["/", "/="] then patternLiteral
    else if t.isText "function" then function g t.start true true false false
    else if t.isText "async" && (← nextOnSameLine (·.isText "function")) then
      bump
      function g t.start true true true false
    else if t.isText "class" then g.classAfter t.start [] true
    else if t.isText "@" then
      let ds ← decorators g
      if !(← isAt "class") then unexpected
      g.classAfter t.start ds true
    else if t.isText "new" then newExpression n
    else if t.isText "import" then importExpression g
    else if t.isText "super" then
      bump
      if !(← isAtAny [".", "[", "("]) then note .superAlone t.start
      node t.start .superExpr
    else referenceName

/-- A primary expression with the accesses behind it. -/
def memberOrHigher : Nat → Nat → Parse (Node × Bool)
  | 0, _ => unexpected
  | n + 1, start => do
    let x ← primary n
    memberRest g start (← left) x false

end

/-- A callee with its property accesses and calls. -/
def leftHand : Parse Node := do
  let start := (← token).start
  let (x, chained) ← memberOrHigher g (← left) start
  let (x, chained) ← callRest g start (← left) x chained
  if !chained then return x
  match x.shape with
  | .call .. | .member .. | .index .. | .privateMember .. => return .mk x.span (.chain x)
  | .nonNull inner =>
    match inner.shape with
    | .call .. | .member .. | .index .. | .privateMember .. => return .mk x.span (.chain x)
    | _ => return x
  | _ => return x

/-! ### Operators in front and behind -/

/-- Notes that a call is free of effects. -/
def markPure : Nat → Node → Node
  | 0, n => n
  | k + 1, n =>
    match n.shape with
    | .call callee typeArgs args optional _ =>
      n.withShape (.call callee typeArgs args optional true)
    | .newExpr callee typeArgs args _ => n.withShape (.newExpr callee typeArgs args true)
    | .paren inner => n.withShape (.paren (markPure k inner))
    | .chain inner => n.withShape (.chain (markPure k inner))
    | _ => n

/-- The steps `++` and `--`. -/
def updateOp? (t : Token) : Option UpdateOp :=
  if t.isText "++" then some .increment
  else if t.isText "--" then some .decrement
  else none

/-- An operand with `++` or `--` in front or behind. -/
def update : Parse Node := do
  let t ← token
  match updateOp? t with
  | some op =>
    bump
    let target ← toSimpleTarget (← g.unary)
    node t.start (.update op true target)
  | none =>
    if t.isText "<" && (← dialect).markup then return ← g.markup false
    let x ← g.leftHand
    let u ← token
    match updateOp? u with
    | some op =>
      if u.onNewLine then return x
      let target ← toSimpleTarget x
      bump
      node t.start (.update op false target)
    | none => return x

/-- The operators written in front of an operand. -/
def unaryOp? (t : Token) : Option UnaryOp :=
  [UnaryOp.minus, .plus, .not, .bitNot, .typeof, .void, .delete].find? (t.isText ·.text)

/-- Whether `await` waits for what follows it. -/
def atAwait : Parse Bool := do
  if !(← isAt "await") then return false
  let c ← context
  if c.inAsync then return true
  nextOnSameLine fun t =>
    t.isName || t.kind == .string || t.kind == .number || t.kind == .bigInt ||
      t.isTemplateStart || t.kind == .regex

/-- An operand with its unary operators. -/
def unary : Parse Node := do
  let t ← token
  match unaryOp? t with
  | some op =>
    bump
    let argument ← g.unary
    node t.start (.unary op argument)
  | none =>
    if t.isText "<" && !(← dialect).markup && (← dialect).typed then
      bump
      let ascribed ← g.type
      expectRightAngle
      if (← dialect).noAngleCast then note .castReserved t.start
      let inner ← g.unary
      node t.start (.angleCast ascribed inner)
    else if t.isText "<" && !(← dialect).markup then
      match ← attempt (g.markup false) with
      | some _ => fail .unexpectedMarkup t.start
      | none => unexpected
    else if ← atAwait then
      let c ← context
      let hidden := (← get).awaitsOutside
      bump
      if !c.inAsync then
        if c.topLevel && (← dialect).goal == .either then
          modify fun s => { s with awaitsOutside := hidden ++ [t.start] }
        else note .awaitOutside t.start
      let argument ← within ({ · with inAsync := true }) g.unary
      node t.start (.await argument)
    else update g

/-! ### Binary operators -/

/-- Operators that evaluate both operands. -/
def binaryOps : List BinaryOp :=
  [.eq, .ne, .strictEq, .strictNe, .lt, .le, .gt, .ge, .shl, .shr, .ushr, .add, .sub, .mul, .div,
   .rem, .exp, .bitOr, .bitXor, .bitAnd, .isIn, .instanceof]

/-- Operators that may skip the right operand. -/
def logicalOps : List LogicalOp := [.or, .and, .coalesce]

/-- An operator between two operands. -/
inductive Infix where
  | binary (op : BinaryOp)
  | logical (op : LogicalOp)
  | ascription (word : String)
deriving Inhabited

/-- How strongly an operator binds. -/
def Infix.strength : Infix → Strength
  | .binary op => op.strength
  | .logical op => op.strength
  | .ascription _ => .compare

/-- Operators that group to the right. -/
def Infix.isRight : Infix → Bool
  | .binary .exp => true
  | _ => false

/-- The operator the current token is. -/
def atInfix : Parse (Option Infix) := do
  joinRightAngle
  let t ← token
  if t.isAny ["as", "satisfies"] then
    return if (← dialect).typed && !t.onNewLine then some (.ascription t.text) else none
  if t.isText "in" && !(← context).allowIn then return none
  match binaryOps.find? (t.isText ·.text) with
  | some op => return some (.binary op)
  | none => return (logicalOps.find? (t.isText ·.text)).map .logical

/-- Whether an operand is a logical expression that may not stand beside the operator without
parentheses. -/
def mixesWith (op : LogicalOp) (n : Node) : Bool :=
  match n.shape with
  | .logical other _ _ => (op == .coalesce) != (other == .coalesce)
  | _ => false

/-- Whether an expression may not be the base of a power. -/
def refusesPower (n : Node) : Bool :=
  match n.shape with
  | .unary .. | .await _ | .angleCast .. => true
  | _ => false

mutual

/-- An operand and the operators behind it that bind more strongly than the given rank. -/
def binary : Nat → Nat → Parse Node
  | 0, _ => unexpected
  | n + 1, rank => do
    let t ← token
    let first ←
      if t.kind == .privateIdent && (← context).allowIn then do
        bump
        expect "in"
        let right ← binary n Strength.compare.rank
        match right.shape with
        | .privateIn .. => fail .privateInPrivate right.span.start
        | _ => pure ()
        node t.start (.privateIn t.value right)
      else do
        let isPure := (← get).trivia.sawPure
        let x ← g.unary
        pure (if isPure then markPure (x.span.stop + 1) x else x)
    binaryRest n t.start rank first

/-- The operators behind an operand that bind more strongly than the given rank. -/
def binaryRest : Nat → Nat → Nat → Node → Parse Node
  | 0, _, _, x => return x
  | n + 1, start, rank, x => do
    match ← atInfix with
    | none =>
      splitRightAngle
      return x
    | some op =>
      let r := op.strength.rank
      if (if op.isRight then r < rank else r ≤ rank) then
        return x
      match op with
      | .ascription word =>
        bump
        if word == "as" && (← isAt "const") then
          let c ← token
          bump
          let ascribed ← node c.start (.typeReference (.mk c.span (.reference "const")) none)
          binaryRest n start rank (← node start (.asType x ascribed))
        else
          let ascribed ← g.type
          let y ← node start
            (if word == "as" then .asType x ascribed else .satisfiesType x ascribed)
          binaryRest n start rank y
      | .binary op =>
        bump
        if op == .exp && refusesPower x then note .exponent x.span.start
        let right ← binary n r
        binaryRest n start rank (← node start (.binary op x right))
      | .logical op =>
        bump
        let right ← binary n r
        let y ← node start (.logical op x right)
        if mixesWith op x || mixesWith op right then note .mixedCoalesce start
        binaryRest n start rank y

end

/-! ### Assignments and sequences -/

/-- Assignment operators. -/
def assignOps : List AssignOp :=
  [.plain, .binary .add, .binary .sub, .binary .mul, .binary .div, .binary .rem, .binary .exp,
   .binary .shl, .binary .shr, .binary .ushr, .binary .bitOr, .binary .bitXor, .binary .bitAnd,
   .logical .or, .logical .and, .logical .coalesce]

/-- The assignment operator the current token is. -/
def atAssign : Parse (Option AssignOp) := do
  joinRightAngle
  let t ← token
  match assignOps.find? (t.isText ·.text) with
  | some op => return some op
  | none =>
    splitRightAngle
    return none

/-- Whether `yield` hands out what follows it. -/
def atYield : Parse Bool := do
  if !(← isAt "yield") then return false
  if (← context).inGenerator then return true
  nextOnSameLine fun t =>
    t.isName || t.kind == .string || t.kind == .number || t.kind == .bigInt || t.kind == .regex

/-- An expression that hands a value out of a generator. -/
def yieldExpression : Parse Node := do
  let t ← token
  bump
  if !(← context).inGenerator then note .yieldOutside t.start
  let u ← token
  if u.onNewLine || u.kind == .eof ||
      u.isAny [")", "]", "\x7d", ",", ";", ":", "in", "of"] then
    return ← node t.start (.yieldExpr false none)
  let delegate ← eat "*"
  let argument ← within ({ · with inGenerator := true }) g.assignment
  node t.start (.yieldExpr delegate (some argument))

/-- What may stand behind an arrow's place: an assignment in a branch of a conditional, where a
return type of an arrow function needs care. -/
def assignmentOr (conditionalBranch : Parse Node) (mayReturnType : Bool) : Parse Node := do
  let t ← token
  if ← atYield then return ← yieldExpression g
  match ← arrow? g mayReturnType with
  | some f => return f
  | none => pure ()
  let x ← binary g (2 * (← left) + 2) Strength.comma.rank
  match x.shape with
  | .reference name =>
    if ← isAt "=>" then return ← arrowOfName g t.start false name x.span
  | _ => pure ()
  match ← atAssign with
  | some op =>
    let target ← if op == .plain then toTarget x else toSimpleTarget x
    bump
    let value ← g.assignment
    node t.start (.assign op target value)
  | none =>
    if ← eat "?" then
      let yes ← within ({ · with allowIn := true }) conditionalBranch
      expect ":"
      let no ← g.assignment
      node t.start (.conditional x yes no)
    else return x

/-- An expression between the marks of a conditional, where an arrow function with a return type
is one only if a colon follows. -/
def branch : Nat → Parse Node
  | 0 => unexpected
  | n + 1 => assignmentOr g (branch n) false

/-- An expression without a comma on top. -/
def assignment : Parse Node := do
  assignmentOr g (branch g (← left)) true

/-- The parts of a sequence after its first. -/
def sequenceRest : Nat → List Node → Parse (List Node)
  | 0, acc => return acc.reverse
  | n + 1, acc => do
    if ← eat "," then sequenceRest n ((← g.assignment) :: acc) else return acc.reverse

/-- An expression that may be a sequence. -/
def expression : Parse Node := do
  let start := (← token).start
  let first ← g.assignment
  if !(← isAt ",") then return first
  let parts ← sequenceRest g (← left) [first]
  node start (.sequence parts)

end Playground.Script.Parse
