import Playground.Script.Parse.Type
import Playground.Script.Parse.Cover

/-!
# Functions

Bodies, function declarations and expressions, methods, and arrow functions, of which the head
has to be told from an expression in parentheses.
-/

namespace Playground.Script.Parse

variable (g : Grammar)

/-! ### Bodies -/

/-- Whether a statement is a plain string, and so a directive at the head of a body: its text as
written, without the quotes. -/
def directiveText? (s : Node) : Option String :=
  match s.shape with
  | .exprStmt e =>
    match e.shape with
    | .stringLit _ (some raw) =>
      if e.span.start == s.span.start then some ((raw.drop 1).dropEnd 1).toString else none
    | _ => none
  | _ => none

/-- The directives and the other statements of a body, up to a closing brace if the body has
one. -/
def bodyFrom (braced : Bool) :
    Nat → Bool → List Node → List Node → Parse (List Node × List Node)
  | 0, _, ds, xs => return (ds.reverse, xs.reverse)
  | n + 1, atHead, ds, xs => do
    let t ← token
    if t.kind == .eof || (braced && t.isText "\x7d") then return (ds.reverse, xs.reverse)
    let s ← g.statement .list
    match atHead, directiveText? s with
    | true, some text => bodyFrom braced n true (s.withShape (.directive text) :: ds) xs
    | _, _ => bodyFrom braced n false ds (s :: xs)

/-- A function's body in braces. -/
def functionBody : Parse Node := do
  let start := (← token).start
  expect "\x7b"
  let (directives, body) ← bodyFrom g true (← left) true [] []
  expect "\x7d"
  node start (.functionBody directives body)

/-! ### Functions with a `this` of their own -/

/-- The context of the inside of a function. -/
def insideFunction (isAsync isGenerator : Bool) (c : Context) : Context :=
  { c with
    allowIn := true, inAsync := isAsync, inGenerator := isGenerator, inFunction := true,
    topLevel := false, inDecorator := false, noConditional := false }

/-- Parameters, return type and body of a function. -/
def functionRest (place : ParamPlace) (isAsync isGenerator : Bool) :
    Parse (Option Node × Option Node × Node × Option Node × Option Node) := do
  let typeParams ← typeParameters? g
  within (insideFunction isAsync isGenerator) do
    let (thisParam, params) ← parameters g place
    if place == .constructor && (← dialect).typed && (← isAt ":") then
      note .constructorReturnType (← token).start
    let returnType ← returnType? g ":"
    let bodyStart := (← token).start
    let body ← if ← isAt "\x7b" then some <$> functionBody g else pure none
    if body.isSome && (← context).ambient then note .ambientBody bodyStart
    return (typeParams, thisParam, params, returnType, body)

/-- The name of a function declaration that has none: a word that may not be one stops the
reading, and a missing name is noted where it has to stand. -/
def missingFunctionName : Parse Unit := do
  let t ← token
  if t.isText "(" then note .functionName t.start
  else if t.isReserved then fail (.expected "Identifier" t.text) t.start

/-- A function whose keyword comes next; a function that is exported as the default may go
without a name. -/
def function (start : Nat) (isExpression nameless isAsync declared : Bool) : Parse Node := do
  expect "function"
  let isGenerator ← eat "*"
  let nameContext (c : Context) : Context :=
    if isExpression then { c with inAsync := isAsync, inGenerator := isGenerator } else c
  let name ←
    if (← token).isBindable then some <$> within nameContext bindingName
    else do
      if !isExpression && !nameless then missingFunctionName
      pure none
  let (typeParams, thisParam, params, returnType, body) ←
    functionRest g .ordinary isAsync isGenerator
  let role : FunctionRole :=
    if isExpression then .expression
    else if body.isNone then .signature
    else .declaration
  if body.isNone then
    if isExpression || !(← dialect).typed then expect "\x7b"
    endStatement
  node start
    (.function ⟨role, isAsync, isGenerator, declared, name, typeParams, thisParam, params,
      returnType, body, false⟩)

/-- The function behind the name of a method. -/
def methodFunction (place : ParamPlace) (isAsync isGenerator : Bool) : Parse Node := do
  let start := (← token).start
  let (typeParams, thisParam, params, returnType, body) ←
    functionRest g place isAsync isGenerator
  if body.isNone then
    if !(← dialect).typed then expect "\x7b"
    endStatement
  let role : FunctionRole := if body.isNone then .bodiless else .expression
  node start
    (.function ⟨role, isAsync, isGenerator, false, none, typeParams, thisParam, params,
      returnType, body, false⟩)

/-- The items of a parameter list. -/
def paramItems (params : Node) : List Node :=
  match params.shape with
  | .params items => items
  | _ => []

/-- Notes a getter or setter with the wrong parameters. -/
def checkAccessor (kind : MethodKind) (value : Node) : Parse Unit := do
  match value.shape with
  | .function f =>
    let items := paramItems f.params
    if kind == .getter && !items.isEmpty then note .getterParams f.params.span.start
    if kind == .setter then
      match items with
      | [p] =>
        match p.shape with
        | .rest .. => note .setterRest p.span.start
        | _ => return ()
      | _ => note .setterParams f.params.span.start
  | _ => return ()

/-! ### Arrow functions -/

/-- Whether the tokens ahead are an arrow function. -/
inductive Guess where
  | yes | no | perhaps
deriving DecidableEq, Inhabited

/-- What the tokens after an opening parenthesis say. -/
def guessAfterParen : Parse Guess := do
  let second ← token
  if second.isText ")" then
    bump
    return if ← isAtAny ["=>", ":", "\x7b"] then .yes else .no
  if second.isAny ["[", "\x7b"] then return .perhaps
  if second.isText "..." then return .yes
  if second.isAny modifierWords && !second.isText "async" &&
      (← nextIs fun t => t.isBindable) then
    bump
    return if (← nextIs (·.isText "as")) then .no else .yes
  if !second.isBindable && !second.isText "this" then return .no
  bump
  let third ← token
  if third.isText ":" then return .yes
  if third.isText "?" then
    bump
    return if ← isAtAny [":", ",", "=", ")"] then .yes else .no
  return if third.isAny [",", "=", ")"] then .perhaps else .no

/-- What the tokens after an opening angle bracket say. -/
def guessAfterAngle : Parse Guess := do
  let second ← token
  if !second.isBindable && !second.isText "const" then return .no
  if (← dialect).markup then
    if second.isText "const" then bump
    bump
    let third ← token
    if third.isText "extends" then
      bump
      return if ← isAtAny ["=", ">", "/"] then .no else .yes
    return if third.isAny [",", "="] then .yes else .no
  else return .perhaps

/-- Whether an arrow function with parameters in parentheses follows. -/
def guessArrow : Parse Guess :=
  let guess : Parse Guess := do
    if ← isAt "async" then
      bump
      if (← token).onNewLine || !(← isAtAny ["(", "<"]) then return .no
    if ← isAt "(" then
      bump
      guessAfterParen
    else if ← isAt "<" then
      if !(← dialect).typed then return .no
      bump
      guessAfterAngle
    else return .no
  preview guess .no

/-- The head of an arrow function. -/
structure ArrowHead where
  isAsync : Bool
  typeParams : Option Node
  params : Node
  returnType : Option Node
deriving Inhabited

/-- The head of an arrow function, up to and with the arrow. -/
def arrowHead : Parse ArrowHead := do
  let isAsync ← eat "async"
  let typeParams ← typeParameters? g
  let inside (c : Context) : Context := { c with inAsync := isAsync || c.inAsync }
  let (thisParam, params) ← within inside (parameters g .arrow)
  match thisParam with
  | some p => note .thisInArrow p.span.start
  | none => pure ()
  let returnType ← returnType? g ":"
  let t ← token
  if t.onNewLine && t.isText "=>" then note .newlineBeforeArrow t.start
  expect "=>"
  return ⟨isAsync, typeParams, params, returnType⟩

/-- The body of an arrow function; `plain` says that it is an expression. -/
def arrowBody (isAsync : Bool) : Parse (Node × Bool) := do
  if ← isAt "\x7b" then
    let body ← within (insideFunction isAsync false) (functionBody g)
    return (body, false)
  else
    let inside (c : Context) : Context :=
      { c with inAsync := isAsync, inGenerator := false, inFunction := true, topLevel := false }
    let value ← within inside g.assignment
    let stmt := Node.mk value.span (.exprStmt value)
    return (.mk value.span (.functionBody [] [stmt]), true)

/-- An arrow function from its head on. -/
def arrowFrom (start : Nat) (head : ArrowHead) : Parse Node := do
  let (body, concise) ← arrowBody g head.isAsync
  node start (.arrow ⟨head.isAsync, concise, head.typeParams, head.params, head.returnType, body,
    false⟩)

/-- An arrow function with a single name as its parameter; the name is read already. -/
def arrowOfName (start : Nat) (isAsync : Bool) (name : String) (span : Span) : Parse Node := do
  let t ← token
  if t.onNewLine then note .newlineBeforeArrow t.start
  expect "=>"
  let target := Node.mk span (.binding name)
  let p := Node.mk span (.param ⟨[], {}, target, none, none⟩)
  arrowFrom g start ⟨isAsync, none, .mk span (.params [p]), none⟩

/-- Whether `async name =>` follows. -/
def atAsyncName : Parse Bool := do
  if !(← isAt "async") then return false
  ahead do
    bump
    let t ← token
    if t.onNewLine || !t.isBindable then return false
    bump
    isAt "=>"

/-- An arrow function if one follows.  Behind the question mark of a conditional a return type
needs a colon after the function (`mayReturnType` is false there). -/
def arrow? (mayReturnType : Bool) : Parse (Option Node) := do
  let t ← token
  if ← atAsyncName then
    bump
    let u ← token
    let name ← within ({ · with inAsync := true }) bindingName
    return some (← arrowOfName g t.start true u.value name.span)
  if !t.isAny ["(", "<", "async"] then return none
  match ← guessArrow with
  | .no => return none
  | .yes => return some (← arrowFrom g t.start (← arrowHead g))
  | .perhaps => orBack do
    match ← attempt (arrowHead g) with
    | none => return none
    | some head =>
      let f ← arrowFrom g t.start head
      if !mayReturnType && head.returnType.isSome && !(← isAt ":") then return none
      return some f

end Playground.Script.Parse
