import Playground.Script.Parse.Expression
import Playground.Script.Parse.Module

/-!
# Statements

Reads statements; what a statement starts with decides its form.
-/

namespace Playground.Script.Parse

variable (g : Grammar)

/-- An expression in the parentheses behind a keyword. -/
def inParens : Parse Node := do
  expect "("
  let x ← within ({ · with allowIn := true }) g.expression
  expect ")"
  return x

/-- A block. -/
def block : Parse Node := do
  let start := (← token).start
  expect "\x7b"
  let body ← repeatUntil "\x7d" (some <$> g.statement .list) (← left) []
  expect "\x7d"
  node start (.block body)

/-- Ends a statement made of an expression. -/
def expressionStatement (start : Nat) (x : Node) : Parse Node := do
  endStatement
  node start (.exprStmt x)

/-- A statement that starts with an expression, which may be a label. -/
def expressionOrLabel : Parse Node := do
  let start := (← token).start
  let x ← g.expression
  match x.shape with
  | .reference name =>
    if ← eat ":" then
      let body ← g.statement .label
      node start (.labeled name body)
    else expressionStatement start x
  | _ => expressionStatement start x

/-- A variable declaration as a statement. -/
def variableStatement (place : Place) : Parse Node := do
  let start := (← token).start
  let d ← varBindings g start false
  checkInitials d
  match d.shape with
  | .varDecl kind _ _ =>
    if kind.isLexical && place != .list then note .lexicalInStatement start
  | _ => pure ()
  ended d

/-- Operators, after which `let` is a name. -/
def followsLetName (t : Token) : Bool :=
  assignOps.any (t.isText ·.text) || binaryOps.any (t.isText ·.text) ||
    logicalOps.any (t.isText ·.text) || t.isAny [".", "("]

/-- A statement that starts with `let`. -/
def letStatement (place : Place) : Parse Node := do
  let t ← token
  if ← nextIs followsLetName then
    expressionOrLabel g
  else if (← nextIs fun u =>
      u.isText ";" || u.kind == .eof || (place != .list && !u.isText "[")) then
    bump
    if (← isAt ":") then
      bump
      let body ← g.statement .label
      node t.start (.labeled "let" body)
    else
      let name := Node.mk t.span (.reference "let")
      expressionStatement t.start name
  else variableStatement g place

/-! ### Branches and loops -/

/-- A conditional. -/
def ifStatement : Parse Node := do
  let start := (← token).start
  bump
  let test ← inParens g
  let yes ← g.statement .conditional
  let no ← if ← eat "else" then some <$> g.statement .conditional else pure none
  node start (.ifStmt test yes no)

/-- A loop that runs at least once. -/
def doStatement : Parse Node := do
  let start := (← token).start
  bump
  let body ← g.statement .body
  expect "while"
  let test ← inParens g
  let _ ← eat ";"
  node start (.doWhile body test)

/-- A loop with its test in front. -/
def whileStatement : Parse Node := do
  let start := (← token).start
  bump
  let test ← inParens g
  let body ← g.statement .body
  node start (.whileStmt test body)

/-- A loop in three parts, from the first semicolon on. -/
def forRest (start : Nat) (setup : Option Node) : Parse Node := do
  expect ";"
  setup.forM checkInitials
  let test ← if ← isAtAny [";", ")"] then pure none else some <$> g.expression
  expect ";"
  let step ← if ← isAt ")" then pure none else some <$> g.expression
  expect ")"
  let body ← g.statement .body
  node start (.forStmt setup test step body)

/-- A loop over the keys or the items of a value, from the keyword between them on. -/
def forOver (start : Nat) (isAwait : Bool) (left : Node) : Parse Node := do
  let isIn ← isAt "in"
  let keyword ← token
  bump
  let right ← if isIn then g.expression else g.assignment
  expect ")"
  if isAwait && isIn then note .forAwaitNotOf keyword.start
  let body ← g.statement .body
  if isIn then node start (.forIn left right body)
  else node start (.forOf isAwait left right body)

/-- Whether `let` opens a declaration in the head of a loop. -/
def atLoopLet : Parse Bool := do
  if !(← isAt "let") then return false
  nextIs fun t => (t.isBindable && !t.isText "of") || t.isAny ["[", "\x7b", "of"]

/-- Whether `using` opens a declaration in the head of a loop. -/
def atLoopUsing : Parse Bool := do
  if ← isAt "using" then
    nextOnSameLine fun t => t.isBindable && !t.isText "of"
  else return false

/-- Whether `await using` opens a declaration. -/
def atAwaitUsing : Parse Bool := do
  if !(← isAt "await") then return false
  ahead do
    bump
    let t ← token
    if t.onNewLine || !t.isText "using" then return false
    nextOnSameLine (·.isBindable)

/-- Whether a declaration opens the head of a loop. -/
def atLoopDeclaration : Parse Bool := do
  if ← isAtAny ["var", "const"] then return true
  else if ← atLoopLet then return true
  else if ← atLoopUsing then return true
  else atAwaitUsing

/-- Takes the `await` of a loop that waits for the items, if it is there. -/
def loopAwait : Parse Bool := do
  let t ← token
  if t.isText "await" then
    let c ← context
    if !c.inAsync then
      if c.topLevel && (← dialect).goal == .either then
        modify fun s => { s with awaitsOutside := s.awaitsOutside ++ [t.start] }
      else note .awaitOutside t.start
    bump
    return true
  else return false

/-- A loop with `for`. -/
def forStatement : Parse Node := do
  let start := (← token).start
  bump
  let isAwait ← loopAwait
  expect "("
  if ← isAt ";" then return ← forRest g start none
  let t ← token
  if ← atLoopDeclaration then
    let setup ← within ({ · with allowIn := false }) (varBindings g t.start false)
    if ← isAtAny ["in", "of"] then forOver g start isAwait setup
    else
      if isAwait then note .forAwaitNotOf t.start
      forRest g start (some setup)
  else
    let isAsyncOf := t.isText "async" && (← nextIs (·.isText "of"))
    let isLetOf := t.isText "let"
    let setup ← within ({ · with allowIn := false }) g.expression
    if ← isAtAny ["in", "of"] then
      let isOf ← isAt "of"
      if isOf && isAsyncOf && !isAwait then note .forAsyncOf t.start
      if isOf && isLetOf then note .forLetOf t.start
      let left ← toTarget setup
      forOver g start isAwait left
    else
      if isAwait then note .forAwaitNotOf t.start
      forRest g start (some setup)

/-! ### Jumps -/

/-- The label behind a jump, if there is one. -/
def jumpLabel : Parse (Option String) := do
  if ← canEndStatement then return none
  let t ← token
  let _ ← referenceName
  return some t.value

/-- A jump out of a loop or on to its next turn. -/
def jumpStatement (isBreak : Bool) : Parse Node := do
  let start := (← token).start
  bump
  let label ← jumpLabel
  endStatement
  node start (if isBreak then .breakStmt label else .continueStmt label)

/-- A return from a function. -/
def returnStatement : Parse Node := do
  let start := (← token).start
  bump
  let argument ←
    if ← canEndStatement then pure none
    else some <$> within ({ · with allowIn := true }) g.expression
  endStatement
  if !(← context).inFunction then note .returnOutside start
  node start (.returnStmt argument)

/-- A thrown exception. -/
def throwStatement : Parse Node := do
  let start := (← token).start
  bump
  if (← token).onNewLine then note .newlineAfterThrow start
  let argument ← g.expression
  endStatement
  node start (.throwStmt argument)

/-! ### Other forms -/

/-- A statement in which the members of an object are in scope. -/
def withStatement : Parse Node := do
  let start := (← token).start
  bump
  let object ← inParens g
  let body ← g.statement .body
  node start (.withStmt object body)

/-- Statements of a case, up to the next case or the end. -/
def caseBody : Nat → List Node → Parse (List Node)
  | 0, acc => return acc.reverse
  | n + 1, acc => do
    let t ← token
    if t.isAny ["case", "default", "\x7d"] || t.kind == .eof then return acc.reverse
    caseBody n ((← g.statement .list) :: acc)

/-- A case of a switch. -/
def switchCase : Parse (Option Node) := do
  let t ← token
  let test ←
    if ← eat "default" then pure none
    else if ← eat "case" then some <$> g.expression
    else fail .switchClause t.start
  expect ":"
  let body ← caseBody g (← left) []
  return some (← node t.start (.switchCase test body))

/-- Notes the first default of a switch that has more than one. -/
def checkDefaults (cases : List Node) : Parse Unit :=
  let isDefault (c : Node) : Bool := match c.shape with | .switchCase none _ => true | _ => false
  match cases.filter isDefault with
  | first :: _ :: _ => note .repeatedDefault first.span.start
  | _ => return ()

/-- A choice among cases. -/
def switchStatement : Parse Node := do
  let start := (← token).start
  bump
  let subject ← inParens g
  let cases ← between "\x7b" "\x7d" (switchCase g)
  checkDefaults cases
  node start (.switchStmt subject cases)

/-- The handler of exceptions. -/
def catchClause : Parse Node := do
  let start := (← token).start
  bump
  let (caught, ascription) ←
    if ← eat "(" then do
      let target ← g.target
      let ascription ← ascription? g
      expect ")"
      pure (some target, ascription)
    else pure (none, none)
  let body ← block g
  node start (.catchClause caught ascription body)

/-- A block whose exceptions are handled. -/
def tryStatement : Parse Node := do
  let start := (← token).start
  bump
  let body ← block g
  let handler ← if ← isAt "catch" then some <$> catchClause g else pure none
  let finalizer ← if ← eat "finally" then some <$> block g else pure none
  if handler.isNone && finalizer.isNone then note .missingCatch body.span.stop
  node start (.tryStmt body handler finalizer)

/-- A function declaration. -/
def functionStatement (place : Place) (isAsync : Bool) : Parse Node := do
  let start := (← token).start
  if isAsync then bump
  let f ← function g start false false isAsync false
  if place != .list then
    match f.shape with
    | .function d =>
      if d.isAsync then note .asyncInStatement start
      else if d.isGenerator then note .generatorInStatement start
    | _ => pure ()
  return f

/-- A class declaration. -/
def classStatement (place : Place) : Parse Node := do
  let start := (← token).start
  let c ← classFrom g start [] false false false
  if place != .list then note .classInStatement start
  return c

/-- A declaration behind decorators. -/
def decoratedStatement : Parse Node := do
  let start := (← token).start
  let ds ← decorators g
  let t ← token
  if t.isText "export" then exportDeclaration g start ds
  else if t.isText "class" then classFrom g start ds false false false
  else if t.isAny ["abstract", "declare"] && (← dialect).typed &&
      (← nextIs (·.isAny ["class", "abstract"])) then
    let ms ← modifiers false
    declarationAfter g start ds ms
  else unexpected

/-- A statement. -/
def statement (place : Place) : Parse Node := do
  let t ← token
  if t.isText "\x7b" then block g
  else if t.isText ";" then
    bump
    node t.start .empty
  else if t.isText "if" then ifStatement g
  else if t.isText "do" then doStatement g
  else if t.isText "while" then whileStatement g
  else if t.isText "for" then forStatement g
  else if t.isText "continue" then jumpStatement false
  else if t.isText "break" then jumpStatement true
  else if t.isText "with" then withStatement g
  else if t.isText "switch" then switchStatement g
  else if t.isText "throw" then throwStatement g
  else if t.isText "try" then tryStatement g
  else if t.isText "debugger" then
    bump
    endStatement
    node t.start .debuggerStmt
  else if t.isText "return" then returnStatement g
  else if t.isText "class" then classStatement g place
  else if t.isText "function" then functionStatement g place false
  else if t.isText "import" && !(← nextIs (·.isAny ["(", "."])) then importDeclaration
  else if t.isText "export" then exportDeclaration g t.start []
  else if t.isText "@" then decoratedStatement g
  else if t.isText "let" && !t.escaped then letStatement g place
  else if t.isText "async" && (← nextOnSameLine (·.isText "function")) then
    functionStatement g place true
  else if t.isText "const" && (← dialect).typed && (← nextIs (·.isText "enum")) then
    enumDeclaration g t.start false
  else if t.isAny ["var", "const"] then variableStatement g place
  else if t.isText "using" && (← nextOnSameLine (·.isBindable)) then variableStatement g place
  else if ← atAwaitUsing then variableStatement g place
  else if ← atTypedDeclaration then typedDeclaration g
  else expressionOrLabel g

end Playground.Script.Parse
