import Playground.Emit.Lowering.Operator
import Playground.Script.Letter

/-!
# Lowering functions that wait

A function that waits becomes a generator, which a helper drives: it yields where the function
waits.  Around the generator stands a function that keeps what can be seen from outside: the
name, the number of parameters, and that the object and the arguments are passed on.

* `asyncMethod` – the method calls the driven generator;
* `asyncExpression`, `asyncArrow` – an expression, with or without a function around;
* `asyncDeclaration` – two declarations, of which the second drives the generator once;
* `await`, `yieldAll` – what happens where the function waits.
-/

namespace Playground.Emit.Lower

open Playground.Script

/-- Whether a function that waits is lowered. -/
def lowersAsync (isAsync isGenerator : Bool) : Lower Bool := do
  if !isAsync then return false
  lacks (if isGenerator then 2018 else 2017)

/-- The call of the helper that drives a generator. -/
def drive (driven : Bool) (params body : Node) : Lower Node := do
  let path := if driven then "wrapAsyncGenerator" else "asyncToGenerator"
  callHelper path [Build.function .expression none true params body]

/-- Passes the object and the arguments on. -/
def passOn (callee : Node) : Node :=
  Build.call (Build.dot callee "apply") [Build.this, Build.var "arguments"]

/-- Whether a parameter has an initial value. -/
def isOptional (n : Node) : Bool :=
  match n.shape with
  | .param p => p.initial.isSome
  | .rest .. => true
  | _ => false

/-- The parameters of a function. -/
def parameterList (params : Node) : List Node :=
  match params.shape with
  | .params items => items
  | _ => []

/-- As many parameters as the function counts: those before the first that may be left out. -/
def placeholders (params : Node) : Lower Node := do
  let counted := (parameterList params).takeWhile fun p => !isOptional p
  return Build.params (← counted.mapM fun _ => return Build.bind (← fresh "x"))

/-- Whether a function counts any parameter. -/
def countsParameters (params : Node) : Bool :=
  match parameterList params with
  | p :: _ => !isOptional p
  | [] => false

/-- Whether evaluating the initial values of parameters may throw. -/
def mayThrow (params : Node) : Bool :=
  (parameterList params).any fun p =>
    match p.shape with
    | .param { initial := some value, .. } =>
      match value.shape with
      | .function _ | .arrow _ => false
      | .reference name => name != "undefined"
      | _ => !isLiteral value
    | _ => false

/-- Whether a word may not be a name. -/
def isKeyword (name : String) : Bool :=
  ["await", "break", "case", "catch", "class", "const", "continue", "debugger", "default",
    "delete", "do", "else", "enum", "export", "extends", "false", "finally", "for", "function",
    "if", "import", "in", "instanceof", "new", "null", "return", "super", "switch", "this",
    "throw", "true", "try", "typeof", "var", "void", "while", "with", "yield", "let", "static",
    "implements", "interface", "package", "private", "protected", "public"].contains name

/-- The name of a function after the key it is kept under. -/
def functionName (key : String) : String :=
  let rec rest : Bool → List Char → List Char
    | _, [] => []
    | raise, c :: cs =>
      if c = ' ' then '_' :: rest raise cs
      else if isIdentPart c then (if raise then c.toUpper else c) :: rest false cs
      else rest true cs
  let cs :=
    match key.toList with
    | [] => []
    | c :: cs => (if isIdentStart c then [c] else []) ++ rest false cs
  let name := String.ofList cs
  if name.isEmpty then "_" else if isKeyword name then "_" ++ name else name

/-- The name a function takes from where it stands. -/
def siteName : Site → Option String
  | .named name => some (functionName name)
  | _ => none

/-! ### Functions -/

/-- A function that answers with what another function returns. -/
def forwarding (role : FunctionRole) (name : Option String) (params : Node) (aim : String) :
    Node :=
  Build.function role name false params (Build.body [Build.ret (passOn (Build.var aim))])

/-- The inner statements of a method that waits, behind what is captured for them. -/
def asyncMethod (f : Function Node) (body : Node) (captured : List Node) : Lower Node := do
  let moved := mayThrow f.params
  -- what the initial values throw has to come out of the promise, not out of the call
  let params ← if moved then placeholders f.params else pure f.params
  let driven ← drive f.isGenerator (if moved then f.params else Build.params []) body
  let value := if moved then passOn driven else Build.call driven []
  return .made (.function
    { f with
      isAsync := false, isGenerator := false, params
      body := some (Build.body (captured ++ [Build.ret value])) })

/-- A function that is called at once and answers with another function, which drives a generator
that is made once. -/
def drivenOnce (reference : String) (generator : Node) (caller : List Node) : Node :=
  Build.call (Build.thunk (Build.declare .asVar reference (some generator) :: caller)) []

/-- The name of a node that may be a binding. -/
def bindingName (n : Option Node) : Option String :=
  (n.toList.flatMap Names.ofBinding).head?.map (·.name)

/-- A function that waits, as an expression. -/
def asyncExpression (f : Function Node) (body : Node) (site : Site) : Lower Node := do
  let own := bindingName f.name
  if own.isNone && !countsParameters f.params then
    return ← drive f.isGenerator f.params body
  -- the name, and how many parameters there are, can be seen from outside
  let reference ← fresh (own.getD "ref")
  let params ← placeholders f.params
  let generator ← drive f.isGenerator f.params body
  match own with
  | some name =>
    return drivenOnce reference generator
      [forwarding .declaration (some name) params reference, Build.ret (Build.var name)]
  | none =>
    return drivenOnce reference generator
      [Build.ret (forwarding .expression (siteName site) params reference)]

/-- An arrow function that waits. -/
def asyncArrow (f : Arrow Node) (site : Site) : Lower Node := do
  let body :=
    match f.concise, f.body.shape with
    | true, .functionBody directives [s] =>
      match s.shape with
      | .exprStmt inner =>
        f.body.withShape (.functionBody directives [s.withShape (.returnStmt (some inner))])
      | _ => f.body
    | _, _ => f.body
  let name := siteName site
  if name.isNone && !countsParameters f.params then return ← drive false f.params body
  let reference ← fresh "ref"
  let params ← placeholders f.params
  let generator ← drive false f.params body
  return drivenOnce reference generator
    [Build.ret (forwarding .expression name params reference)]

/-- A declared function that waits: the function that passes on, and the one behind it. -/
def asyncDeclaration (f : Function Node) (body : Node) : Lower (Function Node × Node) := do
  let params ← placeholders f.params
  let reference ← fresh ((bindingName f.name).getD "ref")
  let generator ← drive f.isGenerator f.params body
  let answer := Build.ret (passOn (Build.var reference))
  let behind := Build.function .declaration (some reference) false (Build.params [])
    (Build.body [Build.stmt (Build.set (Build.var reference) generator), answer])
  return ({ f with
            isAsync := false, isGenerator := false, params
            body := some (Build.body [answer]) }, behind)

/-! ### Waiting -/

/-- What waiting becomes at a place. -/
def await (n : Node) : Lower Node := do
  match n.shape with
  | .await argument =>
    match (← read).flow with
    | .asyncGenerator =>
      if !(← lacks 2018) then return n
      let given ← callHelper "awaitAsyncGenerator" [argument]
      return n.withShape (.yieldExpr false (some given))
    | .async =>
      if !(← lacks 2017) then return n
      return n.withShape (.yieldExpr false (some argument))
    | .top | .plain => return n
  | _ => return n

/-- What yielding everything becomes in a generator that waits. -/
def yieldAll (n : Node) : Lower Node := do
  match n.shape with
  | .yieldExpr true (some argument) =>
    if (← read).flow != .asyncGenerator || !(← lacks 2018) then return n
    let each ← callHelper "asyncIterator" [argument]
    let all ← callHelper "asyncGeneratorDelegate" [each]
    return n.withShape (.yieldExpr true (some all))
  | _ => return n

/-! ### Loops that wait -/

/-- A call of a method without arguments. -/
def callMethod (object name : String) : Node :=
  Build.call (Build.dot (Build.var object) name) []

/-- A `for` loop. -/
def forLoop (setup test step : Node) (body : List Node) : Node :=
  .made (.forStmt (some setup) (some test) (some step) (Build.block body))

/-- A `try` statement. -/
def tryAll (attempt : List Node) (handler : Option Node) (finalizer : List Node) : Node :=
  .made (.tryStmt (Build.block attempt) handler (some (Build.block finalizer)))

/-- An `if` statement. -/
def when (test : Node) (body : List Node) : Node := .made (.ifStmt test (Build.block body) none)

/-- Gives a value to what stands in the head of a loop. -/
def headGets (left value : Node) : Node :=
  match left.shape with
  | .varDecl kind _ (d :: _) =>
    match d.shape with
    | .declarator pattern _ _ _ =>
      .made (.varDecl kind false [d.withShape (.declarator pattern false none (some value))])
    | _ => left
  | _ => Build.stmt (Build.set left value)

/-- What a loop that waits becomes: the statements before it, and the loop.  It closes what it
iterates over when it is left early, and throws what was thrown in it only after that. -/
def waitingLoop (label : Option String) (left right body : Node) : Lower (List Node × Node) := do
  let step ← fresh "step"
  let each ← callHelper "asyncIterator" [right]
  let iterator ← fresh "iterator"
  let abrupt ← fresh "iteratorAbruptCompletion"
  let failed ← fresh "didIteratorError"
  let error ← fresh "iteratorError"
  let caught := "err"
  let v := Build.var
  let no := Build.bool false
  let await (n : Node) : Node := .made (.await n)
  let setup : Node := .made (.varDecl .asVar false
    [.made (.declarator (Build.bind iterator) false none (some each)),
     .made (.declarator (Build.bind step) false none none)])
  let next := Build.set (v step) (await (callMethod iterator "next"))
  let test := Build.set (v abrupt) (.made (.unary .not (Build.dot next "done")))
  let inner :=
    match body.shape with
    | .block [] => []
    | .block _ => [body]
    | _ => []
  let loop := forLoop setup test (Build.set (v abrupt) no)
    (headGets left (Build.dot (v step) "value") :: inner)
  let loop : Node :=
    match label with
    | some l => .made (.labeled l loop)
    | none => loop
  let handler : Node := .made (.catchClause (some (Build.bind caught)) none
    (Build.block
      [Build.stmt (Build.set (v failed) (Build.bool true)),
       Build.stmt (Build.set (v error) (v caught))]))
  let isOpen := Build.and (v abrupt)
    (Build.bin .ne (Build.dot (v iterator) "return") Build.null)
  -- what was thrown in the loop wins over what closing throws
  let close := tryAll
    [when isOpen [Build.stmt (await (callMethod iterator "return"))]] none
    [when (v failed) [.made (.throwStmt (v error))]]
  return ([Build.declare .asVar abrupt (some no), Build.declare .asVar failed (some no),
    Build.declare .asVar error none], tryAll [loop] (some handler) [close])

end Playground.Emit.Lower
