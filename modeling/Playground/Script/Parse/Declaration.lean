import Playground.Script.Parse.Class
import Playground.Script.Parse.Type

/-!
# Declarations

Variable declarations and the declarations of the typed dialect: aliases, interfaces,
enumerations, namespaces and imports by assignment.  What a declaration or a parameter binds is a
name, or a pattern of names with defaults.
-/

namespace Playground.Script.Parse

variable (g : Grammar)

/-! ### Patterns that bind names -/

/-- A target that may have a default. -/
def defaultedTarget : Parse Node := do
  let start := (← token).start
  let target ← g.target
  defaulted g target start

/-- A property of an object pattern. -/
def patternProperty : Parse Node := do
  let t ← token
  let (key, computed) ← propertyKey g
  if t.isBindable && !(← isAt ":") then
    let c ← context
    if c.inAsync && t.isText "await" then note (.wordInAsync "await") t.start
    if c.inGenerator && t.isText "yield" then note (.wordInGenerator "yield") t.start
    let value ← defaulted g (.mk t.span (.binding t.value)) t.start
    node t.start (.patternProperty false true key value)
  else
    expect ":"
    let value ← defaultedTarget g
    node t.start (.patternProperty computed false key value)

/-- What takes all that the rest of a pattern leaves. -/
def restTarget : Parse Node := do
  let start := (← token).start
  bump
  let target ← g.target
  let t ← token
  if (← dialect).typed && t.isText ":" then note .restPropertyName t.start
  let ascription ← ascription? g
  node start (.rest target ascription)

/-- Items of a pattern up to its closing mark. -/
def patternItems (closing : String) (item : Parse Node) : Nat → List Node → Parse (List Node)
  | 0, acc => return acc.reverse
  | n + 1, acc => do
    let t ← token
    if t.isText closing || t.kind == .eof then return acc.reverse
    let isRest := t.isText "..."
    let x ← if isRest then restTarget g else item
    let u ← token
    if u.isText closing || u.kind == .eof then return (x :: acc).reverse
    if !u.isText "," then fail (.expectedSeparator "," closing u.text) u.start
    bump
    if isRest then
      if ← isAt closing then note .restTrailingComma u.start
      else fail .restElementNotLast x.span.start
    patternItems closing item n (x :: acc)

/-- An element of an array pattern. -/
def patternElement : Parse Node := do
  let t ← token
  if t.isText "," then return .mk ⟨t.start, t.start⟩ .hole else defaultedTarget g

/-- A pattern or a name that is bound. -/
def target : Parse Node := do
  let t ← token
  let inside (c : Context) : Context := { c with allowIn := true }
  if t.isText "[" then
    bump
    let items ← within inside (patternItems g "]" (patternElement g) (← left) [])
    expect "]"
    node t.start (.arrayPattern items)
  else if t.isText "\x7b" then
    bump
    let items ← within inside (patternItems g "\x7d" (patternProperty g) (← left) [])
    for x in items do
      match x.shape with
      | .rest inner _ =>
        match inner.shape with
        | .binding _ => pure ()
        | _ => fail .invalidRest inner.span.start
      | _ => pure ()
    expect "\x7d"
    node t.start (.objectPattern items)
  else bindingName

/-! ### Variables -/

/-- Notes a variable that needs a value and has none. -/
def checkInitial (kind : VarKind) (declared : Bool) (d : Node) : Parse Unit := do
  if declared || (← context).ambient then return ()
  match d.shape with
  | .declarator target _ _ none =>
    match target.shape with
    | .objectPattern _ | .arrayPattern _ => note .missingPatternInit target.span.start
    | _ =>
      if kind == .asConst then note .missingConstInit target.span.start
      else if kind.isUsing then note .missingUsingInit target.span.start
  | _ => return ()

/-- A declared variable with its value. -/
def declarator : Parse Node := do
  let start := (← token).start
  let target ← g.target
  let typed := (← dialect).typed
  let definite ← do
    if typed && (← isAt "!") && !(← token).onNewLine then
      bump
      pure true
    else pure false
  let t ← token
  if typed && t.isText "?" then
    note .optionalDeclaration t.start
    bump
  let ascription ← ascription? g
  let initial ← if ← eat "=" then some <$> g.assignment else pure none
  node start (.declarator target definite ascription initial)

/-- Declared variables, separated by commas. -/
def declarators : Nat → List Node → Parse (List Node)
  | 0, acc => return acc.reverse
  | n + 1, acc => do
    let d ← declarator g
    if ← eat "," then declarators n (d :: acc) else return (d :: acc).reverse

/-- The kind of the variable declaration whose keyword is the current token. -/
def varKind? : Parse (Option VarKind) := do
  let t ← token
  if t.isText "var" then return some .asVar
  else if t.isText "let" then return some .asLet
  else if t.isText "const" then return some .asConst
  else if t.isText "using" then return some .asUsing
  else if t.isText "await" then return some .asAwaitUsing
  else return none

/-- A variable declaration without what ends it. -/
def varBindings (start : Nat) (declared : Bool) : Parse Node := do
  let kind := (← varKind?).getD .asVar
  bump
  if kind == .asAwaitUsing then bump
  let ds ← declarators g (← left) []
  node start (.varDecl kind declared ds)

/-- Checks the values of all variables of a declaration. -/
def checkInitials (n : Node) : Parse Unit := do
  match n.shape with
  | .varDecl kind declared ds => ds.forM (checkInitial kind declared)
  | _ => return ()

/-- Ends the statement and lets the node reach to its end. -/
def ended (n : Node) : Parse Node := do
  endStatement
  return .mk ⟨n.span.start, (← get).lastStop⟩ n.shape

/-! ### The typed dialect -/

/-- A type alias, from its keyword on. -/
def typeAlias (start : Nat) (declared : Bool) : Parse Node := do
  bump
  let name ← bindingName
  let typeParams ← typeParameters? g
  expect "="
  let value ← do
    let t ← token
    if t.isText "intrinsic" && !(← nextIs (·.isText ".")) then
      bump
      node t.start (.typeKeyword "intrinsic")
    else g.type
  endStatement
  node start (.typeAlias declared name typeParams value)

/-- Whether an expression names an interface. -/
def isInterfaceName : Nat → Node → Bool
  | 0, _ => false
  | k + 1, n =>
    match n.shape with
    | .reference _ => true
    | .member object _ false => isInterfaceName k object
    | .heritage inner _ => isInterfaceName k inner
    | _ => false

/-- An interface, from its keyword on. -/
def interface (start : Nat) (declared : Bool) : Parse Node := do
  bump
  let name ← bindingName
  let typeParams ← typeParameters? g
  let clauses ← heritageClauses g (← left) {}
  let members ← typeMembers g
  clauses.bases.forM fun b => do
    if !isInterfaceName b.depth b then note .interfaceBase b.span.start
  clauses.implementsAt.forM (note .interfaceImplements)
  node start (.interface declared name typeParams clauses.bases members)

/-- A member of an enumeration. -/
def enumMember : Parse Node := do
  let t ← token
  let (key, computed) ←
    if t.isText "[" then do
      bump
      let key ← g.expression
      expect "]"
      match key.shape with
      | .stringLit .. => pure (key, true)
      | .template _ [] => pure (key, true)
      | _ =>
        note .computedEnumMember key.span.start
        pure (key, true)
    else if t.kind == .number || t.kind == .bigInt then do
      note .enumMemberName t.start
      propertyKey g
    else propertyKey g
  let initial ← if ← eat "=" then some <$> g.assignment else pure none
  node t.start (.enumMember computed key initial)

/-- An enumeration; its keyword `enum` or `const enum` comes next. -/
def enumDeclaration (start : Nat) (declared : Bool) : Parse Node := do
  let isConst ← eat "const"
  expect "enum"
  let name ← bindingName
  expect "\x7b"
  let (members, _) ← listUntil "\x7d" "," (enumMember g)
  expect "\x7d"
  node start (.enumDecl isConst declared name members)

/-- The body of a namespace. -/
def moduleBlock (declared : Bool) : Parse Node := do
  let start := (← token).start
  expect "\x7b"
  let inside (c : Context) : Context :=
    { c with
      allowIn := true, inAsync := false, inGenerator := false, topLevel := false,
      ambient := c.ambient || declared }
  let (directives, body) ← within inside (bodyFrom g true (← left) true [] [])
  expect "\x7d"
  node start (.moduleBlock directives body)

/-- A namespace with a dotted name, from the name on. -/
def namespaceFrom (keyword : String) (declared : Bool) : Nat → Nat → Parse Node
  | 0, _ => unexpected
  | n + 1, start => do
    let name ← bindingName
    if ← eat "." then
      let innerStart := (← token).start
      let inner ← namespaceFrom keyword declared n innerStart
      node start (.moduleDecl keyword declared name (some inner))
    else
      let body ← moduleBlock g declared
      node start (.moduleDecl keyword declared name (some body))

/-- A namespace or the declaration of a module. -/
def moduleDeclaration (start : Nat) (declared : Bool) : Parse Node := do
  let t ← token
  if t.isText "global" then
    bump
    let name := Node.mk t.span (.binding "global")
    let body ← moduleBlock g declared
    node start (.moduleDecl "global" declared name (some body))
  else
    bump
    if (← token).kind == .string then
      let name ← stringLiteral
      let body ←
        if ← isAt "\x7b" then some <$> moduleBlock g declared
        else do
          endStatement
          pure none
      node start (.moduleDecl t.text declared name body)
    else namespaceFrom g t.text declared (← left) start

/-- An import by assignment, from its name on. -/
def importEquals (start : Nat) (typeOnly : Bool) : Parse Node := do
  let name ← bindingName
  expect "="
  let t ← token
  let target ←
    if t.isText "require" && (← nextIs (·.isText "(")) then do
      bump
      bump
      let source ← stringLiteral
      expect ")"
      node t.start (.externalModule source)
    else typeName
  endStatement
  modify fun s =>
    match target.shape with
    | .externalModule _ => { s with sawModule := true }
    | _ => s
  node start (.importEquals typeOnly name target)

/-- Whether a declaration of the typed dialect follows, after any number of modifiers. -/
def typedDeclarationAhead : Nat → Parse Bool
  | 0 => return false
  | n + 1 => do
    let t ← token
    if t.isAny ["var", "let", "const", "function", "class", "enum"] then return true
    if t.isAny ["interface", "type"] then
      bump
      let u ← token
      return u.isBindable && !u.onNewLine
    if t.isAny ["module", "namespace"] then
      bump
      let u ← token
      return (u.isBindable || u.kind == .string) && !u.onNewLine
    if t.isAny ["abstract", "accessor", "async", "declare", "private", "protected", "public",
        "readonly"] then
      bump
      let u ← token
      if u.onNewLine then return false
      if t.isText "declare" && u.isText "type" then return true
      typedDeclarationAhead n
    else if t.isText "global" then
      bump
      let u ← token
      return u.isText "\x7b" || u.isBindable || u.isText "export"
    else if t.isText "import" then
      bump
      let u ← token
      return u.kind == .string || u.isText "*" || u.isText "\x7b" || u.isName
    else if t.isText "static" then
      bump
      typedDeclarationAhead n
    else return false

/-- Whether a declaration of the typed dialect starts here. -/
def atTypedDeclaration : Parse Bool := do
  let t ← token
  if !(← dialect).typed then return false
  if !t.isAny ["interface", "type", "module", "namespace", "abstract", "accessor", "async",
      "declare", "private", "protected", "public", "readonly", "global", "static", "enum"] then
    return false
  ahead (typedDeclarationAhead (← left))

/-- A declaration after its modifiers, in the form its first word tells. -/
def declarationForm (start : Nat) (decorators : List Node) (ms : List WrittenModifier) :
    Parse Node := do
  let declared := hasModifier ms "declare"
  let only (allowed : List String) : Parse Unit := allowOnly allowed .modifierHere ms
  let t ← token
  if t.isAny ["module", "namespace", "global"] then
    let d ← moduleDeclaration g start declared
    only ["declare"]
    return d
  else if t.isText "type" then
    let d ← typeAlias g start declared
    only ["declare"]
    return d
  else if t.isText "enum" || t.isText "const" && (← nextIs (·.isText "enum")) then
    let d ← enumDeclaration g start declared
    only ["declare", "const"]
    return d
  else if t.isText "interface" then
    let d ← interface g start declared
    only ["declare"]
    return d
  else if t.isText "class" then
    let d ← classFrom g start decorators false (hasModifier ms "abstract") declared
    only ["declare", "abstract"]
    return d
  else if t.isText "import" then
    bump
    importEquals start false
  else if t.isAny ["var", "let", "const", "using"] then
    let d ← varBindings g start declared
    checkInitials d
    let d ← ended d
    only ["declare"]
    return d
  else if t.isText "function" then
    let d ← function g start false false (hasModifier ms "async") declared
    only ["declare", "async"]
    return d
  else unexpected

/-- A declaration after its modifiers. -/
def declarationAfter (start : Nat) (decorators : List Node) (ms : List WrittenModifier) :
    Parse Node := do
  let declared := hasModifier ms "declare"
  let t ← token
  let typedOnly := t.isAny ["module", "namespace", "global", "type", "enum", "interface"]
  if typedOnly && !(← dialect).typed then unexpected
  if !t.isText "class" then refuseDecorators decorators
  within (fun c => { c with ambient := c.ambient || declared })
    (declarationForm g start decorators ms)

/-- A declaration of the typed dialect, with its modifiers. -/
def typedDeclaration : Parse Node := do
  let start := (← token).start
  let ms ← modifiers false
  declarationAfter g start [] ms

end Playground.Script.Parse
