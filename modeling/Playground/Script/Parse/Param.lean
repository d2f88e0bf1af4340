import Playground.Script.Parse.Basic
import Playground.Script.Depth

/-!
# Modifiers, parameters and what types them

The words in front of members and parameters, lists of type parameters and arguments, formal
parameters and return types.
-/

namespace Playground.Script.Parse

/-! ### Modifiers -/

/-- Words that may modify a declaration. -/
def modifierWords : List String :=
  ["abstract", "accessor", "async", "const", "declare", "default", "export", "in", "public",
   "private", "protected", "override", "readonly", "static", "out"]

/-- Whether a member or parameter may start with the token, so that a word before it modifies
it. -/
def followsModifier (t : Token) : Bool :=
  t.isName || t.kind == .string || t.kind == .number || t.kind == .bigInt ||
    t.kind == .privateIdent || t.isAny ["[", "\x7b", "*", "..."]

/-- Whether the current word modifies what follows; in a class `const` is read as a modifier, too,
although no member may have it. -/
def atModifier (inClass : Bool) : Parse Bool := do
  let t ← token
  if !t.isAny modifierWords then return false
  if t.text == "const" && !inClass then nextIs (·.isText "enum")
  else if t.text == "static" then nextIs followsModifier
  else nextOnSameLine followsModifier

/-- A modifier as written, and where. -/
structure WrittenModifier where
  word : String
  start : Nat
deriving Inhabited

/-- Words that say who may reach a member. -/
def accessWords : List String := ["public", "private", "protected"]

/-- The words a modifier must come before. -/
def laterWords (word : String) : List String :=
  if accessWords.contains word then ["override", "static", "accessor", "readonly", "async"]
  else if word == "static" then ["readonly", "async", "accessor", "override"]
  else if word == "override" then ["readonly", "accessor", "async"]
  else if word == "abstract" then ["override", "accessor"]
  else if word == "declare" then ["async", "override"]
  else []

/-- Notes modifiers that repeat or stand in the wrong order. -/
def checkModifier (seen : List WrittenModifier) (m : WrittenModifier) : Parse Unit := do
  if accessWords.contains m.word && seen.any (accessWords.contains ·.word) then
    note .accessTwice m.start
  else if seen.any (·.word == m.word) then note (.modifierTwice m.word) m.start
  else
    match (laterWords m.word).find? (fun w => seen.any (·.word == w)) with
    | some w => note (.modifierOrder m.word w) m.start
    | none => return ()

/-- Takes modifiers as long as they are followed by something to modify. -/
def modifiersFrom (inClass : Bool) : Nat → List WrittenModifier → Parse (List WrittenModifier)
  | 0, acc => return acc
  | n + 1, acc => do
    let t ← token
    if !(← atModifier inClass) then return acc
    if t.text == "static" then
      -- the second one is the name of the member
      if acc.any (·.word == "static") then return acc
      if inClass && (← nextIs (·.isText "\x7b")) then return acc
    let m : WrittenModifier := ⟨t.text, t.start⟩
    checkModifier acc m
    bumpWord
    modifiersFrom inClass n (acc ++ [m])

/-- Takes the modifiers in front of a declaration. -/
def modifiers (inClass : Bool) : Parse (List WrittenModifier) := do
  modifiersFrom inClass (← left) []

/-- Notes every modifier that is not one of the allowed ones. -/
def allowOnly (allowed : List String) (cause : String → Cause) (ms : List WrittenModifier) :
    Parse Unit :=
  ms.forM fun m => do
    if !allowed.contains m.word then note (cause m.word) m.start

/-- Whether a word is among the modifiers. -/
def hasModifier (ms : List WrittenModifier) (word : String) : Bool := ms.any (·.word == word)

/-- The modifiers as flags. -/
def toModifiers (ms : List WrittenModifier) : Modifiers where
  access :=
    if hasModifier ms "public" then some .publicAccess
    else if hasModifier ms "private" then some .privateAccess
    else if hasModifier ms "protected" then some .protectedAccess
    else none
  isStatic := hasModifier ms "static"
  isReadonly := hasModifier ms "readonly"
  isAbstract := hasModifier ms "abstract"
  isOverride := hasModifier ms "override"
  isDeclare := hasModifier ms "declare"

/-! ### Type parameters and arguments -/

variable (g : Grammar)

/-- Takes a closing angle bracket, alone even if more marks follow it. -/
def expectRightAngle : Parse Unit := do
  splitRightAngle
  expect ">"

/-- A parameter of a generic declaration. -/
def typeParameter : Parse Node := do
  let start := (← token).start
  let ms ← modifiersFrom false (← left) []
  let constWord ← isAt "const"
  if constWord then bump
  allowOnly ["in", "out", "const"] (.modifierOn · "a type parameter") ms
  let t ← token
  let name ← bindingName
  let bound ← if ← eat "extends" then some <$> g.type else pure none
  let default ← if ← eat "=" then some <$> g.type else pure none
  let nameText := match name.shape with | .binding s => s | _ => t.value
  node start
    (.typeParameter nameText (constWord || hasModifier ms "const") (hasModifier ms "in")
      (hasModifier ms "out") bound default)

/-- Type parameters in angle brackets, if there are any. -/
def typeParameters? : Parse (Option Node) := do
  let d ← dialect
  if !d.typed then return none
  splitLeftAngle
  if !(← isAt "<") then return none
  let start := (← token).start
  bump
  let (items, _) ← listUntil ">" "," (typeParameter g)
  expect ">"
  if items.isEmpty then note .emptyTypeParams start
  return some (← node start (.typeParameters items))

/-- Type arguments in angle brackets; the current token is the opening one. -/
def typeArguments : Parse Node := do
  splitLeftAngle
  let start := (← token).start
  expect "<"
  let (items, _) ← listUntil ">" "," g.type
  expectRightAngle
  if items.isEmpty then note .emptyTypeArgs start
  node start (.typeArguments items)

/-- Type arguments, if there are any. -/
def typeArguments? : Parse (Option Node) := do
  let d ← dialect
  if !d.typed then return none
  splitLeftAngle
  if ← isAt "<" then some <$> typeArguments g else return none

/-- Whether type arguments in an expression may be followed by the token. -/
def followsTypeArguments (t : Token) : Bool :=
  if t.isAny ["(", "?."] || t.isTemplateStart then true
  else if t.isAny ["<", ">", "+", "-"] then false
  else
    -- anything that cannot start an expression, or stands on a line of its own
    t.onNewLine || t.kind == .eof ||
      (t.kind == .punct && !t.isAny ["[", "\x7b", "!", "~", "@", "++", "--", "/", "/="]) ||
      t.isAny ["in", "instanceof", "as", "satisfies"]

/-- Type arguments in an expression, where the bracket may as well be an operator. -/
def expressionTypeArguments : Parse (Option Node) := do
  let d ← dialect
  if !d.typed then return none
  attempt do
    splitLeftAngle
    let start := (← token).start
    expect "<"
    let (items, _) ← listUntil ">" "," g.type
    if items.isEmpty then fail .emptyTypeArgs start
    if !(← isAt ">") then unexpected
    -- a bracket with more marks behind it is an operator
    joinRightAngle
    if !(← isAt ">") then unexpected
    bump
    let t ← token
    if !(followsTypeArguments t) then unexpected
    node start (.typeArguments items)

/-- Notes a mark in front of the type of a variable or behind it. -/
def checkMarked (n : Node) : Parse Unit :=
  match n.shape with
  | .typeOperator "?" _ => note (.typeMark '?' "start") n.span.start
  | .typeOperator "!" _ => note (.typeMark '!' "start") n.span.start
  | .typeMarked _ "?" => note (.typeMark '?' "end") n.span.start
  | .typeMarked _ "!" => note (.typeMark '!' "end") n.span.start
  | _ => return ()

/-- A type after a colon, if there is one. -/
def ascription? : Parse (Option Node) := do
  if ← eatTyped ":" then
    let t ← g.type
    checkMarked t
    return some t
  else return none

/-! ### Return types -/

/-- A type that a function answers with: a type, or what its answer says about an argument. -/
def returnType : Parse Node := do
  let t ← token
  let asserts ← do
    if t.isText "asserts" then
      nextOnSameLine fun u => u.isBindable || u.isText "this"
    else pure false
  if asserts then
    bump
    let s ← token
    let subject ← if s.isText "this" then do bump; node s.start .typeThis else referenceName
    let ascribed ← if ← eat "is" then some <$> g.type else pure none
    node t.start (.typePredicate true subject ascribed)
  else
    let isPredicate ← do
      if t.isBindable then nextOnSameLine (·.isText "is") else pure false
    if isPredicate then
      let subject ← referenceName
      bump
      let ascribed ← g.type
      node t.start (.typePredicate false subject (some ascribed))
    else g.type

/-- A return type after the given mark, if there is one. -/
def returnType? (mark : String) : Parse (Option Node) := do
  if ← eatTyped mark then
    let t ← within ({ · with noConditional := false }) (returnType g)
    checkMarked t
    return some t
  else return none

/-! ### Parameters -/

/-- What kind of function the parameters belong to. -/
inductive ParamPlace where
  /-- a function or method with a body -/
  | ordinary
  | arrow
  | constructor
  /-- a signature in a type -/
  | signature
deriving DecidableEq

/-- Whether an expression is a dotted name, or a call of one if calls are allowed. -/
def isDecoratorName : Nat → Bool → Node → Bool
  | 0, _, _ => false
  | k + 1, mayCall, n =>
    match n.shape with
    | .reference _ => true
    | .member object _ false | .privateMember object _ false => isDecoratorName k false object
    | .call callee _ _ false _ => mayCall && isDecoratorName k false callee
    | .nonNull inner | .instantiate inner _ => isDecoratorName k mayCall inner
    | _ => false

/-- Notes an expression that may be a decorator in parentheses only. -/
def checkDecorator (inner : Node) : Parse Unit :=
  match inner.shape with
  | .paren _ => return ()
  | _ =>
    if isDecoratorName inner.depth true inner then return ()
    else note .decoratorExpression inner.span.start

/-- Decorators in front of a declaration. -/
def decoratorsFrom : Nat → List Node → Parse (List Node)
  | 0, acc => return acc.reverse
  | n + 1, acc => do
    let t ← token
    if !t.isText "@" then return acc.reverse
    bump
    let inner ← within ({ · with inDecorator := true }) g.leftHand
    checkDecorator inner
    let d ← node t.start (.decorator inner)
    decoratorsFrom n (d :: acc)

/-- Notes decorators in front of something that takes none. -/
def refuseDecorators (ds : List Node) : Parse Unit :=
  ds.forM fun d => note .decoratorsHere d.span.start

/-- The decorators in front of a declaration. -/
def decorators : Parse (List Node) := do decoratorsFrom g (← left) []

/-- A target with a default, as in patterns and parameters. -/
def defaulted (target : Node) (start : Nat) : Parse Node := do
  if ← eat "=" then
    let value ← within ({ · with allowIn := true }) g.assignment
    node start (.withDefault target value)
  else return target

/-- A parameter that takes the rest of the arguments. -/
def restParameter : Parse Node := do
  let t ← token
  bump
  let target ← g.target
  let u ← token
  if u.isText "?" && (← dialect).typed then
    bump
    note .optionalRest u.start
  let ascription ← ascription? g
  if ← isAt "=" then
    note .restInitializer (← token).start
    bump
    let _ ← g.assignment
  node t.start (.rest target ascription)

/-- A formal parameter. -/
def parameter (place : ParamPlace) : Parse Node := do
  let t ← token
  let decorators ← decorators g
  if !(← dialect).typed then refuseDecorators decorators
  let ms ← do
    if (← dialect).typed then modifiersFrom false (← left) [] else pure []
  if place == .constructor then
    allowOnly ["public", "private", "protected", "override", "readonly"]
      (.modifierOn · "a parameter") ms
  else
    match ms.head? with
    | some m => note .parameterProperty m.start
    | none => pure ()
  if ← isAt "..." then restParameter g
  else
    let target ← g.target
    let u ← token
    let isOptional := u.isText "?" && (← dialect).typed
    if isOptional then bump
    let ascription ← ascription? g
    let initial ← do
      if ← eat "=" then some <$> within ({ · with allowIn := true }) g.assignment
      else pure none
    if isOptional && initial.isSome then note .optionalInitializer target.span.start
    node t.start
      (.param ⟨decorators, { toModifiers ms with isOptional }, target, ascription, initial⟩)

/-- Parameters up to the closing parenthesis. -/
def parameterList (place : ParamPlace) : Nat → List Node → Parse (List Node)
  | 0, acc => return acc.reverse
  | n + 1, acc => do
    let t ← token
    if t.isText ")" || t.kind == .eof then return acc.reverse
    let p ← parameter g place
    let isRest := match p.shape with | .rest .. => true | _ => false
    let u ← token
    if u.isText ")" || u.kind == .eof then return (p :: acc).reverse
    if !u.isText "," then fail (.expectedSeparator "," ")" u.text) u.start
    bump
    if isRest then
      if ← isAt ")" then
        if !(← context).ambient then note .restTrailingComma u.start
      else note .restNotLast p.span.start
    parameterList place n (p :: acc)

/-- The parameter `this` of a function, which only has a type. -/
def thisParameter? : Parse (Option Node) := do
  let t ← token
  if (← dialect).typed && t.isText "this" then
    bump
    let ascription ← ascription? g
    if !(← isAt ")") then expect ","
    let target ← node t.start (.binding "this")
    return some (← node t.start (.param ⟨[], {}, target, ascription, none⟩))
  else return none

/-- Parameters in parentheses: the one for `this`, if there is one, and the others. -/
def parameters (place : ParamPlace) : Parse (Option Node × Node) := do
  let start := (← token).start
  expect "("
  let thisParam ← thisParameter? g
  let items ← within ({ · with allowIn := true }) (parameterList g place (← left) [])
  expect ")"
  return (thisParam, ← node start (.params items))

end Playground.Script.Parse
