import Playground.Script.Parse.Function

/-!
# Classes

Reads classes: heritage, members with their modifiers, and the checks that hang on the way a
member is written.
-/

namespace Playground.Script.Parse

variable (g : Grammar)

/-! ### Heritage -/

/-- An item of a heritage clause: an expression with type arguments. -/
def heritageItem : Parse Node := do
  let start := (← token).start
  let inner ← g.leftHand
  match inner.shape with
  | .instantiate base args => node start (.heritage base (some args))
  | _ =>
    let args ← typeArguments? g
    node start (.heritage inner args)

/-- Items of a heritage clause, separated by commas. -/
def heritageItems (item : Parse Node) : Nat → List Node → Parse (List Node)
  | 0, acc => return acc.reverse
  | n + 1, acc => do
    let x ← item
    if ← eat "," then heritageItems item n (x :: acc) else return (x :: acc).reverse

/-- An item of an `implements` clause. -/
def implementedItem : Parse Node := do
  let start := (← token).start
  let name ← typeName
  let args ← lineTypeArguments? g
  node start (.heritage name args)

/-- The clauses between the name and the body of a class or interface. -/
structure Heritage where
  bases : List Node := []
  implemented : List Node := []
  /-- where `extends` stands, and where `implements` stands first -/
  extendsAt : Option Nat := none
  implementsAt : Option Nat := none
deriving Inhabited

/-- The classes a class extends and the interfaces it implements. -/
def heritageClauses : Nat → Heritage → Parse Heritage
  | 0, h => return h
  | n + 1, h => do
    let t ← token
    if ← isAt "extends" then
      match h.extendsAt, h.implementsAt with
      | some _, _ => note .extendsTwice t.start
      | none, some start => note .extendsAfterImplements start
      | none, none => pure ()
      bumpWord
      let bases ← heritageItems (heritageItem g) (← left) []
      heritageClauses n { h with bases, extendsAt := some t.start }
    else if (← isAt "implements") && (← dialect).typed then
      match h.implementsAt with
      | some start => note .implementsTwice start
      | none => pure ()
      bumpWord
      let items ← heritageItems (implementedItem g) (← left) []
      heritageClauses n
        { h with
          implemented := h.implemented ++ items
          implementsAt := some (h.implementsAt.getD t.start) }
    else return h

/-! ### Members -/

/-- The name of a member. -/
def memberKey : Parse (Node × Bool) := do
  let t ← token
  if t.kind == .privateIdent then
    bump
    if t.value == "constructor" then note .privateConstructor t.start
    return (← node t.start (.privateName t.value), false)
  else propertyKey g

/-- The name of a member, if it is known when the class is read. -/
def keyName? (key : Node) (computed : Bool) : Option String :=
  if computed then none
  else
    match key.shape with
    | .propertyName s => some s
    | .stringLit s _ => some s
    | _ => none

/-- Whether a key names the constructor. -/
def isConstructorKey (key : Node) (computed : Bool) : Bool :=
  keyName? key computed == some "constructor"

/-- Checks on the name of a member that is not a plain constructor. -/
def checkMemberName (ms : List WrittenModifier) (key : Node) (computed : Bool) : Parse Unit := do
  match key.shape with
  | .privateName _ =>
    match ms.find? (accessWords.contains ·.word) with
    | some m => note .privateAccess m.start
    | none => pure ()
  | _ => pure ()
  if hasModifier ms "static" && keyName? key computed == some "prototype" then
    note .staticPrototype key.span.start

/-- Whether the current token may be the name of a member. -/
def atMemberKey : Parse Bool := do
  let t ← token
  return t.isName || t.kind == .string || t.kind == .number || t.kind == .bigInt ||
    t.kind == .privateIdent || t.isText "["

/-- The modifiers that a member may have. -/
def memberModifiers : List String :=
  ["abstract", "accessor", "async", "declare", "public", "private", "protected", "override",
   "readonly", "static"]

/-- Notes modifiers that only a field may have. -/
def checkMethodModifiers (ms : List WrittenModifier) : Parse Unit := do
  refuseReadonly ms
  allowOnly (memberModifiers.filter (· != "declare"))
    (.modifierOn · "class elements of this kind") (ms.filter (·.word == "declare"))

/-- Notes what an abstract member has that only its implementation may have. -/
def refuseAbstract (ms : List WrittenModifier) (found : Bool) (cause : String → Cause)
    (key : Node) : Parse Unit := do
  if found && hasModifier ms "abstract" then
    note (cause (← slice key.span.start key.span.stop)) key.span.start

/-- Notes the body of an abstract method. -/
def checkAbstract (ms : List WrittenModifier) (value : Node) (cause : String → Cause)
    (key : Node) : Parse Unit := do
  match value.shape with
  | .function f => refuseAbstract ms f.body.isSome cause key
  | _ => pure ()

/-- A getter or setter, from its name on. -/
def accessorMember (start : Nat) (kind : MethodKind) (decorators : List Node)
    (ms : List WrittenModifier) : Parse Node := do
  let (key, computed) ← memberKey g
  checkMemberName ms key computed
  checkMethodModifiers ms
  if isConstructorKey key computed && !hasModifier ms "static" then
    note .constructorAccessor key.span.start
  let value ← methodFunction g .ordinary false false
  checkAccessor kind value
  checkAbstract ms value .accessorBody key
  node start (.method ⟨kind, decorators, toModifiers ms, computed, key, value⟩)

/-- A method, from its parameters on. -/
def methodMember (start : Nat) (decorators : List Node) (ms : List WrittenModifier)
    (isGenerator optional : Bool) (key : Node) (computed : Bool) : Parse Node := do
  let isAsync := hasModifier ms "async"
  let isConstructor := isConstructorKey key computed && !hasModifier ms "static"
  if isConstructor then
    refuseDecorators decorators
    if isAsync then note .constructorAsync key.span.start
    else if isGenerator then note .constructorGenerator key.span.start
    allowOnly ["public", "private", "protected", "async", "abstract"]
      (.modifierOn · "a constructor declaration") ms
  else checkMethodModifiers ms
  let value ← methodFunction g (if isConstructor then .constructor else .ordinary) isAsync
    isGenerator
  if isConstructor then
    match value.shape with
    | .function f =>
      match f.typeParams, f.thisParam with
      | some p, _ => note .typeParamsOnConstructor p.span.start
      | none, some p => note .thisInConstructor p.span.start
      | none, none => pure ()
    | _ => pure ()
  match decorators.head?, value.shape with
  | some d, .function f => if f.body.isNone then note .decoratorOnOverload d.span.start
  | _, _ => pure ()
  if !isConstructor then checkAbstract ms value .abstractBody key
  let kind : MethodKind := if isConstructor then .constructor else .method
  let modifiers := { toModifiers ms with isOptional := optional }
  node start (.method ⟨kind, decorators, modifiers, computed, key, value⟩)

/-- A field, from what follows its name. -/
def fieldMember (start : Nat) (decorators : List Node) (ms : List WrittenModifier)
    (optional : Bool) (key : Node) (computed : Bool) : Parse Node := do
  if isConstructorKey key computed then note .constructorField key.span.start
  let definite ← do
    if (← dialect).typed then eat "!" else pure false
  let ascription ← ascription? g
  let initial ← do
    if ← eat "=" then
      let inside (c : Context) : Context :=
        { c with allowIn := true, inAsync := false, inGenerator := false, topLevel := false }
      some <$> within inside g.assignment
    else pure none
  endStatement
  refuseAbstract ms initial.isSome .abstractInitializer key
  if hasModifier ms "accessor" then
    allowOnly ["accessor", "public", "private", "protected", "static", "abstract", "override"]
      .accessorModifier ms
  let modifiers := { toModifiers ms with isOptional := optional, isDefinite := definite }
  node start
    (.field ⟨hasModifier ms "accessor", decorators, modifiers, computed, key, ascription,
      initial⟩)

/-- A block that runs when the class is made; `await` is no name in it. -/
def staticBlock (start : Nat) : Parse Node := do
  bump
  expect "\x7b"
  let inside (c : Context) : Context :=
    { c with
      allowIn := true, inAsync := true, inGenerator := false, inFunction := false,
      topLevel := false }
  let body ← within inside
    (repeatUntil "\x7d" (some <$> g.statement .list) (← left) [])
  expect "\x7d"
  node start (.staticBlock body)

/-- A member of a class; semicolons between members are passed. -/
def member : Parse (Option Node) := do
  let start := (← token).start
  let decorators ← decorators g
  let ms ← modifiers true
  if (← isAt "static") && (← nextIs (·.isText "\x7b")) then
    refuseDecorators decorators
    return some (← staticBlock g start)
  let refusal (word : String) : Cause :=
    if word == "const" then .constInClass else .modifierOn word "class elements of this kind"
  allowOnly memberModifiers refusal ms
  if ← atAccessorWord "get" then
    bump
    return some (← accessorMember g start .getter decorators ms)
  if ← atAccessorWord "set" then
    bump
    return some (← accessorMember g start .setter decorators ms)
  if (← dialect).typed && (← atIndexSignature) then
    refuseDecorators decorators
    allowOnly ["readonly", "static"] (.modifierOn · "an index signature") ms
    return some (← indexSignature g start (toModifiers ms))
  let isGenerator ← eat "*"
  if !(← atMemberKey) then unexpected
  let (key, computed) ← memberKey g
  checkMemberName ms key computed
  let mark ← token
  let optional ← do
    if (← dialect).typed then eat "?" else pure false
  if hasModifier ms "accessor" then
    if optional then note .accessorOptional mark.start
    return some (← fieldMember g start decorators ms optional key computed)
  splitLeftAngle
  if isGenerator || (← isAtAny ["(", "<"]) then
    return some (← methodMember g start decorators ms isGenerator optional key computed)
  if optional && (← isAt "!") then note .optionalDefinite mark.start
  return some (← fieldMember g start decorators ms optional key computed)

/-- The members of a class up to the closing brace. -/
def members : Nat → List Node → Parse (List Node)
  | 0, acc => return acc.reverse
  | n + 1, acc => do
    let t ← token
    if t.isText "\x7d" || t.kind == .eof then return acc.reverse
    if ← eat ";" then members n acc
    else
      match ← member g with
      | some m => members n (m :: acc)
      | none => return acc.reverse

/-- A class whose keyword comes next, after its decorators and modifiers. -/
def classFrom (start : Nat) (decorators : List Node) (isExpression isAbstract declared : Bool) :
    Parse Node := do
  bump
  let t ← token
  let named := t.isBindable && !(t.isText "implements")
  let name ← if named then some <$> bindingName else pure none
  let typeParams ← typeParameters? g
  let clauses ← heritageClauses g (← left) {}
  let (heritage, heritageArgs) :=
    match clauses.bases with
    | b :: _ =>
      match b.shape with
      | .heritage inner args => (some inner, args)
      | _ => (some b, none)
    | [] => (none, none)
  (clauses.bases.drop 1).forM fun b => note .extendsMany b.span.start
  let bodyStart := (← token).start
  expect "\x7b"
  let inside (c : Context) : Context :=
    { c with topLevel := false, ambient := c.ambient || declared, inDecorator := false }
  let ms ← within inside (members g (← left) [])
  expect "\x7d"
  let bodySpan : Span := ⟨bodyStart, (← get).lastStop⟩
  node start
    (.classDef ⟨isExpression, decorators, name, typeParams, heritage, heritageArgs,
      clauses.implemented, ms, bodySpan, isAbstract, declared⟩)

end Playground.Script.Parse
