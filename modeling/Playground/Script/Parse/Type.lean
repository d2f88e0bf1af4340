import Playground.Script.Parse.Param
import Playground.Script.Numeral

/-!
# Types

Reads the types of the typed dialect: unions down to keywords, function types, object types with
their members, tuples, mapped types and templates.
-/

namespace Playground.Script.Parse

variable (g : Grammar)

/-! ### What a type starts with -/

/-- Whether a type may start with the current token. -/
def atTypeStart : Parse Bool := do
  let t ← token
  if t.isBindable || t.kind == .string || t.kind == .number || t.kind == .bigInt ||
      t.isTemplateStart then
    return true
  if t.isAny ["void", "null", "this", "typeof", "\x7b", "[", "<", "<<", "|", "&", "new", "true",
      "false", "*", "?", "!", "...", "import", "function", "("] then
    return true
  if t.isText "-" then nextIs fun u => u.kind == .number || u.kind == .bigInt
  else return false

/-- Passes what may start a parameter. -/
def skipParameterStart : Parse Bool := do
  let _ ← modifiersFrom false (← left) []
  let t ← token
  if t.isBindable || t.isText "this" then
    bump
    return true
  if t.isAny ["[", "\x7b"] then
    let before := (← get).faults.size
    let _ ← g.target
    return (← get).faults.size == before
  return false

/-- Whether an opening parenthesis starts the parameters of a function type. -/
def atFunctionParameters : Parse Bool :=
  ahead do
    bump
    let t ← token
    if t.isAny [")", "..."] then return true
    if !(← skipParameterStart g) then return false
    let u ← token
    if u.isAny [":", ",", "?", "="] then return true
    if u.isText ")" then
      bump
      isAt "=>"
    else return false

/-- Whether a function or constructor type follows. -/
def atFunctionType : Parse Bool := do
  let t ← token
  if t.isAny ["<", "new"] then return true
  if t.isText "(" then atFunctionParameters g
  else if t.isText "abstract" then nextIs (·.isText "new")
  else return false

/-- A function or constructor type. -/
def functionType : Parse Node := do
  let start := (← token).start
  let isAbstract ← eat "abstract"
  let isConstructor ← eat "new"
  let typeParams ← typeParameters? g
  let (thisParam, formals) ← parameters g .signature
  expect "=>"
  let result ← returnType g
  if isConstructor then node start (.typeConstructor isAbstract typeParams formals result)
  else node start (.typeFunction typeParams thisParam formals result)

/-! ### Names -/

/-- The parts of a dotted name after its first. -/
def qualifiers (start : Nat) : Nat → Node → Parse Node
  | 0, n => return n
  | k + 1, n => do
    if ← eat "." then
      let (name, _) ← anyName
      qualifiers start k (← node start (.qualified n name))
    else return n

/-- A dotted name. -/
def typeName : Parse Node := do
  let t ← token
  let first ←
    if t.isText "this" then do
      bump
      node t.start .thisExpr
    else do
      let (name, _) ← anyName
      node t.start (.reference name)
  qualifiers t.start (← left) first

/-- Type arguments on the same line, if there are any. -/
def lineTypeArguments? : Parse (Option Node) := do
  if (← token).onNewLine then return none
  typeArguments? g

/-- A named type with its arguments. -/
def typeReference : Parse Node := do
  let start := (← token).start
  let name ← typeName
  let args ← lineTypeArguments? g
  node start (.typeReference name args)

/-! ### Members of object types -/

/-- What ends a member of an object type. -/
def endTypeMember : Parse Unit := do
  if ← eat "," then return ()
  endStatement

/-- The name of a property: a word, a literal, or an expression in brackets. -/
def propertyKey : Parse (Node × Bool) := do
  let t ← token
  if t.kind == .string then return (← stringLiteral, false)
  else if t.kind == .number then
    bump
    let raw ← slice t.start t.stop
    return (← node t.start (.numberLit (numeralValue raw) (some raw)), false)
  else if t.kind == .bigInt then
    bump
    return (← node t.start (.bigIntLit (bigNumeralDigits (← slice t.start t.stop))), false)
  else if t.isText "[" then
    bump
    let key ← within ({ · with allowIn := true, inDecorator := false }) g.assignment
    expect "]"
    return (key, true)
  else
    let (name, _) ← anyName
    return (← node t.start (.propertyName name), false)

/-- Whether an opening bracket starts an index signature. -/
def atIndexSignature : Parse Bool := do
  if !(← isAt "[") then return false
  ahead do
    bump
    let t ← token
    if t.isAny ["...", "]"] then return true
    if t.isAny modifierWords && t.isBindable then
      bump
      if (← token).isBindable then return true
    else if !t.isBindable then return false
    else bump
    let u ← token
    if u.isAny [":", ","] then return true
    if !u.isText "?" then return false
    nextIs (·.isAny [":", ",", "]"])

/-- The parameter of an index signature. -/
def indexParameter : Parse Node := do
  let t ← token
  let target ← bindingName
  let u ← token
  if ← eat "?" then note .indexOptional u.start
  let ascription ← ascription? g
  node t.start (.param ⟨[], {}, target, ascription, none⟩)

/-- An index signature, without what ends it. -/
def indexSignature (start : Nat) (modifiers : Modifiers) : Parse Node := do
  let bracket ← token
  expect "["
  let (formals, _) ← listUntil "]" "," (indexParameter g)
  expect "]"
  if formals.length != 1 then note .indexSingle bracket.start
  if !(← isAt ":") then fail .indexUntyped bracket.start
  bump
  let value ← g.type
  endTypeMember
  node start (.indexSignature modifiers formals value)

/-- Whether a word like `get` stands before the name it modifies. -/
def atAccessorWord (word : String) : Parse Bool := do
  if !(← isAt word) then return false
  nextIs fun t =>
    t.isName || t.kind == .string || t.kind == .number || t.kind == .bigInt ||
      t.kind == .privateIdent || t.isText "["

/-- A signature of a call or of a construction. -/
def callSignature (isConstructor : Bool) : Parse Node := do
  let start := (← token).start
  if isConstructor then bump
  let typeParams ← typeParameters? g
  let (thisParam, formals) ← parameters g .signature
  let result ← returnType? g ":"
  endTypeMember
  if isConstructor then node start (.constructSignature typeParams formals result)
  else node start (.callSignature typeParams thisParam formals result)

/-- A signature of a method, from its name on. -/
def methodSignature (start : Nat) (kind : MethodKind) (key : Node) (computed optional : Bool) :
    Parse Node := do
  let typeParams ← typeParameters? g
  let (thisParam, formals) ← parameters g .signature
  let result ← returnType? g ":"
  endTypeMember
  node start
    (.methodSignature kind optional computed key typeParams thisParam formals result)

/-- Notes `readonly` in front of a member that cannot be written anyway. -/
def refuseReadonly (ms : List WrittenModifier) : Parse Unit :=
  match ms.find? (·.word == "readonly") with
  | some m => note .readonlyPlace m.start
  | none => return ()

/-- A member of an object type. -/
def typeMember : Parse (Option Node) := do
  let t ← token
  if t.isAny ["(", "<"] then return some (← callSignature g false)
  if t.isText "new" && (← nextIs (·.isAny ["(", "<"])) then
    return some (← callSignature g true)
  let ms ← modifiersFrom false (← left) []
  allowOnly ["readonly"] (.modifierOn · "a type member") ms
  let isReadonly := hasModifier ms "readonly"
  if ← atAccessorWord "get" then
    bump
    refuseReadonly ms
    let (key, computed) ← propertyKey g
    return some (← methodSignature g t.start .getter key computed false)
  if ← atAccessorWord "set" then
    bump
    refuseReadonly ms
    let (key, computed) ← propertyKey g
    return some (← methodSignature g t.start .setter key computed false)
  if ← atIndexSignature then
    return some (← indexSignature g t.start (toModifiers ms))
  let (key, computed) ← propertyKey g
  let optional ← eat "?"
  if ← isAtAny ["(", "<"] then
    refuseReadonly ms
    return some (← methodSignature g t.start .method key computed optional)
  let ascription ← ascription? g
  endTypeMember
  return some (← node t.start (.propertySignature isReadonly optional computed key ascription))

/-- The members of an object type, in braces. -/
def typeMembers : Parse (List Node) := between "\x7b" "\x7d" (typeMember g)

/-! ### Mapped types -/

/-- Whether an opening brace starts a mapped type. -/
def atMappedType : Parse Bool :=
  ahead do
    bump
    if ← isAtAny ["+", "-"] then
      bump
      return ← isAt "readonly"
    let _ ← eat "readonly"
    if !(← isAt "[") then return false
    bump
    if !(← token).isName then return false
    bump
    isAt "in"

/-- A mark like `+readonly`, `-readonly` or `readonly`: the sign in front of the word. -/
def mappedMark (word : String) : Parse (Option String) := do
  if ← isAtAny ["+", "-"] then
    let sign := (← token).text
    bump
    expect word
    return some sign
  else if ← eat word then return some ""
  else return none

/-- A mapped type. -/
def mappedType : Parse Node := do
  let start := (← token).start
  expect "\x7b"
  let readonlyMark ← mappedMark "readonly"
  expect "["
  let (key, _) ← anyName
  expect "in"
  let constraint ← g.type
  let rename ← if ← eat "as" then some <$> g.type else pure none
  expect "]"
  let optionalMark ← mappedMark "?"
  let value ← ascription? g
  let _ ← eat ";"
  if ← isAt "," then bump
  expect "\x7d"
  node start (.typeMapped readonlyMark optionalMark key constraint rename value)

/-! ### Tuples and templates -/

/-- Whether an element of a tuple has a name. -/
def atTupleName : Parse Bool :=
  ahead do
    if ← isAt "..." then bump
    if !(← token).isName then return false
    bump
    if ← isAt ":" then return true
    if !(← isAt "?") then return false
    nextIs (·.isText ":")

/-- An element of a tuple. -/
def tupleElement : Parse Node := do
  let t ← token
  if ← atTupleName then
    let isRest ← eat "..."
    let start := (← token).start
    let (label, _) ← anyName
    let optional ← eat "?"
    expect ":"
    let marked ← token
    if ← eat "..." then note .restMarkAfterName marked.start
    let element ← g.type
    match element.shape with
    | .typeMarked _ "?" => note .optionalMarkAfterType marked.start
    | _ => pure ()
    let named ← node start (.tupleNamed label optional element)
    if isRest then node t.start (.typeRest named) else return named
  else if ← eat "..." then
    let element ← g.type
    node t.start (.typeRest element)
  else g.type

/-- How an element of a tuple stands to the others. -/
inductive TuplePart where
  | required | optional | rest
  /-- as many elements as a type says -/
  | spread

/-- How an element of a tuple stands to the others. -/
def tuplePart (n : Node) : TuplePart :=
  match n.shape with
  | .tupleNamed _ true _ | .typeMarked _ "?" => .optional
  | .typeRest inner =>
    let element :=
      match inner.shape with
      | .tupleNamed _ _ element => element
      | _ => inner
    match element.shape with
    | .typeArray _ => .rest
    | _ => .spread
  | _ => .required

/-- Notes the first element of a tuple that may not follow those before it. -/
def checkTuple : Bool → Bool → List Node → Parse Unit
  | _, _, [] => return ()
  | sawOptional, sawRest, n :: rest =>
    match tuplePart n with
    | .rest =>
      if sawRest then note .restAfterRest n.span.start else checkTuple sawOptional true rest
    | .optional =>
      if sawRest then note .optionalAfterRest n.span.start else checkTuple true sawRest rest
    | .required =>
      if sawOptional then note .elementAfterOptional n.span.start
      else checkTuple sawOptional sawRest rest
    | .spread => checkTuple sawOptional sawRest rest

/-- The stretch of a template that is the current token; the marks around it take one byte in
front and `closing` behind. -/
def quasiAt (t : Token) (closing : Nat) : Parse Quasi := do
  let raw ← slice (t.start + 1) (t.stop - closing)
  let raw := (raw.replace "\r\n" "\n").replace "\r" "\n"
  return ⟨raw, t.cooked, ⟨t.start + 1, t.stop - closing⟩⟩

/-- The holes of a template after its head, each with the stretch behind it. -/
def templateRest (item : Parse Node) (tagged : Bool) :
    Nat → List Quasi → List Node → Parse (List Quasi × List Node)
  | 0, qs, xs => return (qs.reverse, xs.reverse)
  | n + 1, qs, xs => do
    let x ← item
    if !(← isAt "\x7d") then
      let t ← token
      fail (.expected "\x7d" t.text) t.start
    scanStretch
    let t ← token
    let closing := if t.kind == .templateMiddle then 2 else 1
    if t.kind != .templateMiddle && t.kind != .templateTail then unexpected
    if t.cooked.isNone && !tagged then note .badTemplateEscape t.start
    let q ← quasiAt t closing
    let done := t.kind == .templateTail
    bump
    if done then return ((q :: qs).reverse, (x :: xs).reverse)
    else templateRest item tagged n (q :: qs) (x :: xs)

/-- A template whose holes hold the given kind of item. -/
def templateParts (item : Parse Node) (tagged : Bool) : Parse (List Quasi × List Node) := do
  let t ← token
  if t.cooked.isNone && !tagged then note .badTemplateEscape t.start
  if t.kind == .template then
    let q ← quasiAt t 1
    bump
    return ([q], [])
  else
    let q ← quasiAt t 2
    bump
    templateRest item tagged (← left) [q] []

/-! ### Single types -/

/-- Words that are types, unless a dot follows. -/
def typeWords : List String :=
  ["any", "unknown", "string", "number", "bigint", "symbol", "boolean", "undefined", "never",
   "object", "intrinsic"]

/-- Notes options of a type from a module that are not about the import itself. -/
def checkImportOptions (options : Node) : Parse Unit :=
  match options.shape with
  | .objectLit (first :: _) =>
    match first.shape with
    | .property _ _ _ _ key _ =>
      match key.shape with
      | .propertyName "with" => return ()
      | _ => note .importTypeOptions key.span.start
    | _ => return ()
  | _ => return ()

/-- A type from a module. -/
def importType : Parse Node := do
  let start := (← token).start
  let isQuery ← eat "typeof"
  expect "import"
  expect "("
  let source ← g.type
  let options ← if ← eat "," then
      if ← isAt ")" then pure none
      else
        if !(← isAt "\x7b") then expect "\x7b"
        some <$> g.assignment
    else pure none
  options.forM checkImportOptions
  let _ ← eat ","
  expect ")"
  let qualifier ← if ← eat "." then some <$> typeName else pure none
  let args ← lineTypeArguments? g
  let imported ← node start (.typeImport source options qualifier args)
  if isQuery then node start (.typeQuery imported none) else return imported

/-- A type without operators around it. -/
def simpleType : Parse Node := do
  let t ← token
  if t.isAny typeWords && !(← nextIs (·.isText ".")) then
    bump
    node t.start (.typeKeyword t.text)
  else if t.isAny ["void", "null"] then
    bump
    node t.start (.typeKeyword t.text)
  else if t.kind == .string then
    let inner ← stringLiteral
    node t.start (.typeLiteral inner)
  else if t.kind == .number || t.kind == .bigInt then
    let (inner, _) ← propertyKey g
    node t.start (.typeLiteral inner)
  else if t.isAny ["true", "false"] then
    bump
    let inner ← node t.start (.boolLit (t.text == "true"))
    node t.start (.typeLiteral inner)
  else if t.isTemplateStart then
    let (quasis, items) ← templateParts g.type false
    node t.start (.typeTemplate quasis items)
  else if t.isText "-" && (← nextIs fun u => u.kind == .number || u.kind == .bigInt) then
    bump
    let (inner, _) ← propertyKey g
    let inner ← node t.start (.unary .minus inner)
    node t.start (.typeLiteral inner)
  else if t.isText "this" then
    bump
    let u ← token
    let subject ← node t.start .typeThis
    if u.isText "is" && !u.onNewLine then
      bump
      let ascribed ← g.type
      node t.start (.typePredicate false subject (some ascribed))
    else return subject
  else if t.isText "typeof" then
    if ← nextIs (·.isText "import") then importType g
    else
      bump
      let name ← typeName
      let args ← lineTypeArguments? g
      node t.start (.typeQuery name args)
  else if t.isText "\x7b" then
    if ← atMappedType then mappedType g
    else
      let members ← typeMembers g
      node t.start (.typeObject members)
  else if t.isText "[" then
    bump
    let (elements, _) ← listUntil "]" "," (tupleElement g)
    expect "]"
    checkTuple false false elements
    node t.start (.typeTuple elements)
  else if t.isText "(" then
    bump
    let inner ← within ({ · with noConditional := false }) g.type
    expect ")"
    node t.start (.typeParen inner)
  else if t.isText "import" then importType g
  else if t.isAny ["?", "!"] then
    bump
    if t.isText "?" && (← isAtAny [",", "\x7d", ")", ">", "=", "|"]) then
      node t.start (.typeKeyword "?")
    else
      let inner ← g.type
      node t.start (.typeOperator t.text inner)
  else if t.isText "asserts" && (← nextOnSameLine fun u => u.isBindable || u.isText "this") then
    returnType g
  else typeReference g

/-- Brackets and marks behind a type. -/
def typeSuffixes (start : Nat) : Nat → Node → Parse Node
  | 0, n => return n
  | k + 1, n => do
    let t ← token
    if t.onNewLine then return n
    if t.isText "[" then
      bump
      if ← atTypeStart then
        let key ← g.type
        expect "]"
        typeSuffixes start k (← node start (.typeIndexed n key))
      else
        expect "]"
        typeSuffixes start k (← node start (.typeArray n))
    else if t.isText "?" then
      if ← ahead (do bump; atTypeStart) then return n
      bump
      typeSuffixes start k (← node start (.typeMarked n "?"))
    else if t.isText "!" then
      bump
      typeSuffixes start k (← node start (.typeMarked n "!"))
    else return n

/-- A type introduced by `infer`. -/
def inferType : Parse Node := do
  let start := (← token).start
  bump
  let t ← token
  let _ ← bindingName
  let bound ← attempt do
    expect "extends"
    let bound ← within ({ · with noConditional := true }) g.type
    if !(← context).noConditional && (← isAt "?") then unexpected
    return bound
  let introduced ← node t.start (.typeParameter t.value false false false bound none)
  node start (.typeInfer introduced)

/-- A type with the operators in front of it. -/
def operatorType : Nat → Parse Node
  | 0 => unexpected
  | n + 1 => do
    let t ← token
    if t.isAny ["keyof", "unique", "readonly"] then
      bump
      let inner ← operatorType n
      let isList := match inner.shape with | .typeArray _ | .typeTuple _ => true | _ => false
      if t.isText "readonly" && !isList then note .readonlyType t.start
      node t.start (.typeOperator t.text inner)
    else if t.isText "infer" then inferType g
    else
      within ({ · with noConditional := false }) do
        let inner ← simpleType g
        typeSuffixes g t.start (← left) inner

/-- Types joined by an operator. -/
def joinedTypes (op : String) (item : Parse Node) : Nat → List Node → Parse (List Node)
  | 0, acc => return acc.reverse
  | n + 1, acc => do
    if ← eat op then joinedTypes op item n ((← item) :: acc) else return acc.reverse

/-- An operand of a union or an intersection. -/
def operandType : Parse Node := do
  if ← atFunctionType g then functionType g else operatorType g (← left)

/-- An intersection of types. -/
def intersectionType : Parse Node := do
  let start := (← token).start
  let leading ← eat "&"
  let first ← operandType g
  let items ← joinedTypes "&" (operandType g) (← left) [first]
  if items.length == 1 && !leading then return first
  node start (.typeIntersection items)

/-- A union of types. -/
def unionType : Parse Node := do
  let start := (← token).start
  let leading ← eat "|"
  let first ← intersectionType g
  let items ← joinedTypes "|" (intersectionType g) (← left) [first]
  if items.length == 1 && !leading then return first
  node start (.typeUnion items)

/-- A type. -/
def type : Parse Node := do
  let start := (← token).start
  if ← atFunctionType g then functionType g
  else
    let subject ← unionType g
    let t ← token
    if !(← context).noConditional && !t.onNewLine && t.isText "extends" then
      bump
      let bound ← within ({ · with noConditional := true }) g.type
      expect "?"
      let yes ← within ({ · with noConditional := false }) g.type
      expect ":"
      let no ← within ({ · with noConditional := false }) g.type
      node start (.typeConditional subject bound yes no)
    else return subject

end Playground.Script.Parse
