import Playground.Script.Parse.Declaration

/-!
# Imports and exports

Reads the statements that tie a module to others.
-/

namespace Playground.Script.Parse

variable (g : Grammar)

/-! ### Sources -/

/-- An entry of the attributes of an import. -/
def importAttribute : Parse Node := do
  let t ← token
  let key ← if t.kind == .string then stringLiteral else do
    let (name, _) ← anyName
    node t.start (.propertyName name)
  expect ":"
  let u ← token
  if u.kind != .string then fail .attributeValue u.start
  let value ← stringLiteral
  node t.start (.importAttribute key value)

/-- The text of the key of an attribute. -/
def attributeKey (n : Node) : String :=
  match n.shape with
  | .importAttribute key _ =>
    match key.shape with
    | .propertyName s => s
    | .stringLit s _ => s
    | _ => ""
  | _ => ""

/-- Notes attributes of an import whose keys occurred before, where they occurred first. -/
def checkAttributes : List (String × Nat) → List Node → Parse Unit
  | _, [] => return ()
  | seen, e :: rest => do
    let key := attributeKey e
    match seen.lookup key with
    | some start =>
      note (.redeclared key) start
      checkAttributes seen rest
    | none => checkAttributes ((key, e.span.start) :: seen) rest

/-- The attributes of an import, if there are any. -/
def importAttributes? : Parse (Option Node) := do
  let t ← token
  let present := t.isText "with" || (t.isText "assert" && !t.onNewLine)
  if !present then return none
  bump
  expect "\x7b"
  let (entries, _) ← listUntil "\x7d" "," importAttribute
  expect "\x7d"
  checkAttributes [] entries
  return some (← node t.start (.importAttributes t.text entries))

/-- The module behind `from`. -/
def fromClause : Parse (Node × Option Node) := do
  expect "from"
  let source ← stringLiteral
  let attributes ← importAttributes?
  return (source, attributes)

/-! ### Specifiers -/

/-- A name by which a module hands something out: any word, or a string. -/
def exportedName : Parse Node := do
  let t ← token
  if t.kind == .string then
    let raw ← slice t.start t.stop
    if hasLoneSurrogate raw.toList then note .exportSurrogate t.start
    stringLiteral
  else
    let (name, _) ← anyName
    node t.start (.propertyName name)

/-- Whether a name by which a module hands something out follows. -/
def atExportedName : Parse Bool := do
  let t ← token
  return t.isName || t.kind == .string

/-- What a specifier says: whether it is of a type only, the name, and the other name. -/
structure SpecifierNames where
  typeOnly : Bool
  first : Node
  second : Option Node
deriving Inhabited

/-- The names of a specifier behind a first name `type`, which may be a modifier. -/
def afterTypeWord (typeWord : Node) : Parse SpecifierNames := do
  if ← isAt "as" then
    let firstAs ← exportedName
    if ← isAt "as" then
      let secondAs ← exportedName
      if ← atExportedName then return ⟨true, firstAs, some (← exportedName)⟩
      else return ⟨false, typeWord, some secondAs⟩
    else if ← atExportedName then return ⟨false, typeWord, some (← exportedName)⟩
    else return ⟨true, firstAs, none⟩
  else if ← atExportedName then
    let name ← exportedName
    let other ← if ← eat "as" then some <$> exportedName else pure none
    return ⟨true, name, other⟩
  else return ⟨false, typeWord, none⟩

/-- The names of a specifier. -/
def specifierNames : Parse SpecifierNames := do
  let t ← token
  let first ← exportedName
  if t.isText "type" && (← dialect).typed then afterTypeWord first
  else
    let other ← if ← eat "as" then some <$> exportedName else pure none
    return ⟨false, first, other⟩

/-- The text of a name. -/
def nameText (n : Node) : String :=
  match n.shape with
  | .propertyName s | .binding s | .reference s => s
  | .stringLit s _ => s
  | _ => ""

/-- A specifier of an import, which may be of types only as a whole. -/
def importSpecifier (typeOnly : Bool) : Parse Node := do
  let start := (← token).start
  let names ← specifierNames
  if typeOnly && names.typeOnly then note (.typeWordTwice "import") start
  let localNode := names.second.getD names.first
  match localNode.shape with
  | .stringLit .. => fail .unexpectedToken localNode.span.start
  | _ => pure ()
  let name := nameText localNode
  if reservedWords.contains name then note (.reservedWord name) localNode.span.start
  node start
    (.importNamed names.first (.mk localNode.span (.binding name)) names.typeOnly)

/-- A specifier of an export, which may be of types only as a whole. -/
def exportSpecifier (typeOnly : Bool) : Parse Node := do
  let start := (← token).start
  let names ← specifierNames
  if typeOnly && names.typeOnly then note (.typeWordTwice "export") start
  node start
    (.exportSpecifier names.first (names.second.getD names.first) names.typeOnly)

/-- The specifiers of a list in braces. -/
def specifierList (item : Parse Node) : Parse (List Node) := do
  expect "\x7b"
  let (items, _) ← listUntil "\x7d" "," item
  expect "\x7d"
  return items

/-! ### Imports -/

/-- What an import takes after its default: a namespace or a list. -/
def importTail (typeOnly : Bool) : Parse (List Node) := do
  let t ← token
  if t.isText "*" then
    bump
    expect "as"
    let name ← bindingName
    return [← node t.start (.importNamespace name)]
  else if t.isText "\x7b" then specifierList (importSpecifier typeOnly)
  else return []

/-- Whether the word behind `import` is a modifier of it. -/
def importWord? (word : String) : Parse Bool := do
  if !(← isAt word) then return false
  ahead do
    bump
    let t ← token
    if t.isAny ["*", "\x7b"] then return word != "source"
    if !t.isBindable then return false
    if t.isText "from" then
      bump
      let u ← token
      return u.isText "from" || (word == "type" && u.isText "=")
    return true

/-- Takes the word that makes an import one of types only, if it is there. -/
def importTypeWord : Parse Bool := do
  if (← dialect).typed && (← importWord? "type") then
    bump
    return true
  else return false

/-- Takes the word for the phase of an import, if there is one. -/
def importPhase : Parse (Option String) := do
  if ← importWord? "source" then
    bump
    return some "source"
  else if ← importWord? "defer" then
    bump
    return some "defer"
  else return none

/-- What an import takes: its default, and a namespace or a list behind it. -/
def importClause (typeOnly : Bool) : Parse (List Node × List Node) := do
  let t ← token
  let first ←
    if t.isBindable then do
      let name ← bindingName
      pure [← node t.start (.importDefault name)]
    else pure []
  let more ←
    if first.isEmpty then importTail typeOnly
    else if ← eat "," then do
      if !(← isAtAny ["*", "\x7b"]) then unexpected
      let tail ← importTail typeOnly
      if typeOnly then note .typeOnlyBoth t.start
      pure tail
    else pure []
  return (first, more)

/-- Notes an import that is deferred and takes more than a namespace. -/
def checkDeferred (phaseStart : Nat) (first more : List Node) : Parse Unit :=
  if !first.isEmpty then note .deferredDefault phaseStart
  else
    match more.head?.map (·.shape) with
    | some (Shape.importNamespace _) => return ()
    | _ => note .deferredNamed phaseStart

/-- An import; its keyword is taken already. -/
def importRest (start : Nat) : Parse Node := do
  let typeOnly ← importTypeWord
  let phaseStart := (← token).start
  let phase ← importPhase
  let t ← token
  if (← dialect).typed && t.isBindable && (← nextIs (·.isText "=")) then
    return ← importEquals start typeOnly
  modify fun s => { s with sawModule := true }
  if t.kind == .string then
    let source ← stringLiteral
    let attributes ← importAttributes?
    endStatement
    return ← node start (.importDecl phase typeOnly none source attributes)
  let (first, more) ← importClause typeOnly
  if phase == some "defer" then checkDeferred phaseStart first more
  let (source, attributes) ← fromClause
  endStatement
  node start (.importDecl phase typeOnly (some (first ++ more)) source attributes)

/-- An import. -/
def importDeclaration : Parse Node := do
  let start := (← token).start
  bump
  importRest start

/-! ### Exports -/

/-- Notes names that a list without a source may not export. -/
def checkExported (n : Node) : Parse Unit := do
  match n.shape with
  | .exportSpecifier name _ _ =>
    match name.shape with
    | .stringLit .. => note .exportString name.span.start
    | .propertyName s => if reservedWords.contains s then note .exportReserved name.span.start
    | _ => return ()
  | _ => return ()

/-- A specifier whose name refers to something declared here. -/
def localSpecifier (n : Node) : Node :=
  match n.shape with
  | .exportSpecifier name exported typeOnly =>
    match name.shape with
    | .propertyName s =>
      n.withShape (.exportSpecifier (name.withShape (.reference s)) exported typeOnly)
    | _ => n
  | _ => n

/-- A list of exports. -/
def exportList (start : Nat) (typeOnly : Bool) : Parse Node := do
  let items ← specifierList (exportSpecifier typeOnly)
  if ← isAt "from" then
    let (source, attributes) ← fromClause
    endStatement
    node start (.exportNamed typeOnly none items (some source) attributes)
  else
    items.forM checkExported
    endStatement
    node start (.exportNamed typeOnly none (items.map localSpecifier) none none)

/-- An export of all that another module exports. -/
def exportAll (start : Nat) (typeOnly : Bool) : Parse Node := do
  expect "*"
  let exported ← if ← eat "as" then some <$> exportedName else pure none
  let (source, attributes) ← fromClause
  endStatement
  node start (.exportAll typeOnly exported source attributes)

/-- Notes decorators behind `export` where others stand in front of it. -/
def checkDecoratorPlace (before behind : List Node) : Parse Unit :=
  match before, behind with
  | _ :: _, d :: _ => note .decoratorsAroundExport d.span.start
  | _, _ => return ()

/-- What is exported as the default, after its decorators; it starts with these. -/
def exportedDefault (start : Nat) (decorators : List Node) : Parse Node := do
  if ← isAt "class" then classFrom g start decorators false false false
  else if (← isAt "abstract") && (← nextOnSameLine (·.isText "class")) then
    bump
    classFrom g start decorators false true false
  else if (← isAt "interface") && (← nextIs fun u => !u.onNewLine) then
    interface g start false
  else if ← isAt "function" then function g start false true false false
  else if (← isAt "async") && (← nextOnSameLine (·.isText "function")) then
    bump
    function g start false true true false
  else
    let value ← g.assignment
    endStatement
    return value

/-- The default export, from the word `default` on. -/
def exportDefault (start : Nat) (decorators : List Node) : Parse Node := do
  bump
  let t ← token
  let more ← Parse.decorators g
  checkDecoratorPlace decorators more
  let declaration ← exportedDefault g t.start (decorators ++ more)
  node start (.exportDefault declaration)

/-- A declaration that is exported. -/
def exportedDeclaration (start : Nat) (decorators : List Node) : Parse Node := do
  let declStart := (← token).start
  let more ← Parse.decorators g
  checkDecoratorPlace decorators more
  let ms ← modifiers false
  let declaration ← declarationAfter g declStart (decorators ++ more) ms
  node start (.exportNamed false (some declaration) [] none none)

/-- An import by assignment that is exported; its keyword comes next. -/
def exportedImport (start : Nat) : Parse Node := do
  let t ← token
  bump
  let typeOnly ← importTypeWord
  let d ← importEquals t.start typeOnly
  node start (.exportNamed false (some d) [] none none)

/-- An export, with the decorators in front of it. -/
def exportDeclaration (start : Nat) (decorators : List Node) : Parse Node := do
  bump
  let typed := (← dialect).typed
  modify fun s => { s with sawModule := true }
  let t ← token
  if typed && t.isText "=" then
    bump
    let inner ← g.expression
    endStatement
    return ← node start (.exportAssign inner)
  if typed && t.isText "import" && !(← nextIs (·.isAny ["(", "."])) then
    return ← exportedImport start
  if typed && t.isText "as" && (← nextIs (·.isText "namespace")) then
    bump
    bump
    let (name, _) ← anyName
    endStatement
    return ← node start (.exportAsNamespace name)
  if t.isText "default" then return ← exportDefault g start decorators
  if t.isText "*" then return ← exportAll start false
  if t.isText "\x7b" then return ← exportList start false
  if typed && t.isText "type" then
    if ← nextIs (·.isText "\x7b") then
      bump
      return ← exportList start true
    if ← nextIs (·.isText "*") then
      bump
      return ← exportAll start true
  exportedDeclaration g start decorators

end Playground.Script.Parse
