import Playground.Script.Fault
import Playground.Script.Names

/-!
# Names that are declared twice

A scope may not declare a name twice unless the declarations go together: functions may repeat a
name, an interface adds to an interface or to a class, a namespace adds to a function.
`Declared.conflicts` says which kinds do not go together, and `redeclarations` walks over a program
and reports every name that is declared again, at its first declaration.
-/

namespace Playground.Script

/-- A fault with the byte at which it is noticed. -/
structure Noticed where
  place : Nat
  fault : Fault
deriving Inhabited

/-- A fault noticed where its node ends. -/
def Noticed.behind (n : Node) (cause : Cause) (start : Nat) : Noticed :=
  ⟨n.span.stop, ⟨cause, start, false⟩⟩

namespace Early

/-- Whether some directives make code strict. -/
def areStrict (directives : List Node) : Bool :=
  directives.any fun d =>
    match d.shape with
    | .directive raw => raw = "use strict"
    | _ => false

/-- Whether the body of a function starts with a directive that makes it strict. -/
def isStrictBody (body : Node) : Bool :=
  match body.shape with
  | .functionBody directives _ => areStrict directives
  | _ => false

/-- What kind of thing a name is declared as. -/
inductive Declared where
  | variableName
  | lexicalName
  | className
  | functionName
  | importName
  | aliasName
  | interfaceName
  | enumName
  | constEnumName
  | memberName
  | typeParameterName
  /-- a namespace with values in it -/
  | moduleName
  | otherName
deriving DecidableEq, Inhabited, Repr

namespace Declared

/-- Whether a name of this kind is a value. -/
def isValue : Declared → Bool
  | variableName | lexicalName | className | functionName | enumName | constEnumName
  | memberName | moduleName => true
  | importName | aliasName | interfaceName | typeParameterName | otherName => false

/-- Whether a name of this kind is a type. -/
def isType : Declared → Bool
  | className | interfaceName | enumName | constEnumName | memberName | typeParameterName
  | aliasName => true
  | variableName | lexicalName | functionName | importName | moduleName | otherName => false

/-- Whether a name that is declared already may not be declared as the given kind too. -/
def conflicts (old : Declared) : Declared → Bool
  | variableName => old.isValue && old ≠ variableName && old ≠ functionName
  | lexicalName => old.isValue
  | functionName => old.isValue && old ≠ functionName && old ≠ moduleName && old ≠ className
  | className => (old.isValue || old = aliasName) && old ≠ moduleName && old ≠ functionName
  | importName => old = importName
  | aliasName => old.isType
  | interfaceName => old.isType && old ≠ interfaceName && old ≠ className
  | typeParameterName => old.isType && old ≠ typeParameterName
  | enumName => (old.isValue || old.isType) && old ≠ enumName && old ≠ moduleName
  | constEnumName => (old.isValue || old.isType) && old ≠ constEnumName
  | memberName => old = memberName
  | moduleName =>
    old.isValue && old ≠ moduleName && old ≠ functionName && old ≠ className
      && old ≠ enumName
  | otherName => false

end Declared

/-- A name of a scope: where it was declared first, and as what. -/
structure Entry where
  name : String
  start : Nat
  kinds : List Declared
deriving Inhabited

/-- A scope with what has been declared in it so far. -/
structure Level where
  entries : List Entry := []
  /-- variables declared within that belong to a scope further out -/
  passing : List Entry := []
  /-- variables declared within stay here -/
  isFunction : Bool
deriving Inhabited

/-- The scopes around a place, the innermost first, and what was noticed, latest first. -/
structure Levels where
  levels : List Level := []
  /-- the code is strict -/
  strict : Bool
  noticed : List Noticed := []
deriving Inhabited

/-- The monad of declaring names. -/
abbrev Declare := StateM Levels

namespace Declare

/-- The entry of a name in a level. -/
def entry? (l : Level) (name : String) : Option Entry :=
  (l.entries.find? fun e => e.name = name) <|> (l.passing.find? fun e => e.name = name)

/-- Reports a name if its kind does not go together with those of an entry. -/
def check (e : Entry) (n : Named) (kind : Declared) (strict : Bool) : Declare Unit := do
  if e.kinds.any fun old => old.conflicts kind || strict && old = kind then
    modify fun s =>
      { s with noticed := ⟨n.start, ⟨.redeclared n.name, e.start, false⟩⟩ :: s.noticed }

/-- The level after a name was declared in it. -/
def Level.adding (l : Level) (n : Named) (kind : Declared) : Level :=
  if l.entries.any fun e => e.name = n.name then
    { l with
      entries := l.entries.map fun e =>
        if e.name = n.name then { e with kinds := kind :: e.kinds } else e }
  else
    match l.passing.find? fun e => e.name = n.name with
    | some e => { l with entries := { e with kinds := kind :: e.kinds } :: l.entries }
    | none => { l with entries := ⟨n.name, n.start, [kind]⟩ :: l.entries }

/-- Declares a name in the innermost scope. -/
def here (kind : Declared) (strict : Bool) (n : Named) : Declare Unit := do
  match (← get).levels with
  | [] => return
  | l :: rest =>
    if let some e := entry? l n.name then check e n kind strict
    modify fun s => { s with levels := Level.adding l n kind :: rest }

/-- Declares a variable in the scopes from the innermost one on, up to that of the function. -/
def hoist (n : Named) : List Level → Declare (List Level)
  | [] => return []
  | l :: rest => do
    if let some e := entry? l n.name then check e n .variableName false
    if l.isFunction then return Level.adding l n .variableName :: rest
    let rest ← hoist n rest
    return { l with passing := ⟨n.name, n.start, [.variableName]⟩ :: l.passing } :: rest

/-- Declares a variable. -/
def asVariable (n : Named) : Declare Unit := do
  let levels ← hoist n (← get).levels
  modify fun s => { s with levels }

/-- Does something in a scope of its own. -/
def inScope (isFunction : Bool) (act : Declare Unit) : Declare Unit := do
  modify fun s => { s with levels := { isFunction } :: s.levels }
  act
  modify fun s => { s with levels := s.levels.drop 1 }

/-- Does something in code that is strict if the given condition holds. -/
def strictly (strict : Bool) (act : Declare Unit) : Declare Unit := do
  let before := (← get).strict
  modify fun s => { s with strict := before || strict }
  act
  modify fun s => { s with strict := before }

/-- Declares the names that a target binds. -/
def targets (kind : VarKind) (target : Node) : Declare Unit :=
  (Names.bound target).forM fun n =>
    if kind.isLexical then here .lexicalName false n else asVariable n

/-- Whether parameters are plain names. -/
def areSimple (items : List Node) : Bool :=
  items.all fun i =>
    match i.shape with
    | .param p => p.initial.isNone && (p.target.shape matches .binding _)
    | _ => false

/-- The parameters of a list. -/
def itemsOf (params : Node) : List Node :=
  match params.shape with
  | .params items => items
  | _ => []


/-- Whether a namespace has values in it, some levels down. -/
def hasValues : Nat → Node → Bool
  | 0, _ => false
  | k + 1, n =>
    match n.shape with
    | .moduleBlock _ body => body.any (hasValues k)
    | .moduleDecl _ _ _ (some body) => hasValues k body
    | .exportNamed _ (some d) _ _ _ => hasValues k d
    | .typeAlias .. | .interface .. | .moduleDecl .. => false
    | .enumDecl isConst _ _ _ => !isConst
    | .importDecl .. | .importEquals .. => false
    | _ => true

/-- What an enumeration is declared as. -/
def enumKind (isConst : Bool) : Declared := if isConst then .constEnumName else .enumName

/-- Declares a name that stands for a declaration. -/
def own (kind : Declared) (name : Node) : Declare Unit :=
  (Names.ofBinding name).forM (here kind false)

mutual

/-- Declares what is declared in a node, some levels down; `method` says that the node is the
function of a method. -/
def node : Nat → Bool → Node → Declare Unit
  | 0, _, _ => return
  | k + 1, method, n => do
    let inside : Declare Unit := n.shape.children.forM (node k false)
    match n.shape with
    | .program .. => inScope true inside
    | .function f =>
      if f.role = .declaration || f.role = .signature then
        f.name.toList.forM (own .functionName)
      strictly (f.body.any isStrictBody) do
        let unique := method || (← get).strict
        inScope true do
          f.typeParams.toList.forM (node k false)
          parameters k unique f.params
          f.returnType.toList.forM (node k false)
          f.body.toList.forM (node k false)
    | .arrow f =>
      inScope true do
        f.typeParams.toList.forM (node k false)
        parameters k true f.params
        node k false f.body
    | .classDef c =>
      if !c.isExpression then c.name.toList.forM (own .className)
      strictly true (inScope false inside)
    | .method m =>
      m.decorators.forM (node k false)
      node k false m.key
      node k true m.value
    | .property kind isMethod _ _ key value =>
      node k false key
      node k (isMethod || kind != .method) value
    | .staticBlock _ => inScope true inside
    | .moduleBlock .. => inScope true inside
    | .moduleDecl _ _ name body =>
      own (if hasValues n.depth n then .moduleName else .otherName) name
      body.toList.forM (node k false)
    | .block _ => inScope false inside
    | .forStmt .. | .forIn .. | .forOf .. => inScope false inside
    | .switchStmt subject cases =>
      node k false subject
      inScope false (cases.forM (node k false))
    | .catchClause caught _ body =>
      inScope false do
        match caught with
        | some target =>
          let isName := target.shape matches .binding _
          (Names.bound target).forM (here (if isName then .variableName else .lexicalName) false)
          node k false target
        | none => pure ()
        body.shape.children.forM (node k false)
    | .varDecl kind _ declarators =>
      declarators.forM fun d => do
        match d.shape with
        | .declarator target _ _ _ => targets kind target
        | _ => pure ()
        node k false d
    | .enumDecl isConst _ name members =>
      own (enumKind isConst) name
      inScope false (members.forM (node k false))
    | .enumMember _ key initial =>
      match key.shape with
      | .propertyName name | .stringLit name _ =>
        here .memberName false ⟨name, key.span.start⟩
      | _ => pure ()
      initial.toList.forM (node k false)
    | .typeAlias _ name _ _ =>
      own .aliasName name
      inScope false inside
    | .interface _ name _ _ _ =>
      own .interfaceName name
      inScope false inside
    | .importEquals _ name _ => own .importName name
    | .importDefault name | .importNamespace name | .importNamed _ name _ => own .importName name
    | .ifStmt test yes no =>
      node k false test
      branch k yes
      no.toList.forM (branch k)
    | _ => inside

/-- Declares the parameters of a function; when `unique` they are all different. -/
def parameters : Nat → Bool → Node → Declare Unit
  | 0, _, _ => return
  | k + 1, unique, params => do
    let items := itemsOf params
    let unique := unique || !areSimple items
    items.forM fun i => do
      (Names.bound i).forM (here .variableName unique)
      node k false i

/-- Declares what is declared in a branch; the name of a function alone belongs to no scope. -/
def branch : Nat → Node → Declare Unit
  | 0, _ => return
  | k + 1, n => do
    match n.shape with
    | .function f => node k false (n.withShape (.function { f with name := none }))
    | _ => node k false n

end

end Declare

/-- The names of a program that are declared again. -/
def redeclarations (strict : Bool) (program : Node) : List Noticed :=
  ((Declare.node (2 * program.depth + 2) false program).run { strict }).2.noticed.reverse

end Early

end Playground.Script
