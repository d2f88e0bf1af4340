import Playground.Emit.Build
import Playground.Emit.EnumValue
import Playground.Emit.Fresh
import Playground.Script.Fault
import Playground.Script.Scope

/-!
# Erasing types

What is left of a typed program when its types are gone: annotations, casts and declarations
that only concern types vanish, enumerations and namespaces become functions that are called at
once, and imports that nothing but types refers to are dropped.
-/

namespace Playground.Emit

open Playground.Script

/-- What erasing keeps track of. -/
structure Erasing where
  fresh : Fresh
  /-- the enumerations so far -/
  enums : List (String × EnumMembers) := []
  faults : Array Fault := #[]
  /-- an element of markup is left in the program -/
  sawElement : Bool := false
  /-- a fragment of markup is left in the program -/
  sawFragment : Bool := false
deriving Inhabited

/-- The monad of erasing. -/
abbrev Erase := StateM Erasing

namespace Erase

/-- Makes up a name. -/
def fresh (base : String) : Erase String :=
  modifyGet fun s =>
    let (name, f) := s.fresh.make base
    (name, { s with fresh := f })

/-! ### What concerns types only -/

/-- Whether a statement has no meaning when the program runs. -/
def isTypeOnly (n : Node) : Bool :=
  match n.shape with
  | .typeAlias .. | .interface .. | .exportAsNamespace _ => true
  | .moduleDecl .. => true
  | .enumDecl _ declared _ _ => declared
  | .function f => f.declared || f.body.isNone
  | .classDef c => c.declared
  | .varDecl _ declared _ => declared
  | .importEquals typeOnly _ _ => typeOnly
  | .exportAll typeOnly _ _ _ => typeOnly
  | .importDecl _ typeOnly _ _ _ => typeOnly
  | _ => false

/-- Whether a statement is gone where a single one stands: a declaration of an enumeration has no
scope to put its variable in. -/
def vanishes (n : Node) : Bool := isTypeOnly n || (n.shape matches .enumDecl ..)

/-- Whether a member of a class has no meaning when the program runs. -/
def isTypeMember (n : Node) : Bool :=
  match n.shape with
  | .indexSignature .. => true
  | .method m =>
    m.modifiers.isAbstract ||
      (match m.value.shape with
      | .function f => f.body.isNone
      | _ => false)
  | .field f => f.modifiers.isAbstract || f.modifiers.isDeclare
  | _ => false

/-- Whether a parameter is a property of the object too. -/
def isProperty (m : Modifiers) : Bool := m.access.isSome || m.isReadonly || m.isOverride

/-- The expression under parentheses and casts. -/
def underCasts : Nat → Node → Node
  | 0, n => n
  | k + 1, n =>
    match n.shape with
    | .paren inner => underCasts k inner
    | .asType inner _ => underCasts k inner
    | .satisfiesType inner _ => underCasts k inner
    | .angleCast _ inner => underCasts k inner
    | .nonNull inner => underCasts k inner
    | .instantiate inner _ => underCasts k inner
    | _ => n

/-- The expression under parentheses. -/
def underParens : Nat → Node → Node
  | 0, n => n
  | k + 1, n =>
    match n.shape with
    | .paren inner => underParens k inner
    | _ => n

/-! ### Parameter properties -/

/-- Whether a statement calls the constructor of the base class. -/
def isSuperCall (n : Node) : Bool :=
  match n.shape with
  | .exprStmt inner =>
    match inner.shape with
    | .call callee _ _ _ _ =>
      match callee.shape with
      | .superExpr => true
      | _ => false
    | _ => false
  | _ => false

/-- Puts statements behind the call of the base constructor, or first if there is none. -/
def afterSuper (added statements : List Node) : List Node :=
  match statements.findIdx? isSuperCall with
  | some i => statements.take (i + 1) ++ added ++ statements.drop (i + 1)
  | none => added ++ statements

/-- Assigns the parameters that are properties. -/
def propertyAssignments (params : Node) : List Node :=
  match params.shape with
  | .params items =>
    items.filterMap fun item =>
      match item.shape with
      | .param p =>
        if isProperty p.modifiers then
          (Names.bound p.target).head?.map fun b =>
            Build.stmt (Build.set (Build.dot Build.this b.name) (Build.var b.name))
        else none
      | _ => none
  | _ => []

/-- The statements of a constructor's function with its parameter properties assigned. -/
def withProperties (added : List Node) (function : Node) : Node :=
  match function.shape with
  | .function f =>
    function.withShape (.function { f with
      body := f.body.map fun b =>
        match b.shape with
        | .functionBody directives body =>
          b.withShape (.functionBody directives (afterSuper added body))
        | _ => b })
  | _ => function

/-! ### Enumerations -/

/-- The name of a member. -/
def memberName (key : Node) : String :=
  match key.shape with
  | .propertyName name => name
  | .stringLit name _ => name
  | .template (q :: _) [] => q.cooked.getD q.raw
  | .numberLit value _ => EnumValue.numberString value
  | _ => ""

/-- The expression of a number. -/
def numberExpr (x : Float) : Node :=
  let size :=
    if x.isInf then Build.var "Infinity"
    else Build.num (if x < 0 then -x else x)
  if x < 0 then .made (.unary .minus size) else size

/-- An initial value in which the members before it are reached through the enumeration. -/
def qualifyTo (enum : String) (members : EnumMembers) : Nat → Scopes → Node → Node
  | 0, _, n => n
  | k + 1, s, n =>
    let inner := n.enter s
    match n.shape with
    | .reference name =>
      if (members.lookup name).isSome && !inner.binds name then
        n.withShape (.member (Build.var enum) name false)
      else n
    | shape => n.withShape (shape.map (qualifyTo enum members k inner))

/-- What the values of the members depend on. -/
structure EnumState where
  members : EnumMembers := []
  /-- the value of the member before, if it is known -/
  last : Option EnumValue := some (.number (-1))
  /-- the name of the member before -/
  lastName : Option String := none

/-- The initial value of a member. -/
def enumInitial (enum name : String) (known : List (String × EnumMembers)) (initial : Option Node)
    (s : EnumState) : Node × EnumState :=
  let next (value : Option EnumValue) (last : Option EnumValue) : EnumState :=
    { members := (name, value) :: s.members, last, lastName := some name }
  match initial with
  | some init =>
    match EnumValue.eval? known s.members init with
    | some v =>
      let expr :=
        match v with
        | .number x => numberExpr x
        | .text t => Build.str t
      (expr, next (some v) (some v))
    | none =>
      -- known only when the program runs, which finds the other members through the object
      (qualifyTo enum ((name, none) :: s.members) init.depth [] init, next none none)
  | none =>
    match s.last with
    | some (.number x) =>
      let v := EnumValue.number (x + 1)
      (numberExpr (x + 1), next (some v) (some v))
    | _ =>
      -- one more than a value that is not known yet
      match s.lastName with
      | some previous =>
        (Build.bin .add (Build.num 1) (Build.item (Build.var enum) (Build.str previous)),
          next none none)
      | none => (Build.num 0, next (some (.number 0)) none)

/-- The statements that define the members. -/
def enumStatements (enum : String) (known : List (String × EnumMembers)) :
    List Node → EnumState → List Node × EnumState
  | [], s => ([], s)
  | m :: ms, s =>
    match m.shape with
    | .enumMember _ key initial =>
      let name := memberName key
      let (value, s) := enumInitial enum name known initial s
      let isText :=
        match value.shape with
        | .stringLit .. => true
        | _ => false
      let assigned := Build.set (Build.item (Build.var enum) (Build.str name)) value
      -- a number also leads back to the name, a text does not
      let whole :=
        if isText then assigned
        else Build.set (Build.item (Build.var enum) assigned) (Build.str name)
      let (rest, s) := enumStatements enum known ms s
      (Build.stmt whole :: rest, s)
    | _ => enumStatements enum known ms s

/-- Whether evaluating a member's initial value may do something. -/
def hasEffect (m : Node) : Bool :=
  match m.shape with
  | .enumMember _ _ (some init) =>
    match init.shape with
    | .call .. | .newExpr .. => true
    | _ => false
  | _ => false

/-- The call that makes an enumeration out of the given start. -/
def enumCall (enum : String) (members statements : List Node) (start : Node) : Node :=
  let function :=
    Build.function .expression none false (Build.params [Build.bind enum])
      (Build.body (statements ++ [Build.ret (Build.var enum)]))
  if members.any hasEffect then Build.call function [start] else Build.pureCall function [start]

/-- An enumeration, as the value of a variable. -/
def enumeration (enum : String) (members : List Node) (exported top again : Bool) :
    Erase Node := do
  let known := (← get).enums
  let before := (known.lookup enum).getD []
  let (statements, s) := enumStatements enum known members { members := before }
  modify fun e => { e with enums := (enum, s.members) :: e.enums }
  -- a part behind the first goes on with the same object
  let start :=
    if (exported || !top) && !again then Build.object []
    else Build.or (Build.var enum) (Build.object [])
  let value := enumCall enum members statements start
  if again then return Build.stmt (Build.set (Build.var enum) value)
  return Build.declare (if exported || !top then .asLet else .asVar) enum (some value)

/-! ### Imports of names -/

/-- A qualified name as an expression. -/
def nameExpr : Nat → Node → Node
  | 0, n => n
  | k + 1, n =>
    match n.shape with
    | .qualified left name => Build.dot (nameExpr k left) name
    | _ => n

/-- The value that an import of a name stands for. -/
def importedValue (target : Node) : VarKind × Node :=
  match target.shape with
  | .externalModule source => (.asConst, Build.call (Build.var "require") [source])
  | _ => (.asVar, nameExpr target.depth target)

/-- The variable that an import of a name becomes. -/
def importVariable (n : Node) : Node :=
  match n.shape with
  | .importEquals _ name target =>
    match name.shape with
    | .binding s =>
      let (kind, value) := importedValue target
      Build.declare kind s (some value)
    | _ => n
  | _ => n

/-- Whether some statements refer to a name. -/
def refersTo (name : String) (statements : List Node) : Bool :=
  (statements.flatMap Node.nodes).any fun n =>
    match n.shape with
    | .reference x => x == name
    | _ => false

/-- The statements of a namespace in which imports of names became variables; those that nothing
refers to are gone. -/
def settleImports : List Node → List Node
  | [] => []
  | n :: rest =>
    -- from the last on: an import is used by those behind it
    let rest := settleImports rest
    match n.shape with
    | .importEquals _ name _ =>
      if (Names.ofBinding name).any fun b => refersTo b.name rest then importVariable n :: rest
      else rest
    | _ => n :: rest

/-! ### Namespaces -/

/-- The expression that calls the function of a namespace. -/
def namespaceCall (name param : String) (parent : Option String) (directives body : List Node) :
    Node :=
  let function :=
    Build.function .expression none false (Build.params [Build.bind param])
      (.made (.functionBody directives body))
  let own := Build.var name
  let start :=
    match parent with
    | none => Build.set own (Build.object [])
    | some p =>
      let there := Build.dot (Build.var p) name
      Build.set own (Build.or there (Build.set there (Build.object [])))
  Build.stmt (Build.call (.made (.paren function)) [Build.or own start])

/-- Whether a declarator binds a single name. -/
def bindsName (d : Node) : Bool :=
  match d.shape with
  | .declarator target _ _ _ =>
    match target.shape with
    | .binding _ => true
    | _ => false
  | _ => false

/-- Exported variables of a namespace, which are its properties too. -/
def exportedVariables (param : String) (declaration : Node) : List Node :=
  match declaration.shape with
  | .varDecl kind declared declarators =>
    if declarators.all bindsName then
      let withProperty (d : Node) : Node :=
        match d.shape with
        | .declarator target definite ascription (some init) =>
          match target.shape with
          | .binding name =>
            d.withShape (.declarator target definite ascription
              (some (Build.set (Build.dot (Build.var param) name) init)))
          | _ => d
        | _ => d
      [declaration.withShape (.varDecl kind declared (declarators.map withProperty))]
    else
      -- a pattern is taken apart first, and its names become properties afterwards
      let assignments := (Names.ofDeclarators declarators).map fun b =>
        Build.set (Build.dot (Build.var param) b.name) (Build.var b.name)
      let all :=
        match assignments with
        | [a] => a
        | as => Build.seq as
      [declaration, Build.stmt all]
  | _ => [declaration]

/-- The faults of exported variables: only constants may be exported from a namespace. -/
def exportFaults (declaration : Node) : List Fault :=
  match declaration.shape with
  | .varDecl .asConst _ _ => []
  | .varDecl _ _ declarators =>
    declarators.map fun d => ⟨.namespaceNonConst, d.span.start, true⟩
  | _ => []

/-- The name of a namespace, if it is not a module with a text for a name. -/
def namespaceName? (name : Node) : Option String :=
  match name.shape with
  | .binding s => some s
  | _ => none

/-- The statements that the parts of a namespace become. -/
structure NamespaceParts where
  directives : List Node := []
  body : List Node := []

/-- The parts of the body of a namespace; a dotted name is a namespace in a namespace. -/
def namespaceParts (body : Node) : NamespaceParts :=
  match body.shape with
  | .moduleBlock directives body => { directives, body }
  | .moduleDecl .. => { body := [.made (.exportNamed false (some body) [] none none)] }
  | _ => {}

/-- A namespace as a variable and a call; nothing if it is empty. -/
def namespaceDecl : Nat → Node → Bool → Option String → List String → Erase (List Node)
  | 0, _, _, _, _ => return []
  | k + 1, n, exported, parent, earlier => do
    let .moduleDecl _ declared name (some body) := n.shape | return []
    let some own := namespaceName? name | return []
    if declared then return []
    let param ← fresh own
    let parts := namespaceParts body
    let statements ← parts.body.foldlM (fun (done : List Node) s => do
      let earlier := (done.flatMap Names.lexical).map (·.name)
      match s.shape with
      | .moduleDecl .. => return done ++ (← namespaceDecl k s false none earlier)
      | .exportNamed _ (some d) _ _ _ =>
        if isTypeOnly d && !(d.shape matches .moduleDecl ..) then return done
        match d.shape with
        | .moduleDecl .. => return done ++ (← namespaceDecl k d true (some param) earlier)
        | .varDecl .. =>
          modify fun e => { e with faults := e.faults ++ (exportFaults d).toArray }
          return done ++ exportedVariables param d
        | .importEquals _ _ _ =>
          let assignments := (Names.lexical d).map fun b =>
            Build.stmt (Build.set (Build.dot (Build.var param) b.name) (Build.var b.name))
          return done ++ importVariable d :: assignments
        | .function _ | .classDef _ | .enumDecl .. =>
          let assignments := (Names.lexical d).map fun b =>
            Build.stmt (Build.set (Build.dot (Build.var param) b.name) (Build.var b.name))
          return done ++ d :: assignments
        | _ => return done
      | _ => return done ++ [s]) []
    -- it was empty, or held only types
    if statements.isEmpty then return []
    let declaration :=
      if earlier.contains own then []
      else
        let d := Build.declareAll .asLet [own]
        if exported && parent.isNone then
          [.made (.exportNamed false (some d) [] none none)]
        else [d]
    return declaration ++ [namespaceCall own param parent parts.directives statements]

/-! ### Everywhere -/

/-- A form of syntax without its types; statements that concern types only are dropped before. -/
def plainShape (shape : Shape Node) : Shape Node :=
  match shape with
  | .taggedTemplate tag _ quasi => .taggedTemplate tag none quasi
  | .function f =>
    .function { f with typeParams := none, thisParam := none, returnType := none }
  | .arrow f => .arrow { f with typeParams := none, returnType := none }
  | .classDef c =>
    .classDef { c with
      typeParams := none, heritageArgs := none, implemented := [], isAbstract := false
      members := c.members.filter fun m => !isTypeMember m }
  | .call callee _ args optional pure => .call callee none args optional pure
  | .newExpr callee _ args pure => .newExpr callee none args pure
  | .markupElement name _ attributes children closing =>
    .markupElement name none attributes children closing
  | .rest target _ => .rest target none
  | .catchClause caught _ body => .catchClause caught none body
  | .declarator target _ _ initial => .declarator target false none initial
  | .method m => .method { m with modifiers := { isStatic := m.modifiers.isStatic } }
  | .field f =>
    .field { f with modifiers := { isStatic := f.modifiers.isStatic }, ascription := none }
  | _ => shape

/-- A member of a class before the types in it are dropped: a constructor assigns the parameters
that are properties. -/
def memberWithProperties (n : Node) : Node :=
  match n.shape with
  | .method m =>
    match m.kind, m.value.shape with
    | .constructor, .function f =>
      let value := withProperties (propertyAssignments f.params) m.value
      n.withShape (.method { m with value })
    | _, _ => n
  | _ => n

/-- A block in place of a statement that is gone. -/
def orBlock : List Node → Node
  | [s] => s
  | ss => Build.block ss

mutual

/-- A node without types, some levels down. -/
def node : Nat → Bool → Node → Erase Node
  | 0, _, n => return n
  | k + 1, top, n => do
    match n.shape with
    | .asType .. | .satisfiesType .. | .angleCast .. | .nonNull .. | .instantiate .. =>
      return n.withShape (.nonNull (← node k top (underCasts n.depth n)))
    | .assign op target value =>
      let inner ← node k false (underCasts target.depth target)
      let isCast := !((underParens target.depth target).shape matches
        .reference _ | .member .. | .index .. | .privateMember .. | .objectPattern _ |
        .arrayPattern _)
      let target := if isCast then target.withShape (.nonNull inner) else inner
      return n.withShape (.assign op target (← node k false value))
    | .update op leading target =>
      return n.withShape (.update op leading (← node k false (underCasts target.depth target)))
    | .param p =>
      return n.withShape (.param
        { decorators := ← p.decorators.mapM (node k false), modifiers := {}
          target := ← node k false p.target, ascription := none
          initial := ← p.initial.mapM (node k false) })
    | .program hashbang directives body =>
      return n.withShape (.program hashbang directives (← statements k true body []))
    | .functionBody directives body =>
      let body ← statements k false body []
      return n.withShape (.functionBody directives (settleImports body))
    | .block body => return n.withShape (.block (← statements k false body []))
    | .staticBlock body => return n.withShape (.staticBlock (← statements k false body []))
    | .switchCase test body =>
      return n.withShape (.switchCase (← test.mapM (node k false)) (← statements k false body []))
    | .ifStmt test yes no =>
      -- an `else` goes together with its statement
      let no := no.filter fun s => !vanishes s
      return n.withShape (.ifStmt (← node k false test) (← single k yes) (← no.mapM (single k)))
    | .whileStmt test body =>
      return n.withShape (.whileStmt (← node k false test) (← single k body))
    | .doWhile body test =>
      return n.withShape (.doWhile (← single k body) (← node k false test))
    | .forStmt setup test step body =>
      return n.withShape (.forStmt (← setup.mapM (node k false)) (← test.mapM (node k false))
        (← step.mapM (node k false)) (← single k body))
    | .forIn left right body =>
      return n.withShape
        (.forIn (← node k false left) (← node k false right) (← single k body))
    | .forOf isAwait left right body =>
      return n.withShape
        (.forOf isAwait (← node k false left) (← node k false right) (← single k body))
    | .labeled label body => return n.withShape (.labeled label (← single k body))
    | .withStmt object body =>
      return n.withShape (.withStmt (← node k false object) (← single k body))
    | .method _ =>
      match plainShape (memberWithProperties n).shape with
      | .method m =>
        return n.withShape (.method
          { m with
            decorators := ← m.decorators.mapM (node k false), key := ← node k false m.key
            value := ← node k false m.value })
      | shape => return n.withShape shape
    | shape =>
      match shape with
      | .markupElement .. => modify fun e => { e with sawElement := true }
      | .markupFragment .. => modify fun e => { e with sawFragment := true }
      | _ => pure ()
      return n.withShape (← (plainShape shape).mapM (node k false))

/-- A statement that stands alone; one that is gone leaves an empty block. -/
def single : Nat → Node → Erase Node
  | 0, n => return n
  | k + 1, n => do
    if vanishes n then return Build.block []
    return orBlock (← statement k false [] n)

/-- The statements of a scope. -/
def statements : Nat → Bool → List Node → List Node → Erase (List Node)
  | 0, _, body, _ => return body
  | _ + 1, _, [], done => return done
  | k + 1, top, s :: rest, done => do
    let more ← statement k top ((done.flatMap Names.lexical).map (·.name)) s
    statements k top rest (done ++ more)

/-- What becomes of a statement, given the names declared before it. -/
def statement : Nat → Bool → List String → Node → Erase (List Node)
  | 0, _, _, n => return [n]
  | k + 1, top, earlier, n => do
    match n.shape with
    | .moduleDecl .. =>
      if !top then return []
      let made ← namespaceDecl n.depth n false none earlier
      made.mapM (node k top)
    | .enumDecl _ false name members =>
      match name.shape with
      | .binding enum =>
        let d ← enumeration enum members false top (earlier.contains enum)
        return [← node k top d]
      | _ => return []
    | .exportNamed typeOnly (some d) specifiers source attributes =>
      match d.shape with
      | .moduleDecl .. =>
        let made ← namespaceDecl d.depth d true none earlier
        made.mapM (node k top)
      | .enumDecl _ false name members =>
        match name.shape with
        | .binding enum =>
          let again := earlier.contains enum
          let v ← node k top (← enumeration enum members true top again)
          if again then return [v]
          return [n.withShape (.exportNamed typeOnly (some v) specifiers source attributes)]
        | _ => return []
      | _ =>
        match ← statement k top earlier d with
        | [e] =>
          return [n.withShape (.exportNamed typeOnly (some e) specifiers source attributes)]
        | _ => return []
    | .exportDefault d =>
      if isTypeOnly d then return []
      return [n.withShape (.exportDefault (← node k false d))]
    | .exportAssign inner =>
      let target := Build.dot (Build.var "module") "exports"
      return [n.withShape (.exprStmt (Build.set target (← node k false inner)))]
    | .importEquals .. => return if isTypeOnly n then [] else [n]
    | _ => if isTypeOnly n then return [] else return [← node k top n]

end

end Erase

/-! ### Imports -/

/-- The names a node refers to; what it declares, and what an import of a name refers to, does
not count. -/
def referredTo : Nat → Scopes → Node → List String
  | 0, _, _ => []
  | k + 1, s, n =>
    let inner := n.enter s
    match n.shape with
    | .reference name =>
      -- what is declared at the top, or nowhere
      if Scopes.binds inner.dropLast name then [] else [name]
    | .exportSpecifier name _ typeOnly => if typeOnly then [] else referredTo k inner name
    | .markupName name => [name]
    | .importEquals .. => []
    | shape => shape.children.flatMap (referredTo k inner)

/-- The variable that the path of an import of a name starts with. -/
def rootName : Nat → Node → List String
  | 0, _ => []
  | k + 1, n =>
    match n.shape with
    | .qualified left _ => rootName k left
    | .reference name => [name]
    | _ => []

/-- The names that the statements from the last on use, given those that are used otherwise. -/
def usedNames (used : List String) : List Node → List String
  | [] => used
  | n :: before =>
    let more (name target : Node) (always : Bool) : List String :=
      if always || (Names.ofBinding name).any fun b => used.contains b.name then
        rootName target.depth target ++ used
      else used
    match n.shape with
    | .importEquals false name target => usedNames (more name target false) before
    | .exportNamed _ (some d) _ _ _ =>
      match d.shape with
      | .importEquals false name target => usedNames (more name target true) before
      | _ => usedNames used before
    | _ => usedNames used before

/-- The names that a program declares only as types. -/
def typeNames (program : Node) : List String :=
  let body := program.scopeBody
  let types := body.flatMap fun n =>
    let d :=
      match n.shape with
      | .exportNamed _ (some d) _ _ _ => d
      | _ => n
    match d.shape with
    | .typeAlias _ name _ _ => Names.ofBinding name
    | .interface _ name _ _ _ => Names.ofBinding name
    | .importDecl _ true _ _ _ => Names.lexical d
    | .importDecl _ _ (some specifiers) _ _ =>
      specifiers.flatMap fun s =>
        match s.shape with
        | .importNamed _ name true => Names.ofBinding name
        | _ => []
    | _ => []
  let values := body.flatMap fun n =>
    match n.shape with
    | .importDecl _ true _ _ _ => []
    | .importDecl _ _ (some specifiers) _ _ =>
      specifiers.flatMap fun s =>
        match s.shape with
        | .importNamed _ _ true => []
        | _ => Names.lexical s
    | _ => Names.vars n ++ Names.lexical n
  (types.map (·.name)).filter fun t => !(values.map (·.name)).contains t

/-- The name a specifier of an import binds. -/
def specifierName (n : Node) : Option String :=
  match n.shape with
  | .importDefault name | .importNamespace name | .importNamed _ name false =>
    (Names.ofBinding name).head?.map (·.name)
  | _ => none

/-- What is left of an import or an export. -/
def pruned (types used : List String) (n : Node) : List Node :=
  match n.shape with
  | .importDecl phase _ (some []) source attributes =>
    -- an empty list binds nothing, but the module still runs
    [n.withShape (.importDecl phase false none source attributes)]
  | .importDecl phase _ (some specifiers) source attributes =>
    let kept := specifiers.filter fun s => (specifierName s).any used.contains
    if kept.isEmpty then []
    else [n.withShape (.importDecl phase false (some kept) source attributes)]
  | .importEquals _ name _ =>
    if (Names.ofBinding name).any fun b => used.contains b.name then [Erase.importVariable n]
    else []
  | .exportNamed typeOnly (some d) specifiers source attributes =>
    match d.shape with
    | .importEquals .. =>
      [n.withShape
        (.exportNamed typeOnly (some (Erase.importVariable d)) specifiers source attributes)]
    | _ => [n]
  | .exportNamed true none _ _ _ => []
  | .exportNamed false none [] _ _ => [n]
  | .exportNamed false none specifiers source attributes =>
    let kept := specifiers.filter fun s =>
      match s.shape with
      | .exportSpecifier name _ typeOnly =>
        !typeOnly &&
          match name.shape with
          | .reference x => !types.contains x
          | _ => true
      | _ => true
    if kept.isEmpty then []
    else [n.withShape (.exportNamed false none kept source attributes)]
  | .exportDefault d =>
    match d.shape with
    | .reference x => if types.contains x then [] else [n]
    | _ => [n]
  | _ => [n]

/-- Whether a statement makes a program a module. -/
def isModuleStatement (n : Node) : Bool :=
  match n.shape with
  | .importDecl .. | .exportNamed .. | .exportDefault _ | .exportAll .. => true
  | _ => false

/-- What erasing makes of a program. -/
structure Erased where
  program : Node
  faults : List Fault
  /-- it was a module, and nothing in it shows that any more -/
  lostModule : Bool
deriving Inhabited

/-- A program without types. -/
def eraseTypes (program : Node) : Erased :=
  let types := typeNames program
  let levels := 4 * program.depth + 2 * program.nodes.length + 8
  let (erased, s) := (Erase.node levels true program).run { fresh := Fresh.ofProgram program }
  match erased.shape with
  | .program hashbang directives body =>
    -- markup uses this name without writing it
    let markup := if s.sawElement || s.sawFragment then ["React"] else []
    let used := usedNames (referredTo erased.depth [] erased ++ markup) body.reverse
    let kept := body.flatMap (pruned types used)
    { program := erased.withShape (.program hashbang directives kept)
      faults := s.faults.toList
      lostModule := program.scopeBody.any isModuleStatement && !kept.any isModuleStatement }
  | _ => ⟨erased, s.faults.toList, false⟩

end Playground.Emit
