import Playground.Emit.Lowering.Moved

/-!
# Lowering the members of a class

Fields of objects are set by the constructor, fields and blocks of the class itself become
expressions behind the class, and private methods become functions beside it.  Lowering a class
has two steps: `openClass` moves the fields into the constructor before the members are lowered,
and `closeClass` takes out of the class what has no place in it any more.
-/

namespace Playground.Emit.Lower

open Playground.Script

/-! ### What a class needs -/

/-- The private name of a key. -/
def privateKey (n : Node) : Option String :=
  match n.shape with
  | .privateName name => some name
  | _ => none

/-- Whether a member has to be taken out of a class. -/
def isMoved (n : Node) : Bool :=
  match n.shape with
  | .field f => !f.isAccessor
  | .staticBlock _ => true
  | .method m => (privateKey m.key).isSome
  | _ => false

/-- The kind of a private method. -/
def methodMember (m : Method Node) (name function : String) (known : Option PrivateMember) :
    PrivateMember :=
  match m.kind with
  | .getter =>
    let old := known.getD ⟨name, .accessor, m.modifiers.isStatic, "", none, none⟩
    { old with getter := some function }
  | .setter =>
    let old := known.getD ⟨name, .accessor, m.modifiers.isStatic, "", none, none⟩
    { old with setter := some function }
  | _ => ⟨name, .method, m.modifiers.isStatic, function, none, none⟩

/-- The private names of a class, with the variables and functions behind them. -/
def privateMembers : List Node → List PrivateMember → Lower (List PrivateMember)
  | [], known => return known
  | n :: rest, known => do
    match n.shape with
    | .field f =>
      match privateKey f.key with
      | some name =>
        if f.isAccessor then
          privateMembers rest (known ++ [⟨name, .untouched, f.modifiers.isStatic, "", none, none⟩])
        else
          let storage ← fresh name
          privateMembers rest
            (known ++ [⟨name, .field, f.modifiers.isStatic, storage, none, none⟩])
      | none => privateMembers rest known
    | .method m =>
      match privateKey m.key with
      | some name =>
        let base :=
          match m.kind with
          | .getter => "get_" ++ name
          | .setter => "set_" ++ name
          | _ => name
        let function ← fresh base
        let old := known.find? (·.name == name)
        let member := methodMember m name function old
        -- a getter and a setter of one name make one member
        if old.isSome then
          privateMembers rest (known.map fun k => if k.name == name then member else k)
        else privateMembers rest (known ++ [member])
      | none => privateMembers rest known
    | _ => privateMembers rest known

/-- Whether objects of a class have private methods. -/
def hasPrivateMethods (members : List PrivateMember) : Bool :=
  members.any fun m => !m.isStatic && (m.kind = .method || m.kind = .accessor)

/-- Whether a class has members of its own that are moved behind it. -/
def hasStatics (members : List Node) : Bool :=
  members.any fun n =>
    match n.shape with
    | .field f => f.modifiers.isStatic && !f.isAccessor
    | .staticBlock _ => true
    | _ => false

/-! ### Keys -/

/-- Whether a computed key has to be evaluated before the class. -/
def keyIsKept (key : Node) : Lower Bool := do
  match key.shape with
  | .regexLit .. => return false
  | .template _ values => return !values.isEmpty
  | .reference name => return !(← isConstant name)
  | _ => return !isLiteral key

/-- A computed key with the assignment that keeps it, and the form that names it after that. -/
def keepKey (isExpression : Bool) (key : Node) : Lower (Node × Node) := do
  let base := nameOf key
  let name ← if isExpression then temporary base else blockTemporary base
  return (Build.set (Build.var name) key, Build.var name)

/-- The key of a field as a value. -/
def fieldKey (computed : Bool) (key : Node) : Node :=
  match computed, key.shape with
  | false, .propertyName name => Build.str name
  | _, _ => key

/-! ### Initial values -/

/-- The value of a field that is not given. -/
def fieldValue (value : Option Node) : Node := value.getD Build.void0

/-- Sets the fields of an object, and takes their values out of the members; a computed key stays
behind as an assignment. -/
def instanceFields (place : ClassPlace) : List Node → Lower (List Node × List Node)
  | [] => return ([], [])
  | n :: rest => do
    match n.shape with
    | .field f =>
      if f.isAccessor || f.modifiers.isStatic then
        let (inits, members) ← instanceFields place rest
        return (inits, n :: members)
      match privateKey f.key with
      | some name =>
        let storage := ((place.privates.find? (·.name == name)).map (·.storage)).getD name
        let init ← callHelper "classPrivateFieldInitSpec"
          [Build.this, Build.var storage, fieldValue f.value]
        let (inits, members) ← instanceFields place rest
        return (init :: inits, n.withShape (.field { f with value := none }) :: members)
      | none =>
        let keep ← if f.computed then keyIsKept f.key else pure false
        let (stays, key) ←
          if keep then keepKey place.isExpression f.key else pure (f.key, fieldKey f.computed f.key)
        let init ← callHelper "defineProperty" [Build.this, key, fieldValue f.value]
        let (inits, members) ← instanceFields place rest
        let here := n.withShape (.field { f with key := stays, value := none })
        return (init :: inits, here :: members)
    | _ =>
      let (inits, members) ← instanceFields place rest
      return (inits, n :: members)

/-! ### Constructors -/

/-- Whether an expression calls the constructor of the base class. -/
def isSuperExpr (n : Node) : Bool :=
  match n.shape with
  | .call callee _ _ _ _ =>
    match callee.shape with
    | .superExpr => true
    | _ => false
  | _ => false

/-- Whether a statement is such a call. -/
def isSuperStatement (n : Node) : Bool :=
  match n.shape with
  | .exprStmt inner => isSuperExpr inner
  | _ => false

/-- Whether a node holds such a call, some levels down, outside of other functions. -/
def callsSuperTo : Nat → Node → Bool
  | 0, _ => false
  | k + 1, n =>
    match n.shape with
    | .function _ => false
    | .classDef c => c.heritage.any (callsSuperTo k)
    | shape => isSuperExpr n || shape.children.any (callsSuperTo k)

/-- Calls a function in place of the constructor of the base class, some levels down. -/
def redirectSuper (name : String) : Nat → Node → Node
  | 0, n => n
  | k + 1, n =>
    match n.shape with
    | .function _ => n
    | shape =>
      let inner := shape.map (redirectSuper name k)
      match inner with
      | .call callee typeArgs args optional pure =>
        match callee.shape with
        | .superExpr => n.withShape (.call (Build.var name) typeArgs args optional pure)
        | _ => n.withShape inner
      | _ => n.withShape inner

/-- Whether a statement assigns a parameter that is a property: no source stands behind it. -/
def isMadeStatement (n : Node) : Bool :=
  match n.shape with
  | .exprStmt _ => n.span = Span.none
  | _ => false

/-- All arguments, passed on. -/
def restOf (name : String) : Node :=
  .made (.params [.made (.rest (Build.bind name) none)])

/-- A call of the constructor of the base class with all arguments. -/
def superWith (args : String) : Node :=
  Build.call (.made .superExpr) [.made (.spread (Build.var args))]

/-- Puts the initial values of the fields into the statements of a constructor: first, or behind
the call of the base constructor; if that call is not a statement of its own, a function takes
its place. -/
def placeInits (derived : Bool) (inits statements : List Node) : Lower (List Node) := do
  let behindMade (n : Nat) : List Node :=
    let rest := statements.drop n
    let made := (rest.takeWhile isMadeStatement).length
    statements.take (n + made) ++ inits.map Build.stmt ++ rest.drop made
  if !derived then return behindMade 0
  let first := statements.findIdx fun s => callsSuperTo s.depth s
  match statements[first]? with
  | none => return behindMade 0
  | some s =>
    if isSuperStatement s then return behindMade (first + 1)
    -- the call is a part of something else: a function makes it, and sets the fields right behind
    let name ← fresh "super"
    let args ← fresh "args"
    let value := Build.seq (superWith args :: inits ++ [Build.this])
    let base := Build.declare .asVar name (some (Build.concise (restOf args) value))
    let made := (statements.takeWhile isMadeStatement).length
    let statements := statements.map fun s => redirectSuper name s.depth s
    return statements.take made ++ base :: statements.drop made

/-- A constructor. -/
def constructorOf (params : Node) (statements : List Node) : Node :=
  .made (.method
    { kind := .constructor, decorators := [], modifiers := {}, computed := false
      key := .made (.propertyName "constructor")
      value := Build.function .expression none false params (Build.body statements) })

/-- Whether a member is the constructor. -/
def isConstructor (n : Node) : Bool :=
  match n.shape with
  | .method m => m.kind = .constructor
  | _ => false

/-- The members with the initial values of the fields in the constructor, which is made if there
is none. -/
def withInits (derived : Bool) (inits members : List Node) : Lower (List Node) := do
  if inits.isEmpty then return members
  if !members.any isConstructor then
    if derived then
      let args ← fresh "args"
      return constructorOf (restOf args)
        (Build.stmt (superWith args) :: inits.map Build.stmt) :: members
    return constructorOf (Build.params []) (inits.map Build.stmt) :: members
  members.mapM fun n => do
    match n.shape with
    | .method m =>
      if m.kind != .constructor then return n
      match m.value.shape with
      | .function f =>
        match f.body with
        | some body =>
          match body.shape with
          | .functionBody directives statements =>
            let statements ← placeInits derived inits statements
            let body := body.withShape (.functionBody directives statements)
            let value := m.value.withShape (.function { f with body := some body })
            return n.withShape (.method { m with value })
          | _ => return n
        | none => return n
      | _ => return n
    | _ => return n

/-! ### The two steps -/

/-- The name of a class. -/
def className (c : Class Node) : Option String :=
  (c.name.toList.flatMap Names.ofBinding).head?.map (·.name)

/-- Moves the fields of objects into the constructor; nothing if the class has nothing to
lower. -/
def openClass (c : Class Node) : Lower (Option (ClassPlace × Class Node)) := do
  if !(← lacks 2022) || !c.members.any isMoved then return none
  let number := (← get).classCount
  modify fun s => { s with classCount := number + 1 }
  let name := className c
  let privates ← privateMembers c.members []
  let nameScope := name.bind (← read).scopes.find?
  let place : ClassPlace :=
    { number, name, nameScope, isExpression := c.isExpression, brand := none, privates }
  if hasStatics c.members && (c.isExpression || name.isNone) then
    if c.isExpression then discard (classVariable place)
    else
      let held ← fresh "Class"
      modify fun s => { s with classNames := (number, held) :: s.classNames }
  let brand ←
    if hasPrivateMethods privates then pure (some (← fresh (name.getD "Class" ++ "_brand")))
    else pure none
  let place := { place with brand }
  let branded ←
    match brand with
    | some b => pure [← callHelper "classPrivateMethodInitSpec" [Build.this, Build.var b]]
    | none => pure []
  let (inits, members) ← instanceFields place c.members
  let members ← withInits c.heritage.isSome (branded ++ inits) members
  return some (place, { c with members })

/-- What is moved behind a class. -/
inductive Moved where
  | value (n : Node)
  /-- a held of the class -/
  | store (name : String) (value : Node)
  | function (n : Node)

/-- A class and what stands around it. -/
structure ClassPieces where
  members : List Node := []
  /-- assignments that keep computed keys -/
  keys : List Node := []
  behind : List Moved := []

/-- A static block as an expression: of a single expression the expression, else a function that
is called at once. -/
def blockValue (body : List Node) : Node :=
  let whole := Build.call (Build.arrow (Build.params []) body) []
  match body with
  | [s] =>
    match s.shape with
    | .exprStmt inner => inner
    | _ => whole
  | _ => whole

/-- Takes a member out of a class. -/
def takeOut (place : ClassPlace) (p : ClassPieces) (n : Node) : Lower ClassPieces := do
  match n.shape with
  | .field f =>
    if f.isAccessor then return { p with members := p.members ++ [n] }
    if !f.modifiers.isStatic then
      -- the value is in the constructor already, but a key that is kept must still be evaluated
      match f.computed, f.key.shape with
      | true, .assign .. => return { p with keys := p.keys ++ [f.key] }
      | _, _ => return p
    let value ← staticValue place (fieldValue f.value)
    match privateKey f.key with
    | some name =>
      let storage := ((place.privates.find? (·.name == name)).map (·.storage)).getD name
      let object := Build.object [Build.prop (.made (.propertyName "_")) value]
      return { p with behind := p.behind ++ [.store storage object] }
    | none =>
      let keep ← if f.computed then keyIsKept f.key else pure false
      let (kept, key) ←
        if keep then
          let (assignment, key) ← keepKey place.isExpression f.key
          pure ([assignment], key)
        else pure ([], fieldKey f.computed f.key)
      let self ←
        match place.isExpression, place.name with
        | false, some name => pure (Build.var name)
        | _, _ => pure (Build.var (← classVariable place))
      let set ← callHelper "defineProperty" [self, key, value]
      return { p with keys := p.keys ++ kept, behind := p.behind ++ [.value set] }
  | .staticBlock body =>
    let value ← staticValue place (blockValue body)
    return { p with behind := p.behind ++ [.value value] }
  | .method m =>
    match privateKey m.key with
    | some name =>
      let function := (place.privates.find? (·.name == name)).bind fun k =>
        match m.kind with
        | .getter => k.getter
        | .setter => k.setter
        | _ => some k.storage
      match m.value.shape with
      | .function f =>
        let f ← movedMethod place m.modifiers.isStatic f
        let moved := m.value.withShape (.function
          { f with role := .declaration, name := some (Build.bind (function.getD name)) })
        return { p with behind := p.behind ++ [.function moved] }
      | _ => return p
    | none =>
      if m.computed && m.kind != .constructor && (← keyIsKept m.key) then
        let (assignment, key) ← keepKey place.isExpression m.key
        return { p with
          members := p.members ++ [n.withShape (.method { m with key })]
          keys := p.keys ++ [assignment] }
      return { p with members := p.members ++ [n] }
  | _ => return { p with members := p.members ++ [n] }

/-- Takes the members out of a class that have no place in it. -/
def closeClass (place : ClassPlace) (members : List Node) : Lower ClassPieces :=
  members.foldlM (takeOut place) {}

/-- A new map or set for what is private to the objects of a class. -/
def weak (kind : String) : Node := .made (.newExpr (Build.var kind) none [] true)

/-- The variables for what is private to the objects of a class. -/
def privateStores (place : ClassPlace) : List (String × Node) :=
  (place.brand.toList.map fun b => (b, weak "WeakSet")) ++
    place.privates.filterMap fun m =>
      if m.kind = .field && !m.isStatic then some (m.storage, weak "WeakMap") else none

/-- The statements before a declared class, the class, and the statements behind it. -/
def declaredClass (place : ClassPlace) (c : Class Node) (pieces : ClassPieces) :
    Lower (List Node × Class Node × List Node) := do
  let held := (← get).classNames.lookup place.number
  let before := pieces.keys.map Build.stmt ++
    (privateStores place).map fun (name, value) => Build.declare .asVar name (some value)
  let behind := pieces.behind.map fun m =>
    match m with
    | .value n => Build.stmt n
    | .store name value => Build.declare .asVar name (some value)
    | .function n => n
  let c := { c with members := pieces.members }
  match place.name, held with
  | some name, some v =>
    return (before, c, Build.stmt (Build.set (Build.var v) (Build.var name)) :: behind)
  | none, some v => return (before, { c with name := some (Build.bind v) }, behind)
  | _, none => return (before, c, behind)

/-- A class expression with what has to happen before it and after it, and the functions that
stand behind the statement. -/
def classValue (place : ClassPlace) (n : Node) (c : Class Node) (pieces : ClassPieces) :
    Lower (Node × List Node) := do
  let own := n.withShape (.classDef { c with members := pieces.members })
  let assign (name : String) (value : Node) : Lower Node := do
    declare fun t => { t with vars := t.vars ++ [name] }
    return Build.set (Build.var name) value
  let stores ← (privateStores place).mapM fun (name, value) => assign name value
  let behind ← pieces.behind.filterMapM fun m => do
    match m with
    | .value v => return some v
    | .store name value => return some (← assign name value)
    | .function _ => return none
  let functions := pieces.behind.filterMap fun m =>
    match m with
    | .function f => some f
    | _ => none
  let before := pieces.keys ++ stores
  match (← get).classNames.lookup place.number with
  | some v =>
    return (Build.seq (before ++ [Build.set (Build.var v) own] ++ behind ++ [Build.var v]),
      functions)
  | none =>
    if before.isEmpty && behind.isEmpty then return (own, functions)
    return (Build.seq (before ++ [own] ++ behind), functions)

end Playground.Emit.Lower
