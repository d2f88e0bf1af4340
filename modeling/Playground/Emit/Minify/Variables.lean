import Playground.Emit.Minify.Statements

/-!
# Fewer variables

How often the variables of a program are read and written, by the scopes they belong to.  A
variable that always has the same short value is replaced by it, and a declaration that nothing
refers to is dropped; but what a script declares at its top belongs to every other script too.
-/

namespace Playground.Emit.Minify

open Playground.Script

/-- A variable of a program. -/
abbrev Variable := ScopeKey × String

/-- A use of a variable. -/
structure Use where
  target : Variable
  writes : Bool

/-- The variables an assignment writes to, and the other children of the node. -/
def targets (n : Node) : List Node :=
  match n.shape with
  | .assign _ target _ | .update _ _ target | .forIn target _ _ | .forOf _ target _ _ => [target]
  | _ => []

/-- Whether an assignment reads what it writes to. -/
def readsTarget (n : Node) : Bool :=
  match n.shape with
  | .assign .plain _ _ => false
  | .assign .. | .update .. => true
  | _ => false

/-- The uses of variables, some levels down. -/
def usesTo : Nat → Scopes → Node → List Use
  | 0, _, _ => []
  | k + 1, s, n =>
    let inner := n.enter s
    let use (writes : Bool) (name : String) : List Use :=
      ((inner.find? name).map fun key => ⟨(key, name), writes⟩).toList
    match n.shape with
    | .reference name => use false name
    | .markupName name => use false name
    | _ =>
      let written := (targets n).flatMap fun t => (Names.written t).flatMap (use true)
      written ++ n.shape.children.flatMap fun c =>
        let found := usesTo k inner c
        let isTarget := (targets n).any fun t =>
          t.span == c.span && match t.shape with | .reference _ => true | _ => false
        if isTarget && !readsTarget n then [] else found

/-- What is known about the variables of a program. -/
structure Facts where
  uses : List Use
  /-- the variables whose value is known -/
  values : List (Variable × Node)
  /-- the functions that do nothing but give a value, and whether that is no value at all -/
  idle : List (Variable × Bool)
  /-- the names at the top that other modules read -/
  exported : List String
  /-- the variables that must not be assigned to -/
  constants : List Variable

namespace Facts

/-- How often a variable is read. -/
def reads (f : Facts) (v : Variable) : Nat :=
  (f.uses.filter fun u => u.target == v && !u.writes).length

/-- Whether a variable is assigned to. -/
def isWritten (f : Facts) (v : Variable) : Bool :=
  f.uses.any fun u => u.target == v && u.writes

/-- Whether a value is short enough to be written in many places. -/
def isShort : Constant → Bool
  | .number x => x.floor == x && -99 ≤ x && x ≤ 999
  | .text s => s.utf8ByteSize ≤ 3
  | .bool _ | .null | .undefined => true
  | .bigInt _ => false

/-- Whether a variable is replaced by its value. -/
def replaces (f : Facts) (v : Variable) (c : Constant) : Bool :=
  !f.isWritten v && (f.reads v == 1 || isShort c)

end Facts

/-- The values of the variables that a declaration gives a constant, some levels down. -/
def valuesTo : Nat → Scopes → Node → List (Variable × Node)
  | 0, _, _ => []
  | k + 1, s, n =>
    let inner := n.enter s
    let here :=
      match n.shape with
      | .varDecl kind _ ds =>
        if kind == .asVar || kind.isUsing then []
        else ds.filterMap fun d =>
          match d.shape with
          | .declarator target _ _ initial =>
            let initial := initial.getD Build.void0
            match target.shape, constant? initial with
            | .binding name, some _ => (inner.find? name).map fun key => ((key, name), initial)
            | _, _ => none
          | _ => none
      | _ => []
    let inside :=
      match n.shape with
      -- what a loop declares has another value in every turn
      | .forIn _ right body | .forOf _ _ right body => [right, body]
      | shape => shape.children
    here ++ inside.flatMap (valuesTo k inner)

/-- Whether a statement does nothing that can be seen but end a function. -/
def isQuietStatement (s : Scopes) (n : Node) : Bool :=
  match n.shape with
  | .exprStmt e => isQuiet s e
  | .returnStmt value => value.all (isQuiet s)
  | .empty => true
  | _ => false

/-- Whether calling a function does nothing but give a value, and whether that is none at all. -/
def idleness? (s : Scopes) (n : Node) : Option Bool :=
  let isPlain (params : Node) : Bool :=
    match params.shape with
    | .params items => items.all fun p =>
      match p.shape with
      | .param p => p.initial.isNone && match p.target.shape with | .binding _ => true | _ => false
      | _ => false
    | _ => false
  let idleBody? (params body : Node) (isConcise : Bool) : Option Bool :=
    match body.shape with
    | .functionBody _ statements =>
      if isPlain params && statements.all (isQuietStatement (n.enter s)) then
        some (statements.isEmpty && !isConcise)
      else none
    | _ => none
  match n.shape with
  | .function f =>
    if f.isAsync || f.isGenerator then none
    else f.body.bind fun body => idleBody? f.params body false
  | .arrow f => if f.isAsync then none else idleBody? f.params f.body f.concise
  | _ => none

/-- The functions of a program that do nothing but give a value, some levels down. -/
def idleTo : Nat → Scopes → Node → List (Variable × Bool)
  | 0, _, _ => []
  | k + 1, s, n =>
    let inner := n.enter s
    let found (s : Scopes) (name value : Node) : List (Variable × Bool) :=
      match name.shape, idleness? s value with
      | .binding x, some isEmpty => (s.find? x).toList.map fun key => ((key, x), isEmpty)
      | _, _ => []
    let here :=
      match n.shape with
      | .function f => if f.role = .expression then [] else f.name.toList.flatMap (found s · n)
      | .declarator target _ _ (some value) => found s target value
      | _ => []
    here ++ n.shape.children.flatMap (idleTo k inner)

/-- The names that a program declares for other modules. -/
def exportedNames (program : Node) : List String :=
  program.scopeBody.flatMap fun n =>
    match n.shape with
    | .exportNamed _ (some declaration) _ _ _ =>
      ((Names.vars declaration ++ Names.lexical declaration).map (·.name))
    | _ => []

/-- The variables of a program that must not be assigned to, some levels down. -/
def constantsTo : Nat → Scopes → Node → List Variable
  | 0, _, _ => []
  | k + 1, s, n =>
    let inner := n.enter s
    let here :=
      match n.shape with
      | .varDecl .asConst _ ds =>
        (Names.ofDeclarators ds).filterMap fun b => (inner.find? b.name).map (·, b.name)
      | _ => []
    here ++ n.shape.children.flatMap (constantsTo k inner)

/-- What is known about the variables of a program. -/
def factsOf (program : Node) : Facts :=
  { uses := usesTo program.depth [] program
    values := valuesTo program.depth [] program
    idle := idleTo program.depth [] program
    exported := exportedNames program
    constants := constantsTo program.depth [] program }

/-- What a call of a variable is known to do: nothing but give a value, or no value at all. -/
def idleCall? (f : Facts) (s : Scopes) (callee : Node) : Option Bool :=
  match callee.shape with
  | .reference name => do
    let key ← s.find? name
    if f.isWritten (key, name) then none else f.idle.lookup (key, name)
  | _ => none

/-- Whether a program may reach its variables by names that are made when it runs. -/
def reachesByName (program : Node) : Bool :=
  program.nodes.any fun n =>
    match n.shape with
    | .withStmt .. => true
    | .call callee _ _ _ _ =>
      match callee.shape with
      | .reference name => name == "eval"
      | _ => false
    | _ => false

/-- The value that a variable is replaced by. -/
def replacement? (f : Facts) (s : Scopes) (name : String) : Option Node := do
  let key ← s.find? name
  let value ← f.values.lookup (key, name)
  let c ← constant? value
  if f.replaces (key, name) c then some (ofConstant c) else none

/-- A node in which variables are replaced by their values, some levels down. -/
def replaceTo (f : Facts) : Nat → Scopes → Node → Node
  | 0, _, n => n
  | k + 1, s, n =>
    let inner := n.enter s
    match n.shape with
    | .reference name => (replacement? f inner name).getD n
    | .exportSpecifier .. => n
    | .property kind isMethod computed _ key value =>
      let key := if computed then replaceTo f k inner key else key
      n.withShape (.property kind isMethod computed false key (replaceTo f k inner value))
    | shape => n.withShape (shape.map (replaceTo f k inner))

/-! ### Declarations -/

/-- Whether nothing refers to a variable. -/
def isUnused (f : Facts) (s : Scopes) (name : String) : Bool :=
  match s.find? name with
  | some key => f.reads (key, name) == 0 && !f.isWritten (key, name)
  | none => false

/-- What stays of a declarator: itself, or what evaluating it does. -/
inductive Kept where
  | declarator (n : Node)
  | effect (n : Node)
  | nothing

/-- What stays of a declarator. -/
def keptDeclarator (f : Facts) (s : Scopes) (d : Node) : Kept :=
  match d.shape with
  | .declarator target _ _ initial =>
    match target.shape with
    | .binding name =>
      if isUnused f s name then
        match initial.bind (unused s) with
        | some e => .effect e
        | none => .nothing
      else .declarator d
    | _ => .declarator d
  | _ => .declarator d

/-- The statements that stay of the declarators of one declaration. -/
def keptStatements (n : Node) (kind : VarKind) (declared : Bool) : List Kept → List Node
  | [] => []
  | .nothing :: rest => keptStatements n kind declared rest
  | .effect e :: rest => Build.stmt e :: keptStatements n kind declared rest
  | .declarator d :: rest =>
    match keptStatements n kind declared rest with
    | next :: more =>
      match next.shape with
      | .varDecl _ _ ds => n.withShape (.varDecl kind declared (d :: ds)) :: more
      | _ => n.withShape (.varDecl kind declared [d]) :: next :: more
    | [] => [n.withShape (.varDecl kind declared [d])]

/-- Whether nothing refers to a name that is imported. -/
def isUnusedImport (f : Facts) (s : Scopes) (n : Node) : Bool :=
  match n.shape with
  | .importDefault name | .importNamespace name | .importNamed _ name _ =>
    (Names.ofBinding name).any fun b => isUnused f s b.name
  | _ => false

/-- What stays of a statement when declarations that nothing refers to are dropped. -/
def withoutUnused (f : Facts) (s : Scopes) (n : Node) : List Node :=
  match n.shape with
  | .importDecl none false (some specifiers) source attributes =>
    let used := specifiers.filter (!isUnusedImport f s ·)
    [n.withShape
      (.importDecl none false (if used.isEmpty then none else some used) source attributes)]
  | .varDecl kind declared ds =>
    if kind.isUsing then [n]
    else keptStatements n kind declared (ds.map (keptDeclarator f s))
  | .function x =>
    match (x.name.toList.flatMap Names.ofBinding).head? with
    | some b => if isUnused f s b.name then [] else [n]
    | none => [n]
  | .classDef c =>
    match (c.name.toList.flatMap Names.ofBinding).head? with
    | some b =>
      if isUnused f s b.name then
        match classParts? s (unused s) c with
        | some parts => (sequenceOf parts).toList.map Build.stmt
        | none => [n]
      else [n]
    | none => [n]
  | _ => [n]

/-- An expression nobody looks at, without assignments to variables that are never read, some
levels down. -/
def unwrittenTo (f : Facts) : Nat → Scopes → Node → Node
  | 0, _, n => n
  | k + 1, s, n =>
    match n.shape with
    | .assign .plain target value =>
      match target.shape with
      | .reference name =>
        match s.find? name with
        | some key =>
          let isExported := key.level == 0 && f.exported.contains name
          if f.reads (key, name) == 0 && !isExported && !f.constants.contains (key, name) then
            unwrittenTo f k s value
          else n
        | none => n
      | _ => n
    | .sequence parts => n.withShape (.sequence (parts.map (unwrittenTo f k s)))
    | .logical op a b => n.withShape (.logical op a (unwrittenTo f k s b))
    | .conditional test yes no =>
      n.withShape (.conditional test (unwrittenTo f k s yes) (unwrittenTo f k s no))
    | _ => n

/-- A statement without assignments to variables that are never read. -/
def withoutIdleWrites (f : Facts) (s : Scopes) (n : Node) : Node :=
  match n.shape with
  | .exprStmt e => n.withShape (.exprStmt (unwrittenTo f e.depth s e))
  | _ => n

/-! ### A variable that is used once, at once -/

/-- Where a value may go that is evaluated just before an expression. -/
inductive Placing where
  | placed (n : Node)
  /-- what is evaluated first may depend on the value, or the other way around -/
  | blocked
  | passed
deriving Inhabited

/-- Whether evaluating an expression gives the same at any time. -/
def isFixed (n : Node) : Bool :=
  (constant? n).isSome ||
    match n.shape with
    | .function _ | .arrow _ => true
    | _ => false

mutual

/-- Puts a value in place of the variable that is read in an expression, some levels down. -/
def placeIn (s : Scopes) (name : String) (value : Node) : Nat → Node → Placing
  | 0, _ => .blocked
  | k + 1, n =>
    let here (children : List Node) (rebuild : List Node → Node) : Placing :=
      match placeAmong s name value k children with
      | (.placed _, parts) => .placed (rebuild parts)
      | (.blocked, _) => .blocked
      | (.passed, _) => if isFixed value || isQuiet s n then .passed else .blocked
    match n.shape with
    | .reference x =>
      if x == name then .placed value else if isQuiet s value then .passed else .blocked
    | .member object x optional =>
      here [object] fun ps => n.withShape (.member (ps.headD object) x optional)
    | .index object key optional =>
      here [object, key] fun ps =>
        n.withShape (.index (ps.headD object) (ps.getD 1 key) optional)
    | .call callee typeArgs args false pure =>
      here (callee :: args) fun ps =>
        n.withShape (.call (ps.headD callee) typeArgs ps.tail false pure)
    | .newExpr callee typeArgs args pure =>
      here (callee :: args) fun ps =>
        n.withShape (.newExpr (ps.headD callee) typeArgs ps.tail pure)
    | .binary op a b =>
      here [a, b] fun ps => n.withShape (.binary op (ps.headD a) (ps.getD 1 b))
    | .unary op a =>
      if op == .delete then .blocked
      else here [a] fun ps => n.withShape (.unary op (ps.headD a))
    | .logical op a b =>
      match placeIn s name value k a with
      | .placed a => .placed (n.withShape (.logical op a b))
      | _ => .blocked
    | .conditional test yes no =>
      match placeIn s name value k test with
      | .placed test => .placed (n.withShape (.conditional test yes no))
      | _ => .blocked
    | .sequence parts => here parts fun ps => n.withShape (.sequence ps)
    | .arrayLit elements => here elements fun ps => n.withShape (.arrayLit ps)
    | .assign .plain target x =>
      match target.shape with
      | .reference _ => here [x] fun ps => n.withShape (.assign .plain target (ps.headD x))
      | _ => .blocked
    | .template quasis values => here values fun ps => n.withShape (.template quasis ps)
    | .nullLit | .boolLit _ | .numberLit .. | .stringLit .. | .bigIntLit _ | .thisExpr
    | .function _ | .arrow _ => .passed
    | _ => .blocked

/-- Puts a value into the first of some expressions that takes it. -/
def placeAmong (s : Scopes) (name : String) (value : Node) :
    Nat → List Node → Placing × List Node
  | 0, ns => (.blocked, ns)
  | _ + 1, [] => (.passed, [])
  | k + 1, n :: rest =>
    match placeIn s name value k n with
    | .placed m => (.placed m, m :: rest)
    | .blocked => (.blocked, n :: rest)
    | .passed =>
      let (p, rest) := placeAmong s name value k rest
      (p, n :: rest)

end

/-- Puts a value into the expression a statement starts with. -/
def placeInStatement (s : Scopes) (name : String) (value n : Node) : Option Node :=
  let levels (e : Node) : Nat := 2 * e.nodes.length + 2
  let go (e : Node) (rebuild : Node → Shape Node) : Option Node :=
    match placeIn s name value (levels e) e with
    | .placed e => some (n.withShape (rebuild e))
    | _ => none
  match n.shape with
  | .exprStmt e => go e .exprStmt
  | .returnStmt (some e) => go e fun e => .returnStmt (some e)
  | .throwStmt e => go e .throwStmt
  | .ifStmt test yes no => go test fun e => .ifStmt e yes no
  | .switchStmt subject cases => go subject fun e => .switchStmt e cases
  | .varDecl kind declared (d :: ds) =>
    match d.shape with
    | .declarator target definite ascription (some initial) =>
      match target.shape with
      | .binding _ =>
        go initial fun e =>
          .varDecl kind declared
            (d.withShape (.declarator target definite ascription (some e)) :: ds)
      | _ => none
    | _ => none
  | _ => none

/-- Puts the value of the last variable of a declaration into the statement behind it, if that is
the only place it is read: what stays of the declaration, and the statement. -/
def placed? (f : Facts) (s : Scopes) (d n : Node) : Option (List Node × Node) := do
  let .varDecl kind declared ds := d.shape | none
  let last ← ds.getLast?
  let .declarator pattern _ _ (some initial) := last.shape | none
  let .binding name := pattern.shape | none
  let key ← s.find? name
  if kind.isUsing || f.reads (key, name) != 1 || f.isWritten (key, name) then none
  else
    let n ← placeInStatement s name initial n
    let left := if ds.length ≤ 1 then [] else [d.withShape (.varDecl kind declared ds.dropLast)]
    return (left, n)

/-- Puts the values of variables that are read once into the statements behind their
declarations, from a statement on. -/
def placeOnceFrom (f : Facts) (s : Scopes) (d : Node) : List Node → List Node
  | [] => [d]
  | n :: rest =>
    match placed? f s d n with
    | some (left, n) => left ++ placeOnceFrom f s n rest
    | none => d :: placeOnceFrom f s n rest

/-- Puts the values of variables that are read once into the statements behind their
declarations. -/
def placeOnce (f : Facts) (s : Scopes) : List Node → List Node
  | [] => []
  | d :: rest => placeOnceFrom f s d rest

end Playground.Emit.Minify
