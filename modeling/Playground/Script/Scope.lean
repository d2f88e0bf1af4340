import Playground.Script.Names

/-!
# Scopes

A scope is opened by a node and binds the names that are declared in it.  `Scopes` is the stack
of the scopes around a place, the innermost first; `Scopes.find?` finds the scope a name belongs
to, and a name without one is global.
-/

namespace Playground.Script

/-- A scope: the node that opens it, by its span and by how many scopes are around it. -/
structure ScopeKey where
  level : Nat
  span : Span
deriving DecidableEq, Inhabited, Repr

/-- A scope with the names it binds. -/
structure Frame where
  key : ScopeKey
  names : List String
  /-- `var` declarations from below end up here -/
  isFunction : Bool
deriving Inhabited

/-- The scopes around a place, the innermost first. -/
abbrev Scopes := List Frame

namespace Scopes

/-- The scope a name belongs to. -/
def find? (s : Scopes) (name : String) : Option ScopeKey :=
  (List.find? (fun f => f.names.contains name) s).map (·.key)

/-- Whether a name is declared anywhere around. -/
def binds (s : Scopes) (name : String) : Bool := (s.find? name).isSome

/-- Outside of every function. -/
def isTop (s : Scopes) : Bool := s.length ≤ 1

end Scopes

namespace Node

/-- The statements and declarations directly in a node that opens a scope. -/
def scopeBody (n : Node) : List Node :=
  match n.shape with
  | .program _ _ body => body
  | .functionBody _ body => body
  | .block body => body
  | .staticBlock body => body
  | .moduleBlock _ body => body
  | _ => []

/-- The names that the body of a function declares. -/
def bodyNames (body : Node) : List Named :=
  body.scopeBody.flatMap Names.vars ++ body.scopeBody.flatMap Names.lexical

/-- The names a node binds for what is in it, and whether it is a function; nothing if it opens
no scope. -/
def scopeNames? (n : Node) : Option (List Named × Bool) :=
  match n.shape with
  | .program .. => some (bodyNames n, true)
  | .function f =>
    let own := if f.role = .expression then f.name.toList.flatMap Names.ofBinding else []
    some (own ++ Names.bound f.params ++ f.body.toList.flatMap bodyNames, true)
  | .arrow f => some (Names.bound f.params ++ bodyNames f.body, true)
  | .staticBlock _ => some (bodyNames n, true)
  | .moduleBlock .. => some (bodyNames n, true)
  | .classDef c =>
    if c.isExpression then some (c.name.toList.flatMap Names.ofBinding, false) else none
  | .block body => some (body.flatMap Names.lexical, false)
  | .forStmt (some setup) _ _ _ => some (Names.lexical setup, false)
  | .forIn left _ _ => some (Names.lexical left, false)
  | .forOf _ left _ _ => some (Names.lexical left, false)
  | .switchStmt _ cases =>
    some (cases.flatMap fun c =>
      match c.shape with
      | .switchCase _ body => body.flatMap Names.lexical
      | _ => [], false)
  | .catchClause (some caught) _ _ => some (Names.bound caught, false)
  | _ => none

/-- The scopes around the children of a node. -/
def enter (n : Node) (s : Scopes) : Scopes :=
  match n.scopeNames? with
  | some (names, isFunction) => ⟨⟨s.length, n.span⟩, names.map (·.name), isFunction⟩ :: s
  | none => s

end Node

namespace Names

/-- The variables an assignment to a target writes, some levels down. -/
def writtenTo : Nat → Node → List String
  | 0, _ => []
  | k + 1, n =>
    match n.shape with
    | .reference name => [name]
    | .objectPattern properties => properties.flatMap (writtenTo k)
    | .patternProperty _ _ _ value => writtenTo k value
    | .arrayPattern elements => elements.flatMap (writtenTo k)
    | .withDefault target _ => writtenTo k target
    | .rest target _ => writtenTo k target
    | .paren inner => writtenTo k inner
    | _ => []

/-- The variables an assignment to a target writes. -/
def written (n : Node) : List String := writtenTo n.depth n

/-- The variables that are assigned to after they were declared, some levels down. -/
def assignedTo : Nat → Scopes → Node → List (ScopeKey × String)
  | 0, _, _ => []
  | k + 1, s, n =>
    let inner := n.enter s
    let here :=
      match n.shape with
      | .assign _ target _ => written target
      | .update _ _ target => written target
      | .forIn left _ _ => written left
      | .forOf _ left _ _ => written left
      | _ => []
    here.filterMap (fun name => (inner.find? name).map (·, name)) ++
      n.shape.children.flatMap (assignedTo k inner)

/-- The variables of a program that are assigned to after they were declared. -/
def assigned (program : Node) : List (ScopeKey × String) :=
  assignedTo program.depth [] program

end Names

end Playground.Script
