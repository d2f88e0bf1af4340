import Playground.Script.Depth
import Playground.Script.Traverse

/-!
# Names in a program

Which names a pattern binds, which names the statements of a scope declare, and which names a
program mentions at all.
-/

namespace Playground.Script

/-- A name with the byte it stands at. -/
structure Named where
  name : String
  start : Nat
deriving DecidableEq, Inhabited, Repr

/-- The nodes of a tree some levels down, every node before its children. -/
def Node.nodesTo : Nat → Node → List Node
  | 0, _ => []
  | k + 1, n => n :: n.shape.children.flatMap (nodesTo k)

/-- All nodes of a tree, every node before its children. -/
def Node.nodes (n : Node) : List Node := n.nodesTo n.depth

namespace Names

/-- The names a target binds, some levels down. -/
def boundTo : Nat → Node → List Named
  | 0, _ => []
  | k + 1, n =>
    match n.shape with
    | .binding name => [⟨name, n.span.start⟩]
    | .objectPattern properties => properties.flatMap (boundTo k)
    | .patternProperty _ _ _ value => boundTo k value
    | .arrayPattern elements => elements.flatMap (boundTo k)
    | .withDefault target _ => boundTo k target
    | .rest target _ => boundTo k target
    | .param p => boundTo k p.target
    | .params items => items.flatMap (boundTo k)
    | _ => []

/-- The names a target binds. -/
def bound (n : Node) : List Named := boundTo n.depth n

/-- The names the declarators of a declaration bind. -/
def ofDeclarators (declarators : List Node) : List Named :=
  declarators.flatMap fun d =>
    match d.shape with
    | .declarator target _ _ _ => bound target
    | _ => []

/-- The names that `var` declares in a statement and below it, some levels down; functions keep
theirs to themselves. -/
def varsTo : Nat → Node → List Named
  | 0, _ => []
  | k + 1, n =>
    match n.shape with
    | .varDecl .asVar _ declarators => ofDeclarators declarators
    | .exportNamed _ (some declaration) _ _ _ => varsTo k declaration
    | .block body => body.flatMap (varsTo k)
    | .ifStmt _ yes no => varsTo k yes ++ no.toList.flatMap (varsTo k)
    | .forStmt setup _ _ body => setup.toList.flatMap (varsTo k) ++ varsTo k body
    | .forIn left _ body => varsTo k left ++ varsTo k body
    | .forOf _ left _ body => varsTo k left ++ varsTo k body
    | .whileStmt _ body => varsTo k body
    | .doWhile body _ => varsTo k body
    | .withStmt _ body => varsTo k body
    | .switchStmt _ cases => cases.flatMap (varsTo k)
    | .switchCase _ body => body.flatMap (varsTo k)
    | .labeled _ body => varsTo k body
    | .tryStmt attempt handler finalizer =>
      varsTo k attempt ++ handler.toList.flatMap (varsTo k) ++
        finalizer.toList.flatMap (varsTo k)
    | .catchClause _ _ body => varsTo k body
    | _ => []

/-- The names that `var` declares in a statement and below it. -/
def vars (n : Node) : List Named := varsTo n.depth n

/-- The name a node that may be a binding stands for. -/
def ofBinding (n : Node) : List Named :=
  match n.shape with
  | .binding name => [⟨name, n.span.start⟩]
  | _ => []

/-- The names a statement declares in the scope it stands in itself, some levels down. -/
def lexicalTo : Nat → Node → List Named
  | 0, _ => []
  | k + 1, n =>
    match n.shape with
    | .varDecl kind _ declarators => if kind.isLexical then ofDeclarators declarators else []
    | .function f => if f.role = .declaration then f.name.toList.flatMap ofBinding else []
    | .classDef c => if c.isExpression then [] else c.name.toList.flatMap ofBinding
    | .enumDecl _ _ name _ => ofBinding name
    | .moduleDecl _ _ name _ => ofBinding name
    | .importEquals _ name _ => ofBinding name
    | .importDecl _ _ (some specifiers) _ _ => specifiers.flatMap (lexicalTo k)
    | .importDefault name => ofBinding name
    | .importNamespace name => ofBinding name
    | .importNamed _ name _ => ofBinding name
    | .exportNamed _ (some declaration) _ _ _ => lexicalTo k declaration
    | .exportDefault declaration => lexicalTo k declaration
    | .labeled _ body => lexicalTo k body
    | _ => []

/-- The names a statement declares in the scope it stands in itself. -/
def lexical (n : Node) : List Named := lexicalTo n.depth n

/-- The name a node mentions, if it mentions one. -/
def mentioned (n : Node) : Option String :=
  match n.shape with
  | .reference name => some name
  | .binding name => some name
  | _ => none

/-- Every name a program mentions. -/
def all (n : Node) : List String := n.nodes.filterMap mentioned

end Names

end Playground.Script
