import Playground.Emit.Lowering.Async

/-!
# Lowering declarations that dispose

What is declared with `using` is disposed of when its block is left.  The block becomes a `try`
statement: a helper keeps a list of what was declared and of what was thrown, and the end of the
statement disposes of all that is on the list.

* `disposed` – the statement for a list of statements;
* `blockDisposal`, `headDisposal` – the places of such a list, and the heads of loops;
* `programDisposal` – of a program only what runs moves into the statement; what is imported,
  exported or hoisted stays outside.
-/

namespace Playground.Emit.Lower

open Playground.Script

/-- The declarators of a declaration that disposes, and whether it waits. -/
def disposing? (n : Node) : Option (Bool × List Node) :=
  match n.shape with
  | .varDecl .asUsing _ declarators => some (false, declarators)
  | .varDecl .asAwaitUsing _ declarators => some (true, declarators)
  | _ => none

/-- Whether a statement is a declaration that disposes. -/
def isDisposing (n : Node) : Bool := (disposing? n).isSome

/-- A declaration that puts what it declares on the list of a context. -/
def register (context : String) (kind : VarKind) (n : Node) : Node :=
  match disposing? n with
  | none => n
  | some (waits, declarators) =>
    let noted (value : Node) : Node :=
      Build.call (Build.dot (Build.var context) (if waits then "a" else "u")) [value]
    n.withShape (.varDecl kind false (declarators.map fun d =>
      match d.shape with
      | .declarator target definite ascription initial =>
        d.withShape (.declarator target definite ascription (initial.map noted))
      | _ => d))

/-- The statement that statements become if one of them disposes; `span` is the scope they are
in, and `kind` how their names are declared then. -/
def disposed (span : Span) (kind : VarKind) (body : List Node) : Lower (Option Node) := do
  if !(← lacks 2026) || !body.any isDisposing then return none
  let context ← fresh "usingCtx"
  let made ← callHelper "usingCtx" []
  let caught ← fresh ""
  let waits := body.any fun n => (disposing? n).any (·.1)
  let inner := Build.declare .asVar context (some made) :: body.map (register context kind)
  let note := Build.set (Build.dot (Build.var context) "e") (Build.var caught)
  let handler : Node :=
    .made (.catchClause (some (Build.bind caught)) none (Build.block [Build.stmt note]))
  let dispose := callMethod context "d"
  let dispose : Node := if waits then .made (.await dispose) else dispose
  return some <| .made <|
    .tryStmt (.mk span (.block inner)) (some handler) (some (Build.block [Build.stmt dispose]))

/-- The statements of a list, as one if some of them dispose. -/
def disposedList (span : Span) (body : List Node) : Lower (List Node) := do
  return ((← disposed span .asConst body).map ([·])).getD body

/-- Lowers what disposes in a block, or in what a `try` statement attempts. -/
def blockDisposal (n : Node) : Lower Node := do
  match n.shape with
  | .block body => return (← disposed n.span .asConst body).getD n
  | .tryStmt attempt handler finalizer =>
    match attempt.shape with
    | .block body =>
      let attempt := attempt.withShape (.block (← disposedList attempt.span body))
      return n.withShape (.tryStmt attempt handler finalizer)
    | _ => return n
  | _ => return n

/-- Moves what disposes from the head of a loop into its body. -/
def headDisposal (n : Node) : Lower Node := do
  if !(← lacks 2026) then return n
  match n.shape with
  | .forOf isAwait left right body =>
    match left.shape, disposing? left with
    | .varDecl kind _ _, some (_, d :: _) =>
      match d.shape with
      | .declarator target _ _ _ =>
        let name ← fresh (nameOf target)
        let declared := declare kind target name
        let body :=
          match body.shape with
          | .block statements => body.withShape (.block (declared :: statements))
          | _ => Build.block [declared, body]
        return n.withShape (.forOf isAwait (Build.declare .asConst name none) right body)
      | _ => return n
    | _, _ => return n
  | _ => return n
where
  /-- The declaration in the body. -/
  declare (kind : VarKind) (target : Node) (name : String) : Node :=
    .made (.varDecl kind false
      [.made (.declarator target false none (some (Build.var name)))])

/-! ### Programs -/

/-- An export of a name. -/
def exportName (name exported : String) : Node :=
  .made (.exportNamed false none
    [.made (.exportSpecifier (.made (.propertyName name)) (.made (.propertyName exported)) false)]
    none none)

/-- The names that a declaration of variables declares, as exports. -/
def exportAllOf (declaration : Node) : Node :=
  .made (.exportNamed false none ((Names.lexical declaration ++ Names.vars declaration).map fun n =>
    .made (.exportSpecifier (.made (.propertyName n.name)) (.made (.propertyName n.name)) false))
    none none)

/-- A class as the value of a variable. -/
def classVar (n : Node) (c : Class Node) (name : String) : Node :=
  Build.declare .asVar name
    (some (n.withShape (.classDef { c with isExpression := true, name := none })))

/-- The name of a class. -/
def className? (c : Class Node) : Option String :=
  c.name.bind fun n =>
    match n.shape with
    | .binding name => some name
    | _ => none

/-- A declaration as one for all of a function, unless it disposes. -/
def hoisted (n : Node) : Node :=
  match n.shape with
  | .varDecl kind declared declarators =>
    n.withShape (.varDecl (if kind.isUsing then kind else .asVar) declared declarators)
  | _ => n

/-- A statement of a program, as what stays outside and what moves. -/
def divide (n : Node) : Lower (List Node × List Node) := do
  match n.shape with
  | .importDecl .. | .exportAll .. => return ([n], [])
  | .function _ => return ([n], [])
  | .classDef c =>
    match className? c with
    | some name => return ([], [classVar n c name])
    | none => return ([], [n])
  | .varDecl .. => return ([], [hoisted n])
  | .exportNamed _ (some d) _ _ _ =>
    match d.shape with
    | .varDecl .. => return ([exportAllOf d], [hoisted d])
    | .classDef c =>
      match className? c with
      | some name => return ([exportName name name], [classVar d c name])
      | none => return ([n], [])
    | _ => return ([n], [])
  | .exportNamed .. => return ([n], [])
  | .exportDefault d =>
    match d.shape with
    | .function f =>
      if f.role = .declaration then return ([n], [])
      let name ← fresh "default"
      return ([exportName name "default"], [Build.declare .asVar name (some d)])
    | .classDef c =>
      let name ← match className? c with
        | some name => pure name
        | none => fresh "default"
      return ([exportName name "default"], [classVar d c name])
    | _ =>
      let name ← fresh "default"
      return ([exportName name "default"], [Build.declare .asVar name (some d)])
  | _ => return ([], [n])

/-- The statements of a program that stay outside, and those that move, if any disposes. -/
def programDisposal (body : List Node) : Lower (List Node × List Node) := do
  if !(← lacks 2026) || !body.any isDisposing then return (body, [])
  let parts ← body.mapM divide
  return (parts.flatMap (·.1), parts.flatMap (·.2))

end Playground.Emit.Lower
