import Playground.Compiler.Pipeline
import Playground.Emit.Minify.Variables
import Playground.Emit.ModuleSyntax

/-!
# Minifying a script

A script is read, made shorter round by round until nothing changes, and printed without blanks.
In every round expressions and statements become shorter from the inside out, and then variables
are replaced and dropped.
-/

namespace Playground.Emit

open Playground.Compiler Playground.Script

namespace Minify

/-- What a round knows about the program. -/
structure Round where
  facts : Facts
  /-- what is declared at the top belongs to other scripts too -/
  isScript : Bool
  /-- variables may be reached by names made when the program runs -/
  byName : Bool

/-- Whether declarations among some scopes may be changed. -/
def Round.ownsNames (r : Round) (s : Scopes) : Bool :=
  !r.byName && !(r.isScript && s.length ≤ 1)

/-- Fewer statements in a list. -/
def list (r : Round) (s : Scopes) (isBody : Bool) (body : List Node) : List Node :=
  let body := if r.ownsNames s then body.map (withoutIdleWrites r.facts s) else body
  let body := if isBody then guarded returnsNothing body else body
  let body := merge s body
  let body := if isBody then withoutLast returnsNothing body else body
  if !r.ownsNames s then body
  else placeOnce r.facts s (body.flatMap (withoutUnused r.facts s))

/-- An arrow function that only returns a value. -/
def shortArrow (f : Arrow Node) : Arrow Node :=
  match f.concise, f.body.shape with
  | false, .functionBody [] [s] =>
    match s.shape with
    | .returnStmt (some value) =>
      { f with
        concise := true
        body := f.body.withShape (.functionBody [] [s.withShape (.exprStmt value)]) }
    | _ => f
  | _, _ => f

/-- A declaration of constants within a function or a block, where the shorter keyword does. -/
def shortKeyword (f : Facts) (s : Scopes) (kind : VarKind) (ds : List Node) : VarKind :=
  let isRead (name : String) : Bool :=
    match s.find? name with
    | some key => !f.isWritten (key, name)
    | none => true
  if kind == .asConst && 1 < s.length && (Names.ofDeclarators ds).all fun b => isRead b.name then
    .asLet
  else kind

/-- A variable that starts without a value needs no value that is missing. -/
def withoutMissing (kind : VarKind) (d : Node) : Node :=
  match kind, d.shape with
  | .asLet, .declarator target definite ascription (some initial) =>
    match constant? initial with
    | some .undefined => d.withShape (.declarator target definite ascription none)
    | _ => d
  | _, _ => d

/-- The directives that say something: the code of modules is strict anyway. -/
def neededDirectives (r : Round) (directives : List Node) : List Node :=
  directives.filter fun d =>
    match d.shape with
    | .directive raw => r.isScript || raw != "use strict"
    | _ => true

/-- The name of a function or a class that is an expression, if the name is used. -/
def neededName (r : Round) (s : Scopes) (name : Option Node) : Option Node :=
  name.filter fun n =>
    r.byName || (Names.ofBinding n).any fun b => !isUnused r.facts s b.name

/-- Whether a member of a class is one that nothing in the class uses. -/
def isIdleMember (c : Class Node) (m : Node) : Bool :=
  let isUsed (name : String) : Bool :=
    c.members.any fun other =>
      other.nodes.any fun x =>
        match x.shape with
        | .privateMember _ used _ | .privateIn used _ => used == name
        | _ => false
  let isUnusedKey (key : Node) : Bool :=
    match key.shape with
    | .privateName name => !isUsed name
    | _ => false
  match m.shape with
  | .staticBlock [] => true
  | .method x => x.decorators.isEmpty && isUnusedKey x.key
  | .field f => f.decorators.isEmpty && isUnusedKey f.key && f.value.all (isQuiet [])
  | _ => false

/-- An expression where it is called or deleted; one that means something else there is kept from
standing there directly. -/
def heldBack (written shorter : Node) : Node :=
  let bare (n : Node) : Node := match n.shape with | .paren inner => inner | _ => n
  if dependsOnPlace shorter && !dependsOnPlace (bare written) then
    Build.seq [Build.num 0, shorter]
  else shorter

/-- The value of a function without parameters that is called where it stands, if its body is a
single expression. -/
def calledAtOnce? (callee : Node) (args : List Node) : Option Node :=
  match callee.shape, args with
  | .arrow f, [] =>
    match f.params.shape, f.body.shape with
    | .params [], .functionBody [] [x] =>
      match x.shape with
      | .exprStmt value =>
        if f.isAsync then none
        else if f.concise then some value
        else some (inOrder [value, Build.void0])
      | _ => none
    | .params [], .functionBody [] [] => if f.isAsync then none else some Build.void0
    | _, _ => none
  | _, _ => none

/-- A call of a function that is known to do nothing but give a value. -/
def idleCall (r : Round) (s : Scopes) (n callee : Node) (args : List Node) (isPure : Bool) :
    Node :=
  let plain := n.withShape (.call callee none args false isPure)
  match idleCall? r.facts s callee with
  | some true =>
    match unusedTo.unusedList (unused s) args with
    | some left => inOrder [left, Build.void0]
    | none => Build.void0
  | some false => n.withShape (.call callee none args false true)
  | none => plain

mutual

/-- A shorter node, some levels down. -/
def node (r : Round) : Nat → Scopes → Node → Node
  | 0, _, n => n
  | k + 1, s, n =>
    let inner := n.enter s
    let go := node r k inner
    let alone (x : Node) : Node := Minify.alone inner (single [node r k inner x])
    match n.shape with
    | .program hashbang directives body =>
      n.withShape
        (.program hashbang (neededDirectives r directives) (list r inner false (body.map go)))
    | .block body => n.withShape (.block (list r inner false (body.map go)))
    | .staticBlock body => n.withShape (.staticBlock (list r inner false (body.map go)))
    | .switchCase test body =>
      n.withShape (.switchCase (test.map go) (merge inner (body.map go)))
    | .function f => n.withShape (.function (functionParts r k inner f))
    | .arrow f =>
      match f.concise, f.body.shape with
      | true, _ =>
        n.withShape (.arrow { f with params := go f.params, body := plainBody r k inner f.body })
      | false, _ =>
        n.withShape (.arrow (shortArrow
          { f with params := go f.params, body := functionBody r k inner f.body }))
    | .ifStmt test yes no => n.withShape (.ifStmt (go test) (alone yes) (no.map alone))
    | .whileStmt test body =>
      n.withShape (.whileStmt (go test) (loopBody inner (alone body)))
    | .doWhile body test => n.withShape (.doWhile (alone body) (asTest (go test)))
    | .forStmt setup test step body =>
      let shortSetup (x : Node) : Option Node :=
        match x.shape with
        | .varDecl .. => some (go x)
        | _ => unused inner (go x)
      n.withShape (.forStmt (setup.bind shortSetup) (test.map go)
        ((step.map go).bind (unused inner)) (loopBody inner (alone body)))
    | .forIn left right body => n.withShape (.forIn (goal r k inner left) (go right) (alone body))
    | .forOf isAwait left right body =>
      n.withShape (.forOf isAwait (goal r k inner left) (go right) (alone body))
    | .labeled label body => n.withShape (.labeled label (alone body))
    | .varDecl kind declared ds =>
      let ds := (ds.map go).map (withoutMissing kind)
      n.withShape (.varDecl (shortKeyword r.facts inner kind ds) declared ds)
    | .catchClause (some caught) ascription body =>
      let isUnread := (Names.ofBinding caught).any fun b => isUnused r.facts inner b.name
      n.withShape
        (.catchClause (if isUnread && !r.byName then none else some (go caught)) ascription
          (go body))
    | .taggedTemplate tag typeArgs quasi =>
      n.withShape (.taggedTemplate (heldBack tag (goal r k inner tag)) typeArgs
        (quasi.withShape (quasi.shape.map go)))
    | .call callee typeArgs args optional isPure =>
      let shorter :=
        match callee.shape with
        | .reference _ => go callee
        | _ => goal r k inner callee
      let callee := heldBack callee shorter
      let args := args.map go
      if optional || typeArgs.isSome then
        n.withShape (.call callee typeArgs args optional isPure)
      else
        let call :=
          if r.byName then n.withShape (.call callee none args false isPure)
          else (calledAtOnce? callee args).getD (idleCall r inner n callee args isPure)
        (provided? inner call).getD call
    | .unary .delete argument =>
      n.withShape (.unary .delete (heldBack argument (goal r k inner argument)))
    | .reference name =>
      if r.byName then expression inner n
      else (replacement? r.facts inner name).getD (expression inner n)
    | .exportSpecifier .. => n
    | .assign op target value =>
      expression inner (n.withShape (.assign op (goal r k inner target) (go value)))
    | .update op leading target => n.withShape (.update op leading (goal r k inner target))
    | .property kind isMethod computed _ key value =>
      let key := if computed then go key else key
      expression inner (n.withShape (.property kind isMethod computed false key (go value)))
    | .method m =>
      let (computed, key) := shortKey r k inner m.computed m.key
      n.withShape (.method
        { m with computed, key, decorators := m.decorators.map go, value := go m.value })
    | .field f =>
      let (computed, key) := shortKey r k inner f.computed f.key
      n.withShape (.field
        { f with computed, key, decorators := f.decorators.map go, value := f.value.map go })
    | .classDef c =>
      let name := if c.isExpression then neededName r inner c.name else c.name
      let members := c.members.filter (!isIdleMember c ·)
      n.withShape ((Shape.classDef { c with name, members }).map go)
    | shape =>
      let shorter := expression inner (n.withShape (shape.map go))
      (provided? inner shorter).getD shorter

/-- The key of a member of a class. -/
def shortKey (r : Round) : Nat → Scopes → Bool → Node → Bool × Node
  | 0, _, computed, n => (computed, n)
  | k + 1, s, computed, n => key computed (if computed then node r k s n else n)

/-- What an assignment writes to, or what is called, of which only the parts are made shorter. -/
def goal (r : Round) : Nat → Scopes → Node → Node
  | 0, _, n => n
  | k + 1, s, n =>
    match n.shape with
    | .reference _ => n
    | .paren inner => goal r k s inner
    | .member .. | .index .. | .privateMember .. =>
      expression s (n.withShape (n.shape.map (node r k s)))
    | .objectPattern _ | .arrayPattern _ | .patternProperty .. | .withDefault .. | .rest .. => n
    | _ => node r k s n

/-- The parts of a function. -/
def functionParts (r : Round) : Nat → Scopes → Function Node → Function Node
  | 0, _, f => f
  | k + 1, s, f =>
    { f with
      name := if f.role = .expression then neededName r s f.name else f.name
      params := node r k s f.params, body := f.body.map (functionBody r k s) }

/-- The body of a function. -/
def functionBody (r : Round) : Nat → Scopes → Node → Node
  | 0, _, n => n
  | k + 1, s, n =>
    match n.shape with
    | .functionBody directives body =>
      n.withShape
        (.functionBody (neededDirectives r directives) (list r s true (body.map (node r k s))))
    | _ => n

/-- The body of an arrow function that is an expression. -/
def plainBody (r : Round) : Nat → Scopes → Node → Node
  | 0, _, n => n
  | k + 1, s, n =>
    match n.shape with
    | .functionBody directives [x] =>
      match x.shape with
      | .exprStmt e =>
        n.withShape (.functionBody directives [x.withShape (.exprStmt (node r k s e))])
      | _ => n
    | _ => n

end

/-- One round. -/
def round (isScript : Bool) (program : Node) : Node :=
  let r : Round := ⟨factsOf program, isScript, reachesByName program⟩
  node r (4 * program.depth + 8) [] program

/-- The text of a program without blanks. -/
def compact (program : Node) : String := program.print { compact := true } []

/-- Rounds until nothing changes, so many at most. -/
def rounds (isScript : Bool) : Nat → Node → Node
  | 0, program => program
  | k + 1, program =>
    let next := round isScript program
    if compact next == compact program then next else rounds isScript k next

end Minify

/-- A script without anything it can do without; nothing if it cannot be read. -/
def minified? (dialect : Dialect) (code : String) : Option String :=
  let parsed := Parsed.ofText dialect code
  if parsed.faults.isEmpty then
    some (Minify.compact (Minify.rounds (dialect.goal = .script) 10 parsed.program))
  else none

/-- The goal of scripts that are emitted. -/
def emittedGoal (options : CompilerOptions) : Goal :=
  if options.module = .none then .script else .module

/-- Minifies the script. -/
def minify : PostEmit :=
  { name := "minify"
    apply := fun options code =>
      match minified? (ModuleSyntax.emittedDialect options (emittedGoal options)) code with
      | some text => .ok text
      | none => .error ⟨"minify", "output does not parse"⟩ }

end Playground.Emit
