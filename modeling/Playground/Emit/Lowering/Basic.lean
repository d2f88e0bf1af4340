import Playground.Emit.ModuleImports
import Playground.Script.Fault
import Playground.Script.Scope

/-!
# Lowering

Lowering replaces syntax that the target lacks.  `Lower` is its monad: `Around` is what is known
about the place a node stands at, and `Lowering` is what is gathered on the way.

* `Lower.helper` – the name a helper function is imported under;
* `Lower.temporary` – a fresh variable, declared with the statements around the place;
* `Lower.once` – an expression that is to be evaluated once and used twice;
* `Lower.thisHere`, `Lower.argumentsHere` – what belongs to a function further out, for code that
  moves into a function of its own.
-/

namespace Playground.Emit

open Playground.Script

/-- What a node is to the node around it, where that matters. -/
inductive Site where
  | other
  /-- the value of a variable or a property, of which a function takes its name -/
  | named (name : String)
  /-- the initial value of a parameter -/
  | parameter
  /-- what is called -/
  | callee
  /-- the function of a method -/
  | method
deriving DecidableEq, Inhabited

/-- What waiting means at a place. -/
inductive Flow where
  /-- outside of every function -/
  | top
  | plain
  | async
  | asyncGenerator
deriving DecidableEq, Inhabited

/-- What a private name of a class stands for. -/
inductive PrivateKind where
  | field | method | accessor
  /-- a field with accessors, which is not lowered -/
  | untouched
deriving DecidableEq, Inhabited

/-- A private name of a class. -/
structure PrivateMember where
  name : String
  kind : PrivateKind
  isStatic : Bool
  /-- the variable of a field, or the function of a method -/
  storage : String := ""
  getter : Option String := none
  setter : Option String := none
deriving Inhabited

/-- What the members of a class need to know about it. -/
structure ClassPlace where
  /-- the class, as a number of its own -/
  number : Nat
  name : Option String
  /-- the scope that the name belongs to -/
  nameScope : Option ScopeKey
  isExpression : Bool
  /-- the set of the objects that have its private methods -/
  brand : Option String
  privates : List PrivateMember
  /-- within the initial value of a static member -/
  inStatic : Bool := false
deriving Inhabited

/-- What is known about a place. -/
structure Around where
  /-- the year of the language that the target speaks -/
  year : Nat
  /-- the variables that are assigned to, by the node they are bound in -/
  assigned : List (Span × String)
  scopes : Scopes := []
  site : Site := .other
  flow : Flow := .top
  /-- `this` and `arguments` are those of a function around the one the code ends up in -/
  displaced : Bool := false
  /-- the classes around, the innermost first -/
  classes : List ClassPlace := []
  /-- directly in the statements of the program -/
  atTop : Bool := true
deriving Inhabited

/-- The variables that a list of statements declares for the code in it. -/
structure Temporaries where
  vars : List String := []
  lets : List String := []
deriving Inhabited

/-- What code that moves away needs from a function. -/
structure Captured where
  this : Option String := none
  arguments : Option String := none
  /-- functions that reach properties of the base class -/
  supers : List (String × Node) := []
deriving Inhabited

/-- What is gathered while a program is lowered. -/
structure Lowering where
  fresh : Fresh
  imports : ModuleImports := {}
  /-- the names of the helpers that are imported -/
  helpers : List (String × String) := []
  /-- the open lists of statements, the innermost first -/
  temporaries : List Temporaries := []
  /-- the open functions, the innermost first -/
  captured : List Captured := []
  /-- names that were made up -/
  made : List String := []
  /-- the variables that stand for classes, by the numbers of the classes -/
  classNames : List (Nat × String) := []
  /-- how many classes there were -/
  classCount : Nat := 0
  /-- lists of keys that are declared once for the program -/
  keyLists : List (String × Node) := []
  /-- functions that stand behind the statement -/
  functionsBehind : List Node := []
  /-- among the parameters of a function -/
  inParameters : Bool := false
  faults : Array Fault := #[]
deriving Inhabited

/-- The monad of lowering. -/
abbrev Lower := ReaderT Around (StateM Lowering)

namespace Lower

/-- Whether the target lacks what came with a year. -/
def lacks (year : Nat) : Lower Bool := return (← read).year < year

/-- Does something at a site. -/
def atSite {α : Type} (site : Site) (action : Lower α) : Lower α :=
  withReader (fun a => { a with site }) action

/-- Notes something that the target cannot do. -/
def warn (cause : Cause) (start : Nat) : Lower Unit :=
  modify fun s => { s with faults := s.faults.push ⟨cause, start, true⟩ }

/-! ### Names -/

/-- A name that nothing has. -/
def fresh (base : String) : Lower String :=
  modifyGet fun s =>
    let (name, f) := s.fresh.make base
    (name, { s with fresh := f, made := name :: s.made })

/-- Declares a variable with the innermost list of statements. -/
def declare (f : Temporaries → Temporaries) : Lower Unit :=
  modify fun s =>
    match s.temporaries with
    | t :: ts => { s with temporaries := f t :: ts }
    | [] => { s with temporaries := [f {}] }

/-- A fresh variable, declared with the statements around. -/
def temporary (base : String) : Lower String := do
  let name ← fresh base
  declare fun t => { t with vars := t.vars ++ [name] }
  return name

/-- A fresh variable that is scoped to the block, declared with the statements around. -/
def blockTemporary (base : String) : Lower String := do
  let name ← fresh base
  declare fun t => { t with lets := t.lets ++ [name] }
  return name

/-- Whether a name is declared. -/
def isBound (name : String) : Lower Bool := do
  return (← read).scopes.binds name || (← get).made.contains name

/-- Whether a name is declared and never assigned to. -/
def isConstant (name : String) : Lower Bool := do
  let a ← read
  match a.scopes.find? name with
  | some key => return !a.assigned.contains (key.span, name)
  | none => return false

/-- Whether evaluating an expression again gives the same and does nothing. -/
def isStatic (n : Node) : Lower Bool :=
  match n.shape with
  | .thisExpr | .superExpr => return true
  | .reference name => isConstant name
  | _ => return false

/-- An expression that is used twice: the form that evaluates it and the form that comes after. -/
def once (n : Node) : Lower (Node × Node) := do
  if ← isStatic n then return (n, n)
  let t ← temporary (nameOf n)
  return (Build.set (Build.var t) n, Build.var t)

/-! ### Helpers -/

/-- The name a helper is imported under. -/
def helper (path base : String) : Lower String := do
  match (← get).helpers.lookup path with
  | some name => return name
  | none =>
    let name ← fresh base
    modify fun s =>
      { s with
        helpers := (path, name) :: s.helpers
        imports := s.imports.add (helperModule path) (.whole name) false }
    return name

/-- A call of a helper that is named for its module. -/
def callHelper (path : String) (args : List Node) : Lower Node := do
  return Build.call (Build.var (← helper path path)) args

/-! ### Statements -/

/-- The declarations of some variables. -/
def declarations (t : Temporaries) : List Node :=
  (if t.vars.isEmpty then [] else [Build.declareAll .asVar t.vars]) ++
    (if t.lets.isEmpty then [] else [Build.declareAll .asLet t.lets])

/-- Lowers what a list of statements holds, and gives the declarations it needs. -/
def gathering {α : Type} (action : Lower α) : Lower (List Node × α) := do
  modify fun s => { s with temporaries := {} :: s.temporaries }
  let a ← action
  let t := (← get).temporaries.headD {}
  modify fun s => { s with temporaries := s.temporaries.tail }
  return (declarations t, a)

/-! ### What belongs to a function further out -/

/-- Changes what is captured from the innermost function. -/
def capture (f : Captured → Captured) : Lower Unit :=
  modify fun s =>
    match s.captured with
    | c :: cs => { s with captured := f c :: cs }
    | [] => { s with captured := [f {}] }

/-- The current object, seen from a place. -/
def thisHere (n : Node) : Lower Node := do
  if !(← read).displaced then return n
  match ((← get).captured.headD {}).this with
  | some name => return n.withShape (.reference name)
  | none =>
    let name ← fresh "this"
    capture fun c => { c with this := some name }
    return n.withShape (.reference name)

/-- The arguments of the function, seen from a place. -/
def argumentsHere (n : Node) : Lower Node := do
  if !(← read).displaced then return n
  match ((← get).captured.headD {}).arguments with
  | some name => return n.withShape (.reference name)
  | none =>
    let name ← fresh "arguments"
    capture fun c => { c with arguments := some name }
    return n.withShape (.reference name)

/-- A function that reaches a property of the base class from a place, made if need be. -/
def superHere (base : String) (reach : Node) : Lower Node := do
  let known := ((← get).captured.headD {}).supers
  match known.find? fun (name, _) => Fresh.base name == base with
  | some (name, _) => return Build.var name
  | none =>
    let name ← fresh base
    capture fun c => { c with supers := c.supers ++ [(name, reach)] }
    return Build.var name

/-- Lowers the inside of a function, and gives what is captured from it. -/
def inFunction {α : Type} (action : Lower α) : Lower (Captured × α) := do
  modify fun s => { s with captured := {} :: s.captured }
  let a ← action
  let c := (← get).captured.headD {}
  modify fun s => { s with captured := s.captured.tail }
  return (c, a)

/-- Puts statements in front of those of a body. -/
def behindDirectives (added : List Node) (body : Node) : Node :=
  match body.shape with
  | .functionBody directives statements =>
    body.withShape (.functionBody directives (added ++ statements))
  | _ => body

/-- The declaration of what is captured, if anything is. -/
def captureStatements (c : Captured) (arguments : Node) : List Node :=
  let one (name : String) (value : Node) : Node :=
    .made (.declarator (Build.bind name) false none (some value))
  let all :=
    (c.arguments.toList.map fun name => one name arguments) ++
      (c.supers.map fun (name, value) => one name value) ++
      (c.this.toList.map fun name => one name Build.this)
  if all.isEmpty then [] else [.made (.varDecl .asVar false all)]

end Lower

end Playground.Emit
