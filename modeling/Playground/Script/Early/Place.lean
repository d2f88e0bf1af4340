import Playground.Script.Early.Redeclaration

/-!
# What a place in a program allows

Whether a statement or an expression is allowed depends on what is around it: the loops and labels
of the function, the class, whether the code is strict.  `Place` holds what is around, and each
function below says what is inside of something.
-/

namespace Playground.Script.Early

/-- A label of an enclosing statement. -/
structure Label where
  name : String
  start : Nat
  /-- it labels a loop -/
  isLoop : Bool
deriving Inhabited

/-- What is around a place. -/
structure Place where
  strict : Bool
  isModule : Bool
  /-- in a declaration of what exists elsewhere -/
  ambient : Bool := false
  /-- the labels of the function, the innermost first -/
  labels : List Label := []
  inLoop : Bool := false
  inSwitch : Bool := false
  /-- within a function with a `this` of its own, or a static block: jumps end there -/
  inFunction : Bool := false
  /-- where `new.target` has a meaning -/
  hasTarget : Bool := false
  /-- the private names of the classes around, if there are any -/
  privates : Option (List String) := none
  /-- the constructor of the base class may be called -/
  baseCall : Bool := false
  /-- in the constructor of a class without a base class -/
  rootConstructor : Bool := false
  /-- members of the base class may be reached -/
  baseMember : Bool := false
  /-- where `arguments` has no meaning -/
  noArguments : Option String := none
  /-- in a parameter of the function around -/
  inParameter : Bool := false
  /-- directly in a block that runs when a class is made -/
  inStaticBlock : Bool := false
  /-- a class may go without a name, since it is the default export -/
  nameless : Bool := false
  /-- how many nodes lie between the place and the program or namespace around -/
  below : Nat := 0
  /-- directly in a declaration whose type parameters may have a variance -/
  variant : Bool := false
deriving Inhabited

namespace Place

variable (p : Place)

/-- In a function without a `this` of its own; jumps are checked as if it were not there. -/
def inArrow (body : Node) : Place :=
  { p with
    inParameter := false, inStaticBlock := false, nameless := false
    strict := p.strict || isStrictBody body }

/-- In a function with a `this` of its own, whose jumps end in it. -/
def inOwnFunction (f : Function Node) : Place :=
  { p.inArrow (f.body.getD default) with
    labels := [], inLoop := false, inSwitch := false, inFunction := true, hasTarget := true
    baseCall := false, rootConstructor := false, baseMember := false, noArguments := none
    ambient := p.ambient || f.declared }

/-- In a method of a class or of an object. -/
def inMethod (isConstructor hasBase : Bool) (f : Function Node) : Place :=
  { p.inOwnFunction f with
    baseCall := isConstructor && hasBase, rootConstructor := isConstructor && !hasBase
    baseMember := true }

/-- In an initializer of a class. -/
def inInitializer (words : String) : Place :=
  { p with
    hasTarget := true, baseCall := false, rootConstructor := false, baseMember := true
    noArguments := some words }

/-- In a block that runs when a class is made. -/
def inStatic : Place :=
  { p.inInitializer "static initialization block" with
    labels := [], inLoop := false, inSwitch := false, inFunction := true, inStaticBlock := true }

/-- In a class with some private names. -/
def inClass (names : List String) (declared : Bool) : Place :=
  { p with
    strict := true, privates := some (names ++ p.privates.getD [])
    nameless := false, ambient := p.ambient || declared }

/-- In a block or another statement. -/
def nested : Place := { p with inStaticBlock := false }

/-- In the body of a loop. -/
def looping : Place := { p.nested with inLoop := true }

/-- In the cases of a switch. -/
def switching : Place := { p.nested with inSwitch := true }

/-- In a statement with a label. -/
def labelled (l : Label) : Place := { p.nested with labels := l :: p.labels }

/-- Directly in a node; a program and the body of a namespace start to count again, an export does
not count, and a class counts together with its body. -/
def within (n : Node) : Place :=
  match n.shape with
  | .program .. | .moduleBlock .. | .moduleDecl .. => { p with below := 0, variant := false }
  | .exportNamed .. | .exportDefault .. => p
  | .classDef _ => { p with below := p.below + 2, variant := true }
  | .typeAlias .. | .interface .. => { p with below := p.below + 1, variant := true }
  | _ => { p with below := p.below + 1, variant := false }

end Place

/-- Whether a statement is a loop. -/
def isLoop (n : Node) : Bool :=
  match n.shape with
  | .forStmt .. | .forIn .. | .forOf .. | .whileStmt .. | .doWhile .. => true
  | _ => false

/-- The private name of a member of a class. -/
def privateNameOf (member : Node) : List String :=
  let key? := match member.shape with
    | .method m => some m.key
    | .field f => some f.key
    | _ => none
  match key?.map Node.shape with
  | some (.privateName name) => [name]
  | _ => []

end Playground.Script.Early
