import Playground.Emit.Lowering.Operator

/-!
# Lowering private names

A private field of objects is kept in a map from objects to values, a private method is a function
beside the class, and a set holds the objects that have the methods.  What is private to the class
itself is kept in a variable.  `privateAccess` replaces the expressions that use private names;
helpers check that the object has them.
-/

namespace Playground.Emit.Lower

open Playground.Script

/-- The class around that has a private name, and what the name stands for. -/
def privateNamed (name : String) : Lower (Option (ClassPlace × PrivateMember)) := do
  return (← read).classes.findSome? fun c =>
    (c.privates.find? (·.name == name)).bind fun m =>
      if m.kind = .untouched then none else some (c, m)

/-- The variable that stands for a class, made if need be. -/
def classVariable (c : ClassPlace) : Lower String := do
  match (← get).classNames.lookup c.number with
  | some name => return name
  | none =>
    let name ← temporary (c.name.getD "Class")
    modify fun s => { s with classNames := (c.number, name) :: s.classNames }
    return name

/-- What stands for a class within it. -/
def classItself (c : ClassPlace) : Lower Node := do
  match c.name with
  | some name =>
    if c.inStatic || c.isExpression then return Build.var (← classVariable c)
    return Build.var name
  | none => return Build.var (← classVariable c)

/-- Whether an expression is the name of a class within it. -/
def isClassName (c : ClassPlace) (n : Node) : Lower Bool := do
  match n.shape, c.name with
  | .reference name, some own => return name == own && (← read).scopes.find? name == c.nameScope
  | _, _ => return false

/-- An object that is used twice. -/
def twice (n : Node) : Lower (Node × Node) := do
  match n.shape with
  | .thisExpr => return (n, n)
  | .reference name => if ← isBound name then return (n, n)
  | _ => pure ()
  let t ← temporary (nameOf n)
  return (Build.set (Build.var t) n, Build.var t)

/-- The check that an object has what is private. -/
def checked (c : ClassPlace) (m : PrivateMember) (object : Node) (more : List Node) :
    Lower Node := do
  let brand ←
    match m.isStatic, c.brand with
    | false, some b => pure (Build.var b)
    | _, _ => classItself c
  callHelper "assertClassBrand" (brand :: object :: more)

/-- The value that a private name has on an object. -/
def privateGet (c : ClassPlace) (m : PrivateMember) (object : Node) : Lower Node := do
  let direct := m.isStatic && (← isClassName c object)
  let store := Build.var m.storage
  match m.kind with
  | .field =>
    if !m.isStatic then return ← callHelper "classPrivateFieldGet2" [store, object]
    if direct then return Build.dot store "_"
    return Build.dot (← checked c m object [store]) "_"
  | .accessor =>
    match m.getter with
    | some getter =>
      let object ← if direct then pure object else checked c m object []
      return Build.call (Build.dot (Build.var getter) "call") [object]
    | none => return Build.seq [object, ← callHelper "writeOnlyError" [Build.str ("#" ++ m.name)]]
  | _ => if direct then return store else checked c m object [store]

/-- The assignment of a value to a private name of an object. -/
def privateSet (c : ClassPlace) (m : PrivateMember) (object value : Node) : Lower Node := do
  let direct := m.isStatic && (← isClassName c object)
  let store := Build.var m.storage
  match m.kind with
  | .field =>
    if !m.isStatic then return ← callHelper "classPrivateFieldSet2" [store, object, value]
    let value ← if direct then pure value else checked c m object [value]
    return Build.set (Build.dot store "_") value
  | .accessor =>
    match m.setter with
    | some setter =>
      let object ← if direct then pure object else checked c m object []
      return Build.call (Build.dot (Build.var setter) "call") [object, value]
    | none =>
      return Build.seq
        [object, value, ← callHelper "readOnlyError" [Build.str ("#" ++ m.name)]]
  | _ =>
    return Build.seq [object, value, ← callHelper "readOnlyError" [Build.str ("#" ++ m.name)]]

/-- The function that a private name has on an object, and the object it is called on. -/
def privateCallee (c : ClassPlace) (m : PrivateMember) (object : Node) : Lower (Node × Node) := do
  if m.isStatic && (← isClassName c object) then return (← privateGet c m object, object)
  let (first, again) ← twice object
  return (← privateGet c m first, again)

/-- Stepping a private name of an object. -/
def privateStep (c : ClassPlace) (m : PrivateMember) (op : UpdateOp) (leading : Bool)
    (whole object : Node) : Lower Node := do
  let (first, again) ← twice object
  let t ← temporary (nameOf whole)
  if leading then
    let value ← privateGet c m again
    let stepped := Build.seq
      [Build.set (Build.var t) value, .made (.update op true (Build.var t))]
    return ← privateSet c m first stepped
  let old ← temporary (nameOf whole)
  let value ← privateGet c m again
  let stepped := Build.seq
    [Build.set (Build.var t) value,
     Build.set (Build.var old) (.made (.update op false (Build.var t))), Build.var t]
  return Build.seq [← privateSet c m first stepped, Build.var old]

/-- Whether an object has a private name. -/
def privateTest (c : ClassPlace) (m : PrivateMember) (right : Node) : Lower Node := do
  let object ← callHelper "checkInRHS" [right]
  if m.isStatic then return Build.bin .strictEq object (← classItself c)
  let holder :=
    match m.kind, c.brand with
    | .field, _ => m.storage
    | _, some b => b
    | _, none => m.storage
  return Build.call (Build.dot (Build.var holder) "has") [object]

/-- An expression without the parentheses around it. -/
def bare : Nat → Node → Node
  | 0, n => n
  | k + 1, n =>
    match n.shape with
    | .paren inner => bare k inner
    | .nonNull inner => bare k inner
    | _ => n

/-- The object and the name of a private member. -/
def privatePart (n : Node) : Option (Node × String) :=
  match (bare n.depth n).shape with
  | .privateMember object name false => some (object, name)
  | _ => none

/-- Does something with a private member of which the class is known; else gives the node back. -/
def ofPrivate (n part : Node) (f : ClassPlace → PrivateMember → Node → Lower Node) :
    Lower Node := do
  match privatePart part with
  | none => return n
  | some (object, name) =>
    match ← privateNamed name with
    | none => return n
    | some (c, m) => f c m object

/-- Lowers an expression that uses a private name. -/
def privateAccess (n : Node) : Lower Node := do
  if !(← lacks 2022) then return n
  match n.shape with
  | .privateMember _ _ false => ofPrivate n n privateGet
  | .call callee _ args false pure =>
    ofPrivate n callee fun c m object => do
      let (value, on) ← privateCallee c m object
      return n.withShape (.call (Build.dot value "call") none (on :: args) false pure)
  | .taggedTemplate tag _ quasi =>
    ofPrivate n tag fun c m object => do
      let (value, on) ← privateCallee c m object
      return n.withShape
        (.taggedTemplate (Build.call (Build.dot value "bind") [on]) none quasi)
  | .assign .plain target value =>
    ofPrivate n target fun c m object => privateSet c m object value
  | .assign (.binary op) target value =>
    ofPrivate n target fun c m object => do
      let (first, again) ← twice object
      let old ← privateGet c m again
      privateSet c m first (Build.bin op old value)
  | .assign (.logical op) target value =>
    ofPrivate n target fun c m object => do
      let (first, again) ← twice object
      let old ← privateGet c m first
      return .made (.logical op old (← privateSet c m again value))
  | .update op leading target =>
    ofPrivate n target fun c m object => privateStep c m op leading target object
  | .privateIn name right =>
    match ← privateNamed name with
    | some (c, m) => privateTest c m right
    | none => return n
  | _ => return n

end Playground.Emit.Lower
