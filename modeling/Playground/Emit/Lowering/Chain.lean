import Playground.Emit.Lowering.Operator

/-!
# Lowering optional chains

In a chain `a?.b.c` a link that is optional ends the whole chain if what stands before it is
empty.  `links` takes a chain apart from the outside: it gives the test that all optional links
pass, and the chain without marks, in which a variable holds what the last optional link starts
from.  The variable is used again for later links; a function that is called gets one of its own,
because the object that it is called on is still needed.
-/

namespace Playground.Emit.Lower

open Playground.Script

/-- A chain that is taken apart. -/
structure Links where
  /-- whether some link finds nothing -/
  missing : Option Node
  /-- the chain without marks -/
  value : Node
  /-- the variable that was made last -/
  holder : Option String
deriving Inhabited

/-- Whether a value is one of the two empty ones. -/
def isMissing (first again : Node) : Node :=
  Build.or (Build.bin .strictEq first Build.null) (Build.bin .strictEq again Build.void0)

/-- One test or another. -/
def orTest (a : Option Node) (b : Node) : Node :=
  match a, b.shape with
  | none, _ => b
  | some a, .logical .or first again => Build.or (Build.or a first) again
  | some a, _ => Build.or a b

/-- Whether reading an expression of a chain again needs no variable. -/
def isSettled (n : Node) : Lower Bool :=
  match n.shape with
  | .thisExpr => return true
  | .reference name => return name == "eval" || (← isBound name)
  | _ => return false

/-- The start of an optional link: its test, and the form to go on with. -/
def startLink (l : Links) : Lower Links := do
  if ← isSettled l.value then
    return { l with missing := some (orTest l.missing (isMissing l.value l.value)) }
  let name ←
    match l.holder with
    | some name => pure name
    | none => temporary (nameOf l.value)
  let first := Build.set (Build.var name) l.value
  return ⟨some (orTest l.missing (isMissing first (Build.var name))), Build.var name, some name⟩

/-- The object a function is called on: the member with the object kept, and the object. -/
def receiver (n : Node) : Lower (Node × Option Node) := do
  let keep (object : Node) : Lower (Node × Node) := do
    if ← isSettled object then return (object, object)
    let name ← temporary (nameOf object)
    return (Build.set (Build.var name) object, Build.var name)
  let isSuper (object : Node) : Bool :=
    match object.shape with
    | .superExpr => true
    | _ => false
  match n.shape with
  | .member object name optional =>
    if isSuper object then return (n, some Build.this)
    let (first, again) ← keep object
    return (n.withShape (.member first name optional), some again)
  | .index object key optional =>
    if isSuper object then return (n, some Build.this)
    let (first, again) ← keep object
    return (n.withShape (.index first key optional), some again)
  | .privateMember object name optional =>
    let (first, again) ← keep object
    return (n.withShape (.privateMember first name optional), some again)
  | _ => return (n, none)

/-- The start of an optional call: its test, the function, and the object it is called on. -/
def startCall (l : Links) : Lower (Links × Option Node) := do
  if ← isSettled l.value then
    return ({ l with missing := some (orTest l.missing (isMissing l.value l.value)) }, none)
  let name ← temporary (nameOf l.value)
  let (value, object) ← receiver l.value
  let first := Build.set (Build.var name) value
  let test := orTest l.missing (isMissing first (Build.var name))
  return (⟨some test, Build.var name, some name⟩, object)

/-- Takes a chain apart, some levels down. -/
def links : Nat → Node → Lower Links
  | 0, n => return ⟨none, n, none⟩
  | k + 1, n => do
    let link (object : Node) (optional : Bool) (join : Node → Shape Node) : Lower Links := do
      let l ← links k object
      let l ← if optional then startLink l else pure l
      return { l with value := n.withShape (join l.value) }
    match n.shape with
    | .nonNull inner => links k inner
    | .member object name optional => link object optional (.member · name false)
    | .index object key optional => link object optional (.index · key false)
    | .privateMember object name optional => link object optional (.privateMember · name false)
    -- the function is read apart from its object, which then has to be passed by hand
    | .call callee typeArgs args true pure => do
      let (l, object) ← startCall (← links k callee)
      let value :=
        match object with
        | some object => Build.call (Build.dot l.value "call") (object :: args)
        | none => .made (.call l.value typeArgs args false pure)
      return { l with value := n.withShape value.shape }
    | .call callee typeArgs args false pure =>
      link callee false (.call · typeArgs args false pure)
    | .taggedTemplate tag typeArgs quasi => link tag false (.taggedTemplate · typeArgs quasi)
    | _ => return ⟨none, n, none⟩

/-- Lowers a chain, or the removal of what it leads to. -/
def chainValue (removed : Bool) (inner : Node) : Lower Node := do
  let l ← links inner.depth inner
  match l.missing with
  | none => return l.value
  | some missing =>
    if removed then
      return Build.cond missing (Build.bool true) (.made (.unary .delete l.value))
    if (← read).site = .callee then
      let (value, object) ← receiver l.value
      let bound :=
        match object with
        | some object => Build.call (Build.dot value "bind") [object]
        | none => value
      return Build.cond missing Build.void0 bound
    return Build.cond missing Build.void0 l.value

/-- Lowers optional chains.  Among the parameters of a function there are no statements to
declare a variable with, so the chain moves into a function that is called at once. -/
def optionalChain (n : Node) : Lower Node := do
  if !(← lacks 2020) then return n
  let found : Option (Bool × Node) :=
    match n.shape with
    | .chain inner => some (false, inner)
    | .unary .delete argument =>
      match argument.shape with
      | .chain inner => some (true, inner)
      | _ => none
    | _ => none
  match found with
  | none => return n
  | some (removed, inner) =>
    if (← get).inParameters then
      return Build.call (Build.arrow (Build.params []) [Build.ret n]) []
    chainValue removed inner

end Playground.Emit.Lower
