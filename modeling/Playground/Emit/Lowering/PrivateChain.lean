import Playground.Emit.Lowering.Chain
import Playground.Emit.Lowering.Private

/-!
# Private names in chains and patterns

A private name in an optional chain divides the chain: what stands before its last optional link
becomes a test of its own, and what follows goes on from the value of the private name.  Where a
pattern assigns to a private field, an object takes its place whose property sets the field.
-/

namespace Playground.Emit.Lower

open Playground.Script

/-! ### Chains -/

/-- Whether a link of a chain, some levels down, is a private name that is lowered. -/
def chainHasPrivate : Nat → Node → Lower Bool
  | 0, _ => return false
  | k + 1, n => do
    match n.shape with
    | .privateMember object name _ =>
      if (← privateNamed name).isSome then return true else chainHasPrivate k object
    | .member object _ _ | .index object _ _ | .call object _ _ _ _ | .taggedTemplate object _ _
    | .nonNull object => chainHasPrivate k object
    | _ => return false

/-- Whether some link of a chain, some levels down, is optional. -/
def hasOptional : Nat → Node → Bool
  | 0, _ => false
  | k + 1, n =>
    match n.shape with
    | .privateMember object _ optional | .member object _ optional | .index object _ optional
    | .call object _ _ optional _ => optional || hasOptional k object
    | .taggedTemplate object _ _ | .nonNull object => hasOptional k object
    | _ => false

/-- The test whether an object is missing, and the object to go on with. -/
def missingTest (object : Node) : Lower (Node × Node) := do
  let whole : Node := if hasOptional object.depth object then .made (.chain object) else object
  let (first, again) ← twice whole
  return (isMissing first again, again)

/-- Takes the last optional link of a chain, some levels down, as a test. -/
def lastOptional : Nat → Node → Lower (Option Node × Node)
  | 0, n => return (none, n)
  | k + 1, n => do
    let link (object : Node) (optional : Bool) (join : Node → Shape Node) :
        Lower (Option Node × Node) := do
      if optional then
        let (test, object) ← missingTest object
        return (some test, n.withShape (join object))
      let (test, object) ← lastOptional k object
      return (test, n.withShape (join object))
    match n.shape with
    | .nonNull inner => lastOptional k inner
    | .member object name optional => link object optional (.member · name false)
    | .index object key optional => link object optional (.index · key false)
    | .privateMember object name optional => link object optional (.privateMember · name false)
    | .call callee typeArgs args optional pure =>
      link callee optional (.call · typeArgs args false pure)
    | .taggedTemplate tag typeArgs quasi => link tag false (.taggedTemplate · typeArgs quasi)
    | _ => return (none, n)

/-- Nothing if a test holds, and else a value. -/
def unlessMissing (test value : Node) : Node := Build.cond test Build.void0 value

/-- Lowers the private names in a chain, some levels down: the test that the rest of the chain is
under, and the rest. -/
def privateLinks : Nat → Node → Lower (Option Node × Node)
  | 0, n => return (none, n)
  | k + 1, n => do
    let link (object : Node) (optional : Bool) (join : Bool → Node → Shape Node) :
        Lower (Option Node × Node) := do
      match ← privateLinks k object with
      | (some test, object) =>
        if optional then
          return (none, n.withShape (join true (unlessMissing test object)))
        return (some test, n.withShape (join false object))
      | (none, object) => return (none, n.withShape (join optional object))
    match n.shape with
    | .nonNull inner => privateLinks k inner
    | .member object name optional => link object optional fun o x => .member x name o
    | .index object key optional => link object optional fun o x => .index x key o
    | .privateMember object name optional =>
      match ← privateNamed name with
      | none => link object optional fun o x => .privateMember x name o
      | some (c, m) =>
        let (test, object) ←
          if optional then
            let (test, object) ← missingTest object
            pure (some test, object)
          else lastOptional k object
        return (test, ← privateGet c m object)
    | .call callee typeArgs args optional pure =>
      match privatePartOf callee with
      | none => link callee optional fun o x => .call x typeArgs args o pure
      | some (_, name) =>
        match ← privateNamed name with
        | none => link callee optional fun o x => .call x typeArgs args o pure
        | some (c, m) =>
          let (test, callee) ← lastOptional (k + 1) (bare callee.depth callee)
          match callee.shape with
          | .privateMember object _ _ =>
            let (value, on) ← privateCallee c m object
            let called (value : Node) : Node :=
              let callee : Node := .made (.member value "call" optional)
              n.withShape (.call callee none (on :: args) false pure)
            match test, optional with
            | some test, true => return (none, called (unlessMissing test value))
            | _, _ => return (test, called value)
          | _ => return (test, n.withShape (.call callee typeArgs args optional pure))
    | .taggedTemplate tag typeArgs quasi =>
      link tag false fun _ x => .taggedTemplate x typeArgs quasi
    | _ => return (none, n)
where
  /-- The object and the name of a private member, optional or not. -/
  privatePartOf (n : Node) : Option (Node × String) :=
    match (bare n.depth n).shape with
    | .privateMember object name _ => some (object, name)
    | _ => none

/-- Lowers a chain with private names, or the removal of what it leads to. -/
def privateChain (n : Node) : Lower Node := do
  if !(← lacks 2022) then return n
  let found : Option (Bool × Node) :=
    match n.shape with
    | .chain inner => some (false, inner)
    | .unary .delete argument =>
      match argument.shape with
      | .chain inner => some (true, inner)
      | _ => none
    | _ => none
  match found with
  | none => return n
  | some (removed, inner) =>
    if !(← chainHasPrivate inner.depth inner) then return n
    let deletion (n : Node) : Node := if removed then .made (.unary .delete n) else n
    match ← privateLinks inner.depth inner with
    | (some test, value) =>
      if removed then return Build.cond test (Build.bool true) (deletion value)
      return unlessMissing test value
    | (none, value) =>
      let rest : Node := if hasOptional value.depth value then .made (.chain value) else value
      return deletion rest

/-! ### Patterns -/

/-- What a private name is as a target in a pattern. -/
def privateTarget (n : Node) : Lower Node :=
  ofPrivate n n fun c m object => do
    if m.isStatic then privateGet c m object
    else
      let set ← helper "classPrivateFieldSet2" "classPrivateFieldSet2"
      let setter ← callHelper "toSetter"
        [Build.var set, Build.array [Build.var m.storage, object]]
      return Build.dot setter "_"

/-- Lowers the private names that the parts of a pattern, or the head of a loop, assign to. -/
def privateTargets (n : Node) : Lower Node := do
  if !(← lacks 2022) then return n
  match n.shape with
  | .arrayPattern elements => return n.withShape (.arrayPattern (← elements.mapM privateTarget))
  | .patternProperty computed shorthand key value =>
    return n.withShape (.patternProperty computed shorthand key (← privateTarget value))
  | .withDefault target value => return n.withShape (.withDefault (← privateTarget target) value)
  | .rest target ascription => return n.withShape (.rest (← privateTarget target) ascription)
  | .forIn left right body => return n.withShape (.forIn (← privateTarget left) right body)
  | .forOf isAwait left right body =>
    return n.withShape (.forOf isAwait (← privateTarget left) right body)
  | _ => return n

end Playground.Emit.Lower
