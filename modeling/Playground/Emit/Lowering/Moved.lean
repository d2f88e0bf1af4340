import Playground.Emit.Lowering.Private

/-!
# Code that moves out of a class

Initial values of static members and private methods end up outside of their class.  There a
variable stands for the class, wherever its name or, in an initial value, `this` meant it; and
helpers reach the properties of the base class.  Within another function `this` and `super` mean
something else.
-/

namespace Playground.Emit.Lower

open Playground.Script

/-- Code that moves out of a class. -/
structure Moving where
  place : ClassPlace
  /-- it belongs to the class itself, and not to its objects -/
  isStatic : Bool
  /-- it is an initial value, and not a method -/
  isValue : Bool

/-- The variable that stands for the class. -/
def Moving.held (m : Moving) : Lower Node := return Build.var (← classVariable m.place)

/-- The object that properties of the base class are reached on. -/
def Moving.receiver (m : Moving) : Lower Node := if m.isValue then m.held else return Build.this

/-- The key of a property of the base class. -/
def superKey? (n : Node) : Option Node :=
  let onSuper (object key : Node) : Option Node :=
    match object.shape with
    | .superExpr => some key
    | _ => none
  match (bare n.depth n).shape with
  | .member object name _ => onSuper object (Build.str name)
  | .index object key _ => onSuper object key
  | _ => none

/-- The value of a property of the base class, or the function that calls it. -/
def Moving.superGet (m : Moving) (key : Node) (isCalled : Bool) : Lower Node := do
  let flags := (if m.isStatic then 0 else 1) + (if isCalled then 2 else 0)
  let flag := if flags = 0 then [] else [Build.num (Float.ofNat flags)]
  callHelper "superPropGet" ([← m.held, key, ← m.receiver] ++ flag)

/-- The assignment to a property of the base class. -/
def Moving.superSet (m : Moving) (key value : Node) : Lower Node := do
  let flag := if m.isStatic then [] else [Build.num 1]
  callHelper "superPropSet" ([← m.held, key, value, ← m.receiver, Build.num 1] ++ flag)

/-- A key that is used twice. -/
def keyTwice (key : Node) : Lower (Node × Node) :=
  if isLiteral key then return (key, key) else twice key

/-- Replaces what reaches a property of the base class. -/
def Moving.superUse (m : Moving) (n : Node) : Lower Node := do
  match n.shape with
  | .member .. | .index .. =>
    match superKey? n with
    | some key => m.superGet key false
    | none => return n
  | .call callee _ args false _ =>
    match superKey? callee with
    | some key => return Build.call (← m.superGet key true) [Build.array args]
    | none => return n
  | .assign op target value =>
    match superKey? target with
    | none => return n
    | some key =>
      match op with
      | .plain => m.superSet key value
      | .binary op =>
        let (first, again) ← keyTwice key
        let old ← m.superGet again false
        m.superSet first (Build.bin op old value)
      | .logical op =>
        let (first, again) ← keyTwice key
        let old ← m.superGet first false
        return .made (.logical op old (← m.superSet again value))
  | .update op leading target =>
    match superKey? target with
    | none => return n
    | some key =>
      let (first, again) ← keyTwice key
      let t ← temporary (nameOf target)
      if leading then
        let stepped := Build.seq
          [Build.set (Build.var t) (← m.superGet again false),
           .made (.update op true (Build.var t))]
        return ← m.superSet first stepped
      let old ← temporary (nameOf target)
      let stepped := Build.seq
        [Build.set (Build.var t) (← m.superGet again false),
         Build.set (Build.var old) (.made (.update op false (Build.var t))), Build.var t]
      return Build.seq [← m.superSet first stepped, Build.var old]
  | _ => return n

/-- A part of code that moves, some levels down; `own` is false within another function. -/
def Moving.part (m : Moving) : Nat → Bool → Scopes → Node → Lower Node
  | 0, _, _, n => return n
  | k + 1, own, s, n => do
    let n ← if own then m.superUse n else pure n
    let inner := n.enter s
    match n.shape with
    | .thisExpr => if own && m.isValue then m.held else return n
    | .reference x =>
      if some x == m.place.name && !Scopes.binds s x then m.held else return n
    | .function _ | .classDef _ =>
      return n.withShape (← n.shape.mapM (m.part k false inner))
    | shape => return n.withShape (← shape.mapM (m.part k own inner))

/-- The initial value of a static member, or a static block, outside of its class. -/
def staticValue (place : ClassPlace) (n : Node) : Lower Node :=
  Moving.part ⟨place, true, true⟩ (4 * n.depth + 8) true [] n

/-- The function of a private method outside of its class. -/
def movedMethod (place : ClassPlace) (isStatic : Bool) (f : Function Node) :
    Lower (Function Node) := do
  let m : Moving := ⟨place, isStatic, false⟩
  let inside (n : Node) : Lower Node :=
    let names := Names.bound f.params ++ f.body.toList.flatMap Node.bodyNames
    let scopes : Scopes := [⟨⟨0, n.span⟩, names.map (·.name), true⟩]
    m.part (4 * n.depth + 8) true scopes n
  return { f with params := ← inside f.params, body := ← f.body.mapM inside }

end Playground.Emit.Lower
