import Playground.Emit.Lowering.Basic

/-!
# Lowering operators

* `coalesce` – `a ?? b` tests for the two empty values;
* `assignLogical` – `a ||= b` becomes `a || (a = b)`, and the same for the other two;
* `power` – `a ** b` calls `Math.pow`, alone and in an assignment.

A part that is written once and used twice is kept in a variable, unless reading it again can do
nothing.
-/

namespace Playground.Emit.Lower

open Playground.Script

/-- A value that is there, or another: the first form evaluates the value, the second comes
after. -/
def orElse (first again other : Node) : Node :=
  let there := Build.and (Build.bin .strictNe first Build.null)
    (Build.bin .strictNe again Build.void0)
  Build.cond there again other

/-- Lowers `??`.  In the initial value of a parameter there are no statements to declare a
variable with, so a function takes it as a parameter. -/
def coalesce (n : Node) : Lower Node := do
  if !(← lacks 2020) then return n
  match n.shape with
  | .logical .coalesce left right =>
    if ← isStatic left then return orElse left left right
    if (← read).site = .parameter then
      let name ← fresh (nameOf left)
      let value := orElse (Build.set (Build.var name) left) (Build.var name) right
      return Build.call (Build.concise (Build.params [Build.bind name]) value) []
    let name ← temporary (nameOf left)
    return orElse (Build.set (Build.var name) left) (Build.var name) right
  | _ => return n

/-- A target that is read and then written: the expression that reads it, and the target. -/
def readAndWrite (target : Node) : Lower (Option (Node × Node)) := do
  match target.shape with
  | .reference _ => return some (target, target)
  | .member object name _ =>
    let (first, again) ← once object
    return some (Build.dot first name, Build.dot again name)
  | .index object key _ =>
    let (first, again) ← once object
    let (firstKey, againKey) ← once key
    return some (Build.item first firstKey, Build.item again againKey)
  | _ => return none

/-- Lowers `||=`, `&&=` and `??=`. -/
def assignLogical (n : Node) : Lower Node := do
  if !(← lacks 2021) then return n
  match n.shape with
  | .assign (.logical op) target value =>
    match ← readAndWrite target with
    | some (read, write) => return n.withShape (.logical op read (Build.set write value))
    | none => return n
  | _ => return n

/-! ### Powers -/

/-- The power of two numbers. -/
def powerOf (base exponent : Node) : Node :=
  Build.call (Build.dot (Build.var "Math") "pow") [base, exponent]

/-- Whether a literal is a big integer, of which `Math.pow` knows nothing. -/
def isBigInt (n : Node) : Bool :=
  match n.shape with
  | .bigIntLit _ => true
  | _ => false

/-- Whether an expression is a literal. -/
def isLiteral (n : Node) : Bool :=
  match n.shape with
  | .nullLit | .boolLit _ | .numberLit .. | .bigIntLit _ | .stringLit .. => true
  | _ => false

/-- An expression that reading twice does not matter for: the assignment to make first, and the
form to use. -/
def settled (n : Node) : Lower (List Node × Node) := do
  match n.shape with
  | .superExpr => return ([], n)
  | .reference name => if ← isBound name then return ([], n)
  | _ => pure ()
  let t ← temporary (nameOf n)
  return ([Build.set (Build.var t) n], Build.var t)

/-- Assignments and a value, as one expression. -/
def after : List Node → Node → Node
  | [], value => value
  | first, value => Build.seq (first ++ [value])

/-- Lowers `**` and `**=`. -/
def power (n : Node) : Lower Node := do
  if !(← lacks 2016) then return n
  match n.shape with
  | .binary .exp left right =>
    if isBigInt left || isBigInt right then return n
    return n.withShape (powerOf left right).shape
  | .assign (.binary .exp) target value =>
    match target.shape with
    | .reference _ =>
      let (first, read) ← settled target
      return after first (Build.set target (powerOf read value))
    | .member object name _ =>
      let (first, object) ← settled object
      let place := Build.item object (Build.str name)
      return after first (Build.set place (powerOf place value))
    | .index object key _ =>
      let (first, object) ← settled object
      let (second, key) ← if isLiteral key then pure ([], key) else settled key
      let place := Build.item object key
      return after (first ++ second) (Build.set place (powerOf place value))
    | _ => return n
  | _ => return n

end Playground.Emit.Lower
