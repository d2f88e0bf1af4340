import Playground.Script.Names
import Playground.Script.Numeral

/-!
# Values of enumeration members

A member of an enumeration whose initial value is built from literals and other members has a
value that is known before the script runs.  `EnumValue.eval?` finds it.
-/

namespace Playground.Emit

open Playground.Script

/-- A value known before the script runs. -/
inductive EnumValue where
  | number (value : Float)
  | text (value : String)
deriving Inhabited

/-- The members of an enumeration, the latest first, with what is known of their values. -/
abbrev EnumMembers := List (String × Option EnumValue)

namespace EnumValue

/-- A number as the language turns it into a text. -/
def numberString (x : Float) : String :=
  if x.isNaN then "NaN"
  else if x.isInf then (if x < 0 then "-Infinity" else "Infinity")
  else if x < 0 then "-" ++ numberText (-x)
  else numberText x

/-- The last 32 bits of a number. -/
def toWord (x : Float) : UInt32 :=
  if x.isNaN || x.isInf then 0
  else
    let t := if x < 0 then x.ceil else x.floor
    (t - (t / 4294967296.0).floor * 4294967296.0).toUInt32

/-- The number that 32 bits stand for, the first of them being the sign. -/
def ofSigned (w : UInt32) : Float := Float.ofInt w.toInt32.toInt

/-- The number that 32 bits stand for. -/
def ofUnsigned (w : UInt32) : Float := w.toFloat

/-- What is left of a division that goes toward zero. -/
def remainder (x y : Float) : Float :=
  if x.isNaN || y.isNaN || x.isInf || y == 0 then 0.0 / 0.0
  else if y.isInf then x
  else
    let q := x / y
    x - (if q < 0 then q.ceil else q.floor) * y

/-- An operation on two numbers. -/
def numeric? (op : BinaryOp) (x y : Float) : Option Float :=
  match op with
  | .add => some (x + y)
  | .sub => some (x - y)
  | .mul => some (x * y)
  | .div => some (x / y)
  | .rem => some (remainder x y)
  | .exp => some (x ^ y)
  | .bitOr => some (ofSigned (toWord x ||| toWord y))
  | .bitAnd => some (ofSigned (toWord x &&& toWord y))
  | .bitXor => some (ofSigned (toWord x ^^^ toWord y))
  | .shl => some (ofSigned (toWord x <<< (toWord y &&& 31)))
  | .shr => some (ofSigned ((toWord x).toInt32 >>> (toWord y &&& 31).toInt32).toUInt32)
  | .ushr => some (ofUnsigned (toWord x >>> (toWord y &&& 31)))
  | _ => none

/-- An operation on two values. -/
def binary? (op : BinaryOp) : EnumValue → EnumValue → Option EnumValue
  | .number x, .number y => (numeric? op x y).map .number
  | .text x, .text y => if op = .add then some (.text (x ++ y)) else none
  | .text x, .number y => if op = .add then some (.text (x ++ numberString y)) else none
  | .number x, .text y => if op = .add then some (.text (numberString x ++ y)) else none

/-- An operation on one value; what makes no number of a text leaves it as it is. -/
def unary? (op : UnaryOp) : EnumValue → Option EnumValue
  | .number x =>
    match op with
    | .plus => some (.number x)
    | .minus => some (.number (-x))
    | .bitNot => some (.number (ofSigned (~~~ toWord x)))
    | _ => none
  | .text t =>
    match op with
    | .minus => some (.number (0.0 / 0.0))
    | .bitNot => some (.number (-1))
    | _ => some (.text t)

/-- The value a member of a known enumeration has. -/
def member? (known : List (String × EnumMembers)) (object : Node) (name : String) :
    Option EnumValue :=
  match object.shape with
  | .reference enum => ((known.lookup enum).bind (·.lookup name)).join
  | _ => none

/-- The text of a template in which all is known, from its next stretch on. -/
def templateText (eval : Node → Option EnumValue) : List Quasi → List Node → String
  | q :: qs, v :: vs =>
    let shown :=
      match eval v with
      | some (.text s) => s
      | some (.number x) => numberString x
      | none => ""
    q.cooked.getD q.raw ++ shown ++ templateText eval qs vs
  | q :: _, [] => q.cooked.getD q.raw
  | [], _ => ""

/-- The value of an expression, some levels down. -/
def evalTo (known : List (String × EnumMembers)) (members : EnumMembers) :
    Nat → Node → Option EnumValue
  | 0, _ => none
  | k + 1, n =>
    match n.shape with
    | .numberLit value _ => some (.number value)
    | .stringLit value _ => some (.text value)
    | .template quasis values =>
      some (.text (templateText (evalTo known members k) quasis values))
    | .paren inner => evalTo known members k inner
    | .reference name =>
      if name == "Infinity" then some (.number (1.0 / 0.0))
      else if name == "NaN" then some (.number (0.0 / 0.0))
      else (members.lookup name).join
    | .member object name _ => member? known object name
    | .index object key _ =>
      match key.shape with
      | .stringLit name _ => member? known object name
      | .template [q] [] => member? known object (q.cooked.getD q.raw)
      | _ => none
    | .unary op argument => (evalTo known members k argument).bind (unary? op)
    | .binary op left right => do
      let x ← evalTo known members k left
      let y ← evalTo known members k right
      binary? op x y
    | _ => none

/-- The value of an expression, if it is known. -/
def eval? (known : List (String × EnumMembers)) (members : EnumMembers) (n : Node) :
    Option EnumValue :=
  evalTo known members n.depth n

end EnumValue

end Playground.Emit
