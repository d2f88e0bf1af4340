import Playground.Script.Parse.Basic
import Playground.Script.Depth

/-!
# Literals that turn out to be patterns

What stands left of an assignment is read as an expression first.  `Parse.toTarget` turns it into
the pattern it is, or refuses it.
-/

namespace Playground.Script.Parse

/-- Refuses an assignment to the node. -/
def refuseTarget {α : Type} (n : Node) : Parse α := fail .invalidTarget n.span.start

/-- An expression without the parentheses and types around it. -/
def bareExpression : Nat → Node → Node
  | 0, n => n
  | k + 1, n =>
    match n.shape with
    | .paren x | .asType x _ | .satisfiesType x _ | .angleCast _ x | .nonNull x =>
      bareExpression k x
    | _ => n

/-- Whether the expression denotes a variable or a property. -/
def isPlace (n : Node) : Bool :=
  match n.shape with
  | .reference _ | .member .. | .index .. | .privateMember .. => true
  | _ => false

/-- What a single value may be assigned to: a variable or a property. -/
def toPlace : Nat → Node → Parse Node
  | 0, n => refuseTarget n
  | k + 1, n =>
    match n.shape with
    | .paren x =>
      match x.shape with
      | .arrayLit _ | .objectLit _ => refuseTarget n
      | _ => toPlace k x
    | .asType .. | .satisfiesType .. | .angleCast .. | .nonNull _ =>
      if isPlace (bareExpression n.depth n) then return n else refuseTarget n
    | _ => if isPlace n then return n else refuseTarget n

/-- Notes what cannot take the rest of a value; only the rest of an array may be a pattern. -/
def checkRest (inArray : Bool) (n : Node) : Parse Unit :=
  let bare := bareExpression n.depth n
  let isPattern :=
    match n.shape with
    | .arrayLit _ | .objectLit _ => inArray
    | _ => false
  if isPlace bare || isPattern then return () else note .invalidRestArgument n.span.start

mutual

/-- What a value may be assigned to: a place, or a pattern of places. -/
def toTargetAt : Nat → Node → Parse Node
  | 0, n => refuseTarget n
  | k + 1, n => do
    match n.shape with
    | .arrayLit elements =>
      return n.withShape (.arrayPattern (← toElements k n.span.start elements))
    | .objectLit properties =>
      return n.withShape (.objectPattern (← toProperties k n.span.start properties))
    | _ => toPlace (k + 1) n

/-- A target that may have a default. -/
def toDefaultedAt : Nat → Node → Parse Node
  | 0, n => refuseTarget n
  | k + 1, n => do
    match n.shape with
    | .assign .plain target value => return n.withShape (.withDefault target value)
    | .assign .. => refuseTarget n
    | _ => toTargetAt k n

/-- The elements of an array pattern; the literal starts at `start`. -/
def toElements : Nat → Nat → List Node → Parse (List Node)
  | 0, _, _ | _ + 1, _, [] => return []
  | k + 1, start, x :: xs => do
    match x.shape with
    | .hole => return x :: (← toElements k start xs)
    | .spread inner =>
      if !xs.isEmpty then fail .spreadNotLast x.span.start
      checkRest true inner
      let target ← toTargetAt k inner
      match (← get).lastCommas.lookup start with
      | some comma => note .restTrailingComma comma
      | none => pure ()
      return [x.withShape (.rest target none)]
    | _ =>
      let y ← toDefaultedAt k x
      return y :: (← toElements k start xs)

/-- The properties of an object pattern. -/
def toProperties : Nat → Nat → List Node → Parse (List Node)
  | 0, _, _ | _ + 1, _, [] => return []
  | k + 1, start, x :: xs => do
    match x.shape with
    | .spread inner =>
      if !xs.isEmpty then fail .spreadNotLast x.span.start
      checkRest false inner
      let target ← toTargetAt k inner
      match (← get).lastCommas.lookup start with
      | some comma => note .restTrailingComma comma
      | none => pure ()
      return [x.withShape (.rest target none)]
    | .property .method false computed true key value =>
      modify fun s => { s with coverInits := s.coverInits.filter (· != x.span.start) }
      return x.withShape (.patternProperty computed true key value) ::
        (← toProperties k start xs)
    | .property .method false computed false key value =>
      let value ← toDefaultedAt k value
      return x.withShape (.patternProperty computed false key value) ::
        (← toProperties k start xs)
    | _ => refuseTarget x

end

/-- The room the conversion of a literal needs. -/
def coverRoom (n : Node) : Nat := n.depth + n.span.stop + 2 - n.span.start

/-- Turns an expression into what a value may be assigned to. -/
def toTarget (n : Node) : Parse Node := toTargetAt (coverRoom n) n

/-- Turns an expression into what a single value may be assigned to. -/
def toSimpleTarget (n : Node) : Parse Node := toPlace (coverRoom n) n

end Playground.Script.Parse
