import Playground.Emit.Minify.Quiet

/-!
# Shorter conditions

Where only the truth of a value counts, much of an expression may be left out: `asTest` is a
shorter expression that is true where another is, and `negate` one that is true where another is
not.
-/

namespace Playground.Emit.Minify

open Playground.Script

/-- Whether the value of an expression counts as true, if that is known, some levels down. -/
def truthTo : Nat → Node → Option Bool
  | 0, _ => none
  | k + 1, n =>
    match constant? n with
    | some c => some (Constant.truth c)
    | none =>
      match n.shape with
      | .regexLit .. | .arrayLit _ | .objectLit _ | .function _ | .arrow _ | .classDef _ =>
        some true
      | .template quasis _ =>
        if quasis.any fun q => !q.raw.isEmpty then some true else none
      | .unary .void _ => some false
      | .unary .not inner => (truthTo k inner).map (!·)
      | .sequence parts => parts.getLast?.bind (truthTo k)
      | .logical op a b =>
        match op, truthTo k a, truthTo k b with
        | .and, some false, _ | .and, _, some false => some false
        | .and, some true, some true => some true
        | .or, some true, _ | .or, _, some true => some true
        | .or, some false, some false => some false
        | _, _, _ => none
      | _ => none

/-- Whether the value of an expression counts as true, if that is known. -/
def truth? (n : Node) : Option Bool := truthTo n.depth n

/-- Whether the value of an expression counts as true, if that is known and evaluating the
expression does nothing else. -/
def quietTruth? (n : Node) : Option Bool := if isQuiet [] n then truth? n else none

/-- The comparison that holds exactly where another does not. -/
def opposite? : BinaryOp → Option BinaryOp
  | .eq => some .ne | .ne => some .eq
  | .strictEq => some .strictNe | .strictNe => some .strictEq
  | _ => none

/-- The negation of an expression, some levels down. -/
def negateTo : Nat → Node → Node
  | 0, n => .made (.unary .not n)
  | k + 1, n =>
    match quietTruth? n with
    | some b => Build.bool (!b)
    | none =>
      match n.shape with
      | .unary .not inner => if isBoolean inner then inner else .made (.unary .not n)
      | .binary op a b =>
        match opposite? op with
        | some op => n.withShape (.binary op a b)
        | none => .made (.unary .not n)
      | .sequence parts =>
        match parts.getLast? with
        | some last => n.withShape (.sequence (parts.dropLast ++ [negateTo k last]))
        | none => .made (.unary .not n)
      | _ => .made (.unary .not n)

/-- The negation of an expression. -/
def negate (n : Node) : Node := negateTo n.depth n

/-- Whether an expression is the number zero. -/
def isZero (n : Node) : Bool :=
  match n.shape with
  | .numberLit x _ => x == 0
  | _ => false

/-- Two operands of a logical operator, which groups to the left, some levels down. -/
def joinedTo : Nat → LogicalOp → Node → Node → Node
  | 0, op, a, b => .made (.logical op a b)
  | k + 1, op, a, b =>
    match a.shape, b.shape with
    | .sequence parts, _ =>
      match parts.getLast? with
      | some last => a.withShape (.sequence (parts.dropLast ++ [joinedTo k op last b]))
      | none => .made (.logical op a b)
    | _, .logical inner c d =>
      if inner == op then joinedTo k op (joinedTo k op a c) d else .made (.logical op a b)
    | _, _ => .made (.logical op a b)

/-- Two operands of a logical operator, which groups to the left. -/
def joined (op : LogicalOp) (a b : Node) : Node := joinedTo (b.depth + 2) op a b

/-- A shorter expression that is true where another is, some levels down. -/
def asTestTo : Nat → Node → Node
  | 0, n => n
  | k + 1, n =>
    match n.shape with
    | .unary .not inner =>
      match inner.shape with
      | .unary .not deeper => asTestTo k deeper
      | _ => n
    | .binary op a b =>
      if isZero b && kindOf? a = some .number then
        match op with
        | .strictNe | .ne => asTestTo k a
        | .strictEq | .eq => negate (asTestTo k a)
        | _ => n
      else n
    | .logical op a b =>
      let shorter := n.withShape (.logical op (asTestTo k a) (asTestTo k b))
      match op, quietTruth? b with
      | .coalesce, _ => n
      | .and, some true | .or, some false => asTestTo k a
      | _, _ => shorter
    | .conditional test yes no =>
      let yes := asTestTo k yes
      let no := asTestTo k no
      match quietTruth? yes, quietTruth? no with
      | some true, some false => asTestTo k test
      | some false, some true => negate (asTestTo k test)
      | some true, _ => joined .or test no
      | some false, _ => joined .and (negate test) no
      | none, some true => joined .or (negate test) yes
      | none, some false => joined .and test yes
      | none, none => n.withShape (.conditional test yes no)
    | .sequence parts =>
      match parts.getLast? with
      | some last => n.withShape (.sequence (parts.dropLast ++ [asTestTo k last]))
      | none => n
    | _ => n

/-- A shorter expression that is true where another is. -/
def asTest (n : Node) : Node := asTestTo n.depth n

end Playground.Emit.Minify
