/-!
# Operators and binding strength

The operators of the script language, the text each is written with, and how strongly each
binds.  `Strength` is the scale the reader climbs and the printer compares with.
-/

namespace Playground.Script

/-- Binding strength of an expression, weakest first. -/
inductive Strength where
  | lowest | comma | spread | yield | assign | conditional | nullish | logicalOr | logicalAnd
  | bitOr | bitXor | bitAnd | equals | compare | shift | add | multiply | exponent
  | unary | update | new | call | member
deriving DecidableEq, Inhabited

namespace Strength

/-- Position on the scale. -/
def rank : Strength → Nat
  | lowest => 0 | comma => 1 | spread => 2 | yield => 3 | assign => 4 | conditional => 5
  | nullish => 6 | logicalOr => 7 | logicalAnd => 8 | bitOr => 9 | bitXor => 10 | bitAnd => 11
  | equals => 12 | compare => 13 | shift => 14 | add => 15 | multiply => 16 | exponent => 17
  | unary => 18 | update => 19 | new => 20 | call => 21 | member => 22

/-- Whether `a` binds at least as strongly as `b`. -/
def atLeast (a b : Strength) : Bool := b.rank ≤ a.rank

end Strength

/-- Operators with one operand written before it. -/
inductive UnaryOp where
  | minus | plus | not | bitNot | typeof | void | delete
deriving DecidableEq, Inhabited

namespace UnaryOp

/-- The operator as written. -/
def text : UnaryOp → String
  | minus => "-" | plus => "+" | not => "!" | bitNot => "~"
  | typeof => "typeof" | void => "void" | delete => "delete"

/-- Operators written as a word need a blank before their operand. -/
def isWord : UnaryOp → Bool
  | typeof | void | delete => true
  | _ => false

end UnaryOp

/-- The two operators that step a variable. -/
inductive UpdateOp where
  | increment | decrement
deriving DecidableEq, Inhabited

/-- The operator as written. -/
def UpdateOp.text : UpdateOp → String
  | .increment => "++" | .decrement => "--"

/-- Operators on two values that evaluate both. -/
inductive BinaryOp where
  | eq | ne | strictEq | strictNe | lt | le | gt | ge | shl | shr | ushr
  | add | sub | mul | div | rem | exp | bitOr | bitXor | bitAnd | isIn | instanceof
deriving DecidableEq, Inhabited

namespace BinaryOp

/-- The operator as written. -/
def text : BinaryOp → String
  | eq => "==" | ne => "!=" | strictEq => "===" | strictNe => "!==" | lt => "<" | le => "<="
  | gt => ">" | ge => ">=" | shl => "<<" | shr => ">>" | ushr => ">>>" | add => "+" | sub => "-"
  | mul => "*" | div => "/" | rem => "%" | exp => "**" | bitOr => "|" | bitXor => "^"
  | bitAnd => "&" | isIn => "in" | instanceof => "instanceof"

/-- How strongly the operator binds its operands. -/
def strength : BinaryOp → Strength
  | eq | ne | strictEq | strictNe => .equals
  | lt | le | gt | ge | isIn | instanceof => .compare
  | shl | shr | ushr => .shift
  | add | sub => .add
  | mul | div | rem => .multiply
  | exp => .exponent
  | bitOr => .bitOr | bitXor => .bitXor | bitAnd => .bitAnd

/-- Operators written as a word. -/
def isWord : BinaryOp → Bool
  | isIn | instanceof => true
  | _ => false

end BinaryOp

/-- Operators that may leave their right operand unevaluated. -/
inductive LogicalOp where
  | or | and | coalesce
deriving DecidableEq, Inhabited

namespace LogicalOp

/-- The operator as written. -/
def text : LogicalOp → String
  | or => "||" | and => "&&" | coalesce => "??"

/-- How strongly the operator binds its operands. -/
def strength : LogicalOp → Strength
  | or => .logicalOr | and => .logicalAnd | coalesce => .nullish

end LogicalOp

/-- Assignment, alone or combined with another operator. -/
inductive AssignOp where
  | plain
  | binary (op : BinaryOp)
  | logical (op : LogicalOp)
deriving DecidableEq, Inhabited

/-- The operator as written. -/
def AssignOp.text : AssignOp → String
  | .plain => "="
  | .binary op => op.text ++ "="
  | .logical op => op.text ++ "="

/-- The keyword that opens a variable declaration. -/
inductive VarKind where
  | asVar | asLet | asConst | asUsing | asAwaitUsing
deriving DecidableEq, Inhabited

namespace VarKind

/-- The keyword as written. -/
def text : VarKind → String
  | asVar => "var" | asLet => "let" | asConst => "const" | asUsing => "using"
  | asAwaitUsing => "await using"

/-- Declarations that are scoped to a block and may not repeat a name. -/
def isLexical : VarKind → Bool
  | asVar => false
  | _ => true

/-- Declarations whose value is disposed of at the end of the block. -/
def isUsing : VarKind → Bool
  | asUsing | asAwaitUsing => true
  | _ => false

end VarKind

end Playground.Script
