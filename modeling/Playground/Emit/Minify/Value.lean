import Playground.Emit.Build
import Playground.Emit.EnumValue
import Playground.Script.Scope

/-!
# What expressions are known to be

`constant?` is the value of an expression that stands for one, and `ofConstant` the shortest
expression that stands for a value.  `kindOf?` is the kind of value an expression gives, and
`primitiveKind?` the kind of what its value becomes where an object will not do.
-/

namespace Playground.Emit

open Playground.Script

/-- A value that an expression stands for. -/
inductive Constant where
  | number (x : Float)
  | bigInt (k : Int)
  | text (s : String)
  | bool (b : Bool)
  | null
  | undefined
deriving Inhabited

namespace Minify

/-- The kinds of values. -/
inductive Kind where
  | number
  | bigInt
  | text
  | boolean
  | null
  | undefined
  | object
deriving DecidableEq, Inhabited

/-! ### Constants -/

/-- The value of an expression that stands for one. -/
def constant? (n : Node) : Option Constant :=
  match n.shape with
  | .numberLit x _ => some (.number x)
  | .bigIntLit digits => digits.toNat?.map fun k => .bigInt k
  | .stringLit s _ => some (.text s)
  | .boolLit b => some (.bool b)
  | .nullLit => some .null
  | .unary .void argument =>
    match argument.shape with
    | .numberLit .. => some .undefined
    | _ => none
  | .unary .minus argument =>
    match argument.shape with
    | .numberLit x _ => some (.number (-x))
    | .bigIntLit digits => digits.toNat?.map fun k => .bigInt (-k)
    | _ => none
  | _ => none

/-- The shortest expression that stands for a value. -/
def ofConstant : Constant → Node
  | .number x =>
    if x < 0 || x == 0 && x.toBits != 0 then .made (.unary .minus (Build.num (-x)))
    else Build.num x
  | .bigInt k =>
    let size : Node := .made (.bigIntLit (toString k.natAbs))
    if k < 0 then .made (.unary .minus size) else size
  | .text s => Build.str s
  | .bool b => Build.bool b
  | .null => Build.null
  | .undefined => Build.void0

/-- Whether a value counts as true. -/
def Constant.truth : Constant → Bool
  | .number x => !(x == 0 || x.isNaN)
  | .bigInt k => k != 0
  | .text s => !s.isEmpty
  | .bool b => b
  | .null | .undefined => false

/-- A value as a text. -/
def Constant.asText : Constant → String
  | .number x => EnumValue.numberString x
  | .bigInt k => toString k
  | .text s => s
  | .bool b => if b then "true" else "false"
  | .null => "null"
  | .undefined => "undefined"

/-- The kind of a value. -/
def Constant.kind : Constant → Kind
  | .number _ => .number
  | .bigInt _ => .bigInt
  | .text _ => .text
  | .bool _ => .boolean
  | .null => .null
  | .undefined => .undefined

/-- Whether an expression is the value that is empty. -/
def isNull (n : Node) : Bool :=
  match n.shape with
  | .nullLit => true
  | _ => false

/-- Whether an expression is the value that is missing. -/
def isUndefined (n : Node) : Bool :=
  match constant? n with
  | some .undefined => true
  | _ => false

/-- Whether an element or an argument stands for any number of them. -/
def isSpreadOut (n : Node) : Bool :=
  match n.shape with
  | .spread _ => true
  | _ => false

/-! ### Kinds -/

/-- The kind that two values have in common. -/
def commonKind? (a b : Option Kind) : Option Kind := if a = b then a else none

/-- The kind of a sum. -/
def sumKind? (a b : Option Kind) : Option Kind :=
  if a = some .text || b = some .text then some .text
  else
    match a, b with
    | none, _ | _, none | some .object, _ | _, some .object => none
    | some .bigInt, some .bigInt => some .bigInt
    | some .bigInt, _ | _, some .bigInt => none
    | _, _ => some .number

/-- The kind of a product, a difference and so on. -/
def productKind? (a b : Option Kind) : Option Kind :=
  let isPlain (k : Option Kind) : Bool := k.isSome && k != some .object && k != some .bigInt
  if a = some .bigInt && b = some .bigInt then some .bigInt
  else if isPlain a || isPlain b then some .number
  else none

/-- The kind of value an expression gives, some levels down. -/
def kindTo : Nat → Node → Option Kind
  | 0, _ => none
  | k + 1, n =>
    match n.shape with
    | .nullLit => some .null
    | .boolLit _ => some .boolean
    | .numberLit .. => some .number
    | .bigIntLit _ => some .bigInt
    | .stringLit .. | .template .. => some .text
    | .regexLit .. | .arrayLit _ | .objectLit _ | .function _ | .arrow _ | .classDef _ =>
      some .object
    | .unary op a =>
      match op with
      | .void => some .undefined
      | .not | .delete => some .boolean
      | .typeof => some .text
      | .plus => some .number
      | .minus | .bitNot =>
        match kindTo k a with
        | none | some .object => none
        | some .bigInt => some .bigInt
        | some _ => some .number
    | .binary op a b =>
      match op with
      | .eq | .ne | .strictEq | .strictNe | .lt | .le | .gt | .ge | .isIn | .instanceof =>
        some .boolean
      | .add => sumKind? (kindTo k a) (kindTo k b)
      | .ushr => some .number
      | _ => productKind? (kindTo k a) (kindTo k b)
    | .privateIn .. => some .boolean
    | .logical _ a b => commonKind? (kindTo k a) (kindTo k b)
    | .conditional _ a b => commonKind? (kindTo k a) (kindTo k b)
    | .sequence parts => (parts.getLast?).bind (kindTo k)
    | .assign .plain _ value => kindTo k value
    | .paren inner => kindTo k inner
    | _ => none

/-- The kind of value an expression gives, if it is known. -/
def kindOf? (n : Node) : Option Kind := kindTo n.depth n

/-- Whether an expression gives a truth value. -/
def isBoolean (n : Node) : Bool := kindOf? n = some .boolean

/-- The names of the methods that say what an object becomes where an object will not do, and of
what gives it other methods. -/
def conversionNames : List String := ["toString", "valueOf", "__proto__"]

/-- Whether an object that is written out may say itself what it becomes where an object will not
do. -/
def convertsItself (properties : List Node) : Bool :=
  properties.any fun p =>
    match p.shape with
    | .property _ _ computed _ key _ =>
      match key.shape with
      | .propertyName name => conversionNames.contains name
      | .stringLit name _ => conversionNames.contains name
      | .numberLit .. => false
      | _ => computed
    | _ => true

/-- The kind of what the value of an expression becomes where an object will not do. -/
def primitiveKind? (n : Node) : Option Kind :=
  match kindOf? n with
  | some .object =>
    match n.shape with
    | .objectLit properties => if convertsItself properties then none else some .text
    | .arrayLit _ | .regexLit .. | .function _ | .arrow _ => some .text
    | _ => none
  | kind => kind

end Minify

end Playground.Emit
