import Playground.Emit.Minify.Truth
import Playground.Script.Numeral
import Playground.Text.Chars

/-!
# What is computed ahead

`Constant.calculated?` is the value of an operation on two values that are known, if writing the
value instead of the operation is worth it.  Sums and comparisons always are; a product or a
quotient only is where it has to come out as zero, as infinite or as no number, because any other
may take more characters than its factors.

`numberOfText` is the number that a whole text stands for, `leadingNumber` and `leadingInteger`
the number that a text starts with; what stands for no number is not a number.
-/

namespace Playground.Emit.Minify

open Playground.Script

/-! ### Numbers in texts -/

/-- What is no number. -/
def notANumber : Float := 0.0 / 0.0

/-- Whether a character is blank in front of a number. -/
def isSpace (c : Char) : Bool := (Text.isBlank c && c.toNat != 0x85) || c == '\uFEFF'

/-- Characters without blanks at their ends. -/
def trimmed (cs : List Char) : List Char :=
  ((cs.dropWhile isSpace).reverse.dropWhile isSpace).reverse

/-- The longest decimal numeral without a sign that characters start with, and how much of them it
takes. -/
def decimalStart (cs : List Char) : List Char :=
  let whole := cs.takeWhile Char.isDigit
  let rest := cs.dropWhile Char.isDigit
  let fraction :=
    match rest with
    | '.' :: r =>
      let digits := r.takeWhile Char.isDigit
      if whole.isEmpty && digits.isEmpty then [] else '.' :: digits
    | _ => []
  let mantissa := whole ++ fraction
  if mantissa.isEmpty then []
  else
    match rest.drop fraction.length with
    | e :: r =>
      let sign := r.takeWhile fun c => c == '+' || c == '-'
      let digits := (r.drop sign.length).takeWhile Char.isDigit
      if (e == 'e' || e == 'E') && sign.length ≤ 1 && !digits.isEmpty then
        mantissa ++ e :: (sign ++ digits)
      else mantissa
    | [] => mantissa

/-- A sign in front of characters, and the others. -/
def signed : List Char → Bool × List Char
  | '-' :: cs => (true, cs)
  | '+' :: cs => (false, cs)
  | cs => (false, cs)

/-- The number whose size and sign are given. -/
def withSign (isNegative : Bool) (x : Float) : Float := if isNegative then -x else x

/-- The number that digits in a base stand for; what is no such digit makes it no number. -/
def basedNumber (base : Nat) (digits : List Char) : Float :=
  if !digits.isEmpty && digits.all fun c => (hexValue c).any (· < base) then
    digitsFloat base digits
  else notANumber

/-- The number that a whole text stands for: none at all is zero. -/
def numberOfText (s : String) : Float :=
  match trimmed s.toList with
  | [] => 0
  | '0' :: 'x' :: r | '0' :: 'X' :: r => basedNumber 16 r
  | '0' :: 'o' :: r | '0' :: 'O' :: r => basedNumber 8 r
  | '0' :: 'b' :: r | '0' :: 'B' :: r => basedNumber 2 r
  | cs =>
    let (isNegative, size) := signed cs
    if String.ofList size == "Infinity" then withSign isNegative (1.0 / 0.0)
    else if size.isEmpty || decimalStart size != size then notANumber
    else withSign isNegative (decimalFloat size)

/-- The number that a text starts with. -/
def leadingNumber (s : String) : Float :=
  let (isNegative, size) := signed (s.toList.dropWhile isSpace)
  if "Infinity".toList.isPrefixOf size then withSign isNegative (1.0 / 0.0)
  else
    match decimalStart size with
    | [] => notANumber
    | numeral => withSign isNegative (decimalFloat numeral)

/-- The value of a digit in a base of up to 36. -/
def digitValue? (c : Char) : Option Nat :=
  if c.isDigit then some (c.toNat - '0'.toNat)
  else if 'a' ≤ c && c ≤ 'z' then some (c.toNat - 'a'.toNat + 10)
  else if 'A' ≤ c && c ≤ 'Z' then some (c.toNat - 'A'.toNat + 10)
  else none

/-- The whole number that a text starts with in a base; without a base it is ten, or sixteen
behind `0x`. -/
def leadingInteger (s : String) (base : Nat) : Float :=
  let (isNegative, size) := signed (s.toList.dropWhile isSpace)
  let (base, size) :=
    match size with
    | '0' :: 'x' :: r | '0' :: 'X' :: r =>
      if base == 0 || base == 16 then (16, r) else (base, size)
    | _ => (if base == 0 then 10 else base, size)
  if base < 2 || 36 < base then notANumber
  else
    match size.takeWhile fun c => (digitValue? c).any (· < base) with
    | [] => notANumber
    | digits =>
      withSign isNegative
        (digits.foldl (fun x c => x * base.toFloat + ((digitValue? c).getD 0).toFloat) 0)

/-! ### Constants -/

namespace Constant

/-- Whether a text has nothing but characters: halves of pairs are shown with digits behind
them. -/
def isPlainText (s : String) : Bool := !s.contains '\uFFFD'

/-- A value as a number. -/
def asNumber? : Constant → Option Float
  | .number x => some x
  | .bigInt _ => none
  | .text s => if isPlainText s then some (numberOfText s) else none
  | .bool b => some (if b then 1 else 0)
  | .null => some 0
  | .undefined => some notANumber

/-- Whether a value is a text. -/
def isText : Constant → Bool
  | .text _ => true
  | _ => false

/-- The sum of two values: their texts one after the other, if one of them is a text. -/
def sum? (a b : Constant) : Option Constant :=
  if isText a || isText b then some (.text (asText a ++ asText b))
  else
    match a, b with
    | .bigInt j, .bigInt k => some (.bigInt (j + k))
    | _, _ => do return .number ((← asNumber? a) + (← asNumber? b))

/-- Whether two values are the same, also by kind. -/
def same (a b : Constant) : Bool :=
  match a, b with
  | .number x, .number y => x == y
  | .bigInt j, .bigInt k => j == k
  | .text s, .text t => s == t
  | .bool s, .bool t => s == t
  | .null, .null | .undefined, .undefined => true
  | _, _ => false

/-- Whether a value is empty or missing. -/
def isMissing : Constant → Bool
  | .null | .undefined => true
  | _ => false

/-- Whether two values count as equal. -/
def equal? (a b : Constant) : Option Bool :=
  if isMissing a || isMissing b then some (isMissing a && isMissing b)
  else if kind a = kind b then some (same a b)
  else do return (← asNumber? a) == (← asNumber? b)

/-- Whether a number is zero, infinite or no number at all. -/
def isExtreme (x : Float) : Bool := x == 0 || x.isNaN || x.isInf

/-- Whether a number is a whole one of at most 32 bits. -/
def isSmall (x : Float) : Bool := x.floor == x && x.abs ≤ 4294967295

/-- How many characters a number takes. -/
def width (x : Float) : Nat := (EnumValue.numberString x).length

/-- An operation on two numbers, if its result is worth it; where its length counts, the numbers
are ones that are written without a sign. -/
def arithmetic? (op : BinaryOp) (x y : Float) : Option Float := do
  let z ← EnumValue.numeric? op x y
  let plain := !(x < 0 || y < 0)
  let worth :=
    match op with
    | .sub => plain && (x.isNaN || x.isInf || y.isNaN || y.isInf || isSmall x && isSmall y)
    | .mul | .rem | .exp => plain && (isExtreme x || isExtreme y)
    | .div => plain && isExtreme y
    | .shl => plain && width z ≤ width x + 2 + width y
    | .ushr => plain && width z ≤ width x + 3 + width y
    | _ => false
  if worth then some z else none

/-- The 16-bit units of a text. -/
def units (s : String) : List Nat :=
  s.toList.flatMap fun c =>
    let n := c.toNat
    if n < 0x10000 then [n]
    else [0xd800 + (n - 0x10000) / 0x400, 0xdc00 + (n - 0x10000) % 0x400]

/-- Whether one text comes before another, by their units. -/
def comesBefore? (s t : String) : Option Bool :=
  if isPlainText s && isPlainText t then some (decide (units s < units t)) else none

/-- Whether one value is less than another; values that are not both texts are compared as
numbers. -/
def less? (a b : Constant) : Option Bool :=
  match a, b with
  | .text s, .text t => comesBefore? s t
  | .bigInt j, .bigInt k => some (decide (j < k))
  | _, _ => do return decide ((← asNumber? a) < (← asNumber? b))

/-- Whether one value is at most another. -/
def atMost? (a b : Constant) : Option Bool :=
  match a, b with
  | .text s, .text t => (comesBefore? t s).map (!·)
  | .bigInt j, .bigInt k => some (decide (j ≤ k))
  | _, _ => do return decide ((← asNumber? a) ≤ (← asNumber? b))

/-- The result of an operation on two values, if it is worth it. -/
def calculated? (op : BinaryOp) (a b : Constant) : Option Constant :=
  match op with
  | .add => sum? a b
  | .strictEq => some (.bool (same a b))
  | .strictNe => some (.bool (!same a b))
  | .eq => (equal? a b).map .bool
  | .ne => (equal? a b).map fun e => .bool (!e)
  | .lt => (less? a b).map .bool
  | .gt => (less? b a).map .bool
  | .le => (atMost? a b).map .bool
  | .ge => (atMost? b a).map .bool
  | .shr | .bitAnd | .bitOr | .bitXor => do
    return .number (← EnumValue.numeric? op (← asNumber? a) (← asNumber? b))
  | _ =>
    match a, b with
    | .number x, .number y => (arithmetic? op x y).map .number
    | _, _ => none

/-- The result of an operation on one value. -/
def applied? (op : UnaryOp) (a : Constant) : Option Constant :=
  match op with
  | .plus => (asNumber? a).map .number
  | .minus =>
    match a with
    | .bigInt k => some (.bigInt (-k))
    | _ => (asNumber? a).map fun x => .number (-x)
  | .bitNot =>
    match a with
    | .bigInt k => some (.bigInt (-k - 1))
    | _ => (asNumber? a).map fun x => .number (EnumValue.ofSigned (~~~ EnumValue.toWord x))
  | _ => none

end Constant

/-! ### Texts of expressions -/

/-- The text that the value of an expression becomes, some levels down. -/
def textTo : Nat → Node → Option String
  | 0, _ => none
  | k + 1, n =>
    match constant? n with
    | some c => some (Constant.asText c)
    | none =>
      match n.shape with
      | .arrayLit elements => do
        let texts ← elements.mapM fun e =>
          match e.shape with
          | .hole => some ""
          | .spread _ => none
          | _ =>
            match constant? e with
            | some .null | some .undefined => some ""
            | _ => textTo k e
        return ",".intercalate texts
      | .objectLit properties =>
        if convertsItself properties then none else some "[object Object]"
      | .regexLit pattern flags => some ("/" ++ pattern ++ "/" ++ flags)
      | .unary .not inner =>
        (truth? inner).map fun b => if b then "false" else "true"
      | _ => none

/-- The text that the value of an expression becomes, if it is known and evaluating the expression
does nothing else. -/
def textOf? (n : Node) : Option String := if isQuiet [] n then textTo n.depth n else none

/-- The number that the value of an expression becomes, if it is known. -/
def numberOf? (n : Node) : Option Float := (constant? n).bind Constant.asNumber?

/-- The name of the kind of an expression's value. -/
def kindName? (n : Node) : Option String :=
  match kindOf? n with
  | some .number => some "number"
  | some .bigInt => some "bigint"
  | some .text => some "string"
  | some .boolean => some "boolean"
  | some .null => some "object"
  | some .undefined => some "undefined"
  | some .object =>
    match n.shape with
    | .function _ | .arrow _ | .classDef _ => some "function"
    | .arrayLit _ | .objectLit _ | .regexLit .. => some "object"
    | _ => none
  | none => none

end Playground.Emit.Minify
