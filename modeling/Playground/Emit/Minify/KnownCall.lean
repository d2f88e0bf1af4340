import Playground.Emit.Minify.Simplify
import Playground.Link.Percent

/-!
# Calls whose result is known

`knownCall?` is what a call of a function that every program has gives, where the arguments are
known: the methods of texts and numbers, the functions of `Math`, and those that escape texts and
read numbers.  A place in a text counts 16-bit units.
-/

namespace Playground.Emit.Minify

open Playground.Script

/-! ### Texts by their units -/

/-- The text that units make; none if half of a pair stands alone. -/
def ofUnits? : List Nat → Option String
  | [] => some ""
  | h :: l :: rest =>
    if isHighSurrogate h && isLowSurrogate l then
      (ofUnits? rest).map fun s =>
        String.singleton (Char.ofNat (0x10000 + (h - 0xd800) * 0x400 + (l - 0xdc00))) ++ s
    else single h (ofUnits? (l :: rest))
  | [u] => single u (some "")
where
  /-- Whether a unit is the first half of a pair. -/
  isHighSurrogate (u : Nat) : Bool := 0xd800 ≤ u && u ≤ 0xdbff
  /-- Whether a unit is the second half of a pair. -/
  isLowSurrogate (u : Nat) : Bool := 0xdc00 ≤ u && u ≤ 0xdfff
  /-- A unit that is a character, in front of a text. -/
  single (u : Nat) (rest : Option String) : Option String :=
    if isHighSurrogate u || isLowSurrogate u then none
    else rest.map fun s => String.singleton (Char.ofNat u) ++ s

/-- A number as a place: what is no number is the first, and what lies between two the one before
it. -/
def place (x : Float) : Int :=
  if x.isNaN then 0
  else if x < 0 then -((-x).floor.toUInt64.toNat : Int)
  else if x.isInf then 0xffffffff
  else (x.floor.toUInt64.toNat : Int)

/-- The number that an argument is, if there is one; none inside if it is left out. -/
def numberArgument? (args : List Node) (i : Nat) : Option (Option Float) :=
  match args[i]? with
  | none => some none
  | some x => (numberOf? x).map some

/-- The first place, from one on, where units are found among others. -/
def indexFrom (searched : List Nat) : Nat → List Nat → Option Nat
  | i, units =>
    if searched.isPrefixOf units then some i
    else
      match units with
      | [] => none
      | _ :: rest => indexFrom searched (i + 1) rest
termination_by _ units => units.length

/-- The last place up to one where units are found among others. -/
def lastIndex (searched units : List Nat) : Nat → Option Nat
  | 0 => if searched.isPrefixOf units then some 0 else none
  | i + 1 =>
    if searched.isPrefixOf (units.drop (i + 1)) then some (i + 1)
    else lastIndex searched units i

/-- A place that was found, or one before the first. -/
def foundAt (i : Option Nat) : Node :=
  match i with
  | some i => Build.num (Float.ofNat i)
  | none => ofConstant (.number (-1))

/-- The part of a text between two places, if they lie in it one behind the other. -/
def part? (s : String) (start stop : Option Float) : Option String :=
  let size := s.utf8ByteSize.toFloat
  let isOutside (x : Option Float) : Bool := x.any fun x => x < 0 || size < x
  let isCrossed : Bool :=
    match start, stop with
    | some a, some b => b < a
    | _, _ => false
  if isOutside start || isOutside stop || isCrossed then none
  else
    let us := Constant.units s
    let first := (place (start.getD 0)).toNat
    let last := (stop.map fun x => (place x).toNat).getD us.length
    ofUnits? ((us.take last).drop first)

/-- What a method of a text gives. -/
def textMethod? (s : String) (name : String) (args : List Node) : Option Node :=
  let us := Constant.units s
  let unitAt? : Option (Option Nat) := do
    if args.length ≤ 1 then
      let i := place ((← numberArgument? args 0).getD 0)
      some (if i < 0 then none else us[i.toNat]?)
    else none
  match name, args with
  | "charAt", _ => do
    match ← unitAt? with
    | some u => return Build.str (← ofUnits? [u])
    | none => return Build.str ""
  | "charCodeAt", _ => do
    match ← unitAt? with
    | some u => return Build.num (Float.ofNat u)
    | none => return Build.num notANumber
  | "slice", _ | "substring", _ =>
    if 2 < args.length then none
    else do
      return Build.str (← part? s (← numberArgument? args 0) (← numberArgument? args 1))
  | "indexOf", x :: _ =>
    if 2 < args.length then none
    else do
      let searched := Constant.units (← textOf? x)
      let start := (place ((← numberArgument? args 1).getD 0)).toNat
      return foundAt (indexFrom searched (min start us.length) (us.drop start))
  | "lastIndexOf", x :: _ =>
    if 2 < args.length then none
    else do
      let searched := Constant.units (← textOf? x)
      let last ← numberArgument? args 1
      let last := (last.filter (!·.isNaN)).map fun x => (place x).toNat
      return foundAt (lastIndex searched us (min (last.getD us.length) us.length))
  | "startsWith", [x] =>
    match x.shape with
    | .stringLit start _ => some (Build.bool (start.isPrefixOf s))
    | _ => none
  | "replace", [x, y] => do
    let searched ← constantText? x
    let written ← constantText? y
    if written.contains '$' then none
    else
      let parts := s.splitOn searched
      match parts, searched.isEmpty with
      | first :: rest, false =>
        if rest.isEmpty then return Build.str s
        else return Build.str (first ++ written ++ searched.intercalate rest)
      | _, _ => none
  | "replaceAll", [x, y] => do
    let searched ← constantText? x
    let written ← constantText? y
    if written.contains '$' || searched.isEmpty then none
    else return Build.str (written.intercalate (s.splitOn searched))
  | "toLowerCase", [] => cased Char.toLower
  | "toUpperCase", [] => cased Char.toUpper
  | "trim", [] => some (Build.str (String.ofList (trimmed s.toList)))
  | "trimStart", [] => some (Build.str (String.ofList (s.toList.dropWhile isSpace)))
  | "trimEnd", [] =>
    some (Build.str (String.ofList ((s.toList.reverse.dropWhile isSpace).reverse)))
  | _, _ => none
where
  /-- The text that an argument is. -/
  constantText? (n : Node) : Option String := (constant? n).map Constant.asText
  /-- The text in another case, if all of it is ASCII. -/
  cased (f : Char → Char) : Option Node :=
    if s.toList.all fun c => c.toNat < 128 then some (Build.str (s.map f)) else none

/-! ### Numbers -/

/-- The digits of a number in a base. -/
def basedText? (x : Float) (base : Nat) : Option String :=
  if x.isNaN || x.isInf || base == 10 then some (EnumValue.numberString x)
  else if 0 ≤ x && x == x.floor && x ≤ 4294967295 then
    some (String.ofList (digits base x.toUInt64.toNat))
  else none
where
  /-- The digits of a whole number. -/
  digits (base n : Nat) : List Char :=
    if h : base < 2 || n < base then [digit n]
    else
      have : n / base < n := Nat.div_lt_self (by simp at h; omega) (by simp at h; omega)
      digits base (n / base) ++ [digit (n % base)]
  /-- A digit. -/
  digit (d : Nat) : Char := if d < 10 then Char.ofNat (48 + d) else Char.ofNat (87 + d)

/-- What a value is turned into as a text. -/
def asTextCall? (object : Node) (args : List Node) : Option Node :=
  match object.shape, args with
  | .numberLit x _, [base] =>
    match base.shape with
    | .numberLit b _ =>
      if 2 ≤ b && b ≤ 36 && b == b.floor then
        (basedText? x b.toUInt64.toNat).map Build.str
      else none
    | _ => none
  | _, [] => (textOf? object).map Build.str
  | _, _ => none

/-- What a function of a number gives. -/
def numberFunction? (name : String) (x : Float) : Option Float :=
  match name with
  | "abs" => some x.abs
  | "ceil" => some x.ceil
  | "floor" => some x.floor
  | "round" =>
    some (if x == x.floor then x else if x < 0 && -0.5 ≤ x then -0.0 else (x + 0.5).floor)
  | "fround" =>
    if x == x.floor || x.isNaN || x.isInf then some x.toFloat32.toFloat else none
  | "trunc" => some (if x < 0 then x.ceil else x.floor)
  | "sign" => some (if x == 0 || x.isNaN then x else if x < 0 then -1 else 1)
  | "clz32" =>
    let n := (EnumValue.toWord x).toNat
    some (Float.ofNat (if n == 0 then 32 else 31 - n.log2))
  | "sqrt" | "cbrt" =>
    if x.isNaN || x == 0 || (x.isInf && 0 < x) then some x
    else if x < 0 then some notANumber
    else
      let root := if name == "sqrt" then x.sqrt else x.cbrt
      if root == root.floor then some root else none
  | _ => none

/-- The least or the greatest of some numbers. -/
def extremeOf (isLeast : Bool) (xs : List Float) : Float :=
  if xs.any (·.isNaN) then notANumber
  else
    let start : Float := if isLeast then 1.0 / 0.0 else -(1.0 / 0.0)
    xs.foldl (fun best x =>
      let isNegativeZero (y : Float) : Bool := y == 0 && y.toBits != 0
      let wins :=
        if isLeast then x < best || (x == best && isNegativeZero x)
        else best < x || (x == best && isNegativeZero best)
      if wins then x else best) start

/-- What a function of `Math` gives. -/
def mathCall? (name : String) (args : List Node) : Option Node :=
  match name, args with
  | "min", _ | "max", _ => do
    return ofConstant (.number (extremeOf (name == "min") (← args.mapM numberOf?)))
  | "pow", [x, y] =>
    let asNumber (n : Node) : Node :=
      if kindOf? n = some .number then n else .made (.unary .plus n)
    let isWhole (n : Node) : Bool := kindOf? n = some .bigInt
    if isSpreadOut x || isSpreadOut y || isWhole x || isWhole y then none
    else some (.made (.binary .exp (asNumber x) (asNumber y)))
  | "imul", [x, y] => do
    let product := EnumValue.toWord (← numberOf? x) * EnumValue.toWord (← numberOf? y)
    return ofConstant (.number (EnumValue.ofSigned product))
  | _, [x] => do return ofConstant (.number (← numberFunction? name (← numberOf? x)))
  | _, _ => none

/-- What a function of `Number` says about a number. -/
def numberCall? (name : String) (args : List Node) : Option Node :=
  match args with
  | [x] =>
    match x.shape with
    | .numberLit x _ =>
      let isFinite := !(x.isNaN || x.isInf)
      let isWhole := isFinite && x == x.floor
      match name with
      | "isFinite" => some (Build.bool isFinite)
      | "isNaN" => some (Build.bool x.isNaN)
      | "isInteger" => some (Build.bool isWhole)
      | "isSafeInteger" => some (Build.bool (isWhole && x.abs ≤ 9007199254740991))
      | _ => none
    | _ => none
  | _ => none

/-- The value of a property of `Number`. -/
def numberProperty? (name : String) : Option Node :=
  let power (base exponent : Float) : Node :=
    .made (.binary .exp (Build.num base) (ofConstant (.number exponent)))
  let greatest : Node := .made (.binary .sub (power 2 53) (Build.num 1))
  match name with
  | "POSITIVE_INFINITY" => some (Build.num (1.0 / 0.0))
  | "NEGATIVE_INFINITY" => some (ofConstant (.number (-(1.0 / 0.0))))
  | "NaN" => some (Build.num notANumber)
  | "MAX_SAFE_INTEGER" => some greatest
  | "MIN_SAFE_INTEGER" => some (.made (.unary .minus greatest))
  | "EPSILON" => some (power 2 (-52))
  | _ => none

/-! ### Escaped texts -/

/-- Characters that are never escaped. -/
def isUnescaped (c : Char) : Bool :=
  c.isAlphanum || "-_.!~*'()".contains c

/-- Characters that divide an address, which stay when all of it is escaped. -/
def dividesAddress (c : Char) : Bool := ";/?:@&=+$,#".contains c

/-- The bytes of a text with what is escaped in it decoded, but for some characters. -/
def unescapedBytes? (isKept : Char → Bool) : List Char → Option (List UInt8)
  | '%' :: a :: b :: rest => do
    let n := (← hexValue a) * 16 + (← hexValue b)
    let left ← unescapedBytes? isKept rest
    if n < 128 && isKept (Char.ofNat n) then
      return "%".toUTF8.toList ++ (String.ofList [a, b]).toUTF8.toList ++ left
    else return UInt8.ofNat n :: left
  | '%' :: _ => none
  | c :: rest => do
    return (String.singleton c).toUTF8.toList ++ (← unescapedBytes? isKept rest)
  | [] => some []

/-- A text with what is escaped in it decoded, but for some characters. -/
def unescaped? (isKept : Char → Bool) (s : String) : Option String := do
  String.fromUTF8? (ByteArray.mk (← unescapedBytes? isKept s.toList).toArray)

/-- What a function of every program gives. -/
def functionCall? (name : String) (args : List Node) : Option Node :=
  let escaped (isKept : Char → Bool) (s : String) : Node :=
    Build.str (String.ofList (Link.percentEncode (!isKept ·) s.toList))
  match name, args with
  | "encodeURIComponent", [x] => (plain? x).map (escaped isUnescaped)
  | "encodeURI", [x] => (plain? x).map (escaped fun c => isUnescaped c || dividesAddress c)
  | "decodeURIComponent", [x] => do
    return Build.str (← unescaped? (fun _ => false) (← plain? x))
  | "decodeURI", [x] => do return Build.str (← unescaped? dividesAddress (← plain? x))
  | "isNaN", [x] => (numberOf? x).map fun x => Build.bool x.isNaN
  | "isFinite", [x] => (numberOf? x).map fun x => Build.bool !(x.isNaN || x.isInf)
  | "parseFloat", [x] => (plain? x).map fun s => ofConstant (.number (leadingNumber s))
  | "parseInt", x :: rest => do
    let base ← numberArgument? rest 0
    if 1 < rest.length then none
    else
      return ofConstant (.number
        (leadingInteger (← plain? x) (EnumValue.toWord (base.getD 0)).toNat))
  | _, _ => none
where
  /-- The text that an argument is, if it has nothing but characters. -/
  plain? (n : Node) : Option String := (textOf? n).filter Constant.isPlainText

/-- What a function of `String` gives. -/
def textFunction? (name : String) (args : List Node) : Option Node :=
  match name with
  | "fromCharCode" => do
    let numbers ← args.mapM numberOf?
    let texts ← numbers.mapM fun x => ofUnits? [(EnumValue.toWord x).toNat % 0x10000]
    return Build.str ("".intercalate texts)
  | _ => none

/-! ### Joined arrays and texts -/

/-- The arguments that an array takes in when they are put behind its elements, and the others. -/
def takenIn : List Node → List Node × List Node
  | [] => ([], [])
  | x :: rest =>
    let taken? : Option (List Node) :=
      match x.shape with
      | .arrayLit elements => some elements
      | _ => if isLiteral x then some [x] else none
    match taken? with
    | some elements =>
      let (more, left) := takenIn rest
      (elements ++ more, left)
    | none => ([], x :: rest)

/-- A template that shows a text and arguments behind it. -/
def shown (s : String) : List Node → List Quasi × List Node
  | [] => ([quasiOf s], [])
  | x :: rest =>
    match x.shape with
    | .stringLit t _ => shown (s ++ t) rest
    | _ =>
      let (quasis, values) := shown "" rest
      (quasiOf s :: quasis, x :: values)

/-- An array or a text with arguments put behind it. -/
def concatenated? (n object : Node) (args : List Node) : Option Node :=
  match object.shape with
  | .arrayLit elements =>
    match takenIn args with
    | (taken, []) => some (object.withShape (.arrayLit (elements ++ taken)))
    | (taken, left) =>
      if left.length == args.length then none
      else
        let object := object.withShape (.arrayLit (elements ++ taken))
        some (n.withShape (.call (Build.dot object "concat") none left false false))
  | .stringLit s _ =>
    let isText (x : Node) : Bool := match x.shape with | .stringLit .. => true | _ => false
    let values := (args.filter (!isText ·)).length
    if args.isEmpty || args.any isSpreadOut || 9 + args.length < 3 * values then none
    else
      let (quasis, holes) := shown s args
      some (template (.made (.template quasis holes)) quasis holes)
  | _ => none

/-! ### Calls -/

/-- What a call gives, if that is known. -/
def knownCall? (s : Scopes) (n callee : Node) (args : List Node) : Option Node :=
  match callee.shape with
  | .reference _ => (globalName? s callee).bind fun name => functionCall? name args
  | .member object name false =>
    match globalName? s object with
    | some "Math" => mathCall? name args
    | some "Number" => numberCall? name args
    | some "String" => textFunction? name args
    | some "Array" => if name == "of" then some (Build.array args) else none
    | _ =>
      match name, object.shape with
      | "concat", _ => concatenated? n object args
      | "toString", _ => asTextCall? object args
      | _, .stringLit text _ =>
        if Constant.isPlainText text then textMethod? text name args else none
      | _, _ => none
  | _ => none

end Playground.Emit.Minify
