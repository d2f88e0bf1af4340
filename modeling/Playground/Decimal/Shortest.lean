/-!
# The shortest decimal that reads back

A double stands for all reals that round to it.  `shortest` finds the decimal with the fewest
digits among them, and of those with equally few digits the one nearest to the double.

As plain text a double has at least one digit behind the point: `plainText` writes it with an
exponent where it would need many zeros, `positionalText` never.
-/

namespace Playground

/-- A positive decimal: `digits` read as a whole number, times ten to the `exponent`. -/
structure Decimal where
  digits : Nat
  exponent : Int
deriving DecidableEq, Repr, Inhabited

namespace Decimal

/-- A power of ten. -/
def tenTo (n : Nat) : Nat := Nat.pow 10 n

/-- The reals that round to a double, as fractions over one denominator. -/
structure Interval where
  value : Nat
  low : Nat
  high : Nat
  unit : Nat
  /-- the ends belong to it -/
  closed : Bool
deriving Inhabited

/-- The reals that round to a positive finite double, over a denominator of powers of ten and
two. -/
def Interval.ofBits (bits : UInt64) : Interval :=
  let fraction : Nat := bits.toNat % (1 <<< 52)
  let biased : Nat := (bits.toNat >>> 52) % (1 <<< 11)
  let mantissa : Nat := if biased == 0 then fraction else (1 <<< 52) + fraction
  let exponent : Int := if biased == 0 then -1074 else (biased : Int) - 1075
  -- quarters of the last place
  let below : Nat := if fraction == 0 && biased > 1 then 1 else 2
  let scale : Nat := if exponent ≥ 0 then 1 <<< exponent.toNat else 1
  let unit : Nat := if exponent ≥ 0 then 4 else 4 <<< exponent.natAbs
  { value := 4 * mantissa * scale
    low := (4 * mantissa - below) * scale
    high := (4 * mantissa + 2) * scale
    unit
    closed := mantissa % 2 == 0 }

/-- Whether a fraction over the interval's denominator lies in it. -/
def Interval.holds (i : Interval) (x : Nat) : Bool :=
  if i.closed then i.low ≤ x && x ≤ i.high else i.low < x && x < i.high

/-- The interval with its denominator multiplied. -/
def Interval.over (i : Interval) (k : Nat) : Interval :=
  { i with value := i.value * k, low := i.low * k, high := i.high * k }

/-- The number of places in front of the point of a fraction of at least one. -/
def placesAbove (value unit : Nat) : Nat → Nat → Nat
  | 0, k => k
  | n + 1, k => if value < unit * tenTo k then k else placesAbove value unit n (k + 1)

/-- The number of zeros behind the point of a fraction below one, before its first digit. -/
def placesBelow (value unit : Nat) : Nat → Nat → Nat
  | 0, k => k
  | n + 1, k => if value * tenTo (k + 1) ≥ unit then k else placesBelow value unit n (k + 1)

/-- The power of ten that is the first one above the value. -/
def magnitude (i : Interval) : Int :=
  if i.value ≥ i.unit then (placesAbove i.value i.unit 400 0 : Int)
  else -(placesBelow i.value i.unit 400 0 : Int)

/-- The neighbour of the value on the grid of decimals with the given last place, if one of them
lies in the interval: of two the nearer, and of two equally near the even one. -/
def onGrid (i : Interval) (place : Int) : Option Decimal :=
  let i := if place < 0 then i.over (tenTo place.natAbs) else i
  let step := if place < 0 then i.unit else i.unit * tenTo place.toNat
  let down := i.value / step
  let below := down * step
  let above := (down + 1) * step
  match i.holds below && 0 < down, i.holds above with
  | false, false => none
  | true, false => some ⟨down, place⟩
  | false, true => some ⟨down + 1, place⟩
  | true, true =>
    let toBelow := i.value - below
    let toAbove := above - i.value
    if toBelow < toAbove || (toBelow == toAbove && down % 2 == 0) then some ⟨down, place⟩
    else some ⟨down + 1, place⟩

/-- The first of the grids, coarsest first, that has a decimal in the interval. -/
def search (i : Interval) (top : Int) : Nat → Nat → Decimal
  | 0, _ => ⟨0, 0⟩
  | n + 1, digits =>
    match onGrid i (top - digits) with
    | some d => d
    | none => search i top n (digits + 1)

/-- The same number without zeros at the end of its digits. -/
def trimmed : Nat → Decimal → Decimal
  | 0, d => d
  | n + 1, d =>
    if d.digits != 0 && d.digits % 10 == 0 then trimmed n ⟨d.digits / 10, d.exponent + 1⟩
    else d

/-- The shortest decimal that reads back as the positive finite double. -/
def shortest (x : Float) : Decimal :=
  let i := Interval.ofBits x.toBits
  (search i (magnitude i) 20 1).trimmed 20

/-! ### Plain text -/

/-- As many zeros. -/
def zeroText (n : Nat) : String := String.ofList (List.replicate n '0')

/-- A positive decimal: positional below 10^16 and down to 10^-5. -/
def plainDecimal (d : Decimal) : String :=
  let digits := toString d.digits
  let count := digits.length
  let point : Int := d.exponent + count
  if d.exponent ≥ 0 && point ≤ 16 then digits ++ zeroText d.exponent.toNat ++ ".0"
  else if 0 < point && point ≤ 16 then
    (digits.take point.toNat).toString ++ "." ++ (digits.drop point.toNat).toString
  else if -5 < point && point ≤ 0 then "0." ++ zeroText point.natAbs ++ digits
  else
    let exponent := if point > 0 then "+" ++ toString (point - 1) else toString (point - 1)
    if count == 1 then digits ++ "e" ++ exponent
    else (digits.take 1).toString ++ "." ++ (digits.drop 1).toString ++ "e" ++ exponent

/-- A finite double. -/
def plainText (x : Float) : String :=
  if x == 0 then (if x.toBits == 0 then "0.0" else "-0.0")
  else if x < 0 then "-" ++ plainDecimal (shortest (-x))
  else plainDecimal (shortest x)

/-- A positive decimal without an exponent. -/
def positionalDecimal (d : Decimal) : String :=
  let digits := toString d.digits
  let point : Int := d.exponent + digits.length
  if d.exponent ≥ 0 then digits ++ zeroText d.exponent.toNat ++ ".0"
  else if 0 < point then
    (digits.take point.toNat).toString ++ "." ++ (digits.drop point.toNat).toString
  else "0." ++ zeroText point.natAbs ++ digits

/-- A double without an exponent. -/
def positionalText (x : Float) : String :=
  if x.isNaN then "NaN"
  else if x.isInf then (if x < 0 then "-inf" else "inf")
  else if x == 0 then (if x.toBits == 0 then "0.0" else "-0.0")
  else if x < 0 then "-" ++ positionalDecimal (shortest (-x))
  else positionalDecimal (shortest x)

end Decimal

end Playground
