import Playground.Decimal.Shortest
import Playground.Script.Letter

/-!
# Numerals

`numeralValue` is the value of a number literal, from its text.

`numberText` writes a number the way the language itself does, `compactNumber` with as few
characters as it can: without a leading zero, in hexadecimal or with an exponent.
-/

namespace Playground.Script

open Playground.Decimal

/-! ### Values -/

/-- The number some digits stand for in a base. -/
def digitsValue (base : Nat) (digits : List Char) : Nat :=
  digits.foldl (fun n c => n * base + (hexValue c).getD 0) 0

/-- The double some digits stand for in a base, rounded after every digit. -/
def digitsFloat (base : Nat) (digits : List Char) : Float :=
  digits.foldl (fun x c => x * base.toFloat + ((hexValue c).getD 0).toFloat) 0

/-- The double nearest to a decimal numeral. -/
def decimalFloat (cs : List Char) : Float :=
  let whole := cs.takeWhile Char.isDigit
  let rest := cs.dropWhile Char.isDigit
  let (fraction, rest) :=
    match rest with
    | '.' :: r => (r.takeWhile Char.isDigit, r.dropWhile Char.isDigit)
    | r => ([], r)
  let (negative, exponent) :=
    match rest with
    | _ :: '-' :: r => (true, digitsValue 10 r)
    | _ :: '+' :: r => (false, digitsValue 10 r)
    | _ :: r => (false, digitsValue 10 r)
    | [] => (false, 0)
  let mantissa := digitsValue 10 (whole ++ fraction)
  let scale : Int :=
    (if negative then -(exponent : Int) else (exponent : Int)) - (fraction.length : Int)
  -- beyond this the value is zero or infinite whatever the digits
  let scale := max (-100000) (min 100000 scale)
  if scale < 0 then Float.ofScientific mantissa true scale.natAbs
  else Float.ofScientific mantissa false scale.natAbs

/-- The double a number literal stands for. -/
def numeralValue (text : String) : Float :=
  match text.toList.filter (· != '_') with
  | '0' :: 'x' :: r | '0' :: 'X' :: r => digitsFloat 16 r
  | '0' :: 'o' :: r | '0' :: 'O' :: r => digitsFloat 8 r
  | '0' :: 'b' :: r | '0' :: 'B' :: r => digitsFloat 2 r
  | '0' :: r =>
    if !r.isEmpty && r.all (fun c => '0' ≤ c && c ≤ '7') then digitsFloat 8 r
    else decimalFloat ('0' :: r)
  | cs => decimalFloat cs

/-- The decimal digits of a big integer literal. -/
def bigNumeralDigits (text : String) : String :=
  let cs := (text.toList.filter (· != '_')).dropLast
  toString <|
    match cs with
    | '0' :: 'x' :: r | '0' :: 'X' :: r => digitsValue 16 r
    | '0' :: 'o' :: r | '0' :: 'O' :: r => digitsValue 8 r
    | '0' :: 'b' :: r | '0' :: 'B' :: r => digitsValue 2 r
    | cs => digitsValue 10 cs

/-! ### Texts -/

/-- As many zeros. -/
def zeros (n : Nat) : String := String.ofList (List.replicate n '0')

/-- A decimal as the language writes it: positional below 10^21 and down to 10^-6, with an
exponent outside of that. -/
def decimalText (d : Decimal) : String :=
  let digits := toString d.digits
  let count := digits.length
  let point : Int := d.exponent + count
  if d.exponent ≥ 0 && point ≤ 21 then digits ++ zeros d.exponent.toNat
  else if 0 < point && point ≤ 21 then
    (digits.take point.toNat).toString ++ "." ++ (digits.drop point.toNat).toString
  else if -6 < point && point ≤ 0 then "0." ++ zeros point.natAbs ++ digits
  else
    let e := point - 1
    let mark := if e < 0 then "e-" else "e+"
    let head := (digits.take 1).toString
    let tail := (digits.drop 1).toString
    head ++ (if tail.isEmpty then "" else "." ++ tail) ++ mark ++ toString e.natAbs

/-- A number that is not negative, as the language writes it. -/
def numberText (x : Float) : String :=
  if x == 0 then "0" else decimalText (shortest x)

/-- The exact value of a double that is a whole number. -/
def wholeDouble? (x : Float) : Option Nat :=
  if x.floor != x then none
  else
    let bits := x.toBits
    let fraction : Nat := bits.toNat % (1 <<< 52)
    let biased : Nat := (bits.toNat >>> 52) % (1 <<< 11)
    if biased < 1023 then some 0
    else
      let mantissa : Nat := (1 <<< 52) + fraction
      if biased ≥ 1075 then some (mantissa <<< (biased - 1075))
      else some (mantissa >>> (1075 - biased))

/-- A whole number in hexadecimal. -/
def hexText (n : Nat) : String := "0x" ++ String.ofList (Nat.toDigits 16 n)

/-- The shorter of a text and a rival that has to be strictly shorter to win. -/
def shorter (text rival : String) : String :=
  if rival.length < text.length then rival else text

/-- A fraction that starts with `.0`, with an exponent instead of its zeros. -/
def foldLeadingZeros (text : String) : String :=
  let cs := text.toList
  let digits := (cs.drop 1).dropWhile (· == '0')
  if digits.isEmpty || cs.contains 'e' then text
  else shorter text (String.ofList digits ++ "e-" ++ toString (cs.length - 1))

/-- A numeral that ends in zeros, with an exponent instead of them. -/
def foldTrailingZeros (text : String) : String :=
  let count := (text.toList.reverse.takeWhile (· == '0')).length
  if count == 0 || count == text.length then text
  else shorter text ((text.dropEnd count).toString ++ "e" ++ toString count)

/-- A numeral with a point and an exponent, with the point shifted away. -/
def foldPoint (text : String) : String :=
  match text.splitOn "." with
  | [whole, rest] =>
    match rest.splitOn "e" with
    | [fraction, exponent] =>
      match exponent.toInt? with
      | some e => shorter text (whole ++ fraction ++ "e" ++ toString (e - fraction.length))
      | none => text
    | _ => text
  | _ => text

/-- A number that is not negative, in as few characters as possible. -/
def compactNumber (x : Float) : String :=
  let text := numberText x
  if x < 1000 && x.floor == x then text
  else
    let text := if text.startsWith "0." then (text.drop 1).toString else text
    let text := text.replace "e+" "e"
    match wholeDouble? x with
    | some n =>
      let hex := hexText (min n ((1 <<< 128) - 1))
      if hex.length < text.length then hex else foldPoint (foldTrailingZeros text)
    | none =>
      let text := if text.startsWith ".0" then foldLeadingZeros text else text
      foldPoint (foldTrailingZeros text)

/-- Whether a property access may follow the numeral directly. -/
def takesDot (text : String) : Bool :=
  text.any fun c => c == '.' || c == 'e' || c == 'x'

end Playground.Script
