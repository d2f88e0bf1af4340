import Playground.Script.Letter

/-!
# Halves of surrogate pairs

An escape in quoted text may stand for half of a surrogate pair, which is no character.  The
value of such a literal shows the half as the replacement character with four digits behind it;
the replacement character itself is then written with the digits `fffd`, so that the digits always
tell which is meant.  `hasLoneSurrogate` tells from the text as written whether a literal is such
a one, and `settleReplacements` takes the digits away again from all others.
-/

namespace Playground.Script

/-- The text of a code point: half of a pair, and the replacement character, carry digits. -/
def textOfCode (n : Nat) : String :=
  if n.isValidChar && n != 0xfffd then (Char.ofNat n).toString
  else "\uFFFD" ++ String.ofList (Nat.toDigits 16 n)

/-- Quoted text with one more character. -/
def pushChar (s : String) (c : Char) : String :=
  if c == '\uFFFD' then s ++ textOfCode 0xfffd else s.push c

/-- The number that hexadecimal digits stand for. -/
def hexNumber? (digits : List Char) : Option Nat :=
  digits.foldl (fun acc c => acc.bind fun n => (hexValue c).map (n * 16 + ·)) (some 0)

/-- The first half of a surrogate pair. -/
def isHighHalf (n : Nat) : Bool := 0xd800 ≤ n && n ≤ 0xdbff

/-- The second half of a surrogate pair. -/
def isLowHalf (n : Nat) : Bool := 0xdc00 ≤ n && n ≤ 0xdfff

/-- Whether the digits are those of half a pair. -/
def isHalf (digits : List Char) : Bool :=
  match hexNumber? digits with
  | some n => isHighHalf n || isLowHalf n
  | none => false

/-- Whether quoted text, as written, holds half of a surrogate pair without the other half. -/
def hasLoneSurrogate : List Char → Bool
  | '\\' :: 'u' :: '\x7b' :: rest =>
    isHalf (rest.takeWhile (· != '\x7d')) || hasLoneSurrogate rest
  | '\\' :: 'u' :: a :: b :: c :: d :: '\\' :: 'u' :: e :: f :: g :: h :: rest =>
    let isHigh := ((hexNumber? [a, b, c, d]).map isHighHalf).getD false
    let isLow := ((hexNumber? [e, f, g, h]).map isLowHalf).getD false
    if isHigh && isLow then hasLoneSurrogate rest
    else isHalf [a, b, c, d] || hasLoneSurrogate ('\\' :: 'u' :: e :: f :: g :: h :: rest)
  | '\\' :: 'u' :: a :: b :: c :: d :: rest =>
    isHalf [a, b, c, d] || hasLoneSurrogate rest
  | '\\' :: _ :: rest => hasLoneSurrogate rest
  | _ :: rest => hasLoneSurrogate rest
  | [] => false

/-- The value of quoted text: without half a pair the replacement character needs no digits. -/
def settleReplacements (raw value : String) : String :=
  if value.toList.contains '\uFFFD' && !hasLoneSurrogate raw.toList then
    value.replace "\uFFFDfffd" "\uFFFD"
  else value

end Playground.Script
