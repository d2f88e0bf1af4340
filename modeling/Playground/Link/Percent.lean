/-!
# Percent encoding

Characters of a set, and all that are not ASCII, are written byte by byte as `%` and two digits.
-/

namespace Playground.Link

/-- A digit of base 16, in upper case. -/
def upperHex (n : Nat) : Char := if n < 10 then Char.ofNat (n + 48) else Char.ofNat (n + 55)

/-- An encoded byte. -/
def percentByte (b : UInt8) : List Char := ['%', upperHex (b.toNat / 16), upperHex (b.toNat % 16)]

/-- A character outside the printable ASCII ones. -/
def isControl (c : Char) : Bool := c.toNat < 32 || c.toNat ≥ 127

/-- Characters that are encoded in a fragment. -/
def inFragment (c : Char) : Bool := isControl c || [' ', '\x22', '<', '>', '\x60'].contains c

/-- Characters that are encoded in a path. -/
def inPath (c : Char) : Bool := inFragment c || ['#', '?', '\x7b', '\x7d'].contains c

/-- Characters that are encoded in a user name or password. -/
def inUserInfo (c : Char) : Bool :=
  inPath c || ['/', ':', ';', '=', '@', '[', '\\', ']', '^', '|'].contains c

/-- Characters that are encoded in a query. -/
def inQuery (c : Char) : Bool := isControl c || [' ', '\x22', '#', '<', '>'].contains c

/-- Characters that are encoded in the query of a well-known scheme. -/
def inSpecialQuery (c : Char) : Bool := inQuery c || c = '\x27'

/-- A character, encoded if it belongs to a set. -/
def percentChar (set : Char → Bool) (c : Char) : List Char :=
  if set c then (String.singleton c).toUTF8.toList.flatMap percentByte else [c]

/-- A text with the characters of a set encoded. -/
def percentEncode (set : Char → Bool) (cs : List Char) : List Char := cs.flatMap (percentChar set)

/-- The value of a digit of base 16. -/
def hexValue? (b : UInt8) : Option Nat :=
  let n := b.toNat
  if 48 ≤ n && n ≤ 57 then some (n - 48)
  else if 65 ≤ n && n ≤ 70 then some (n - 55)
  else if 97 ≤ n && n ≤ 102 then some (n - 87)
  else none

/-- Bytes with what was encoded in them decoded. -/
def percentDecode : List UInt8 → List UInt8
  | 37 :: a :: b :: rest =>
    match hexValue? a, hexValue? b with
    | some x, some y => UInt8.ofNat (x * 16 + y) :: percentDecode rest
    | _, _ => 37 :: percentDecode (a :: b :: rest)
  | b :: rest => b :: percentDecode rest
  | [] => []

end Playground.Link
