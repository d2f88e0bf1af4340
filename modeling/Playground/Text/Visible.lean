import Playground.Unicode.Property

/-!
# Text made visible

`visible` writes a text between double quotes so that every character of it can be seen: quotes
and backslashes are escaped, and characters without a shape of their own are named or numbered.
-/

namespace Playground.Text

/-- The hexadecimal digits of a number, in small letters. -/
def hexDigits (n : Nat) : String := String.ofList (Nat.toDigits 16 n)

/-- Characters without a shape: controls, blanks other than the space, and what is not assigned. -/
def shapeless : Unicode.CharSet :=
  (Unicode.CharSet.unions
    [Unicode.assigned.complement, Unicode.categories ["Cc", "Cf", "Co", "Zl", "Zp", "Zs"]]).minus
    (.single ' ')

/-- Whether a character has no shape of its own, or only together with the one before it. -/
def isInvisible (c : Char) : Bool :=
  let n := c.toNat
  if n < 128 then n < 32 || n = 127
  else Unicode.graphemeExtend.has n || shapeless.has n

/-- A character inside of the quotes. -/
def visibleChar (c : Char) : String :=
  if c == '\x22' then "\\\""
  else if c == '\\' then "\\\\"
  else if c == '\n' then "\\n"
  else if c == '\r' then "\\r"
  else if c == '\t' then "\\t"
  else if c == '\x00' then "\\0"
  else if isInvisible c then "\\u\x7b" ++ hexDigits c.toNat ++ "\x7d"
  else c.toString

/-- A text between quotes. -/
def visible (s : String) : String :=
  "\x22" ++ String.join (s.toList.map visibleChar) ++ "\x22"

end Playground.Text
