/-!
# Base64

Bytes as text over 64 symbols, six bits a symbol.  `encode` writes the alphabet that is safe in
a URL (`-` and `_` for 62 and 63) and no padding; `decode` reads the standard alphabet (`+` and
`/`), wants padding up to a multiple of four symbols and refuses a last symbol that carries bits
of no byte.
-/

namespace Playground.Base64

/-! ### Writing -/

/-- The symbol of a number below 64. -/
def symbol (n : Nat) : Char :=
  if n < 26 then Char.ofNat (n + 65)
  else if n < 52 then Char.ofNat (n + 71)
  else if n < 62 then Char.ofNat (n - 4)
  else if n = 62 then '-'
  else '_'

/-- The symbols of bytes: three bytes make four symbols, one or two left over make two or
three. -/
def encode : List UInt8 → List Char
  | a :: b :: c :: rest =>
    let n := a.toNat * 65536 + b.toNat * 256 + c.toNat
    symbol (n / 262144) :: symbol (n / 4096 % 64) :: symbol (n / 64 % 64) :: symbol (n % 64) ::
      encode rest
  | [a, b] =>
    let n := a.toNat * 256 + b.toNat
    [symbol (n / 1024), symbol (n / 16 % 64), symbol (n % 16 * 4)]
  | [a] => [symbol (a.toNat / 4), symbol (a.toNat % 4 * 16)]
  | [] => []

/-! ### Reading -/

/-- Why symbols are refused; the offset counts bytes. -/
inductive Fault where
  | invalidSymbol (byte : UInt8) (offset : Nat)
  | invalidLast (byte : UInt8) (offset : Nat)
  | invalidLength (length : Nat)
deriving DecidableEq, Inhabited

/-- The wording of each reason. -/
def Fault.message : Fault → String
  | invalidSymbol byte offset =>
    "Invalid symbol " ++ toString byte.toNat ++ ", offset " ++ toString offset ++ "."
  | invalidLast byte offset =>
    "Invalid last symbol " ++ toString byte.toNat ++ ", offset " ++ toString offset ++ "."
  | invalidLength length => "Invalid input length: " ++ toString length

/-- The padding symbol `=`. -/
def pad : UInt8 := 61

/-- The number a symbol stands for. -/
def value? (b : UInt8) : Option Nat :=
  let n := b.toNat
  if 65 ≤ n && n ≤ 90 then some (n - 65)
  else if 97 ≤ n && n ≤ 122 then some (n - 71)
  else if 48 ≤ n && n ≤ 57 then some (n + 4)
  else if n = 43 then some 62
  else if n = 47 then some 63
  else none

/-- The number of a symbol, or the complaint about it. -/
def value (b : UInt8) (offset : Nat) : Except Fault Nat :=
  match value? b with
  | some n => .ok n
  | none => .error (.invalidSymbol b offset)

/-- The last four symbols, of which one or two may be padding. -/
def decodeLast (a b c d : UInt8) (offset : Nat) : Except Fault (List UInt8) := do
  let x ← value a offset
  let y ← value b (offset + 1)
  if c = pad then
    if d ≠ pad then throw (.invalidSymbol pad (offset + 2))
    if y % 16 ≠ 0 then throw (.invalidLast b (offset + 1))
    return [UInt8.ofNat (x * 4 + y / 16)]
  else
    let z ← value c (offset + 2)
    if d = pad then
      if z % 4 ≠ 0 then throw (.invalidLast c (offset + 2))
      return [UInt8.ofNat (x * 4 + y / 16), UInt8.ofNat (y * 16 + z / 4)]
    else
      let w ← value d (offset + 3)
      return [UInt8.ofNat (x * 4 + y / 16), UInt8.ofNat (y * 16 + z / 4),
        UInt8.ofNat (z * 64 + w)]

/-- The bytes of symbols from an offset on, behind the bytes already read (latest first). -/
def decodeFrom (offset : Nat) : List UInt8 → List UInt8 → Except Fault (List UInt8)
  | [], acc => .ok acc.reverse
  | [a, b, c, d], acc => do
    let bytes ← decodeLast a b c d offset
    return acc.reverse ++ bytes
  | a :: b :: c :: d :: rest, acc => do
    let x ← value a offset
    let y ← value b (offset + 1)
    let z ← value c (offset + 2)
    let w ← value d (offset + 3)
    decodeFrom (offset + 4) rest
      (UInt8.ofNat (z * 64 + w) :: UInt8.ofNat (y * 16 + z / 4) :: UInt8.ofNat (x * 4 + y / 16)
        :: acc)
  | short, _ => .error (.invalidLength (offset + short.length))

/-- The bytes of symbols. -/
def decode (symbols : List UInt8) : Except Fault (List UInt8) := decodeFrom 0 symbols []

end Playground.Base64
