import Playground.Link.Domain
import Playground.Link.Percent

/-!
# Hosts

The host of a link is a domain or an address of one of two kinds.  Numbers in an address may be
written in base 8, 10 or 16, and domains may hold characters of any script.
-/

namespace Playground.Link

open Playground.Text

/-- Why a text is no link. -/
inductive LinkError where
  | emptyHost | domain | port | ipv4 | ipv6 | hostCharacter | noScheme
deriving DecidableEq, Inhabited, Repr

/-- The wording of each reason. -/
def LinkError.message : LinkError → String
  | emptyHost => "empty host"
  | domain => "invalid international domain name"
  | port => "invalid port number"
  | ipv4 => "invalid IPv4 address"
  | ipv6 => "invalid IPv6 address"
  | hostCharacter => "invalid domain character"
  | noScheme => "relative URL without a base"

/-! ### Addresses of four bytes -/

/-- A number in some base, if all are digits. -/
def numberIn? (base : Nat) (cs : List Char) : Option Nat :=
  cs.foldlM (fun n c =>
    match (if c.toNat < 128 then hexValue? (UInt8.ofNat c.toNat) else none) with
    | some d => if d < base then some (n * base + d) else none
    | none => none) 0

/-- A part of an address. -/
def addressPart? (cs : List Char) : Option Nat :=
  match cs with
  | [] => none
  | '0' :: 'x' :: rest | '0' :: 'X' :: rest => numberIn? 16 rest
  | '0' :: c :: rest => numberIn? 8 (c :: rest)
  | _ => numberIn? 10 cs

/-- Whether a domain ends like an address. -/
def endsInNumber (domain : List Char) : Bool :=
  let isNumber (part : List Char) : Bool :=
    (!part.isEmpty && part.all (fun c => '0' ≤ c && c ≤ '9')) || (addressPart? part).isSome
  match (pieces '.' domain).reverse with
  | [] => false
  | [[]] => false
  -- one dot at the end is not looked at
  | [] :: last :: _ => isNumber last
  | last :: _ => isNumber last

/-- The four bytes of an address; the last part fills the bytes that are left. -/
def ipv4? (domain : List Char) : Option Nat := do
  let parts := pieces '.' domain
  let parts := if parts.getLast? = some [] then parts.dropLast else parts
  if parts.length > 4 then none
  let numbers ← parts.mapM addressPart?
  let last ← numbers.getLast?
  let front := numbers.dropLast
  if last ≥ 1 <<< (8 * (4 - front.length)) || front.any (· > 255) then none
  return front.zipIdx.foldl (fun sum (n, i) => sum + (n <<< (8 * (3 - i)))) last

/-- The usual form of an address of four bytes. -/
def ipv4Text (address : Nat) : String :=
  ".".intercalate ([16777216, 65536, 256, 1].map fun unit => toString (address / unit % 256))

/-! ### Addresses of eight words -/

/-- A decimal byte without needless zeros. -/
def decimalByte? (cs : List Char) : Option Nat :=
  match cs with
  | ['0'] => some 0
  | '0' :: _ => none
  | _ => if cs.isEmpty || cs.length > 3 then none else (numberIn? 10 cs).filter (· ≤ 255)

/-- The two words of four bytes at the end of an address. -/
def bytePairs? (cs : List Char) : Option (List Nat) := do
  match ← (pieces '.' cs).mapM decimalByte? with
  | [a, b, c, d] => some [a * 256 + b, c * 256 + d]
  | _ => none

/-- The words of a part of an address; only the last one may be four bytes. -/
def words? : List (List Char) → Option (List Nat)
  | [] => some []
  | [last] =>
    if last.contains '.' then bytePairs? last
    else if last.isEmpty || last.length > 4 then none
    else (numberIn? 16 last).map ([·])
  | word :: rest => do
    if word.isEmpty || word.length > 4 then none
    return (← numberIn? 16 word) :: (← words? rest)

/-- Cuts a text at the first two colons in a row. -/
def cutAtGap : List Char → Option (List Char × List Char)
  | ':' :: ':' :: rest => some ([], rest)
  | c :: rest => (cutAtGap rest).map fun (front, back) => (c :: front, back)
  | [] => none

/-- The words of some text between colons. -/
def wordsOf? (cs : List Char) : Option (List Nat) :=
  if cs.isEmpty then some [] else words? (pieces ':' cs)

/-- The eight words of an address; two colons stand for zeros. -/
def ipv6? (cs : List Char) : Option (List Nat) := do
  match cutAtGap cs with
  | none =>
    let words ← wordsOf? cs
    if words.length = 8 then some words else none
  | some (front, back) =>
    -- four bytes may only stand at the end of all
    if front.contains '.' then none
    let first ← wordsOf? front
    let last ← wordsOf? back
    -- two colons stand for one zero at least
    if first.length + last.length > 7 then none
    return first ++ List.replicate (8 - first.length - last.length) 0 ++ last

/-- The place and length of the first of the longest rows of zeros. -/
def longestZeros (words : List Nat) : Nat × Nat :=
  let runFrom (i : Nat) : Nat := ((words.drop i).takeWhile (· = 0)).length
  (List.range 8).foldl (fun best i => if runFrom i > best.2 then (i, runFrom i) else best) (0, 1)

/-- A number in base 16. -/
def hexText (n : Nat) : String := String.ofList (Nat.toDigits 16 n)

/-- The usual form of an address of eight words. -/
def ipv6Text (words : List Nat) : String :=
  let text (ws : List Nat) : String := ":".intercalate (ws.map hexText)
  let (start, count) := longestZeros words
  if count < 2 then text words
  else text (words.take start) ++ "::" ++ text (words.drop (start + count))

/-! ### Hosts -/

/-- An address in brackets. -/
def bracketed (cs : List Char) : Except LinkError String :=
  match (beforeEnd? [']'] cs).bind ipv6? with
  | some words => .ok ("[" ++ ipv6Text words ++ "]")
  | none => .error .ipv6

/-- The host of a link with a well-known scheme. -/
def knownHost (cs : List Char) : Except LinkError String := do
  match cs with
  | '[' :: rest => bracketed rest
  | _ =>
    let decoded := percentDecode (String.ofList cs).toUTF8.toList
    match String.fromUTF8? ⟨decoded.toArray⟩ with
    | none => throw .domain
    | some text =>
      match domain? text.toList with
      | none => throw .domain
      | some [] => throw .emptyHost
      | some domain =>
        if endsInNumber domain then
          match ipv4? domain with
          | some address => return ipv4Text address
          | none => throw .ipv4
        else return String.ofList domain

/-- The host of a link with any other scheme. -/
def opaqueHost (cs : List Char) : Except LinkError String :=
  match cs with
  | '[' :: rest => bracketed rest
  | _ =>
    if cs.any fun c => ['\x00', ' ', '#', '/', ':', '<', '>', '?', '@', '[', '\\', ']', '^',
        '|'].contains c then .error .hostCharacter
    else .ok (String.ofList (percentEncode isControl cs))

end Playground.Link
