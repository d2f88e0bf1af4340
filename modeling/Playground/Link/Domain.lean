import Playground.Link.DomainTable
import Playground.Text.Chars
import Playground.Unicode.NormalForm
import Playground.Unicode.Property

/-!
# Domains

A domain may hold characters of any script.  `domain?` brings it into its usual form: characters are
replaced by those that mean the same, each part is checked, and parts with characters beyond ASCII
are coded.

A part must not start with a mark.  Invisible joiners may stand only where they change how letters
look.  If any part of a domain is written from right to left, directions must not be mixed within
its parts.

The code of a part, Punycode, is a text of letters, digits and hyphens: the ASCII characters come
first, and the others follow as the steps between their code points and places, in rising order.
-/

namespace Playground.Link.Punycode

/-- The digit of a number below 36. -/
def digit (n : Nat) : Char := if n < 26 then Char.ofNat (n + 97) else Char.ofNat (n + 22)

/-- The number of a digit. -/
def digitValue? (c : Char) : Option Nat :=
  let n := c.toNat
  if 97 ≤ n && n ≤ 122 then some (n - 97)
  else if 65 ≤ n && n ≤ 90 then some (n - 65)
  else if 48 ≤ n && n ≤ 57 then some (n - 22)
  else none

/-- The threshold of a digit at a place. -/
def threshold (k bias : Nat) : Nat := if k ≤ bias then 1 else min 26 (k - bias)

/-- Cuts a step down until it is small. -/
def shrink : Nat → Nat → Nat → Nat
  | 0, delta, k => k + 36 * delta / (delta + 38)
  | n + 1, delta, k =>
    if delta > 455 then shrink n (delta / 35) (k + 36) else k + 36 * delta / (delta + 38)

/-- The bias after a step. -/
def adapt (delta count : Nat) (isFirst : Bool) : Nat :=
  let delta := if isFirst then delta / 700 else delta / 2
  let delta := delta + delta / count
  shrink delta delta 0

/-- The digits of a step. -/
def stepDigits : Nat → Nat → Nat → Nat → List Char
  | 0, _, _, _ => []
  | n + 1, q, k, bias =>
    let t := threshold k bias
    if q < t then [digit q]
    else digit (t + (q - t) % (36 - t)) :: stepDigits n ((q - t) / (36 - t)) (k + 36) bias

/-- The state of writing: the digits so far, the step, the bias, and how many characters are
written. -/
structure Writing where
  output : List Char
  delta : Nat
  bias : Nat
  handled : Nat

/-- Passes the characters of the text at one code point. -/
def writeAt (point basic : Nat) (w : Writing) (c : Char) : Writing :=
  if c.toNat < point then { w with delta := w.delta + 1 }
  else if c.toNat = point then
    { output := w.output ++ stepDigits (w.delta + 1) w.delta 36 w.bias
      bias := adapt w.delta (w.handled + 1) (w.handled = basic)
      delta := 0, handled := w.handled + 1 }
  else w

/-- Writes the characters from a code point on. -/
def writeFrom (text : List Char) (basic : Nat) : Nat → Nat → Writing → List Char
  | 0, _, w => w.output
  | n + 1, point, w =>
    match ((text.map Char.toNat).filter (· ≥ point)).min? with
    | none => w.output
    | some next =>
      -- every code point in between passes all places of the text once
      let w := { w with delta := w.delta + (next - point) * (w.handled + 1) }
      let w := text.foldl (writeAt next basic) w
      writeFrom text basic n (next + 1) { w with delta := w.delta + 1 }

/-- The code of a text. -/
def encode (text : List Char) : List Char :=
  let basic := text.filter fun c => c.toNat < 128
  let start := if basic.isEmpty then [] else basic ++ ['-']
  writeFrom text basic.length (text.length + 1) 128 ⟨start, 0, 72, basic.length⟩

/-- Reads the digits of a step. -/
def readStep (bias : Nat) : List Char → Nat → Nat → Nat → Option (Nat × List Char)
  | [], _, _, _ => none
  | c :: rest, i, weight, k => do
    let n ← digitValue? c
    let i := i + n * weight
    let t := threshold k bias
    if n < t then return (i, rest)
    else readStep bias rest i (weight * (36 - t)) (k + 36)

/-- Reads steps up to the end. -/
def readFrom : Nat → List Char → List Char → Nat → Nat → Nat → Option (List Char)
  | 0, _, _, _, _, _ => none
  | _ + 1, [], output, _, _, _ => some output
  | n + 1, input, output, point, i, bias => do
    let (j, rest) ← readStep bias input i 1 36
    let size := output.length + 1
    let next := point + j / size
    if !next.isValidChar then none
    let place := j % size
    readFrom n rest (output.insertIdx place (Char.ofNat next)) next (place + 1)
      (adapt (j - i) size (i = 0))

/-- The text of a code. -/
def decode? (code : List Char) : Option (List Char) :=
  let backwards := code.reverse
  -- the last hyphen stands behind the ASCII characters
  let digits := (backwards.takeWhile (· ≠ '-')).reverse
  let basic := (backwards.drop (digits.length + 1)).reverse
  if basic.any (fun c => c.toNat ≥ 128) then none
  else readFrom (code.length + 1) digits basic 128 0 72

end Playground.Link.Punycode

namespace Playground.Link

open Playground.Text Playground.Unicode

/-! ### Characters -/

/-- What characters are replaced by, where it is not what they are folded to. -/
def replaced : Replacements := .ofText replacedTable

/-- Characters that are left out. -/
def omitted : Ranges := .ofText omittedTable

/-- Characters that no domain may hold, among those that are assigned. -/
def refused : Ranges := .ofText refusedTable

/-- What becomes of a character; nothing if no domain may hold it. -/
def mapped? (c : Char) : Option (List Nat) :=
  let n := c.toNat
  if n < 128 then some [Unicode.folded n]
  else if omitted.has n then some []
  else if refused.has n || !assigned.has n then none
  else some ((replaced.find? n).getD [Unicode.folded n])

/-- A text with its characters replaced, in its normal form. -/
def mappedText? (cs : List Char) : Option (List Char) :=
  (cs.mapM mapped?).map fun images => (composed images.flatten).map Char.ofNat

/-- Characters of ASCII that no domain may hold. -/
def isForbidden (c : Char) : Bool :=
  c.toNat ≤ 32 || c.toNat = 127
    || ['%', '#', '/', ':', '<', '>', '?', '@', '[', '\\', ']', '^', '|'].contains c

/-! ### Joiners -/

/-- Letters that join to the ones behind them. -/
def joiningForward : Ranges := .ofText joiningForwardTable

/-- Letters that join to the ones before them. -/
def joiningBack : Ranges := .ofText joiningBackTable

/-- Marks, which letters join across. -/
def transparent : CharSet := .union (categories ["Mn", "Me"]) (.range 0x1e94b 0x1e94b)

/-- Whether the joiners of a text stand where they may, given the characters before, latest
first. -/
def joinersFit : List Nat → List Nat → Bool
  | _, [] => true
  | before, n :: rest =>
    let behindVirama := before.head?.any fun m => combiningClass m = 9
    let joins : Bool :=
      (before.dropWhile transparent.has).head?.any joiningForward.has
        && (rest.dropWhile transparent.has).head?.any joiningBack.has
    (if n = 0x200c then behindVirama || joins else n != 0x200d || behindVirama)
      && joinersFit (n :: before) rest

/-! ### Directions -/

/-- The direction of a character. -/
inductive Direction where
  | left | right | arabicDigit | europeanDigit | mark | neutral
deriving DecidableEq, Inhabited, Repr

/-- Characters that are written from right to left. -/
def rightToLeft : Ranges := .ofText rightToLeftTable

/-- Digits of the Arabic script. -/
def arabicDigits : Ranges := .ofText arabicDigitTable

/-- Digits that are written from left to right everywhere. -/
def europeanDigits : Ranges := .ofText europeanDigitTable

/-- Characters without a direction of their own. -/
def neutralCharacters : Ranges := .ofText neutralTable

/-- Marks that have a direction of their own. -/
def directedMarks : List Nat := [0xcbf, 0xcc6, 0x11a07, 0x11a08, 0x11c3f]

/-- The direction of a character. -/
def direction (n : Nat) : Direction :=
  if rightToLeft.has n then .right
  else if arabicDigits.has n then .arabicDigit
  else if europeanDigits.has n then .europeanDigit
  else if neutralCharacters.has n then .neutral
  else if (category "Mn").has n || (category "Me").has n then
    if directedMarks.contains n then .left else .mark
  else if n = 0x1171e then .mark
  else .left

/-- Whether a part of a domain needs a look at the directions in all parts. -/
def isRightToLeft (label : List Nat) : Bool :=
  label.any fun n => [Direction.right, .arabicDigit].contains (direction n)

/-- Whether the directions in a part of a domain go together. -/
def directionsFit (label : List Nat) : Bool :=
  let directions := label.map direction
  let last := (directions.reverse.dropWhile (· = .mark)).head?
  match directions with
  | [] => true
  | .left :: _ =>
    directions.all (fun d => d ≠ .right && d ≠ .arabicDigit)
      && (last = some .left || last = some .europeanDigit)
  | .right :: _ =>
    directions.all (· ≠ .left)
      && !(directions.contains .arabicDigit && directions.contains .europeanDigit)
      && last.any fun d => d ≠ .neutral
  | _ => false

/-! ### Parts -/

/-- A part of a domain: the text it stands for, and how it is written in ASCII. -/
structure Label where
  text : List Char
  ascii : List Char

/-- Whether a text with characters beyond ASCII may be a part of a domain. -/
def isLabel (text : List Char) : Bool :=
  let codes := text.map Char.toNat
  let isMark (n : Nat) : Bool := (categories ["Mn", "Mc", "Me"]).has n
  !codes.head?.any isMark && joinersFit [] codes

/-- A part of a domain whose characters are replaced already; one that claims to be coded must be
so, and must stand for a text in its usual form. -/
def label? (cs : List Char) : Option Label :=
  match cs with
  | 'x' :: 'n' :: '-' :: '-' :: code => do
    let text ← Punycode.decode? code
    -- a code must be needed, and be the one that the text is written with
    if text.all (fun c => c.toNat < 128) || Punycode.encode text ≠ code then none
    if (← mappedText? text) ≠ text || text.any isForbidden || !isLabel text then none
    some ⟨text, cs⟩
  | _ =>
    if cs.all (fun c => c.toNat < 128) then some ⟨cs, cs⟩
    else if isLabel cs then some ⟨cs, ['x', 'n', '-', '-'] ++ Punycode.encode cs⟩
    else none

/-- A domain in ASCII. -/
def domain? (cs : List Char) : Option (List Char) := do
  let mapped ← mappedText? cs
  if mapped.any isForbidden then none
  let labels ← (pieces '.' mapped).mapM label?
  let codes := labels.map fun l => l.text.map Char.toNat
  if codes.any isRightToLeft && !codes.all directionsFit then none
  return joined '.' (labels.map (·.ascii))

end Playground.Link
