import Playground.Unicode.CharSet

/-!
# Patterns

A `Node` describes a set of stretches of a text.  `Node.ends` follows all of them at once: from
the positions where a stretch may start to those where it may end.  `Node.occursIn` says whether a
text has such a stretch anywhere.

Repetitions need no more rounds than the text has characters, and one more: in a longer run some
round takes no character, and may be left out or done again.

A pattern is made ready for use as a network of states, which must not take more than `sizeLimit`
bytes.  Every state takes 32 bytes, and a branch of it some more.  Characters are read as bytes of
UTF-8, from behind: a set of characters is the union of sequences of ranges of bytes, and those
that start alike share their states.
-/

namespace Playground.Pattern

open Unicode (CharSet)

/-- A condition on a place in a text. -/
inductive Look where
  | start
  | stop
  | lineStart (anyBreak : Bool)
  | lineStop (anyBreak : Bool)
  | boundary (word : CharSet)
  | noBoundary (word : CharSet)
  | wordStart (word : CharSet)
  | wordStop (word : CharSet)
  | noWordBefore (word : CharSet)
  | noWordAfter (word : CharSet)
deriving Inhabited, Repr

/-- A pattern. -/
inductive Node where
  | empty
  | one (s : CharSet)
  | look (l : Look)
  | append (a b : Node)
  | either (a b : Node)
  /-- at least `low` times, and at most `high` times if there is a bound -/
  | many (a : Node) (low : Nat) (high : Option Nat)
deriving Inhabited, Repr

/-- Whether a character in a place, if there is one, is in a set. -/
def inSet (s : CharSet) (c : Option Char) : Bool :=
  match c with
  | some c => s.has c.toNat
  | none => false

/-- Whether a condition holds between two characters, which are missing at the ends. -/
def Look.holds (before after : Option Char) : Look → Bool
  | .start => before.isNone
  | .stop => after.isNone
  | .lineStart false => before.isNone || before = some '\n'
  | .lineStop false => after.isNone || after = some '\n'
  | .lineStart true =>
    before.isNone || before = some '\n' || (before = some '\r' && after ≠ some '\n')
  | .lineStop true =>
    after.isNone || after = some '\r' || (after = some '\n' && before ≠ some '\r')
  | .boundary w => inSet w before != inSet w after
  | .noBoundary w => inSet w before == inSet w after
  | .wordStart w => !inSet w before && inSet w after
  | .wordStop w => inSet w before && !inSet w after
  | .noWordBefore w => !inSet w before
  | .noWordAfter w => !inSet w after

namespace Node

/-- A step repeated. -/
def iterate {α : Type} (step : α → α) : Nat → α → α
  | 0, x => x
  | n + 1, x => iterate step n (step x)

/-- What is reached by any number of steps up to a bound. -/
def spread (step : List Nat → List Nat) : Nat → List Nat → List Nat
  | 0, reached => reached
  | n + 1, reached =>
    let more := (step reached).filter fun p => !reached.contains p
    if more.isEmpty then reached else spread step n (reached ++ more)

/-- Whether a pattern describes empty stretches only. -/
def isEmpty : Node → Bool
  | empty | look _ => true
  | one _ => false
  | append a b => a.isEmpty && b.isEmpty
  | either a b => a.isEmpty && b.isEmpty
  | many a _ high => a.isEmpty || high = some 0

/-- Whether a pattern describes an empty stretch, among others or alone. -/
def mayBeEmpty : Node → Bool
  | empty | look _ => true
  | one _ => false
  | append a b => a.mayBeEmpty && b.mayBeEmpty
  | either a b => a.mayBeEmpty || b.mayBeEmpty
  | many a low _ => low = 0 || a.mayBeEmpty

/-- Where the stretches that start at some positions end. -/
def ends (text : Array Char) : Node → List Nat → List Nat
  | empty, ps => ps
  | one s, ps => (ps.filter fun p => inSet s text[p]?).map (· + 1)
  | look l, ps => ps.filter fun p => l.holds (if p = 0 then none else text[p - 1]?) text[p]?
  | append a b, ps => b.ends text (a.ends text ps)
  | either a b, ps =>
    let left := a.ends text ps
    left ++ (b.ends text ps).filter fun p => !left.contains p
  | many a low high, ps =>
    let rounds := text.size + 1
    let first := iterate (a.ends text) (min low rounds) ps
    match high with
    | none => spread (a.ends text) rounds first
    | some high => spread (a.ends text) (min (high - low) rounds) first

/-- Whether a text has a stretch that a pattern describes. -/
def occursIn (node : Node) (text : String) : Bool :=
  let characters := text.toList.toArray
  !(node.ends characters (List.range (characters.size + 1))).isEmpty

end Node

/-! ### The size of sets, as sequences of bytes -/

/-- The bytes of a code point in UTF-8. -/
def utf8 (n : Nat) : List Nat :=
  let tail (shift : Nat) : Nat := 128 + (n >>> shift) % 64
  if n < 0x80 then [n]
  else if n < 0x800 then [192 + n / 64, tail 0]
  else if n < 0x10000 then [224 + n / 4096, tail 6, tail 0]
  else [240 + n / 262144, tail 12, tail 6, tail 0]

/-- Where a range must be divided so that both parts are fewer sequences: the last code point of
the first part. -/
def cutPoint? (first last : Nat) : Option Nat :=
  match [0x7f, 0x7ff, 0xd7ff, 0xdfff, 0xffff].find? fun n => first ≤ n && n < last with
  | some n => some n
  | none =>
    if last < 128 then none
    else
      [64, 4096, 262144].findSome? fun block =>
        if first / block = last / block then none
        else if first % block != 0 then some (first / block * block + block - 1)
        else if last % block != block - 1 then some (last / block * block - 1)
        else none

/-- The sequences of ranges of bytes that a range of code points is made of.  Halves of pairs have
none.  The first argument bounds the number of divisions. -/
def byteSequences : Nat → Nat → Nat → List (List (Nat × Nat))
  | 0, _, _ => []
  | steps + 1, first, last =>
    match cutPoint? first last with
    | some n => byteSequences steps first n ++ byteSequences steps (n + 1) last
    | none => if 0xd800 ≤ first && last ≤ 0xdfff then [] else [(utf8 first).zip (utf8 last)]

/-- How far two sequences are alike. -/
def commonLength : List (Nat × Nat) → List (Nat × Nat) → Nat
  | a :: as, b :: bs => if a = b then commonLength as bs + 1 else 0
  | _, _ => 0

/-- The number of states for some sequences, given the one in front of them. -/
def stateCount : List (Nat × Nat) → List (List (Nat × Nat)) → Nat
  | _, [] => 0
  | before, s :: rest => s.length - commonLength before s + stateCount s rest

/-- The space that a set takes. -/
def setBytes (s : CharSet) : Nat :=
  match s.ranges with
  | [(first, last)] =>
    if last < 128 || first = last then 32 * (utf8 last).length else wide [(first, last)]
  | ranges => if ranges.all (·.2 < 128) then 32 + 8 * ranges.length else wide ranges
where
  /-- The space of a set with characters of more than a byte. -/
  wide (ranges : List (Nat × Nat)) : Nat :=
    let sequences := ranges.flatMap fun (first, last) => byteSequences 32 first last
    64 + 4 * sequences.length + 32 * stateCount [] sequences

/-! ### The size of patterns -/

namespace Node

/-- The space that a pattern takes, given the space of the pattern that is repeated. -/
def manyBytes (inner : Nat) (mayBeEmpty : Bool) (low : Nat) : Option Nat → Nat
  | none =>
    if low = 0 && mayBeEmpty then inner + 112
    else max low 1 * inner + 40
  | some high =>
    if low = 0 && high = 1 then inner + 72
    else if low = high then if low = 0 then 32 else low * inner
    else (if low = 0 then 32 else low * inner) + 32 + (high - low) * (inner + 40)

/-- The space that a pattern takes, in bytes.  An empty stretch is the same however often it is
repeated. -/
def bytes : Node → Nat
  | empty => 32
  | one s => setBytes s
  | look _ => 32
  | append a b => a.bytes + b.bytes
  | either a b => 68 + a.bytes + b.bytes
  | many a low high =>
    if a.isEmpty then manyBytes a.bytes true (min low 1) (high.map (min 1))
    else manyBytes a.bytes a.mayBeEmpty low high

end Node

/-- The most space that a pattern may take, in bytes. -/
def sizeLimit : Nat := 10485760

end Playground.Pattern
