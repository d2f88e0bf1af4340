import Playground.Deflate.Matcher

/-!
# Compressing

`deflate` writes the blocks of some bytes: with fixed codes when they are short, with codes of
their own otherwise, and as they are when coding does not make them smaller.

`codeLengths` finds for every symbol the length of its code from how often it occurs, none
longer than a limit; `canonicalCodes` numbers the codes of given lengths in canonical order.
-/

namespace Playground.Deflate

/-! ### Lengths from counts -/

/-- A tree over leaves in a row: the depths at which its leaves stand, and its weight. -/
structure Tree where
  weight : Nat
  depths : List Nat
deriving Inhabited

/-- Two trees under one root. -/
def Tree.join (a b : Tree) : Tree :=
  ⟨a.weight + b.weight, (a.depths ++ b.depths).map (· + 1)⟩

/-- The lighter of the first leaf and the first joined tree is taken; a leaf goes first when
they weigh the same. -/
def takeLightest : List Nat → List Tree → Option (Tree × List Nat × List Tree)
  | [], [] => none
  | leaf :: leaves, [] => some (⟨leaf, [0]⟩, leaves, [])
  | [], tree :: trees => some (tree, [], trees)
  | leaf :: leaves, tree :: trees =>
    if tree.weight < leaf then some (tree, leaf :: leaves, trees)
    else some (⟨leaf, [0]⟩, leaves, tree :: trees)

/-- Joins the two lightest trees until one is left.  Leaves stand in rising order of weight, and
so do the joined trees. -/
def joinAll : Nat → List Nat → List Tree → List Nat
  | 0, _, _ => []
  | n + 1, leaves, trees =>
    match takeLightest leaves trees with
    | none => []
    | some (a, leaves, trees) =>
      match takeLightest leaves trees with
      | none => a.depths
      | some (b, leaves, trees) => joinAll n leaves (trees ++ [a.join b])

/-- How many codes there are of each length from 1 up to the limit, for weights in rising
order.  A single symbol has a code of length 1. -/
def lengthCounts (weights : List Nat) (limit : Nat) : List Nat :=
  match weights with
  | [] => List.replicate limit 0
  | [_] => 1 :: List.replicate (limit - 1) 0
  | _ =>
    -- leaves below the limit count among the longest codes; `fit` makes room for them
    let depths := (joinAll weights.length weights []).map (min limit)
    (List.range limit).map fun i => depths.count (i + 1)

/-- The share of the code space, in units of the longest codes, that codes of the given numbers
take. -/
def space : List Nat → Nat
  | [] => 0
  | n :: counts => (n <<< counts.length) + space counts

/-- Makes the last code that is shorter than the limit one longer, beside a code taken from the
longest. -/
def lengthen (counts : List Nat) : List Nat :=
  let rec go : List Nat → Option (List Nat)
    | [] => none
    | [_] => none
    | n :: m :: rest =>
      match go (m :: rest) with
      | some changed => some (n :: changed)
      -- in place of one code there are two that are one longer: itself, and one of the longest
      | none => if n = 0 then none else some ((n - 1) :: (m + 2) :: rest)
  match counts.reverse with
  | [] => []
  | last :: rest =>
    let shortened := ((last - 1) :: rest).reverse
    (go shortened).getD shortened

/-- Lengthens codes until they fit into the code space. -/
def fit (counts : List Nat) : List Nat :=
  (List.range (space counts - (1 <<< counts.length))).foldl (fun counts _ => lengthen counts) counts

/-- The code lengths of symbols `0`, `1`, … that occur as often as given: the frequent ones have
the short codes, and among equals the later symbol. -/
def codeLengths (frequencies : Array Nat) (limit : Nat) : Array Nat :=
  let used := (frequencies.toList.zipIdx).filter (·.1 ≠ 0)
  let rising := used.mergeSort (fun a b => a.1 ≤ b.1)
  let counts := lengthCounts (rising.map (·.1)) limit
  let counts := if rising.length ≤ 1 then counts else fit counts
  let lengths := (counts.zipIdx.map fun (n, i) => List.replicate n (i + 1)).flatten
  -- the most frequent symbol takes the shortest length
  (rising.reverse.zip lengths).foldl (fun table (symbol, length) =>
    table.setIfInBounds symbol.2 length) (Array.replicate frequencies.size 0)

/-! ### Canonical codes -/

/-- The first code of each length `0`, `1`, …: a length goes on where the shorter ones ended. -/
def firstCodes (lengths : Array Nat) (limit : Nat) : Array Nat :=
  (List.range limit).foldl (fun (firsts : Array Nat) i =>
    let used := if i = 0 then 0 else lengths.toList.count i
    firsts.push ((firsts.getD i 0 + used) * 2)) #[0]

/-- A number of so many bits, read backwards. -/
def reversed : Nat → Nat → Nat
  | 0, _ => 0
  | n + 1, code => ((code % 2) <<< n) + reversed n (code / 2)

/-- The codes of symbols of the given lengths, in the order in which their bits are sent. -/
def canonicalCodes (lengths : Array Nat) (limit : Nat) : Array Nat :=
  let step (state : Array Nat × Array Nat) (length : Nat) : Array Nat × Array Nat :=
    if length = 0 then (state.1.push 0, state.2)
    else
      let code := state.2.getD length 0
      (state.1.push (reversed length code), state.2.setIfInBounds length (code + 1))
  (lengths.foldl step (#[], firstCodes lengths limit)).1

/-! ### Bits -/

/-- Whole bytes, and the bits of the next one. -/
structure Bits where
  bytes : ByteArray
  buffer : Nat
  count : Nat

namespace Bits

/-- No bits. -/
def empty : Bits := ⟨.empty, 0, 0⟩

/-- Moves whole bytes out of the buffer. -/
def settle : Nat → ByteArray → Nat → Nat → Bits
  | 0, bytes, buffer, count => ⟨bytes, buffer, count⟩
  | fuel + 1, bytes, buffer, count =>
    if count < 8 then ⟨bytes, buffer, count⟩
    else settle fuel (bytes.push (UInt8.ofNat buffer)) (buffer / 256) (count - 8)

/-- Appends a number of so many bits, the lowest first. -/
def put (w : Bits) (value width : Nat) : Bits :=
  settle (width / 8 + 1) w.bytes (w.buffer + (value <<< w.count)) (w.count + width)

/-- Fills the last byte with zeros. -/
def pad (w : Bits) : Bits :=
  if w.count = 0 then w else ⟨w.bytes.push (UInt8.ofNat w.buffer), 0, 0⟩

end Bits

/-! ### Pieces -/

/-- The codes of a block. -/
structure Coding where
  lengths : Array Nat
  codes : Array Nat

/-- The codes of the given lengths. -/
def Coding.ofLengths (lengths : Array Nat) (limit : Nat) : Coding :=
  ⟨lengths, canonicalCodes lengths limit⟩

/-- Appends a symbol. -/
def Bits.symbol (w : Bits) (coding : Coding) (s : Nat) : Bits :=
  w.put (coding.codes.getD s 0) (coding.lengths.getD s 0)

/-- Appends a piece. -/
def Bits.piece (w : Bits) (literals distances : Coding) : Piece → Bits
  | .literal byte => w.symbol literals byte.toNat
  | .copy length distance =>
    let (s, width, value) := lengthSymbol length
    let w := (w.symbol literals s).put value width
    let (s, width, value) := distanceSymbol distance
    (w.symbol distances s).put value width

/-- Appends pieces and the end of the block. -/
def Bits.pieces (w : Bits) (literals distances : Coding) (pieces : Array Piece) : Bits :=
  (pieces.foldl (fun w p => w.piece literals distances p) w).symbol literals endSymbol

/-! ### Blocks with codes of their own -/

/-- How often each literal and length symbol occurs, and each distance symbol. -/
def frequencies (pieces : Array Piece) : Array Nat × Array Nat :=
  let more (table : Array Nat) (s : Nat) : Array Nat := table.modify s (· + 1)
  let step (tables : Array Nat × Array Nat) (p : Piece) : Array Nat × Array Nat :=
    match p with
    | .literal byte => (more tables.1 byte.toNat, tables.2)
    | .copy length distance =>
      (more tables.1 (lengthSymbol length).1, more tables.2 (distanceSymbol distance).1)
  -- the end symbol stands once behind the pieces
  pieces.foldl step ((Array.replicate 288 0).setIfInBounds endSymbol 1, Array.replicate 32 0)

/-- A symbol for code lengths with its extra bits: the width and the value. -/
structure LengthSymbol where
  symbol : Nat
  width : Nat
  value : Nat
deriving Inhabited

/-- So many zeros in a row. -/
def zeroRun (n : Nat) : List LengthSymbol :=
  if n < 3 then List.replicate n ⟨0, 0, 0⟩
  else if n ≤ 10 then [⟨17, 3, n - 3⟩]
  else [⟨18, 7, n - 11⟩]

/-- A length again, so many times. -/
def repeatRun (length n : Nat) : List LengthSymbol :=
  if n < 3 then List.replicate n ⟨length, 0, 0⟩ else [⟨16, 2, n - 3⟩]

/-- The symbols of code lengths: runs of zeros and of one length are cut at 138 and at 6. -/
def lengthSymbols : List Nat → Option Nat → Nat → Nat → List LengthSymbol
  | [], before, repeats, zeros =>
    if repeats ≠ 0 then repeatRun (before.getD 0) repeats else zeroRun zeros
  | 0 :: rest, before, repeats, zeros =>
    repeatRun (before.getD 0) repeats ++
      if zeros + 1 = 138 then zeroRun 138 ++ lengthSymbols rest (some 0) 0 0
      else lengthSymbols rest (some 0) 0 (zeros + 1)
  | length :: rest, before, repeats, zeros =>
    zeroRun zeros ++
      if before = some length then
        if repeats + 1 = 6 then repeatRun length 6 ++ lengthSymbols rest (some length) 0 0
        else lengthSymbols rest (some length) (repeats + 1) 0
      else repeatRun (before.getD 0) repeats ++
        ⟨length, 0, 0⟩ :: lengthSymbols rest (some length) 0 0

/-- How many lengths are left without the zeros at the end, but not fewer than given. -/
def usedCount (lengths : List Nat) (least : Nat) : Nat :=
  max least (lengths.reverse.dropWhile (· = 0)).length

/-- Appends a block with codes of its own. -/
def Bits.dynamicBlock (w : Bits) (pieces : Array Piece) : Bits :=
  let (literalCounts, distanceCounts) := frequencies pieces
  let literals := codeLengths literalCounts 15
  let distances := codeLengths distanceCounts 15
  let literalCount := usedCount (literals.toList.take 286) 257
  let distanceCount := usedCount (distances.toList.take 30) 1
  -- both tables make one list, so that a run may go on from the first into the second
  let symbols := lengthSymbols
    (literals.toList.take literalCount ++ distances.toList.take distanceCount) none 0 0
  let counts := symbols.foldl (fun (table : Array Nat) s => table.modify s.symbol (· + 1))
    (Array.replicate 19 0)
  let coding := Coding.ofLengths (codeLengths counts 7) 7
  let ordered := lengthOrder.map (coding.lengths.getD · 0)
  let orderedCount := usedCount ordered 4
  -- the numbers are told without the least that each of them can be
  let w := w.put 2 2 |>.put (literalCount - 257) 5 |>.put (distanceCount - 1) 5
    |>.put (orderedCount - 4) 4
  let w := (ordered.take orderedCount).foldl (fun w length => w.put length 3) w
  let w := symbols.foldl (fun w s => (w.symbol coding s.symbol).put s.value s.width) w
  w.pieces (Coding.ofLengths literals 15) (Coding.ofLengths distances 15) pieces

/-! ### Blocks -/

/-- Appends a block with fixed codes. -/
def Bits.fixedBlock (w : Bits) (pieces : Array Piece) : Bits :=
  (w.put 1 2).pieces (Coding.ofLengths fixedLengths 15) (Coding.ofLengths fixedDistances 15)
    pieces

/-- Appends a block of bytes as they are. -/
def Bits.storedBlock (w : Bits) (bytes : ByteArray) : Bits :=
  let w := (w.put 0 2).pad
  -- the size, and then the same bits turned over
  let w := w.put (bytes.size % 65536) 16 |>.put (65535 - bytes.size % 65536) 16
  { w with bytes := w.bytes ++ bytes }

/-- Appends a block. -/
def Bits.block (w : Bits) (bytes : ByteArray) (b : Block) (isLast : Bool) : Bits :=
  let w := w.put isLast.toNat 1
  let coded := if b.size < 48 then w.fixedBlock b.pieces else w.dynamicBlock b.pieces
  -- coding did not help, and the bytes have not left the window yet
  if b.size > 32 && coded.bytes.size - w.bytes.size + 1 ≥ b.size && b.storable then
    w.storedBlock (bytes.extract b.start (b.start + b.size))
  else coded

/-- Compressed bytes. -/
def deflate (bytes : ByteArray) : ByteArray :=
  let blocks := Matcher.ofBytes bytes
  let step (state : Bits × Nat) (b : Block) : Bits × Nat :=
    (state.1.block bytes b (state.2 + 1 = blocks.size), state.2 + 1)
  (blocks.foldl step (Bits.empty, 0)).1.pad.bytes

end Playground.Deflate
