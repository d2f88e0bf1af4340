import Playground.Deflate.Format

/-!
# Reading compressed data

`inflate` reads blocks up to the last one.  Copies may look back before the first byte, where
they find zeros.  It hands on all it read, and says how the reading ended.
-/

namespace Playground.Deflate

/-- How reading ends. -/
inductive Ending where
  | complete
  /-- the data stops in the middle -/
  | incomplete
  /-- the data is none that a compressor writes -/
  | corrupt
deriving DecidableEq, Inhabited

/-- What was read so far: a number of bits, and the bytes they stand for. -/
structure Inflated where
  position : Nat
  output : ByteArray

/-- The reader: it sees the data and may stop. -/
abbrev Inflater := ReaderT ByteArray (EStateM Ending Inflated)

namespace Inflater

/-! ### Bits -/

/-- The next bit. -/
def bit : Inflater Nat := do
  let s ← get
  match (← read)[s.position / 8]? with
  | none => throw .incomplete
  | some byte =>
    set { s with position := s.position + 1 }
    return (byte.toNat >>> (s.position % 8)) % 2

/-- A number of so many bits, the lowest first. -/
def bits : Nat → Inflater Nat
  | 0 => return 0
  | n + 1 => do
    let low ← bit
    return low + 2 * (← bits n)

/-- Skips to the next whole byte. -/
def align : Inflater Unit :=
  modify fun s => { s with position := (s.position + 7) / 8 * 8 }

/-- A bound on the number of bits left. -/
def left : Inflater Nat := do return 8 * (← read).size + 1 - (← get).position

/-! ### Codes -/

/-- The codes of a table: how many there are of each length from 1 on, and the symbols in the
order of their codes. -/
structure Table where
  counts : List Nat
  symbols : Array Nat

/-- The codes of symbols with the given lengths. -/
def Table.ofLengths (lengths : List Nat) : Table :=
  let ofLength (n : Nat) : List Nat :=
    (lengths.zipIdx.filter (·.1 = n)).map (·.2)
  let groups := (List.range 15).map fun i => ofLength (i + 1)
  ⟨groups.map List.length, groups.flatten.toArray⟩

/-- The part of the code space, in units of the longest codes, that is taken. -/
def Table.space (t : Table) : Nat := t.counts.foldl (fun space n => space * 2 + n) 0

/-- The codes fill the code space exactly. -/
def Table.isFull (t : Table) : Bool := t.space = 1 <<< 15

/-- The codes of literals or distances may leave code space over only if there are none, or one
of a single bit. -/
def Table.isUsable (t : Table) : Bool :=
  t.isFull || t.symbols.size = 0 || (t.symbols.size = 1 && t.counts.head? = some 1)

/-- Reads a symbol bit by bit: `code` counts from the first code of the present length, and
`index` codes are shorter. -/
def symbolFrom (symbols : Array Nat) : List Nat → Nat → Nat → Inflater Nat
  | [], _, _ => throw .corrupt
  | count :: counts, code, index => do
    let code := code * 2 + (← bit)
    if code < count then return symbols.getD (index + code) 0
    else symbolFrom symbols counts (code - count) (index + count)

/-- The code of a symbol that has the table for itself: a zero. -/
def loneSymbol (s : Nat) : Inflater Nat := do
  if (← bit) = 1 then throw .corrupt
  return s

/-- The next symbol.  Where codes leave code space over, the first bit of none of them shows
that. -/
def symbol (t : Table) : Inflater Nat := do
  if t.isFull then symbolFrom t.symbols t.counts 0 0
  else
    match t.symbols[0]? with
    | some s => loneSymbol s
    | none => do
      let _ ← bit
      throw .corrupt

/-! ### Blocks -/

/-- Copies bytes from so far back. -/
def copyBack (distance : Nat) : Nat → ByteArray → ByteArray
  | 0, output => output
  | n + 1, output =>
    let byte := if distance ≤ output.size then output.get! (output.size - distance) else 0
    -- a copy longer than its distance goes on with bytes that it has just written
    copyBack distance n (output.push byte)

/-- Appends to the output. -/
def emit (f : ByteArray → ByteArray) : Inflater Unit :=
  modify fun s => { s with output := f s.output }

/-- Pieces up to the end of the block. -/
def pieces (literals distances : Table) : Nat → Inflater Unit
  | 0 => throw .incomplete
  | fuel + 1 => do
    let s ← symbol literals
    if s < endSymbol then
      emit (·.push (UInt8.ofNat s))
      pieces literals distances fuel
    else if s = endSymbol then return ()
    else
      match lengthBases[s - 257]? with
      | none => throw .corrupt
      | some base =>
        let length := base + (← bits (lengthExtras.getD (s - 257) 0))
        let s ← symbol distances
        match distanceBases[s]? with
        | none => throw .corrupt
        | some base =>
          let distance := base + (← bits (distanceExtras.getD s 0))
          emit (copyBack distance length)
          pieces literals distances fuel

/-- So many bytes as they are. -/
def rawBytes : Nat → Inflater Unit
  | 0 => return ()
  | n + 1 => do
    let byte ← bits 8
    emit (·.push (UInt8.ofNat byte))
    rawBytes n

/-- A block of bytes as they are: their number comes twice. -/
def storedBlock : Inflater Unit := do
  align
  let size ← bits 16
  let check ← bits 16
  if size + check ≠ 65535 then throw .corrupt
  rawBytes size

/-- Code lengths, of which there must be exactly so many. -/
def codeLengths (t : Table) (total : Nat) : Nat → Array Nat → Inflater (Array Nat)
  | 0, _ => throw .incomplete
  | fuel + 1, acc => do
    if acc.size = total then return acc
    else if acc.size > total then throw .corrupt
    else
      let s ← symbol t
      if s < 16 then codeLengths t total fuel (acc.push s)
      else if s = 16 then
        -- the first length has none before it to repeat
        match acc.back? with
        | none => throw .corrupt
        | some length =>
          let n := 3 + (← bits 2)
          codeLengths t total fuel (acc ++ Array.replicate n length)
      else
        let n ← if s = 17 then (3 + ·) <$> bits 3 else (11 + ·) <$> bits 7
        codeLengths t total fuel (acc ++ Array.replicate n 0)

/-- The lengths of the codes for code lengths. -/
def orderedLengths : List Nat → Array Nat → Inflater (Array Nat)
  | [], acc => return acc
  | i :: order, acc => do
    let length ← bits 3
    orderedLengths order (acc.setIfInBounds i length)

/-- A block with codes of its own. -/
def dynamicBlock : Inflater Unit := do
  let literalCount := 257 + (← bits 5)
  let distanceCount := 1 + (← bits 5)
  let orderedCount := 4 + (← bits 4)
  if literalCount > 286 || distanceCount > 30 then throw .corrupt
  let ordered ← orderedLengths (lengthOrder.take orderedCount) (Array.replicate 19 0)
  let t := Table.ofLengths ordered.toList
  -- a lone code is accepted for literals and for distances, but not here
  if !t.isFull then throw .corrupt
  let lengths ← codeLengths t (literalCount + distanceCount) ((← left) + 1) #[]
  let literals := Table.ofLengths (lengths.toList.take literalCount)
  let distances := Table.ofLengths (lengths.toList.drop literalCount)
  if !literals.isUsable || !distances.isUsable then throw .corrupt
  pieces literals distances ((← left) + 1)

/-- Blocks up to the last one. -/
def blocks : Nat → Inflater Unit
  | 0 => throw .incomplete
  | fuel + 1 => do
    let isLast ← bit
    match ← bits 2 with
    | 0 => storedBlock
    | 1 =>
      pieces (Table.ofLengths fixedLengths.toList) (Table.ofLengths fixedDistances.toList)
        ((← left) + 1)
    | 2 => dynamicBlock
    | _ => throw .corrupt
    if isLast = 1 then return () else blocks fuel

end Inflater

/-- The bytes that compressed data stands for, and how it ends. -/
def inflate (data : ByteArray) : ByteArray × Ending :=
  -- every block takes a bit at least, so the data ends before the fuel does
  match Inflater.blocks (8 * data.size + 1) data ⟨0, .empty⟩ with
  | .ok _ s => (s.output, .complete)
  | .error ending s => (s.output, ending)

/-- Output is handed on in whole windows; one in which the data turns out corrupt is kept
back. -/
def handedOn (output : ByteArray) (ending : Ending) : Nat :=
  if ending = .corrupt then output.size / windowSize * windowSize else output.size

end Playground.Deflate
