import Playground.Deflate.Format

/-!
# Finding copies

`Matcher.blocks` cuts bytes into pieces and the pieces into blocks.  A copy is looked for among
the earlier places with the same three-byte hash, the nearest first, and only so many of them.
A copy is put off by one byte as long as the next place has a longer one.
-/

namespace Playground.Deflate

/-! ### Chains of places with one hash -/

/-- The number of hashes. -/
def hashSize : Nat := 32768

/-- The hash of three bytes. -/
def hash3 (a b c : UInt8) : Nat :=
  ((a.toNat * 1024) ^^^ (b.toNat * 32) ^^^ c.toNat) % hashSize

/-- For every place the place before it with the same hash; zero where there is none. -/
def chains (bytes : ByteArray) : Array Nat :=
  let step (state : Array Nat × Array Nat) (i : Nat) : Array Nat × Array Nat :=
    let (heads, chain) := state
    let h := hash3 (bytes.get! i) (bytes.get! (i + 1)) (bytes.get! (i + 2))
    let earlier := heads.getD h 0
    (heads.setIfInBounds h i, chain.push earlier)
  ((List.range (bytes.size - 2)).foldl step (Array.replicate hashSize 0, #[])).2

/-! ### The longest copy at a place -/

/-- A copy that was found; the length without a copy is less than the shortest one. -/
structure Found where
  length : Nat
  distance : Nat
deriving DecidableEq, Inhabited

/-- How many bytes agree from two places on, up to a limit. -/
def agreeing (bytes : ByteArray) (a b : Nat) : Nat → Nat
  | 0 => 0
  | n + 1 =>
    if bytes.get! a == bytes.get! b then agreeing bytes (a + 1) (b + 1) n + 1 else 0

/-- Two bytes agree from two places on. -/
def agreeTwo (bytes : ByteArray) (a b : Nat) : Bool :=
  bytes.get! a == bytes.get! b && bytes.get! (a + 1) == bytes.get! (b + 1)

/-- Follows a chain.  Places are tried in rounds of three; a place whose bytes agree where the
copy would become longer ends its round.  Chains end at multiples of 65536. -/
def follow (bytes : ByteArray) (chain : Array Nat) (place reach limit : Nat) :
    Nat → Nat → Nat → Nat → Found → Found
  | 0, _, _, _, best => best
  | fuel + 1, i, rounds, tries, best =>
    if tries = 0 && rounds ≤ 1 then best
    else
      let (rounds, tries) := if tries = 0 then (rounds - 1, 3) else (rounds, tries)
      let earlier := chain.getD i 0
      if earlier % 65536 = 0 || place - earlier > reach then best
      -- a longer copy has to agree where the best one ends
      else if agreeTwo bytes (earlier + best.length - 1) (place + best.length - 1) then
        let best :=
          if agreeTwo bytes earlier place then
            let length := agreeing bytes earlier place limit
            if length > best.length then ⟨length, place - earlier⟩ else best
          else best
        if best.length ≥ limit then best
        else follow bytes chain place reach limit fuel earlier rounds 0 best
      else follow bytes chain place reach limit fuel earlier rounds (tries - 1) best

/-- The longest copy at a place that is longer than a given length.  Fewer places are tried when
that length is good already. -/
def longest (bytes : ByteArray) (chain : Array Nat) (place reach limit : Nat) (least : Nat) :
    Found :=
  let best : Found := ⟨least, 0⟩
  if limit ≤ least then best
  else follow bytes chain place reach limit (place + 1) place (if least ≥ 32 then 65 else 257) 0
    best

/-! ### Blocks -/

/-- The pieces of a block, the bytes they stand for, and how far the search had come. -/
structure Block where
  pieces : Array Piece
  start : Nat
  size : Nat
  /-- the block's bytes are all still in the window, so that they may be stored as they are -/
  storable : Bool
deriving Inhabited

/-- The state of the search. -/
structure Matcher where
  place : Nat
  /-- how far a copy may look back -/
  reach : Nat
  /-- the copy that was put off, which started one byte before `place` -/
  held : Option (UInt8 × Found)
  pieces : Array Piece
  /-- where the block starts, and its size so far -/
  start : Nat
  size : Nat
  /-- the room that the pieces take: a byte for a literal, three for a copy, a bit for each -/
  room : Nat
  blocks : Array Block
deriving Inhabited

namespace Matcher

/-- Adds a piece to the block. -/
def add (m : Matcher) (p : Piece) : Matcher :=
  let pieces := m.pieces.push p
  let room := m.room + (match p with | .literal _ => 1 | .copy .. => 3)
    + (if pieces.size % 8 = 0 then 1 else 0)
  { m with pieces, room, size := m.size + p.size }

/-- Moves on. -/
def advance (m : Matcher) (n : Nat) : Matcher :=
  { m with place := m.place + n, reach := min windowSize (m.reach + n) }

/-- Ends the block. -/
def close (m : Matcher) : Matcher :=
  let block : Block :=
    ⟨m.pieces, m.start, m.size, m.place - m.start ≤ m.reach⟩
  { m with blocks := m.blocks.push block, pieces := #[], start := m.start + m.size, size := 0,
           room := 1 }

/-- The block takes much room, or does not get smaller. -/
def isFull (m : Matcher) : Bool :=
  m.room > 65536 - 8 || (m.size > 31 * 1024 && m.room * 115 / 128 ≥ m.size)

/-- One step of the search at the present place. -/
def step (bytes : ByteArray) (chain : Array Nat) (m : Matcher) : Matcher :=
  let ahead := min maxCopy (bytes.size - m.place)
  -- the window also holds the bytes ahead
  let m := { m with reach := min (windowSize - ahead) m.reach }
  let byte := bytes.get! m.place
  let found := longest bytes chain m.place m.reach ahead
    (match m.held with | some (_, f) => f.length | none => minCopy - 1)
  -- a short copy from far back is worth no more than literals; the front of the window is not
  -- copied from at all
  let useless := (found.length = minCopy && found.distance ≥ 8192)
    || m.place % windowSize = found.distance
  let found : Found := if useless then ⟨0, 0⟩ else found
  match m.held with
  | some (earlier, f) =>
    if found.length > f.length then
      let m := m.add (.literal earlier)
      -- a copy of this length is taken without a look at the next place
      if found.length ≥ 128 then
        ({ m with held := none }.add (.copy found.length found.distance)).advance found.length
      else { m with held := some (byte, found) }.advance 1
    -- the copy that was put off starts one byte back
    else ({ m with held := none }.add (.copy f.length f.distance)).advance (f.length - 1)
  | none =>
    if found.distance = 0 then (m.add (.literal byte)).advance 1
    else if found.length ≥ 128 then
      (m.add (.copy found.length found.distance)).advance found.length
    else { m with held := some (byte, found) }.advance 1

/-- Steps up to the end, and closes the last block. -/
def run (bytes : ByteArray) (chain : Array Nat) : Nat → Matcher → Matcher
  | 0, m => m.close
  | fuel + 1, m =>
    if m.place < bytes.size then
      let m := m.step bytes chain
      run bytes chain fuel (if m.isFull then m.close else m)
    else m.close

/-- The blocks of some bytes. -/
def ofBytes (bytes : ByteArray) : Array Block :=
  (run bytes (chains bytes) (bytes.size + 1) ⟨0, 0, none, #[], 0, 0, 1, #[]⟩).blocks

end Matcher

end Playground.Deflate
