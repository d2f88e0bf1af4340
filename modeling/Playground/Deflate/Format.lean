/-!
# The symbols of compressed data

A compressed block is made of literal bytes and of copies: so many bytes again, from so far
back.  Lengths 3 to 258 and distances 1 to 32768 have a symbol each for a range of values, and
extra bits for the place in the range.
-/

namespace Playground.Deflate

/-- The size of the window in which copies may look back. -/
def windowSize : Nat := 32768

/-- The longest copy. -/
def maxCopy : Nat := 258

/-- The shortest copy. -/
def minCopy : Nat := 3

/-- The symbol that ends a block. -/
def endSymbol : Nat := 256

/-- The number of extra bits of length symbols, from symbol 257 on. -/
def lengthExtras : List Nat :=
  [0, 0, 0, 0, 0, 0, 0, 0, 1, 1, 1, 1, 2, 2, 2, 2, 3, 3, 3, 3, 4, 4, 4, 4, 5, 5, 5, 5, 0]

/-- The first length of each length symbol, from symbol 257 on. -/
def lengthBases : List Nat :=
  [3, 4, 5, 6, 7, 8, 9, 10, 11, 13, 15, 17, 19, 23, 27, 31, 35, 43, 51, 59, 67, 83, 99, 115,
    131, 163, 195, 227, 258]

/-- The number of extra bits of each distance symbol. -/
def distanceExtras : List Nat :=
  [0, 0, 0, 0, 1, 1, 2, 2, 3, 3, 4, 4, 5, 5, 6, 6, 7, 7, 8, 8, 9, 9, 10, 10, 11, 11, 12, 12,
    13, 13]

/-- The first distance of each distance symbol. -/
def distanceBases : List Nat :=
  [1, 2, 3, 4, 5, 7, 9, 13, 17, 25, 33, 49, 65, 97, 129, 193, 257, 385, 513, 769, 1025, 1537,
    2049, 3073, 4097, 6145, 8193, 12289, 16385, 24577]

/-- The place of the last base that is not above a value. -/
def placeIn (bases : List Nat) (value : Nat) : Nat := bases.countP (· ≤ value) - 1

/-- The order in which the lengths of the codes for code lengths are sent. -/
def lengthOrder : List Nat := [16, 17, 18, 0, 8, 7, 9, 6, 10, 5, 11, 4, 12, 3, 13, 2, 14, 1, 15]

/-- The code lengths of literals and lengths in a block with fixed codes. -/
def fixedLengths : Array Nat :=
  (List.replicate 144 8 ++ List.replicate 112 9 ++ List.replicate 24 7
    ++ List.replicate 8 8).toArray

/-- The code lengths of distances in a block with fixed codes. -/
def fixedDistances : Array Nat := Array.replicate 32 5

/-- A part of a compressed block. -/
inductive Piece where
  | literal (byte : UInt8)
  | copy (length distance : Nat)
deriving DecidableEq, Inhabited

/-- The number of bytes a piece stands for. -/
def Piece.size : Piece → Nat
  | literal _ => 1
  | copy length _ => length

/-- The symbol, the number of extra bits and their value for a length. -/
def lengthSymbol (length : Nat) : Nat × Nat × Nat :=
  let i := if length = maxCopy then 28 else min 27 (placeIn lengthBases length)
  (257 + i, lengthExtras.getD i 0, length - lengthBases.getD i 0)

/-- The symbol, the number of extra bits and their value for a distance. -/
def distanceSymbol (distance : Nat) : Nat × Nat × Nat :=
  let i := placeIn distanceBases distance
  (i, distanceExtras.getD i 0, distance - distanceBases.getD i 0)

end Playground.Deflate
