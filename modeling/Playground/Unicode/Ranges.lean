/-!
# Ranges of code points

A set of code points as the ranges it is made of, in order and apart from each other.  The tables
of characters are written as texts: numbers are hexadecimal, `41-5a` is a range, and `100-136/2`
takes every second code point of one.

* `Ranges.has` – membership, by bisection;
* `Ranges.ofText` – the ranges that a text writes;
* `NamedRanges.find?` – the ranges of a table under a name.

What characters are replaced by is a table in order, too.  It is written as a text: `c0>41+300`
replaces one character by two, `41-5a>61` the characters of a range by those of another one, and
`fb50-fb51=671` all of a range by the same.
-/

namespace Playground.Unicode

/-- Ranges of code points, each with its first and its last, in order and apart. -/
abbrev Ranges := Array (Nat × Nat)

namespace Ranges

/-- Searches the ranges from `low` up to, but not including, `high`.  The distance between the
bounds halves with every step. -/
def search (r : Ranges) (n : Nat) : Nat → Nat → Nat → Bool
  | 0, _, _ => false
  | steps + 1, low, high =>
    if high ≤ low then false
    else
      let middle := (low + high) / 2
      match r[middle]? with
      | none => false
      | some (first, last) =>
        if n < first then search r n steps low middle
        else if last < n then search r n steps (middle + 1) high
        else true

/-- Whether a code point is in one of the ranges. -/
def has (r : Ranges) (n : Nat) : Bool := r.search n (r.size + 1) 0 r.size

/-! ### Ranges as texts -/

/-- The value of a hexadecimal digit in small letters. -/
def digit (c : Char) : Nat :=
  if c.isDigit then c.toNat - '0'.toNat else c.toNat - 'a'.toNat + 10

/-- The number that hexadecimal digits write. -/
def number (s : String) : Nat := s.toList.foldl (fun n c => 16 * n + digit c) 0

/-- The ranges of an entry: one number, two of them, or two with a step. -/
def ofEntry (entry : String) : List (Nat × Nat) :=
  match entry.splitOn "/" with
  | [bounds, _] =>
    match bounds.splitOn "-" with
    | [first, last] =>
      let first := number first
      (List.range ((number last - first) / 2 + 1)).map fun i => (first + 2 * i, first + 2 * i)
    | _ => []
  | _ =>
    match entry.splitOn "-" with
    | [first, last] => [(number first, number last)]
    | _ => [(number entry, number entry)]

/-- The ranges that a text writes, line by line. -/
def ofText (lines : List String) : Ranges :=
  (lines.flatMap fun l => (l.splitOn " ").flatMap ofEntry).toArray

end Ranges

/-- Ranges with the names they go by. -/
structure NamedRanges where
  names : List String
  ranges : List String
deriving Inhabited

/-- The ranges of a table that have a name, given how names are compared. -/
def NamedRanges.find? (table : List NamedRanges) (same : String → Bool) : Option NamedRanges :=
  table.find? fun e => e.names.any same

/-! ### Replacements -/

/-- What the characters of a range are replaced by: if the range `moves`, the image of the first one
and those behind it, and otherwise the same for all. -/
structure Replacement where
  first : Nat
  last : Nat
  image : List Nat
  moves : Bool
deriving Inhabited, Repr

/-- What a character of the range is replaced by. -/
def Replacement.at (r : Replacement) (n : Nat) : List Nat :=
  if r.moves then r.image.map (· + (n - r.first)) else r.image

/-- Replacements, in order and apart. -/
abbrev Replacements := Array Replacement

namespace Replacements

/-- Searches the replacements from `low` up to, but not including, `high`. -/
def search (rs : Replacements) (n : Nat) : Nat → Nat → Nat → Option (List Nat)
  | 0, _, _ => none
  | steps + 1, low, high =>
    if high ≤ low then none
    else
      let middle := (low + high) / 2
      match rs[middle]? with
      | none => none
      | some r =>
        if n < r.first then search rs n steps low middle
        else if r.last < n then search rs n steps (middle + 1) high
        else some (r.at n)

/-- What a code point is replaced by, if it is. -/
def find? (rs : Replacements) (n : Nat) : Option (List Nat) := rs.search n (rs.size + 1) 0 rs.size

/-- The replacement that an entry writes, given the sign between its sides. -/
def ofSides (source image : String) (moves : Bool) : Replacement :=
  let image := (image.splitOn "+").map Ranges.number
  match source.splitOn "-" with
  | [first, last] => ⟨Ranges.number first, Ranges.number last, image, moves⟩
  | _ => ⟨Ranges.number source, Ranges.number source, image, false⟩

/-- The replacements of an entry. -/
def ofEntry (entry : String) : List Replacement :=
  match entry.splitOn ">", entry.splitOn "=" with
  | [source, image], _ => [ofSides source image true]
  | _, [source, image] => [ofSides source image false]
  | _, _ => []

/-- The replacements that a text writes, line by line. -/
def ofText (lines : List String) : Replacements :=
  (lines.flatMap fun l => (l.splitOn " ").flatMap ofEntry).toArray

end Replacements

end Playground.Unicode
