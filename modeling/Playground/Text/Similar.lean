/-!
# Similar words

`likeness` compares two words by the characters that they share in nearly the same places, from 0 to
1.  `similar` picks the words that are like a given one.
-/

namespace Playground.Text

/-- Pairs the characters of a word with equal ones of another that stand at most `reach` places away
and are still free; the free places are marked.  The characters that were paired are returned, and
the places that are taken. -/
def pairUp (reach : Nat) (b : List Char) : Nat → List Char → List Bool → List Char × List Bool
  | _, [], taken => ([], taken)
  | i, c :: cs, taken =>
    let fits (j : Nat) (d : Char) (isTaken : Bool) : Bool :=
      i ≤ j + reach && j ≤ i + reach && d = c && !isTaken
    match ((b.zip taken).zipIdx).find? fun ((d, isTaken), j) => fits j d isTaken with
    | some (_, j) =>
      let (paired, taken) := pairUp reach b (i + 1) cs (taken.set j true)
      (c :: paired, taken)
    | none => pairUp reach b (i + 1) cs taken

/-- How alike two words are. -/
def likeness (a b : List Char) : Float :=
  if a.isEmpty && b.isEmpty then 1
  else
    let (fromA, taken) := pairUp (max a.length b.length / 2 - 1) b 0 a (b.map fun _ => false)
    let fromB := ((b.zip taken).filter (·.2)).map (·.1)
    let shared := fromA.length
    if shared = 0 then 0
    else
      let moved := ((fromA.zip fromB).filter fun (c, d) => c != d).length / 2
      (shared.toFloat / a.length.toFloat + shared.toFloat / b.length.toFloat
        + (shared - moved).toFloat / shared.toFloat) / 3

/-- Puts a word in its place among words with growing likeness. -/
def insertByLikeness (word : Float × String) : List (Float × String) → List (Float × String)
  | [] => [word]
  | w :: rest => if w.1 > word.1 then word :: w :: rest else w :: insertByLikeness word rest

/-- The words that are like a given one, the most alike last. -/
def similar (word : String) (words : List String) : List String :=
  let candidates := words.filterMap fun w =>
    let l := likeness word.toList w.toList
    if l > 0.7 then some (l, w) else none
  (candidates.foldl (fun sorted w => insertByLikeness w sorted) []).map (·.2)

end Playground.Text
