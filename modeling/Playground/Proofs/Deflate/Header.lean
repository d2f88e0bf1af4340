import Playground.Proofs.Deflate.Runs

/-!
# What a header leaves out

How often symbols occur is tallied, and gives their code lengths.  Only the lengths up to the last
used one are sent: what `usedCount` leaves out are zeros, and a reader puts them back.  The lengths
of the codes for code lengths are sent in an order of their own, which goes through all of them.
-/

namespace Playground.Deflate

/-! ### Tallies -/

/-- A symbol is counted. -/
def tally (table : Array Nat) (s : Nat) : Array Nat := table.modify s (· + 1)

theorem size_tally (table : Array Nat) (s : Nat) : (tally table s).size = table.size :=
  Array.size_modify ..

theorem getD_tally {table : Array Nat} {s : Nat} (hs : s < table.size) (t : Nat) :
    (tally table s).getD t 0 = table.getD t 0 + if s = t then 1 else 0 := by
  rw [tally, Array.getD_eq_getD_getElem?, Array.getD_eq_getD_getElem?, Array.getElem?_modify]
  by_cases ht : s = t
  · subst ht
    rw [if_pos rfl, if_pos rfl, Array.getElem?_eq_getElem hs]
    rfl
  · rw [if_neg ht, if_neg ht, Nat.add_zero]

/-- A tally of symbols adds how often each of them occurs. -/
theorem tally_foldl {symbols : List Nat} {table : Array Nat}
    (hin : ∀ s ∈ symbols, s < table.size) :
    (symbols.foldl tally table).size = table.size ∧
      ∀ s, (symbols.foldl tally table).getD s 0 = table.getD s 0 + symbols.count s := by
  induction symbols generalizing table with
  | nil => exact ⟨rfl, fun _ => rfl⟩
  | cons t symbols ih =>
    have ht := hin t List.mem_cons_self
    obtain ⟨hsize, hcount⟩ := @ih (tally table t) fun s hs => by
      rw [size_tally]
      exact hin s (List.mem_cons_of_mem t hs)
    refine ⟨hsize.trans (size_tally table t), fun s => ?_⟩
    rw [List.foldl_cons, hcount, getD_tally ht, List.count_cons]
    simp only [beq_iff_eq]
    omega

/-- Nothing was counted yet. -/
theorem getD_replicate_zero (n s : Nat) : (Array.replicate n 0).getD s 0 = 0 := by
  rw [Array.getD_eq_getD_getElem?, Array.getElem?_replicate]
  split <;> rfl

/-- The symbol for literals and lengths of a piece. -/
def Piece.literalSymbol : Piece → Nat
  | literal byte => byte.toNat
  | copy length _ => (lengthSymbol length).1

/-- The symbols for distances of a piece. -/
def Piece.distanceSymbols : Piece → List Nat
  | literal _ => []
  | copy _ distance => [(distanceSymbol distance).1]

/-- The tallies of a block are those of the symbols of its pieces. -/
theorem frequencies_eq (ps : List Piece) :
    frequencies ps.toArray =
      ((ps.map Piece.literalSymbol).foldl tally
          ((Array.replicate 288 0).setIfInBounds endSymbol 1),
        (ps.flatMap Piece.distanceSymbols).foldl tally (Array.replicate 32 0)) := by
  rw [frequencies, List.foldl_toArray]
  generalize (Array.replicate 288 0).setIfInBounds endSymbol 1 = literals
  generalize Array.replicate 32 0 = distances
  induction ps generalizing literals distances with
  | nil => rfl
  | cons p ps ih =>
    rw [List.foldl_cons, List.map_cons, List.foldl_cons, List.flatMap_cons, List.foldl_append]
    cases p with
    | literal byte => exact ih ..
    | copy length distance => exact ih ..

/-! ### Zeros at the end -/

/-- A list goes on with zeros where all that is found is zero. -/
theorem take_append_zeros {lengths : List Nat} {n : Nat} (h : ∀ i, n ≤ i → lengths.getD i 0 = 0) :
    lengths.take n ++ List.replicate (lengths.length - n) 0 = lengths := by
  have hdrop : lengths.drop n = List.replicate (lengths.length - n) 0 := by
    rw [List.eq_replicate_iff]
    refine ⟨List.length_drop, fun x hx => ?_⟩
    obtain ⟨i, hi⟩ := List.getElem?_of_mem hx
    rw [List.getElem?_drop] at hi
    have hzero := h (n + i) (Nat.le_add_right n i)
    rwa [getD_of_getElem? hi] at hzero
  rw [← hdrop, List.take_append_drop]

/-- The lengths that are left out are zeros. -/
theorem usedCount_spec (lengths : List Nat) (least : Nat) :
    least ≤ usedCount lengths least ∧ usedCount lengths least ≤ max least lengths.length ∧
      ∀ i, usedCount lengths least ≤ i → lengths.getD i 0 = 0 := by
  have hlength : (lengths.reverse.dropWhile (· = 0)).length ≤ lengths.length := by
    exact Nat.le_trans (List.dropWhile_suffix _).length_le (Nat.le_of_eq List.length_reverse)
  have hsplit : lengths = (lengths.reverse.dropWhile (· = 0)).reverse ++
      (lengths.reverse.takeWhile (· = 0)).reverse := by
    rw [← List.reverse_append, List.takeWhile_append_dropWhile, List.reverse_reverse]
  unfold usedCount
  -- what lies behind was taken off the end, so it was all zeros
  refine ⟨Nat.le_max_left .., by omega, fun i hi => ?_⟩
  rw [List.getD_eq_getElem?_getD, hsplit, List.getElem?_append_right]
  · cases hfound : (lengths.reverse.takeWhile (· = 0)).reverse[
        i - (lengths.reverse.dropWhile (· = 0)).reverse.length]? with
    | none => rfl
    | some x =>
      have hmem := List.mem_of_getElem? hfound
      rw [List.mem_reverse] at hmem
      exact of_decide_eq_true (List.all_eq_true.1 List.all_takeWhile x hmem)
  · rw [List.length_reverse]
    omega

/-- Lengths of which only the first ones may be used are sent up to the last used one. -/
theorem usedCount_take {lengths : List Nat} {least most : Nat} (hleast : least ≤ most)
    (hmost : most ≤ lengths.length) (hzero : ∀ i, most ≤ i → lengths.getD i 0 = 0) :
    least ≤ usedCount (lengths.take most) least ∧ usedCount (lengths.take most) least ≤ most ∧
      lengths.take (usedCount (lengths.take most) least) ++
        List.replicate (lengths.length - usedCount (lengths.take most) least) 0 = lengths := by
  obtain ⟨hle, hge, hnone⟩ := usedCount_spec (lengths.take most) least
  rw [List.length_take] at hge
  refine ⟨hle, by omega, take_append_zeros fun i hi => ?_⟩
  by_cases hin : i < most
  · have hfound := hnone i hi
    rwa [List.getD_eq_getElem?_getD, List.getElem?_take, if_pos hin,
      ← List.getD_eq_getElem?_getD] at hfound
  · exact hzero i (Nat.le_of_not_lt hin)

/-! ### The lengths of the codes for code lengths -/

/-- Lengths that are put at their places. -/
theorem setIfInBounds_foldl (f : Nat → Nat) {order : List Nat} {table : Array Nat}
    (hin : ∀ i ∈ order, i < table.size) :
    (order.foldl (fun t i => t.setIfInBounds i (f i)) table).size = table.size ∧
      ∀ i, (order.foldl (fun t i => t.setIfInBounds i (f i)) table).getD i 0 =
        if i ∈ order then f i else table.getD i 0 := by
  -- an entry may be put at its place again: it is the same each time
  induction order generalizing table with
  | nil => exact ⟨rfl, fun i => (if_neg List.not_mem_nil).symm⟩
  | cons j order ih =>
    have hj := hin j List.mem_cons_self
    have hsize : (table.setIfInBounds j (f j)).size = table.size := Array.size_setIfInBounds
    obtain ⟨hsize', hgiven⟩ := @ih (table.setIfInBounds j (f j)) fun i hi => by
      rw [hsize]
      exact hin i (List.mem_cons_of_mem j hi)
    refine ⟨hsize'.trans hsize, fun i => ?_⟩
    rw [List.foldl_cons, hgiven, getD_setIfInBounds hj]
    by_cases hi : i ∈ order
    · rw [if_pos hi, if_pos (List.mem_cons_of_mem j hi)]
    · by_cases hij : j = i
      · rw [if_neg hi, if_pos hij, if_pos (hij ▸ List.mem_cons_self), hij]
      · rw [if_neg hi, if_neg hij, if_neg]
        rw [List.mem_cons, not_or]
        exact ⟨fun h => hij h.symm, hi⟩

/-- All lengths come back, when those that are left out are zeros. -/
theorem ordered_restores {lengths : Array Nat} (hsize : lengths.size = 19) {n : Nat}
    (hzero : ∀ k, n ≤ k → (lengthOrder.map (lengths.getD · 0)).getD k 0 = 0) :
    (lengthOrder.take n).foldl (fun t i => t.setIfInBounds i (lengths.getD i 0))
      (Array.replicate 19 0) = lengths := by
  have hall : ∀ i ∈ lengthOrder, i < 19 := by decide
  have hin : ∀ i ∈ lengthOrder.take n, i < (Array.replicate 19 0).size := by
    intro i hi
    rw [Array.size_replicate]
    exact hall i (List.mem_of_mem_take hi)
  obtain ⟨hsize', hgiven⟩ := setIfInBounds_foldl (lengths.getD · 0) hin
  rw [Array.size_replicate] at hsize'
  refine Array.ext (hsize'.trans hsize.symm) fun i hi hi' => ?_
  have hfound := hgiven i
  rw [Array.getD_eq_getD_getElem?, Array.getElem?_eq_getElem hi, Option.getD_some] at hfound
  have hlength : lengths.getD i 0 = lengths[i] := by
    rw [Array.getD_eq_getD_getElem?, Array.getElem?_eq_getElem hi', Option.getD_some]
  rw [hfound]
  by_cases hmem : i ∈ lengthOrder.take n
  · rw [if_pos hmem, hlength]
  · -- the order reaches every place, this one behind those that were sent
    have hreach : ∀ i < 19, i ∈ lengthOrder := by decide
    obtain ⟨k, hk⟩ := List.getElem?_of_mem (hreach i (hsize ▸ hi'))
    have hbehind : n ≤ k := by
      refine Nat.le_of_not_lt fun hlt => hmem ?_
      refine List.mem_of_getElem? (i := k) ?_
      rw [List.getElem?_take, if_pos hlt, hk]
    have hnone := hzero k hbehind
    rw [List.getD_eq_getElem?_getD, List.getElem?_map, hk, Option.map_some, Option.getD_some,
      hlength] at hnone
    rw [if_neg hmem, getD_replicate_zero, hnone]

/-- The lengths of the codes for code lengths, as they are sent. -/
def orderedBits (lengths : List Nat) : List Nat := lengths.flatMap (lowBits 3)

/-- They are written with three bits each. -/
theorem Bits.ordered_writes {w : Bits} (hw : w.Tidy) {lengths : List Nat}
    (hsmall : ∀ l ∈ lengths, l < 8) :
    w.Writes (orderedBits lengths) (lengths.foldl (fun w length => w.put length 3) w) :=
  Bits.foldl_writes (fun l hl _ hw => Bits.put_writes hw (hsmall l hl)) hw

/-- They are read back to their places. -/
theorem Inflater.orderedLengths_reads (f : Nat → Nat) {order : List Nat}
    (hsmall : ∀ i ∈ order, f i < 8) {table : Array Nat} {before : List Nat} {out : ByteArray} :
    Reads (orderedLengths order table) before out (orderedBits (order.map f))
      (order.foldl (fun t i => t.setIfInBounds i (f i)) table) out := by
  induction order generalizing table before with
  | nil => exact reads_pure
  | cons i order ih =>
    rw [List.map_cons, orderedBits, List.flatMap_cons, List.foldl_cons]
    exact (reads_bits (hsmall i List.mem_cons_self)).bind
      (ih fun j hj => hsmall j (List.mem_cons_of_mem i hj))

end Playground.Deflate
