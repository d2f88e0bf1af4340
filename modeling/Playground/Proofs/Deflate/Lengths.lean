import Playground.Proofs.Deflate.Fitting

/-!
# The lengths of codes

The numbers of codes of each length are handed out to the symbols that occur, each once.  So a
symbol has a code exactly if it occurs, no code is longer than the limit, and the codes of several
symbols fill the code space.
-/

namespace Playground.Deflate

/-! ### Numbers of codes -/

/-- A bound that goes up by one lets the codes of the new length in. -/
theorem countP_within_succ (lengths : List Nat) (n : Nat) :
    lengths.countP (fun d => decide (1 ≤ d ∧ d ≤ n + 1)) =
      lengths.countP (fun d => decide (1 ≤ d ∧ d ≤ n)) + lengths.count (n + 1) := by
  induction lengths with
  | nil => rfl
  | cons d lengths ih =>
    rw [List.countP_cons, List.countP_cons, List.count_cons, ih]
    by_cases hd : d = n + 1
    · rw [if_pos (beq_iff_eq.2 hd), if_pos (by rw [decide_eq_true_iff]; omega),
        if_neg (by rw [decide_eq_true_iff]; omega)]
      omega
    · have hiff : (1 ≤ d ∧ d ≤ n) ↔ (1 ≤ d ∧ d ≤ n + 1) := by omega
      rw [if_neg (fun heq => hd (beq_iff_eq.1 heq))]
      simp only [hiff]
      omega

/-- All codes are of one of the lengths. -/
theorem sum_countOf {lengths : List Nat} {n : Nat} (h : ∀ d ∈ lengths, 1 ≤ d ∧ d ≤ n) :
    ((List.range n).map (countOf lengths)).sum = lengths.length := by
  have hcount (n : Nat) : ((List.range n).map (countOf lengths)).sum =
      lengths.countP fun d => decide (1 ≤ d ∧ d ≤ n) := by
    induction n with
    | zero =>
      rw [eq_comm, List.countP_eq_zero.2]
      · rfl
      · intro d _
        rw [decide_eq_true_iff]
        omega
    | succ n ih =>
      rw [List.range_succ, List.map_append, List.sum_append_nat, ih, List.map_singleton,
        List.sum_singleton, countOf, countP_within_succ]
  rw [hcount, List.countP_eq_length]
  intro d hd
  exact decide_eq_true (h d hd)

/-- Joining the trees of some leaves, each of which is a tree of its own, gives one tree. -/
theorem joined_complete {weights : List Nat} (hsome : 1 ≤ weights.length) :
    Complete (joinAll weights.length weights []) ∧
      (joinAll weights.length weights []).length = weights.length := by
  have hnone : ∀ t ∈ ([] : List Tree), Complete t.depths := fun t ht => absurd ht List.not_mem_nil
  obtain ⟨hcomplete, hlength⟩ := joinAll_complete hnone (Nat.add_zero weights.length) hsome
  exact ⟨hcomplete, hlength.trans (Nat.add_zero _)⟩

/-- The depths of several leaves, cut down to the limit, are counted. -/
theorem lengthCounts_several {weights : List Nat} (hseveral : 2 ≤ weights.length) (limit : Nat) :
    lengthCounts weights limit =
      (List.range limit).map (countOf ((joinAll weights.length weights []).map (min limit))) := by
  match weights, hseveral with
  | _ :: _ :: _, _ => rfl

/-- Cutting down to a limit changes no code that is shorter. -/
theorem part_min (n : Nat) : part n ∘ min (n + 1) = part n := by
  funext d
  show (if min (n + 1) d ≤ n then 2 ^ (n - min (n + 1) d) else 0) = if d ≤ n then _ else _
  by_cases hd : d ≤ n
  · rw [Nat.min_eq_right (Nat.le_succ_of_le hd)]
  · rw [if_neg (by omega), if_neg hd]

/-- Cut down to the limit, the codes of several symbols can be made to fit. -/
theorem lengthCounts_fitting {weights : List Nat} (hseveral : 2 ≤ weights.length) {n : Nat}
    (hfew : weights.length ≤ 2 ^ (n + 1)) :
    ∃ init last, lengthCounts weights (n + 1) = init ++ [last] ∧ init.length = n ∧
      Fitting init last ∧ 2 ^ (n + 1) ≤ space (init ++ [last]) ∧
      (init ++ [last]).sum = weights.length := by
  obtain ⟨hcomplete, hlength⟩ := joined_complete (Nat.le_of_succ_le hseveral)
  have hpos := hcomplete.pos (by rwa [hlength])
  have hcounts := lengthCounts_several hseveral (n + 1)
  generalize joinAll weights.length weights [] = depths at hcomplete hlength hpos hcounts
  let cut := depths.map (min (n + 1))
  have hcut : ∀ d ∈ cut, 1 ≤ d ∧ d ≤ n + 1 := by
    intro d hd
    obtain ⟨e, he, rfl⟩ := List.mem_map.1 hd
    have hone := hpos e he
    omega
  have hposcut : ∀ d ∈ cut, 1 ≤ d := fun d hd => (hcut d hd).1
  -- the longest codes are counted last
  have hsplit : (List.range (n + 1)).map (countOf cut) =
      (List.range n).map (countOf cut) ++ [countOf cut n] := by
    rw [List.range_succ, List.map_append, List.map_singleton]
  have hsum : ((List.range n).map (countOf cut) ++ [countOf cut n]).sum = weights.length := by
    rw [← hsplit, sum_countOf hcut, List.length_map, hlength]
  have hlong : part (n + 1) ∘ min (n + 1) = fun d => 2 ^ (n + 1 - min (n + 1) d) :=
    funext fun d => if_pos (Nat.min_le_left ..)
  refine ⟨(List.range n).map (countOf cut), countOf cut n, hcounts.trans hsplit, ?_, ⟨?_, ?_⟩, ?_,
    hsum⟩
  · rw [List.length_map, List.length_range]
  · -- the shorter codes are those of the tree, and take no more than there is
    rw [space_eq_share, share_eq_sum hposcut, List.map_map, part_min, List.length_map,
      List.length_range, Nat.pow_succ]
    have hle := hcomplete.sum_part_le n
    omega
  · rwa [hsum, List.length_map, List.length_range]
  · -- cutting down only adds to what the codes take
    rw [← hsplit, space_eq_share, share_eq_sum hposcut, List.map_map, hlong]
    exact hcomplete.le_sum_min (n + 1)

/-- The lengths of codes of which there are so many of each length, the first of length `k + 1`. -/
def lengthsFrom (k : Nat) (counts : List Nat) : List Nat :=
  ((counts.zipIdx k).map fun (n, i) => List.replicate n (i + 1)).flatten

theorem lengthsFrom_cons (k n : Nat) (counts : List Nat) :
    lengthsFrom k (n :: counts) = List.replicate n (k + 1) ++ lengthsFrom (k + 1) counts := by
  rw [lengthsFrom, List.zipIdx_cons, List.map_cons, List.flatten_cons]
  rfl

theorem length_lengthsFrom (k : Nat) (counts : List Nat) :
    (lengthsFrom k counts).length = counts.sum := by
  induction counts generalizing k with
  | nil => rfl
  | cons n counts ih =>
    rw [lengthsFrom_cons, List.length_append, List.length_replicate, ih, List.sum_cons]

theorem mem_lengthsFrom {k l : Nat} {counts : List Nat} (h : l ∈ lengthsFrom k counts) :
    k + 1 ≤ l ∧ l ≤ k + counts.length := by
  induction counts generalizing k with
  | nil => cases h
  | cons n counts ih =>
    rw [lengthsFrom_cons, List.mem_append] at h
    rw [List.length_cons]
    rcases h with h | h
    · have hl := (List.mem_replicate.1 h).2
      omega
    · have hl := ih h
      omega

/-- There are so many codes of each length. -/
theorem count_lengthsFrom (k i : Nat) (counts : List Nat) :
    (lengthsFrom k counts).count (k + i + 1) = counts.getD i 0 := by
  induction counts generalizing k i with
  | nil => rfl
  | cons n counts ih =>
    rw [lengthsFrom_cons, List.count_append, List.count_replicate]
    cases i with
    | zero =>
      have hnone : (lengthsFrom (k + 1) counts).count (k + 0 + 1) = 0 := by
        rw [List.count_eq_zero]
        intro hmem
        have hl := mem_lengthsFrom hmem
        omega
      rw [if_pos (by simp), hnone]
      rfl
    | succ i =>
      have hplace : k + (i + 1) + 1 = k + 1 + i + 1 := by omega
      rw [if_neg (by simp), hplace, ih (k + 1) i, Nat.zero_add]
      rfl

/-! ### Handing out lengths -/

/-- Gives a symbol the length of its code. -/
def handOut (table : Array Nat) (p : (Nat × Nat) × Nat) : Array Nat :=
  table.setIfInBounds p.1.2 p.2

/-- Lengths that are handed out, each to a symbol that had none. -/
theorem handOut_foldl (ps : List ((Nat × Nat) × Nat)) (table : Array Nat)
    (hnodup : (ps.map (·.1.2)).Nodup) (hin : ∀ p ∈ ps, p.1.2 < table.size)
    (hnone : ∀ p ∈ ps, table.getD p.1.2 0 = 0) :
    (ps.foldl handOut table).size = table.size ∧
    (∀ p ∈ ps, (ps.foldl handOut table).getD p.1.2 0 = p.2) ∧
    (∀ s, s ∉ ps.map (·.1.2) → (ps.foldl handOut table).getD s 0 = table.getD s 0) ∧
    ∀ l ≠ 0, (ps.foldl handOut table).toList.count l =
      table.toList.count l + (ps.map (·.2)).count l := by
  -- the lengths that are handed out later go to other symbols, so each that is given stays
  induction ps generalizing table with
  | nil => exact ⟨rfl, fun p hp => absurd hp List.not_mem_nil, fun _ _ => rfl, fun _ _ => rfl⟩
  | cons p ps ih =>
    rw [List.map_cons, List.nodup_cons] at hnodup
    obtain ⟨hp, hrest⟩ := hnodup
    have hpin := hin p List.mem_cons_self
    have hpnone := hnone p List.mem_cons_self
    have hsize : (handOut table p).size = table.size := Array.size_setIfInBounds ..
    have hother (q) (hq : q ∈ ps) : p.1.2 ≠ q.1.2 := fun heq =>
      hp (heq ▸ List.mem_map_of_mem hq)
    obtain ⟨hsize', hgiven, hkept, hcount⟩ := ih (handOut table p) hrest
      (fun q hq => by rw [hsize]; exact hin q (List.mem_cons_of_mem _ hq))
      (fun q hq => by
        rw [handOut, getD_setIfInBounds hpin, if_neg (hother q hq)]
        exact hnone q (List.mem_cons_of_mem _ hq))
    rw [List.foldl_cons]
    refine ⟨hsize'.trans hsize, ?_, ?_, ?_⟩
    · intro q hq
      rcases List.mem_cons.1 hq with rfl | hq
      · rw [hkept _ hp, handOut, getD_setIfInBounds hpin, if_pos rfl]
      · exact hgiven q hq
    · intro s hs
      rw [List.map_cons, List.mem_cons, not_or] at hs
      rw [hkept s hs.2, handOut, getD_setIfInBounds hpin, if_neg (fun heq => hs.1 heq.symm)]
    · intro l hl
      have hlist : p.1.2 < table.toList.length := hpin
      have hzero : table.toList[p.1.2] = 0 := by
        rw [Array.getD_eq_getD_getElem?, Array.getElem?_eq_getElem hpin] at hpnone
        exact hpnone
      rw [hcount l hl, handOut, Array.toList_setIfInBounds, List.count_set hlist, hzero,
        if_neg (by simpa using hl.symm), List.map_cons, List.count_cons]
      omega

/-! ### The lengths of the codes of a block -/

/-- So many codes of each length as there are symbols; several of them fill the code space. -/
theorem counts_spec {weights counts : List Nat} {limit : Nat} (hlimit : 1 ≤ limit)
    (hfew : weights.length ≤ 2 ^ limit)
    (hcounts : counts = if weights.length ≤ 1 then lengthCounts weights limit
      else fit (lengthCounts weights limit)) :
    counts.length = limit ∧ counts.sum = weights.length ∧
      (weights.length = 1 → counts = 1 :: List.replicate (limit - 1) 0) ∧
      (2 ≤ weights.length → space counts = 2 ^ limit) := by
  obtain ⟨n, rfl⟩ := Nat.exists_eq_succ_of_ne_zero (Nat.ne_of_gt hlimit)
  -- a tree needs two leaves; fewer symbols have a code of length one, if any
  by_cases hseveral : 2 ≤ weights.length
  · rw [if_neg (by omega)] at hcounts
    obtain ⟨init, last, hinit, rfl, hfitting, hfull, hsum⟩ := lengthCounts_fitting hseveral hfew
    obtain ⟨hlength, hspace, hfit⟩ := fit_fills hfitting hfull
    rw [hcounts, hinit]
    exact ⟨hlength, hfit.trans hsum, fun h => absurd h (by omega), fun _ => hspace⟩
  · rw [if_pos (by omega)] at hcounts
    match weights with
    | [] =>
      refine ⟨?_, ?_, fun h => absurd h (by decide), fun h => absurd h (by decide)⟩
      · rw [hcounts]
        exact List.length_replicate
      · rw [hcounts, lengthCounts, List.sum_replicate_nat, Nat.mul_zero]
        rfl
    | [w] =>
      refine ⟨?_, ?_, fun _ => hcounts, fun h => absurd h (Nat.not_succ_le_self 1)⟩
      · rw [hcounts]
        exact congrArg (· + 1) List.length_replicate
      · rw [hcounts, lengthCounts, List.sum_cons, List.sum_replicate_nat, Nat.mul_zero]
        rfl
    | _ :: _ :: _ => exact absurd (Nat.le_add_left 2 _) hseveral

/-- Lengths of codes: exactly the symbols that occur have one, and they can be told apart. -/
structure Coded (frequencies lengths : Array Nat) (limit : Nat) : Prop where
  size : lengths.size = frequencies.size
  bound : ∀ l ∈ lengths.toList, l ≤ limit
  used : ∀ s, frequencies.getD s 0 ≠ 0 → ∃ l, lengths.toList[s]? = some (l + 1)
  unused : ∀ s, frequencies.getD s 0 = 0 → lengths.getD s 0 = 0
  usable : Usable lengths.toList
  full : ∀ s t, s ≠ t → frequencies.getD s 0 ≠ 0 → frequencies.getD t 0 ≠ 0 → Full lengths.toList

/-- The space that is taken by codes of which there are so many of each length. -/
theorem full_of_space {lengths counts : List Nat} {limit : Nat} (hlimit : limit ≤ 15)
    (hcount : ∀ i, countOf lengths i = counts.getD i 0) (hlength : counts.length = limit)
    (hspace : space counts = 2 ^ limit) : Full lengths := by
  have hcounts : counts = (List.range limit).map (countOf lengths) := by
    refine List.ext_getElem? fun i => ?_
    rw [List.getElem?_map]
    by_cases hi : i < limit
    · rw [List.getElem?_range hi, Option.map_some, hcount, List.getD_eq_getElem?_getD,
        List.getElem?_eq_getElem (by omega)]
      rfl
    · rw [List.getElem?_eq_none (by omega), List.getElem?_eq_none (by rw [List.length_range]; omega)]
      rfl
  rw [hcounts, space_eq_share] at hspace
  -- no code is longer than the limit
  have hlong (m : Nat) : share (countOf lengths) (limit + m) = 2 ^ (limit + m) := by
    induction m with
    | zero => exact hspace
    | succ m ih =>
      rw [← Nat.add_assoc, share, ih, hcount, List.getD_eq_getElem?_getD,
        List.getElem?_eq_none (by omega), Option.getD_none, Nat.add_zero, Nat.pow_succ, Nat.mul_comm]
  have hfull := hlong (15 - limit)
  have hplace : limit + (15 - limit) = 15 := by omega
  rwa [hplace] at hfull

/-! ### The symbols that occur -/

/-- The symbols that occur, with how often they do. -/
def usedSymbols (frequencies : Array Nat) : List (Nat × Nat) :=
  (frequencies.toList.zipIdx).filter (·.1 ≠ 0)

/-- The symbols that occur, the rarest first. -/
def risingSymbols (frequencies : Array Nat) : List (Nat × Nat) :=
  (usedSymbols frequencies).mergeSort fun a b => a.1 ≤ b.1

section Symbols

variable {frequencies : Array Nat}

theorem mem_usedSymbols {p : Nat × Nat} :
    p ∈ usedSymbols frequencies ↔ frequencies.toList[p.2]? = some p.1 ∧ p.1 ≠ 0 := by
  rw [usedSymbols, List.mem_filter, List.mem_zipIdx_iff_getElem?, decide_eq_true_iff]

theorem nodup_usedSymbols (frequencies : Array Nat) :
    ((usedSymbols frequencies).map (·.2)).Nodup := by
  have hall : (frequencies.toList.zipIdx.map Prod.snd).Nodup := by
    rw [List.zipIdx_map_snd]
    exact List.nodup_range'
  exact hall.sublist (List.filter_sublist.map _)

theorem risingSymbols_perm (frequencies : Array Nat) :
    (risingSymbols frequencies).Perm (usedSymbols frequencies) := List.mergeSort_perm ..

theorem mem_risingSymbols {p : Nat × Nat} :
    p ∈ risingSymbols frequencies ↔ frequencies.toList[p.2]? = some p.1 ∧ p.1 ≠ 0 :=
  (risingSymbols_perm frequencies).mem_iff.trans mem_usedSymbols

theorem length_risingSymbols_le (frequencies : Array Nat) :
    (risingSymbols frequencies).length ≤ frequencies.size := by
  have hall : (frequencies.toList.zipIdx).length = frequencies.size := by
    rw [List.length_zipIdx, Array.length_toList]
  rw [(risingSymbols_perm frequencies).length_eq]
  exact Nat.le_trans (List.length_filter_le ..) (Nat.le_of_eq hall)

/-- A symbol that occurs is one of them. -/
theorem mem_risingSymbols_of_ne {s : Nat} (hs : frequencies.getD s 0 ≠ 0) :
    (frequencies.getD s 0, s) ∈ risingSymbols frequencies := by
  rw [mem_risingSymbols]
  refine ⟨?_, hs⟩
  rw [Array.getD_eq_getD_getElem?] at hs ⊢
  rw [Array.getElem?_toList]
  cases hfound : frequencies[s]? with
  | none =>
    rw [hfound] at hs
    exact absurd rfl hs
  | some f => rfl

/-- A list of one element has no other one. -/
theorem eq_of_mem {α : Type} {xs : List α} (h : xs.length ≤ 1) {x y : α} (hx : x ∈ xs)
    (hy : y ∈ xs) : x = y := by
  match xs with
  | [] => cases hx
  | [z] => rw [List.mem_singleton.1 hx, List.mem_singleton.1 hy]
  | _ :: _ :: _ => exact absurd h (by simp)

/-- Two symbols that occur are several symbols. -/
theorem two_le_risingSymbols {s t : Nat} (hst : s ≠ t) (hs : frequencies.getD s 0 ≠ 0)
    (ht : frequencies.getD t 0 ≠ 0) : 2 ≤ (risingSymbols frequencies).length := by
  refine Decidable.byContradiction fun hfew => hst ?_
  have hpair := eq_of_mem (by omega) (mem_risingSymbols_of_ne hs) (mem_risingSymbols_of_ne ht)
  exact congrArg Prod.snd hpair

end Symbols

/-! ### The lengths that they are given -/

/-- How many codes of each length the symbols that occur have. -/
def codeCounts (frequencies : Array Nat) (limit : Nat) : List Nat :=
  let counts := lengthCounts ((risingSymbols frequencies).map (·.1)) limit
  if (risingSymbols frequencies).length ≤ 1 then counts else fit counts

/-- The lengths of the codes are handed out, the shortest to the symbol that occurs most. -/
theorem codeLengths_eq (frequencies : Array Nat) (limit : Nat) : codeLengths frequencies limit =
    ((risingSymbols frequencies).reverse.zip (lengthsFrom 0 (codeCounts frequencies limit))).foldl
      handOut (Array.replicate frequencies.size 0) := rfl

/-- Of the symbols, exactly those that occur have a length, and the lengths are the given ones. -/
structure HandedOut (frequencies lengths : Array Nat) (given : List Nat) : Prop where
  size : lengths.size = frequencies.size
  used : ∀ s, frequencies.getD s 0 ≠ 0 → ∃ l ∈ given, lengths.toList[s]? = some l
  unused : ∀ s, frequencies.getD s 0 = 0 → lengths.getD s 0 = 0
  count : ∀ l ≠ 0, lengths.toList.count l = given.count l

/-- Where there are as many lengths as symbols, all of them are handed out. -/
theorem codeLengths_handedOut {frequencies : Array Nat} {limit : Nat}
    (hsum : (codeCounts frequencies limit).sum = (risingSymbols frequencies).length) :
    HandedOut frequencies (codeLengths frequencies limit)
      (lengthsFrom 0 (codeCounts frequencies limit)) := by
  rw [codeLengths_eq]
  generalize hlengths : lengthsFrom 0 (codeCounts frequencies limit) = lengths
  have hsame : (risingSymbols frequencies).reverse.length = lengths.length := by
    rw [List.length_reverse, ← hlengths, length_lengthsFrom, hsum]
  let handed := (risingSymbols frequencies).reverse.zip lengths
  have hfst : handed.map (·.1) = (risingSymbols frequencies).reverse :=
    List.map_fst_zip (Nat.le_of_eq hsame)
  have hsnd : handed.map (·.2) = lengths := List.map_snd_zip (Nat.le_of_eq hsame.symm)
  have hsymbols : handed.map (·.1.2) = (risingSymbols frequencies).reverse.map (·.2) := by
    rw [← hfst, List.map_map]
    rfl
  have hoccurs : ∀ p ∈ handed, frequencies.toList[p.1.2]? = some p.1.1 ∧ p.1.1 ≠ 0 := by
    intro p hp
    have hp' : p.1 ∈ (risingSymbols frequencies).reverse := hfst ▸ List.mem_map_of_mem hp
    exact mem_risingSymbols.1 (List.mem_reverse.1 hp')
  -- no symbol is given two lengths, and all of them are symbols of the table
  have hnodup : (handed.map (·.1.2)).Nodup := by
    rw [hsymbols]
    exact (((List.reverse_perm _).trans (risingSymbols_perm frequencies)).map _).nodup_iff.2
      (nodup_usedSymbols frequencies)
  have hin : ∀ p ∈ handed, p.1.2 < (Array.replicate frequencies.size 0).size := by
    intro p hp
    rw [Array.size_replicate]
    exact (List.getElem?_eq_some_iff.1 (hoccurs p hp).1).1
  have hzero (s : Nat) : (Array.replicate frequencies.size 0).getD s 0 = 0 := by
    rw [Array.getD_eq_getD_getElem?, Array.getElem?_replicate]
    split <;> rfl
  obtain ⟨hsize, hgiven, hkept, hcount⟩ := handOut_foldl handed (Array.replicate frequencies.size 0)
    hnodup hin fun p _ => hzero p.1.2
  refine ⟨hsize.trans Array.size_replicate, fun s hs => ?_, fun s hs => ?_, fun l hl => ?_⟩
  · have hoccurs := List.mem_reverse.2 (mem_risingSymbols_of_ne hs)
    rw [← hfst] at hoccurs
    obtain ⟨p, hp, hps⟩ := List.mem_map.1 hoccurs
    obtain rfl : p.1.2 = s := congrArg Prod.snd hps
    have hlt : p.1.2 < (handed.foldl handOut (Array.replicate frequencies.size 0)).size :=
      hsize ▸ hin p hp
    have hgot := hgiven p hp
    rw [Array.getD_eq_getD_getElem?, Array.getElem?_eq_getElem hlt, Option.getD_some] at hgot
    refine ⟨p.2, hsnd ▸ List.mem_map_of_mem hp, ?_⟩
    rw [Array.getElem?_toList, Array.getElem?_eq_getElem hlt, hgot]
  · -- a symbol that does not occur keeps the zero of the table
    refine (hkept s fun hmem => ?_).trans (hzero s)
    obtain ⟨p, hp, rfl⟩ := List.mem_map.1 hmem
    obtain ⟨hfound, hne⟩ := hoccurs p hp
    rw [Array.getD_eq_getD_getElem?, ← Array.getElem?_toList, hfound] at hs
    exact hne hs
  · rw [hcount l hl, hsnd, Array.toList_replicate, List.count_replicate,
      if_neg (by simpa using hl.symm), Nat.zero_add]

namespace HandedOut

variable {frequencies lengths : Array Nat} {counts : List Nat}

/-- A length is none, or one of the given ones. -/
theorem mem {given : List Nat} (h : HandedOut frequencies lengths given) {l : Nat}
    (hl : l ∈ lengths.toList) : l = 0 ∨ l ∈ given := by
  by_cases hzero : l = 0
  · exact .inl hzero
  · rw [← List.count_pos_iff, h.count l hzero, List.count_pos_iff] at hl
    exact .inr hl

/-- There are as many codes of each length as were counted. -/
theorem countOf_eq (h : HandedOut frequencies lengths (lengthsFrom 0 counts)) (i : Nat) :
    countOf lengths.toList i = counts.getD i 0 := by
  have hfrom := count_lengthsFrom 0 i counts
  rw [Nat.zero_add] at hfrom
  rw [countOf, h.count _ (Nat.succ_ne_zero i), hfrom]

/-- A single code of length one can be told from no code. -/
theorem usable_lone (h : HandedOut frequencies lengths [1]) : Usable lengths.toList := by
  refine .lone (h.count 1 Nat.one_ne_zero) fun l hl => ?_
  obtain rfl | hl := h.mem hl
  · exact Nat.zero_le 1
  · exact Nat.le_of_eq (List.mem_singleton.1 hl)

end HandedOut

/-- The lengths that are found are lengths of codes for the symbols that occur. -/
theorem codeLengths_coded (frequencies : Array Nat) {limit : Nat} (hlimit : 1 ≤ limit)
    (h15 : limit ≤ 15) (hfew : frequencies.size ≤ 2 ^ limit) :
    Coded frequencies (codeLengths frequencies limit) limit := by
  have hweights : ((risingSymbols frequencies).map (·.1)).length =
      (risingSymbols frequencies).length := List.length_map ..
  obtain ⟨hlength, hsum, hlone, hseveral⟩ := counts_spec hlimit
    (hweights ▸ Nat.le_trans (length_risingSymbols_le frequencies) hfew)
    (show codeCounts frequencies limit = _ by rw [hweights, codeCounts])
  rw [hweights] at hsum hlone hseveral
  have hhanded := codeLengths_handedOut hsum
  have hfull (h : 2 ≤ (risingSymbols frequencies).length) :
      Full (codeLengths frequencies limit).toList :=
    full_of_space h15 hhanded.countOf_eq hlength (hseveral h)
  refine ⟨hhanded.size, fun l hl => ?_, fun s hs => ?_, hhanded.unused, ?_,
    fun s t hst hs ht => hfull (two_le_risingSymbols hst hs ht)⟩
  · obtain rfl | hl := hhanded.mem hl
    · exact Nat.zero_le _
    · have hle := (mem_lengthsFrom hl).2
      omega
  · obtain ⟨l, hl, hfound⟩ := hhanded.used s hs
    have hpos := (mem_lengthsFrom hl).1
    exact ⟨l - 1, hfound.trans (congrArg some (by omega))⟩
  · -- no code, one code, or codes that fill the code space
    obtain hnone | hone | htwo : (risingSymbols frequencies).length = 0 ∨
        (risingSymbols frequencies).length = 1 ∨ 2 ≤ (risingSymbols frequencies).length := by omega
    · have hempty : lengthsFrom 0 (codeCounts frequencies limit) = [] := by
        rw [← List.length_eq_zero_iff, length_lengthsFrom, hsum, hnone]
      rw [hempty] at hhanded
      exact .none fun l hl => (hhanded.mem hl).resolve_right List.not_mem_nil
    · have hrest : lengthsFrom (0 + 1) (List.replicate (limit - 1) 0) = [] := by
        rw [← List.length_eq_zero_iff, length_lengthsFrom, List.sum_replicate_nat, Nat.mul_zero]
      rw [hlone hone, lengthsFrom_cons, hrest] at hhanded
      exact hhanded.usable_lone
    · exact .full (hfull htwo)

end Playground.Deflate
