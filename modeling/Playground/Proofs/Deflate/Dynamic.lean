import Playground.Proofs.Deflate.Header

/-!
# Blocks with codes of their own read back

Such a block sends the lengths of its codes, and the lengths of the codes for these.  A reader
insists on codes for code lengths that fill the code space, so two different symbols must occur
among those that spell the lengths: all lengths alike would be `2 ^ v` codes of length `v`, but
between 257 and 286 lengths are sent.
-/

namespace Playground.Deflate

/-! ### The symbols of a block -/

namespace Piece

variable {p : Piece}

theorem literalSymbol_lt (h : p.Valid) : p.literalSymbol < 286 := by
  cases p with
  | literal byte => exact Nat.lt_of_lt_of_le byte.toNat_lt (by decide)
  | copy length distance =>
    obtain ⟨⟨hleast, hmost⟩, _⟩ := h
    obtain ⟨i, base, hlength, hi, _⟩ := lengthSymbol_spec hleast hmost
    rw [literalSymbol, hlength]
    exact Nat.add_lt_add_left hi 257

theorem literalSymbol_ne (h : p.Valid) : p.literalSymbol ≠ endSymbol := by
  cases p with
  | literal byte => exact Nat.ne_of_lt byte.toNat_lt
  | copy length distance =>
    obtain ⟨⟨hleast, hmost⟩, _⟩ := h
    obtain ⟨i, base, hlength, _⟩ := lengthSymbol_spec hleast hmost
    rw [literalSymbol, hlength, endSymbol]
    exact Nat.ne_of_gt (by omega)

theorem distanceSymbols_lt (h : p.Valid) : ∀ s ∈ p.distanceSymbols, s < 30 := by
  cases p with
  | literal byte => exact fun s hs => absurd hs List.not_mem_nil
  | copy length distance =>
    obtain ⟨_, hnear, hfar⟩ := h
    obtain ⟨i, base, hdistance, hi, _⟩ := distanceSymbol_spec hnear hfar
    intro s hs
    rw [distanceSymbols, hdistance, List.mem_singleton] at hs
    exact hs ▸ hi

end Piece

section Frequencies

variable {ps : List Piece} (hps : ∀ p ∈ ps, p.Valid)
include hps

theorem literals_lt : ∀ s ∈ ps.map Piece.literalSymbol, s < 286 := by
  intro s hs
  obtain ⟨p, hp, rfl⟩ := List.mem_map.1 hs
  exact Piece.literalSymbol_lt (hps p hp)

theorem distances_lt : ∀ s ∈ ps.flatMap Piece.distanceSymbols, s < 30 := by
  intro s hs
  obtain ⟨p, hp, hs⟩ := List.mem_flatMap.1 hs
  exact Piece.distanceSymbols_lt (hps p hp) s hs

/-- Literals and lengths occur as often as pieces have them, and the end of the block once. -/
theorem frequencies_literals :
    (frequencies ps.toArray).1.size = 288 ∧ ∀ s, (frequencies ps.toArray).1.getD s 0 =
      (if endSymbol = s then 1 else 0) + (ps.map Piece.literalSymbol).count s := by
  have hsize : ((Array.replicate 288 0).setIfInBounds endSymbol 1).size = 288 := by
    rw [Array.size_setIfInBounds, Array.size_replicate]
  have hin : ∀ s ∈ ps.map Piece.literalSymbol,
      s < ((Array.replicate 288 0).setIfInBounds endSymbol 1).size := by
    intro s hs
    rw [hsize]
    exact Nat.lt_of_lt_of_le (literals_lt hps s hs) (by decide)
  obtain ⟨hsize', hcount⟩ := tally_foldl hin
  have hend : endSymbol < (Array.replicate 288 0).size := by
    rw [Array.size_replicate]
    decide
  rw [frequencies_eq]
  refine ⟨hsize'.trans hsize, fun s => ?_⟩
  rw [hcount, getD_setIfInBounds hend, getD_replicate_zero]

/-- Distances occur as often as pieces have them. -/
theorem frequencies_distances :
    (frequencies ps.toArray).2.size = 32 ∧ ∀ s, (frequencies ps.toArray).2.getD s 0 =
      (ps.flatMap Piece.distanceSymbols).count s := by
  have hin : ∀ s ∈ ps.flatMap Piece.distanceSymbols, s < (Array.replicate 32 0).size := by
    intro s hs
    rw [Array.size_replicate]
    exact Nat.lt_of_lt_of_le (distances_lt hps s hs) (by decide)
  obtain ⟨hsize, hcount⟩ := tally_foldl hin
  rw [frequencies_eq]
  refine ⟨hsize.trans Array.size_replicate, fun s => ?_⟩
  rw [hcount, getD_replicate_zero, Nat.zero_add]

end Frequencies

/-! ### The codes of a block -/

namespace Coded

variable {frequencies lengths : Array Nat} {limit : Nat}

theorem readable (h : Coded frequencies lengths limit) (hlimit : limit ≤ 15) :
    Readable lengths limit := ⟨h.usable, h.bound, hlimit⟩

end Coded

/-- Codes of one length fill the code space if there are enough of them. -/
theorem full_replicate {n v k : Nat} (hv : v ≠ 0) (h15 : v ≤ 15)
    (h : Full (List.replicate n v ++ List.replicate k 0)) : n = 2 ^ v := by
  have hcount : countOf (List.replicate n v ++ List.replicate k 0) = countOf (List.replicate n v) := by
    funext i
    rw [countOf, List.count_append, List.count_replicate, List.count_replicate, countOf,
      List.count_replicate, if_neg (by simp : ¬(0 == i + 1) = true), Nat.add_zero]
  have hpos : ∀ d ∈ List.replicate n v, 1 ≤ d := by
    intro d hd
    rw [(List.mem_replicate.1 hd).2]
    exact Nat.pos_of_ne_zero hv
  have hpow : 2 ^ 15 = 2 ^ v * 2 ^ (15 - v) := by
    rw [← Nat.pow_add, Nat.add_sub_cancel' h15]
  rw [Full, hcount, share_eq_sum hpos, List.map_replicate, List.sum_replicate_nat, part, if_pos h15,
    hpow] at h
  exact Nat.eq_of_mul_eq_mul_right (Nat.two_pow_pos _) h

/-- The lengths that a block sends, and how they are sent. -/
structure Header where
  literals : Array Nat
  distances : Array Nat
  /-- how many lengths are sent of each -/
  literalCount : Nat
  distanceCount : Nat
  symbols : List LengthSymbol
  /-- the lengths of the codes for code lengths -/
  lengths : Array Nat
  orderedCount : Nat

/-- How often each symbol for code lengths occurs. -/
def symbolCounts (symbols : List LengthSymbol) : Array Nat :=
  symbols.foldl (fun table x => tally table x.symbol) (Array.replicate 19 0)

/-- The header of a block. -/
def Header.ofPieces (ps : List Piece) : Header :=
  let literals := codeLengths (frequencies ps.toArray).1 15
  let distances := codeLengths (frequencies ps.toArray).2 15
  let literalCount := usedCount (literals.toList.take 286) 257
  let distanceCount := usedCount (distances.toList.take 30) 1
  let symbols := lengthSymbols
    (literals.toList.take literalCount ++ distances.toList.take distanceCount) none 0 0
  let lengths := codeLengths (symbolCounts symbols) 7
  ⟨literals, distances, literalCount, distanceCount, symbols, lengths,
    usedCount (lengthOrder.map (lengths.getD · 0)) 4⟩

namespace Header

/-- The lengths that are sent. -/
def sent (h : Header) : List Nat :=
  h.literals.toList.take h.literalCount ++ h.distances.toList.take h.distanceCount

/-- What a reader needs to know of a header. -/
structure Sound (h : Header) (ps : List Piece) : Prop where
  literals : Readable h.literals 15
  distances : Readable h.distances 15
  literalCount : 257 ≤ h.literalCount ∧ h.literalCount ≤ 286
  distanceCount : 1 ≤ h.distanceCount ∧ h.distanceCount ≤ 30
  literals_size : h.literals.size = 288
  distances_size : h.distances.size = 32
  literals_rest : h.literals.toList.take h.literalCount ++
    List.replicate (h.literals.toList.length - h.literalCount) 0 = h.literals.toList
  distances_rest : h.distances.toList.take h.distanceCount ++
    List.replicate (h.distances.toList.length - h.distanceCount) 0 = h.distances.toList
  ends : HasCode h.literals endSymbol
  coded : ∀ p ∈ ps, p.Coded h.literals h.distances
  spells : Spells [] h.symbols h.sent
  lengths : Readable h.lengths 7
  lengths_size : h.lengths.size = 19
  lengths_full : Full h.lengths.toList
  lengths_coded : ∀ x ∈ h.symbols, HasCode h.lengths x.symbol
  orderedCount : 4 ≤ h.orderedCount ∧ h.orderedCount ≤ 19
  lengths_rest : ∀ k, h.orderedCount ≤ k → (lengthOrder.map (h.lengths.getD · 0)).getD k 0 = 0

section Pieces

variable {ps : List Piece} (hps : ∀ p ∈ ps, p.Valid)
include hps

theorem literals_coded :
    Deflate.Coded (frequencies ps.toArray).1 (ofPieces ps).literals 15 := by
  refine codeLengths_coded _ (by decide) (Nat.le_refl _) ?_
  rw [(frequencies_literals hps).1]
  decide

theorem distances_coded :
    Deflate.Coded (frequencies ps.toArray).2 (ofPieces ps).distances 15 := by
  refine codeLengths_coded _ (by decide) (Nat.le_refl _) ?_
  rw [(frequencies_distances hps).1]
  decide

/-- The end of the block occurs. -/
theorem endSymbol_occurs : (frequencies ps.toArray).1.getD endSymbol 0 ≠ 0 := by
  rw [(frequencies_literals hps).2, if_pos rfl]
  omega

/-- The symbols of pieces occur. -/
theorem literalSymbol_occurs {p : Piece} (hp : p ∈ ps) :
    (frequencies ps.toArray).1.getD p.literalSymbol 0 ≠ 0 := by
  have hcount : 0 < (ps.map Piece.literalSymbol).count p.literalSymbol :=
    List.count_pos_iff.2 (List.mem_map_of_mem hp)
  rw [(frequencies_literals hps).2]
  omega

theorem distanceSymbol_occurs {length distance : Nat} (hp : Piece.copy length distance ∈ ps) :
    (frequencies ps.toArray).2.getD (distanceSymbol distance).1 0 ≠ 0 := by
  have hcount : 0 < (ps.flatMap Piece.distanceSymbols).count (distanceSymbol distance).1 :=
    List.count_pos_iff.2 (List.mem_flatMap.2 ⟨_, hp, List.mem_singleton.2 rfl⟩)
  rw [(frequencies_distances hps).2]
  omega

/-- All symbols of a piece have codes. -/
theorem pieces_coded {p : Piece} (hp : p ∈ ps) :
    p.Coded (ofPieces ps).literals (ofPieces ps).distances := by
  have hliteral := (literals_coded hps).used _ (literalSymbol_occurs hps hp)
  cases p with
  | literal byte => exact hliteral
  | copy length distance =>
    exact ⟨hliteral, (distances_coded hps).used _ (distanceSymbol_occurs hps hp)⟩

/-- The lengths that are left out are zeros. -/
theorem literals_rest : 257 ≤ (ofPieces ps).literalCount ∧ (ofPieces ps).literalCount ≤ 286 ∧
    (ofPieces ps).literals.toList.take (ofPieces ps).literalCount ++
      List.replicate ((ofPieces ps).literals.toList.length - (ofPieces ps).literalCount) 0 =
        (ofPieces ps).literals.toList := by
  have hcoded := literals_coded hps
  have hsize := hcoded.size.trans (frequencies_literals hps).1
  refine usedCount_take (by decide) ?_ fun i hi => ?_
  · show 286 ≤ (ofPieces ps).literals.size
    rw [hsize]
    decide
  · rw [List.getD_eq_getElem?_getD, Array.getElem?_toList, ← Array.getD_eq_getD_getElem?]
    refine hcoded.unused i ?_
    have hnone : (ps.map Piece.literalSymbol).count i = 0 :=
      List.count_eq_zero.2 fun hmem => Nat.not_lt.2 hi (literals_lt hps i hmem)
    rw [(frequencies_literals hps).2, hnone, if_neg (by rw [endSymbol]; omega)]

theorem distances_rest : 1 ≤ (ofPieces ps).distanceCount ∧ (ofPieces ps).distanceCount ≤ 30 ∧
    (ofPieces ps).distances.toList.take (ofPieces ps).distanceCount ++
      List.replicate ((ofPieces ps).distances.toList.length - (ofPieces ps).distanceCount) 0 =
        (ofPieces ps).distances.toList := by
  have hcoded := distances_coded hps
  have hsize := hcoded.size.trans (frequencies_distances hps).1
  refine usedCount_take (by decide) ?_ fun i hi => ?_
  · show 30 ≤ (ofPieces ps).distances.size
    rw [hsize]
    decide
  · rw [List.getD_eq_getElem?_getD, Array.getElem?_toList, ← Array.getD_eq_getD_getElem?]
    refine hcoded.unused i ?_
    rw [(frequencies_distances hps).2]
    exact List.count_eq_zero.2 fun hmem => Nat.not_lt.2 hi (distances_lt hps i hmem)

/-- The lengths that are sent are spelt. -/
theorem symbols_spell : Spells [] (ofPieces ps).symbols (ofPieces ps).sent := by
  have hsmall : ∀ l ∈ (ofPieces ps).sent, l < 16 := by
    intro l hl
    rcases List.mem_append.1 hl with hl | hl
    · exact Nat.lt_succ_of_le ((literals_coded hps).bound l (List.mem_of_mem_take hl))
    · exact Nat.lt_succ_of_le ((distances_coded hps).bound l (List.mem_of_mem_take hl))
  exact lengthSymbols_spells hsmall (.zeros rfl (by decide) : Pending [] none 0 0 [])

/-- So many lengths are sent. -/
theorem length_sent :
    (ofPieces ps).sent.length = (ofPieces ps).literalCount + (ofPieces ps).distanceCount := by
  obtain ⟨_, hliterals, _⟩ := literals_rest hps
  obtain ⟨_, hdistances, _⟩ := distances_rest hps
  have hsize := (literals_coded hps).size.trans (frequencies_literals hps).1
  have hsize' := (distances_coded hps).size.trans (frequencies_distances hps).1
  rw [sent, List.length_append, List.length_take, List.length_take, Array.length_toList,
    Array.length_toList, hsize, hsize']
  omega

/-- The symbols are tallied. -/
theorem symbolCounts_spec : (symbolCounts (ofPieces ps).symbols).size = 19 ∧
    ∀ s, (symbolCounts (ofPieces ps).symbols).getD s 0 =
      ((ofPieces ps).symbols.map (·.symbol)).count s := by
  have hin : ∀ s ∈ (ofPieces ps).symbols.map (·.symbol), s < (Array.replicate 19 0).size := by
    intro s hs
    obtain ⟨x, hx, rfl⟩ := List.mem_map.1 hs
    rw [Array.size_replicate]
    exact ((symbols_spell hps).fits x hx).2
  obtain ⟨hsize, hcount⟩ := tally_foldl hin
  rw [List.foldl_map] at hsize hcount
  refine ⟨hsize.trans Array.size_replicate, fun s => ?_⟩
  rw [symbolCounts, hcount, getD_replicate_zero, Nat.zero_add]

/-- Two different symbols occur among those that spell the lengths. -/
theorem symbols_differ (hne : ps ≠ []) :
    ∃ x ∈ (ofPieces ps).symbols, ∃ y ∈ (ofPieces ps).symbols, x.symbol ≠ y.symbol := by
  have hspells := symbols_spell hps
  obtain ⟨hleast, hmost, hrest⟩ := literals_rest hps
  have hcoded := literals_coded hps
  obtain ⟨p, hp⟩ := List.exists_mem_of_ne_nil ps hne
  have hfull := hcoded.full _ _ (Piece.literalSymbol_ne (hps p hp)) (literalSymbol_occurs hps hp)
    (endSymbol_occurs hps)
  have hsize := hcoded.size.trans (frequencies_literals hps).1
  refine Classical.byContradiction fun hsame => ?_
  cases hsymbols : (ofPieces ps).symbols with
  | nil =>
    rw [hsymbols] at hspells
    have hlength := length_sent hps
    generalize (ofPieces ps).sent = sent at hspells hlength
    cases hspells
    rw [List.length_nil] at hlength
    omega
  | cons x rest =>
    have hx : x ∈ (ofPieces ps).symbols := hsymbols ▸ List.mem_cons_self
    have hconstant := hspells.constant (s := x.symbol)
      (fun y hy => Decidable.byContradiction fun hxy => hsame ⟨y, hy, x, hx, hxy⟩)
      fun l hl => absurd hl List.not_mem_nil
    generalize (if x.symbol < 16 then x.symbol else 0) = v at hconstant
    have htake : (ofPieces ps).literals.toList.take (ofPieces ps).literalCount =
        List.replicate (ofPieces ps).literalCount v := by
      rw [List.eq_replicate_iff, List.length_take, Array.length_toList, hsize]
      exact ⟨by omega, fun l hl => hconstant l (List.mem_append_left _ hl)⟩
    -- the end of the block has a code, and so has every symbol
    obtain ⟨l, hl⟩ := hcoded.used endSymbol (endSymbol_occurs hps)
    have hend : ((ofPieces ps).literals.toList.take (ofPieces ps).literalCount)[endSymbol]? =
        some (l + 1) := by
      rw [List.getElem?_take, if_pos (Nat.lt_of_lt_of_le (by decide) hleast), hl]
    have hmem := List.mem_of_getElem? hend
    rw [htake] at hmem
    have hv := (List.mem_replicate.1 hmem).2
    have hv15 := hcoded.bound _ (List.mem_of_getElem? hl)
    rw [← hrest, htake] at hfull
    have hpow := full_replicate (by omega) (by omega) hfull
    by_cases hshort : v ≤ 8
    · have hle := Nat.pow_le_pow_right (by decide : 0 < 2) hshort
      omega
    · have hle := Nat.pow_le_pow_right (by decide : 0 < 2) (Nat.not_le.1 hshort)
      omega

/-- The header of a block is as a reader needs it. -/
theorem ofPieces_sound (hne : ps ≠ []) : (ofPieces ps).Sound ps := by
  have hliterals := literals_coded hps
  have hdistances := distances_coded hps
  obtain ⟨hleast, hmost, hrest⟩ := literals_rest hps
  obtain ⟨hleast', hmost', hrest'⟩ := distances_rest hps
  have hspells := symbols_spell hps
  obtain ⟨hsizes, hcounts⟩ := symbolCounts_spec hps
  have hlengths : Deflate.Coded (symbolCounts (ofPieces ps).symbols) (ofPieces ps).lengths 7 := by
    refine codeLengths_coded _ (by decide) (by decide) ?_
    rw [hsizes]
    decide
  have hoccurs : ∀ x ∈ (ofPieces ps).symbols,
      (symbolCounts (ofPieces ps).symbols).getD x.symbol 0 ≠ 0 := by
    intro x hx
    rw [hcounts]
    exact Nat.ne_of_gt (List.count_pos_iff.2 (List.mem_map_of_mem hx))
  -- two symbols spell the lengths, so their own codes fill the code space
  obtain ⟨x, hx, y, hy, hxy⟩ := symbols_differ hps hne
  obtain ⟨hfour, hnineteen, hzero⟩ :=
    usedCount_spec (lengthOrder.map ((ofPieces ps).lengths.getD · 0)) 4
  exact
    { literals := hliterals.readable (Nat.le_refl _)
      distances := hdistances.readable (Nat.le_refl _)
      literalCount := ⟨hleast, hmost⟩
      distanceCount := ⟨hleast', hmost'⟩
      literals_size := hliterals.size.trans (frequencies_literals hps).1
      distances_size := hdistances.size.trans (frequencies_distances hps).1
      literals_rest := hrest
      distances_rest := hrest'
      ends := hliterals.used endSymbol (endSymbol_occurs hps)
      coded := fun p hp => pieces_coded hps hp
      spells := hspells
      lengths := hlengths.readable (by decide)
      lengths_size := hlengths.size.trans hsizes
      lengths_full := hlengths.full _ _ hxy (hoccurs x hx) (hoccurs y hy)
      lengths_coded := fun x hx => hlengths.used _ (hoccurs x hx)
      orderedCount := ⟨hfour, hnineteen⟩
      lengths_rest := hzero }

end Pieces

/-! ### Writing and reading a block -/

/-- The lengths of the codes for code lengths, in the order in which they are sent. -/
def ordered (h : Header) : List Nat := lengthOrder.map (h.lengths.getD · 0)

/-- The bits of a header, and of the pieces behind it. -/
def bits (h : Header) (ps : List Piece) : List Nat :=
  lowBits 5 (h.literalCount - 257) ++ (lowBits 5 (h.distanceCount - 1) ++
    (lowBits 4 (h.orderedCount - 4) ++ (orderedBits (h.ordered.take h.orderedCount) ++
      (h.symbols.flatMap (LengthSymbol.bits (.ofLengths h.lengths 7)) ++
        blockBits h.literals h.distances ps))))

end Header

/-- A block is written with its header. -/
theorem Bits.dynamicBlock_eq (w : Bits) (ps : List Piece) :
    w.dynamicBlock ps.toArray =
      let h := Header.ofPieces ps
      let w := w.put 2 2 |>.put (h.literalCount - 257) 5 |>.put (h.distanceCount - 1) 5
        |>.put (h.orderedCount - 4) 4
      let w := (h.ordered.take h.orderedCount).foldl (fun w length => w.put length 3) w
      let w := h.symbols.foldl
        (fun w x => (w.symbol (.ofLengths h.lengths 7) x.symbol).put x.value x.width) w
      w.pieces (.ofLengths h.literals 15) (.ofLengths h.distances 15) ps.toArray := rfl

namespace Header

variable {h : Header} {ps : List Piece}

/-- The lengths of the codes for code lengths fit into three bits. -/
theorem Sound.lengths_lt (hh : h.Sound ps) (i : Nat) : h.lengths.getD i 0 < 8 := by
  rw [Array.getD_eq_getD_getElem?, ← Array.getElem?_toList]
  cases hfound : h.lengths.toList[i]? with
  | none => exact Nat.zero_lt_succ 7
  | some l => exact Nat.lt_succ_of_le (hh.lengths.bound l (List.mem_of_getElem? hfound))

end Header

section Dynamic

variable {ps : List Piece} (hps : ∀ p ∈ ps, p.Valid) (hne : ps ≠ [])
include hps hne

/-- A block with codes of its own is written as its bits. -/
theorem Bits.dynamicBlock_writes {w : Bits} (hw : w.Tidy) :
    w.Writes (lowBits 2 2 ++ (Header.ofPieces ps).bits ps) (w.dynamicBlock ps.toArray) := by
  have hh := Header.ofPieces_sound hps hne
  rw [Bits.dynamicBlock_eq]
  generalize Header.ofPieces ps = h at hh ⊢
  obtain ⟨hleast, hmost⟩ := hh.literalCount
  obtain ⟨hleast', hmost'⟩ := hh.distanceCount
  obtain ⟨hfour, hnineteen⟩ := hh.orderedCount
  have hordered : ∀ l ∈ h.ordered.take h.orderedCount, l < 8 := by
    intro l hl
    obtain ⟨i, _, rfl⟩ := List.mem_map.1 (List.mem_of_mem_take hl)
    exact hh.lengths_lt i
  have h₁ := Bits.put_writes hw (by decide : 2 < 2 ^ 2)
  have h₂ := Bits.put_writes h₁.tidy (by omega : h.literalCount - 257 < 2 ^ 5)
  have h₃ := Bits.put_writes h₂.tidy (by omega : h.distanceCount - 1 < 2 ^ 5)
  have h₄ := Bits.put_writes h₃.tidy (by omega : h.orderedCount - 4 < 2 ^ 4)
  have h₅ := Bits.ordered_writes h₄.tidy hordered
  have h₆ := Bits.lengthSymbols_writes hh.lengths h₅.tidy
    (fun x hx => (hh.spells.fits x hx).1) hh.lengths_coded
  have h₇ := Bits.pieces_writes hh.literals hh.distances h₆.tidy
    (fun p hp => ⟨hps p hp, hh.coded p hp⟩) hh.ends
  exact h₁.trans (h₂.trans (h₃.trans (h₄.trans (h₅.trans (h₆.trans h₇)))))

namespace Inflater

/-- A block with codes of its own is read back. -/
theorem dynamicBlock_reads {before : List Nat} {out : ByteArray} :
    Reads dynamicBlock before out ((Header.ofPieces ps).bits ps) () (ps.foldl Piece.expand out) := by
  have hh := Header.ofPieces_sound hps hne
  have hsent := Header.length_sent hps
  generalize Header.ofPieces ps = h at hh hsent ⊢
  have hlength : (h.literals.toList.take h.literalCount).length = h.literalCount := by
    have hmost := hh.literalCount.2
    rw [List.length_take, Array.length_toList, hh.literals_size]
    omega
  have hliterals : Table.ofLengths (h.sent.toArray.toList.take h.literalCount) =
      Table.ofLengths h.literals.toList := by
    rw [List.toList_toArray, Header.sent, List.take_left' hlength, ← Table.ofLengths_append_zeros,
      hh.literals_rest]
  have hdistances : Table.ofLengths (h.sent.toArray.toList.drop h.literalCount) =
      Table.ofLengths h.distances.toList := by
    rw [List.toList_toArray, Header.sent, List.drop_left' hlength, ← Table.ofLengths_append_zeros,
      hh.distances_rest]
  obtain ⟨hleast, hmost⟩ := hh.literalCount
  obtain ⟨hleast', hmost'⟩ := hh.distanceCount
  obtain ⟨hfour, hnineteen⟩ := hh.orderedCount
  rw [dynamicBlock, Header.bits]
  refine (reads_bits (by omega : h.literalCount - 257 < 2 ^ 5)).bind ?_
  refine (reads_bits (by omega : h.distanceCount - 1 < 2 ^ 5)).bind ?_
  refine (reads_bits (by omega : h.orderedCount - 4 < 2 ^ 4)).bind ?_
  rw [Nat.add_sub_cancel' hleast, Nat.add_sub_cancel' hleast', Nat.add_sub_cancel' hfour]
  dsimp only
  rw [if_neg (by simp; omega), Header.ordered, ← List.map_take]
  refine (orderedLengths_reads (h.lengths.getD · 0) fun i _ => hh.lengths_lt i).bind ?_
  rw [ordered_restores hh.lengths_size hh.lengths_rest,
    if_neg (by simp [(Table.isFull_iff _).2 hh.lengths_full])]
  -- every symbol has a bit at least, so that the lengths are read before the bits run out
  refine reads_left fun n hn => ?_
  have hmany := length_lengthSymbols hh.lengths hh.lengths_coded
  rw [List.length_append] at hn
  rw [← hsent]
  refine (codeLengths_reads hh.lengths hh.spells hh.lengths_coded (by omega)).bind ?_
  rw [hliterals, hdistances, if_neg (by simp [hh.literals.usable.isUsable, hh.distances.usable.isUsable])]
  refine reads_left fun n hn => ?_
  exact pieces_reads hh.literals hh.distances (fun p hp => ⟨hps p hp, hh.coded p hp⟩) hh.ends
    (by omega)

end Inflater

end Dynamic

end Playground.Deflate
