import Playground.Proofs.Deflate.Copies

/-!
# Compressed bytes read back

The search keeps that its pieces and blocks stand for the bytes up to the place it has come to, and
that a copy that was put off is right one byte before.  So its blocks stand for all bytes, and the
reader gives them back.
-/

namespace Playground.Deflate

/-! ### Pieces at a place -/

/-- At a place, a piece stands for the bytes that follow. -/
structure Piece.Stands (bytes : ByteArray) (place : Nat) (p : Piece) : Prop where
  valid : p.Valid
  within : place + p.size ≤ bytes.size
  expands : p.expand (bytes.extract 0 place) = bytes.extract 0 (place + p.size)

theorem Piece.literal_stands {bytes : ByteArray} {place : Nat} (h : place < bytes.size) :
    (Piece.literal (bytes.get! place)).Stands bytes place :=
  ⟨trivial, h, extract_push h⟩

theorem Found.Right.stands {bytes : ByteArray} {place : Nat} {f : Found} (h : f.Right bytes place) :
    (Piece.copy f.length f.distance).Stands bytes place :=
  ⟨h.valid, h.within, copyBack_extract h.valid.2.1 f.length h.back h.within h.agrees⟩

namespace Matcher

/-! ### What the search keeps -/

/-- Blocks and pieces stand for the bytes up to where they end. -/
structure Covers (bytes : ByteArray) (m : Matcher) : Prop where
  blocks : Cover bytes 0 m.blocks.toList m.start
  valid : ∀ p ∈ m.pieces.toList, p.Valid
  within : m.start + m.size ≤ bytes.size
  expands : m.pieces.toList.foldl Piece.expand (bytes.extract 0 m.start) =
    bytes.extract 0 (m.start + m.size)

/-- The search stands where the pieces end, or one byte further with a right copy put off. -/
inductive Stands (bytes : ByteArray) (m : Matcher) : Prop where
  | here (hheld : m.held = none) (hplace : m.place = m.start + m.size)
  | ahead {f : Found} (hheld : m.held = some (bytes.get! (m.start + m.size), f))
      (hplace : m.place = m.start + m.size + 1) (hright : f.Right bytes (m.start + m.size))

/-- What holds of the search at every step. -/
structure Searching (bytes : ByteArray) (m : Matcher) : Prop where
  covers : m.Covers bytes
  stands : m.Stands bytes
  reach : m.reach ≤ windowSize

variable {bytes : ByteArray} {m : Matcher}

/-- A piece that stands for the bytes that follow is added. -/
theorem Covers.add (h : m.Covers bytes) {p : Piece} (hp : p.Stands bytes (m.start + m.size)) :
    (m.add p).Covers bytes := by
  have hend : m.start + (m.size + p.size) = m.start + m.size + p.size := (Nat.add_assoc ..).symm
  refine ⟨h.blocks, fun q hq => ?_, ?_, ?_⟩
  · have hq : q ∈ (m.pieces.push p).toList := hq
    rw [Array.toList_push, List.mem_append, List.mem_singleton] at hq
    rcases hq with hq | rfl
    · exact h.valid q hq
    · exact hp.valid
  · show m.start + (m.size + p.size) ≤ bytes.size
    rw [hend]
    exact hp.within
  · show (m.pieces.push p).toList.foldl Piece.expand (bytes.extract 0 m.start) =
      bytes.extract 0 (m.start + (m.size + p.size))
    rw [Array.toList_push, List.foldl_append, h.expands, hend]
    exact hp.expands

/-- Where the search stands and what it holds is no matter to what it covers. -/
theorem Covers.congr (h : m.Covers bytes) {m' : Matcher} (hblocks : m'.blocks = m.blocks)
    (hpieces : m'.pieces = m.pieces) (hstart : m'.start = m.start) (hsize : m'.size = m.size) :
    m'.Covers bytes := by
  constructor
  · rw [hblocks, hstart]
    exact h.blocks
  · rw [hpieces]
    exact h.valid
  · rw [hstart, hsize]
    exact h.within
  · rw [hpieces, hstart, hsize]
    exact h.expands

/-- A block may be closed at any time. -/
theorem Searching.close (h : m.Searching bytes) :
    m.close.Searching bytes ∧ Cover bytes 0 m.close.blocks.toList (m.start + m.size) := by
  have hplace : m.start + m.size ≤ m.place := by
    cases h.stands with
    | here _ hplace => exact Nat.le_of_eq hplace.symm
    | ahead _ hplace _ => omega
  have hreach : windowSize < 65536 := by decide
  -- a block that may be stored lies within the window, so sixteen bits tell its size
  have hblock : Block.Covers bytes
      ⟨m.pieces, m.start, m.size, m.place - m.start ≤ m.reach⟩ := by
    refine ⟨h.covers.valid, h.covers.within, h.covers.expands, fun hstorable => ?_⟩
    have hle := of_decide_eq_true hstorable
    have hwindow := h.reach
    show m.size < 65536
    omega
  have hblocks : Cover bytes 0 m.close.blocks.toList (m.start + m.size) := by
    rw [Matcher.close, Array.toList_push]
    exact h.covers.blocks.concat hblock rfl
  refine ⟨⟨⟨hblocks, fun p hp => absurd hp List.not_mem_nil, h.covers.within, rfl⟩, ?_, h.reach⟩,
    hblocks⟩
  cases h.stands with
  | here hheld hplace => exact .here hheld hplace
  | ahead hheld hplace hright => exact .ahead hheld hplace hright

/-! ### A step of the search -/

/-- The search looks back only so far that the bytes ahead stay in the window. -/
def narrowed (bytes : ByteArray) (m : Matcher) : Matcher :=
  { m with reach := min (windowSize - min maxCopy (bytes.size - m.place)) m.reach }

/-- How long a copy is already. -/
def least (m : Matcher) : Nat :=
  match m.held with
  | some (_, f) => f.length
  | none => minCopy - 1

/-- What is found at the present place. -/
def found (bytes : ByteArray) (chain : Array Nat) (m : Matcher) : Found :=
  let found := longest bytes chain m.place (m.narrowed bytes).reach
    (min maxCopy (bytes.size - m.place)) m.least
  let useless := (found.length = minCopy && found.distance ≥ 8192)
    || m.place % windowSize = found.distance
  if useless then ⟨0, 0⟩ else found

theorem step_none (chain : Array Nat) (h : m.held = none) :
    m.step bytes chain =
      let f := m.found bytes chain
      if f.distance = 0 then
        ((m.narrowed bytes).add (.literal (bytes.get! m.place))).advance 1
      else if f.length ≥ 128 then
        ((m.narrowed bytes).add (.copy f.length f.distance)).advance f.length
      else { m.narrowed bytes with held := some (bytes.get! m.place, f) }.advance 1 := by
  simp only [step, found, narrowed, least, h]

theorem step_some (chain : Array Nat) {byte : UInt8} {f : Found} (h : m.held = some (byte, f)) :
    m.step bytes chain =
      let better := m.found bytes chain
      let m := m.narrowed bytes
      if better.length > f.length then
        let m := m.add (.literal byte)
        if better.length ≥ 128 then
          ({ m with held := none }.add (.copy better.length better.distance)).advance better.length
        else { m with held := some (bytes.get! m.place, better) }.advance 1
      else ({ m with held := none }.add (.copy f.length f.distance)).advance (f.length - 1) := by
  simp only [step, found, narrowed, least, h]
  rfl

/-- What is found is right, or it is not longer than what was found before. -/
theorem found_right {chain : Array Nat} (hchain : Backward chain) (h : m.Searching bytes)
    (hplace : m.place < bytes.size) :
    (m.found bytes chain).length ≤ m.least ∧ (m.found bytes chain).distance = 0 ∨
      (m.found bytes chain).Right bytes m.place := by
  have hreach : (m.narrowed bytes).reach ≤ windowSize :=
    Nat.le_trans (Nat.min_le_right ..) h.reach
  have hleast : 2 ≤ m.least := by
    rw [least]
    cases h.stands with
    | here hheld _ =>
      rw [hheld]
      exact Nat.le_refl 2
    | ahead hheld _ hright =>
      rw [hheld]
      exact Nat.le_of_succ_le hright.valid.1.1
  have hlongest := longest_fair hreach (Nat.min_le_left maxCopy (bytes.size - m.place))
    (by omega : m.place + min maxCopy (bytes.size - m.place) ≤ bytes.size) hchain hleast
  rw [found]
  generalize longest bytes chain m.place (m.narrowed bytes).reach
    (min maxCopy (bytes.size - m.place)) m.least = f at hlongest ⊢
  -- a copy that is not worth it counts as nothing
  split
  · exact .inl ⟨Nat.zero_le _, rfl⟩
  · rcases hlongest with rfl | ⟨_, hright⟩
    · exact .inl ⟨Nat.le_refl _, rfl⟩
    · exact .inr hright

/-- The search goes on behind what it covers. -/
theorem Covers.advance_here (h : m.Covers bytes) (hheld : m.held = none) {n : Nat}
    (hplace : m.place + n = m.start + m.size) : (m.advance n).Searching bytes :=
  ⟨h.congr rfl rfl rfl rfl, .here hheld hplace, Nat.min_le_left ..⟩

/-- The search goes on behind a byte. -/
theorem Covers.take_literal (h : m.Covers bytes) (hheld : m.held = none)
    (hplace : m.place = m.start + m.size) (hmore : m.place < bytes.size) :
    ((m.add (.literal (bytes.get! m.place))).advance 1).Searching bytes := by
  have hliteral : (Piece.literal (bytes.get! m.place)).Stands bytes (m.start + m.size) :=
    hplace ▸ Piece.literal_stands hmore
  refine (h.add hliteral).advance_here hheld ?_
  show m.place + 1 = m.start + (m.size + 1)
  omega

/-- The search goes on behind a right copy. -/
theorem Covers.take_copy (h : m.Covers bytes) (hheld : m.held = none) {f : Found}
    (hright : f.Right bytes (m.start + m.size)) {n : Nat}
    (hplace : m.place + n = m.start + m.size + f.length) :
    ((m.add (.copy f.length f.distance)).advance n).Searching bytes := by
  refine (h.add hright.stands).advance_here hheld ?_
  show m.place + n = m.start + (m.size + f.length)
  omega

/-- The search goes on one byte further, with a copy that is put off. -/
theorem Covers.advance_ahead (h : m.Covers bytes) (hplace : m.place = m.start + m.size) {f : Found}
    (hright : f.Right bytes m.place) :
    ({ m with held := some (bytes.get! m.place, f) }.advance 1).Searching bytes := by
  refine ⟨h.congr rfl rfl rfl rfl, .ahead (f := f) ?_ ?_ ?_, Nat.min_le_left ..⟩
  · show some (bytes.get! m.place, f) = some (bytes.get! (m.start + m.size), f)
    rw [hplace]
  · exact congrArg (· + 1) hplace
  · show f.Right bytes (m.start + m.size)
    rwa [← hplace]

/-- With nothing put off, a byte or a copy is taken, or a copy is put off. -/
theorem Searching.step_here {chain : Array Nat} (hchain : Backward chain) (h : m.Searching bytes)
    (hplace : m.place < bytes.size) (hheld : m.held = none) (hhere : m.place = m.start + m.size) :
    (m.step bytes chain).Searching bytes ∧ m.place < (m.step bytes chain).place := by
  have hnarrowed : (m.narrowed bytes).Covers bytes := h.covers.congr rfl rfl rfl rfl
  have hfound := found_right hchain h hplace
  rw [step_none chain hheld]
  generalize m.found bytes chain = f at hfound ⊢
  dsimp only
  by_cases hnothing : f.distance = 0
  · rw [if_pos hnothing]
    exact ⟨hnarrowed.take_literal hheld hhere hplace, Nat.lt_succ_self m.place⟩
  · have hright := hfound.resolve_left fun hnone => hnothing hnone.2
    rw [if_neg hnothing]
    by_cases hlong : f.length ≥ 128
    · rw [if_pos hlong]
      refine ⟨hnarrowed.take_copy hheld (hhere ▸ hright) (congrArg (· + f.length) hhere), ?_⟩
      show m.place < m.place + f.length
      omega
    · rw [if_neg hlong]
      exact ⟨hnarrowed.advance_ahead hhere hright, Nat.lt_succ_self m.place⟩

/-- A copy that was put off is taken, or it gives way to a longer one that starts at the next
byte. -/
theorem Searching.step_ahead {chain : Array Nat} (hchain : Backward chain) (h : m.Searching bytes)
    (hplace : m.place < bytes.size) {f : Found}
    (hheld : m.held = some (bytes.get! (m.start + m.size), f))
    (hahead : m.place = m.start + m.size + 1) (hright : f.Right bytes (m.start + m.size)) :
    (m.step bytes chain).Searching bytes ∧ m.place < (m.step bytes chain).place := by
  have hnarrowed : (m.narrowed bytes).Covers bytes := h.covers.congr rfl rfl rfl rfl
  have hfound := found_right hchain h hplace
  have hleast : m.least = f.length := by rw [least, hheld]
  rw [hleast] at hfound
  rw [step_some chain hheld]
  generalize m.found bytes chain = better at hfound ⊢
  dsimp only
  by_cases hbetter : better.length > f.length
  · -- the byte is sent by itself, and the search stands where its pieces end
    have hright' := hfound.resolve_left fun hnone => Nat.not_le.2 hbetter hnone.1
    have hend : m.place = m.start + (m.size + 1) := by omega
    have hadd := hnarrowed.add (Piece.literal_stands (by omega : m.start + m.size < bytes.size))
    rw [if_pos hbetter]
    by_cases hlong : better.length ≥ 128
    · rw [if_pos hlong]
      have hfree : Matcher.Covers bytes
          { (m.narrowed bytes).add (.literal (bytes.get! (m.start + m.size))) with held := none } :=
        hadd.congr rfl rfl rfl rfl
      refine ⟨hfree.take_copy rfl (hend ▸ hright') (congrArg (· + better.length) hend), ?_⟩
      show m.place < m.place + better.length
      omega
    · rw [if_neg hlong]
      exact ⟨hadd.advance_ahead hend hright', Nat.lt_succ_self m.place⟩
  · rw [if_neg hbetter]
    have hfree : Matcher.Covers bytes { m.narrowed bytes with held := none } :=
      h.covers.congr rfl rfl rfl rfl
    -- the search stands behind the first byte of the copy already
    have hlength : 3 ≤ f.length := hright.valid.1.1
    refine ⟨hfree.take_copy rfl hright ?_, ?_⟩
    · show m.place + (f.length - 1) = m.start + m.size + f.length
      omega
    · show m.place < m.place + (f.length - 1)
      omega

/-- A step of the search keeps what holds of it, and moves on. -/
theorem step_searching {chain : Array Nat} (hchain : Backward chain) (h : m.Searching bytes)
    (hplace : m.place < bytes.size) :
    (m.step bytes chain).Searching bytes ∧ m.place < (m.step bytes chain).place := by
  cases h.stands with
  | here hheld hhere => exact h.step_here hchain hplace hheld hhere
  | ahead hheld hahead hright => exact h.step_ahead hchain hplace hheld hahead hright

/-! ### The whole search -/

/-- At the end, nothing is put off. -/
theorem Searching.at_end (h : m.Searching bytes) (hplace : bytes.size ≤ m.place) :
    m.start + m.size = bytes.size := by
  have hwithin := h.covers.within
  cases h.stands with
  | here _ hhere => omega
  | ahead _ hahead hright =>
    have hlength : minCopy ≤ _ := hright.valid.1.1
    have hend := hright.within
    have hthree : minCopy = 3 := rfl
    omega

/-- The blocks of a search stand for all bytes. -/
theorem run_covers {chain : Array Nat} (hchain : Backward chain) {fuel : Nat}
    (h : m.Searching bytes) (hfuel : bytes.size ≤ m.place + fuel) :
    Cover bytes 0 (m.run bytes chain fuel).blocks.toList bytes.size ∧
      (m.run bytes chain fuel).blocks.toList ≠ [] := by
  have hclose (m : Matcher) (h : m.Searching bytes) (hplace : bytes.size ≤ m.place) :
      Cover bytes 0 m.close.blocks.toList bytes.size ∧ m.close.blocks.toList ≠ [] := by
    have hcover := h.close.2
    rw [h.at_end hplace] at hcover
    refine ⟨hcover, ?_⟩
    rw [Matcher.close, Array.toList_push]
    exact List.append_ne_nil_of_right_ne_nil _ (List.cons_ne_nil _ _)
  -- every step moves on, so the fuel lasts up to the end
  induction fuel generalizing m with
  | zero => exact hclose m h hfuel
  | succ fuel ih =>
    rw [Matcher.run]
    by_cases hplace : m.place < bytes.size
    · obtain ⟨hstep, hmoves⟩ := step_searching hchain h hplace
      rw [if_pos hplace]
      dsimp only
      by_cases hfull : (m.step bytes chain).isFull = true
      · rw [if_pos hfull]
        have hstays : (m.step bytes chain).close.place = (m.step bytes chain).place := rfl
        exact ih hstep.close.1 (by omega)
      · rw [if_neg hfull]
        exact ih hstep (by omega)
    · rw [if_neg hplace]
      exact hclose m h (Nat.le_of_not_lt hplace)

/-- The blocks of some bytes stand for these bytes. -/
theorem ofBytes_covers (bytes : ByteArray) :
    Cover bytes 0 (ofBytes bytes).toList bytes.size ∧ (ofBytes bytes).toList ≠ [] := by
  have hstart : Searching bytes ⟨0, 0, none, #[], 0, 0, 1, #[]⟩ :=
    ⟨⟨.nil 0, fun p hp => absurd hp List.not_mem_nil, Nat.zero_le _, rfl⟩, .here rfl rfl,
      Nat.zero_le _⟩
  exact run_covers (chains_backward bytes) hstart (by omega)

end Matcher

/-- Compressed bytes are read back, up to their end. -/
theorem inflate_deflate (bytes : ByteArray) : inflate (deflate bytes) = (bytes, .complete) := by
  obtain ⟨hcover, hne⟩ := Matcher.ofBytes_covers bytes
  have hblocks := inflate_blocks hcover hne
  rw [Array.length_toList, Array.foldl_toList] at hblocks
  exact hblocks

end Playground.Deflate
