import Playground.Proofs.Deflate.Lengths

/-!
# Pieces read back

Lengths and distances are split into a symbol and extra bits, and put together again.  A piece is
written as the codes of its symbols with their extra bits; the reader takes them for the bytes that
the piece stands for, `Piece.expand`.
-/

namespace Playground.Deflate

/-! ### Symbols of lengths and distances -/

/-- In a rising list, the bases that are not above a value come first. -/
theorem rising_le_iff {bases : List Nat} (hrising : bases.Pairwise (· < ·)) (v : Nat) {i base : Nat}
    (h : bases[i]? = some base) : base ≤ v ↔ i < bases.countP (· ≤ v) := by
  induction bases generalizing i with
  | nil => cases h
  | cons x bases ih =>
    rw [List.pairwise_cons] at hrising
    obtain ⟨hx, hrest⟩ := hrising
    rw [List.countP_cons]
    by_cases hv : x ≤ v
    · rw [if_pos (decide_eq_true hv)]
      cases i with
      | zero =>
        obtain rfl : x = base := Option.some.inj h
        exact ⟨fun _ => Nat.succ_pos _, fun _ => hv⟩
      | succ i =>
        rw [ih hrest h, Nat.succ_lt_succ_iff]
    · -- all bases that follow are larger still
      have hnone : bases.countP (· ≤ v) = 0 := by
        rw [List.countP_eq_zero]
        intro y hy hle
        have hlt := hx y hy
        have hle := of_decide_eq_true hle
        omega
      have hbase : x ≤ base := by
        cases i with
        | zero => exact Nat.le_of_eq (Option.some.inj h)
        | succ i => exact Nat.le_of_lt (hx base (List.mem_of_getElem? h))
      rw [if_neg (by simpa using hv), hnone]
      omega

/-- The place of a value is that of the last base that is not above it. -/
theorem placeIn_spec {bases : List Nat} (hrising : bases.Pairwise (· < ·)) {first v : Nat}
    (hfirst : bases[0]? = some first) (hv : first ≤ v) :
    ∃ base, bases[placeIn bases v]? = some base ∧ base ≤ v ∧
      ∀ next, bases[placeIn bases v + 1]? = some next → v < next := by
  have hpos := (rising_le_iff hrising v hfirst).1 hv
  have hle : bases.countP (· ≤ v) ≤ bases.length := List.countP_le_length
  have hplace : placeIn bases v + 1 = bases.countP (· ≤ v) := Nat.sub_add_cancel hpos
  have hlt : placeIn bases v < bases.length := by omega
  refine ⟨bases[placeIn bases v], List.getElem?_eq_getElem hlt, ?_, fun next hnext => ?_⟩
  · rw [rising_le_iff hrising v (List.getElem?_eq_getElem hlt)]
    omega
  · rw [← Nat.not_le, rising_le_iff hrising v hnext]
    omega

theorem getD_of_getElem? {xs : List Nat} {i x : Nat} (h : xs[i]? = some x) : xs.getD i 0 = x := by
  rw [List.getD_eq_getElem?_getD, h, Option.getD_some]

/-- The length of a copy is that of its symbol and its extra bits. -/
theorem lengthSymbol_spec {length : Nat} (hleast : minCopy ≤ length) (hmost : length ≤ maxCopy) :
    ∃ i base, lengthSymbol length = (257 + i, lengthExtras.getD i 0, length - base) ∧ i < 29 ∧
      lengthBases[i]? = some base ∧ base ≤ length ∧ length - base < 2 ^ lengthExtras.getD i 0 := by
  have hall : ∀ length < 259, 3 ≤ length → (lengthSymbol length).1 - 257 < 29 ∧
      257 ≤ (lengthSymbol length).1 ∧
      (lengthSymbol length).2.1 = lengthExtras.getD ((lengthSymbol length).1 - 257) 0 ∧
      (lengthSymbol length).2.2 = length - lengthBases.getD ((lengthSymbol length).1 - 257) 0 ∧
      lengthBases.getD ((lengthSymbol length).1 - 257) 0 ≤ length ∧
      (lengthSymbol length).2.2 < 2 ^ (lengthSymbol length).2.1 := by decide +kernel
  obtain ⟨hi, hsymbol, hwidth, hvalue, hbase, hfits⟩ :=
    hall length (Nat.lt_succ_of_le hmost) hleast
  generalize lengthSymbol length = split at *
  obtain ⟨s, width, value⟩ := split
  dsimp only at hi hsymbol hwidth hvalue hbase hfits
  obtain ⟨base, hget⟩ : ∃ base, lengthBases[s - 257]? = some base :=
    ⟨_, List.getElem?_eq_getElem hi⟩
  rw [getD_of_getElem? hget] at hvalue hbase
  refine ⟨s - 257, base, ?_, hi, hget, hbase, ?_⟩
  · rw [← hwidth, ← hvalue, Nat.add_sub_cancel' hsymbol]
  · rwa [← hwidth, ← hvalue]

/-- The distance of a copy is that of its symbol and its extra bits. -/
theorem distanceSymbol_spec {distance : Nat} (hleast : 1 ≤ distance)
    (hmost : distance ≤ windowSize) :
    ∃ i base, distanceSymbol distance = (i, distanceExtras.getD i 0, distance - base) ∧ i < 30 ∧
      distanceBases[i]? = some base ∧ base ≤ distance ∧
      distance - base < 2 ^ distanceExtras.getD i 0 := by
  have hrising : distanceBases.Pairwise (· < ·) := by decide
  obtain ⟨base, hbase, hle, hnext⟩ := placeIn_spec hrising rfl hleast
  have hi : placeIn distanceBases distance < 30 := (List.getElem?_eq_some_iff.1 hbase).1
  refine ⟨placeIn distanceBases distance, base, ?_, hi, hbase, hle, ?_⟩
  · rw [distanceSymbol, getD_of_getElem? hbase]
  · -- the extra bits reach up to the next base, and those of the last one to the end of the window
    have hreach : ∀ i < 30, distanceBases.getD i 0 + 2 ^ distanceExtras.getD i 0 =
        (distanceBases[i + 1]?).getD (windowSize + 1) := by decide
    have hend := hreach _ hi
    rw [getD_of_getElem? hbase] at hend
    cases hafter : distanceBases[placeIn distanceBases distance + 1]? with
    | none =>
      rw [hafter, Option.getD_none] at hend
      omega
    | some next =>
      have hlt := hnext next hafter
      rw [hafter, Option.getD_some] at hend
      omega

/-! ### Pieces -/

/-- A symbol has a code. -/
def HasCode (lengths : Array Nat) (s : Nat) : Prop := ∃ l, lengths.toList[s]? = some (l + 1)

/-- Lengths of codes, up to a limit, that a reader accepts. -/
structure Readable (lengths : Array Nat) (limit : Nat) : Prop where
  usable : Usable lengths.toList
  bound : ∀ l ∈ lengths.toList, l ≤ limit
  limit_le : limit ≤ 15

namespace Readable

variable {lengths : Array Nat} {limit : Nat} (h : Readable lengths limit) {s : Nat}
  (hs : HasCode lengths s)
include h hs

theorem symbol_writes {w : Bits} (hw : w.Tidy) :
    w.Writes ((Coding.ofLengths lengths limit).bits s) (w.symbol (Coding.ofLengths lengths limit) s) := by
  obtain ⟨l, hl⟩ := hs
  exact Bits.symbol_writes hw h.bound hl

theorem symbol_reads {before : List Nat} {out : ByteArray} :
    Inflater.Reads (Inflater.symbol (.ofLengths lengths.toList)) before out
      ((Coding.ofLengths lengths limit).bits s) s out := by
  obtain ⟨l, hl⟩ := hs
  exact h.usable.symbol_reads h.limit_le h.bound hl

/-- No code is empty. -/
theorem length_bits_pos : 0 < ((Coding.ofLengths lengths limit).bits s).length := by
  obtain ⟨l, hl⟩ := hs
  rw [bits_ofLengths h.bound hl, codeBits, List.length_reverse, length_lowBits]
  exact Nat.succ_pos l

end Readable

namespace Piece

/-- A copy is of a length and from a distance that have a symbol. -/
def Valid : Piece → Prop
  | literal _ => True
  | copy length distance =>
    (minCopy ≤ length ∧ length ≤ maxCopy) ∧ 1 ≤ distance ∧ distance ≤ windowSize

/-- The symbols of a piece have codes. -/
def Coded (literals distances : Array Nat) : Piece → Prop
  | literal byte => HasCode literals byte.toNat
  | copy length distance =>
    HasCode literals (lengthSymbol length).1 ∧ HasCode distances (distanceSymbol distance).1

/-- The bits of a piece. -/
def bits (literals distances : Coding) : Piece → List Nat
  | literal byte => literals.bits byte.toNat
  | copy length distance =>
    literals.bits (lengthSymbol length).1 ++
      lowBits (lengthSymbol length).2.1 (lengthSymbol length).2.2 ++
      (distances.bits (distanceSymbol distance).1 ++
        lowBits (distanceSymbol distance).2.1 (distanceSymbol distance).2.2)

/-- The output with the bytes of a piece. -/
def expand (out : ByteArray) : Piece → ByteArray
  | literal byte => out.push byte
  | copy length distance => Inflater.copyBack distance length out

end Piece

/-- The bits of pieces, and of the end of their block. -/
def blockBits (literals distances : Array Nat) (ps : List Piece) : List Nat :=
  ps.flatMap (Piece.bits (.ofLengths literals 15) (.ofLengths distances 15)) ++
    (Coding.ofLengths literals 15).bits endSymbol

section Pieces

variable {literals distances : Array Nat} (hl : Readable literals 15) (hd : Readable distances 15)
include hl hd

/-- A piece is written as its bits. -/
theorem Bits.piece_writes {w : Bits} (hw : w.Tidy) {p : Piece} (hp : p.Valid)
    (hc : p.Coded literals distances) :
    w.Writes (p.bits (.ofLengths literals 15) (.ofLengths distances 15))
      (w.piece (.ofLengths literals 15) (.ofLengths distances 15) p) := by
  cases p with
  | literal byte => exact hl.symbol_writes hc hw
  | copy length distance =>
    obtain ⟨⟨hleast, hmost⟩, hnear, hfar⟩ := hp
    obtain ⟨i, base, hlength, _, _, _, hfits⟩ := lengthSymbol_spec hleast hmost
    obtain ⟨j, base', hdistance, _, _, _, hfits'⟩ := distanceSymbol_spec hnear hfar
    obtain ⟨hcl, hcd⟩ := hc
    rw [hlength] at hcl
    rw [hdistance] at hcd
    simp only [Bits.piece, Piece.bits, hlength, hdistance]
    have h₁ := hl.symbol_writes hcl hw
    have h₂ := Bits.put_writes h₁.tidy hfits
    have h₃ := hd.symbol_writes hcd h₂.tidy
    have h₄ := Bits.put_writes h₃.tidy hfits'
    exact (h₁.trans h₂).trans (h₃.trans h₄)

/-- Pieces are written one after the other, and then the end of the block. -/
theorem Bits.pieces_writes {w : Bits} (hw : w.Tidy) {ps : List Piece}
    (hps : ∀ p ∈ ps, p.Valid ∧ p.Coded literals distances) (hend : HasCode literals endSymbol) :
    w.Writes (blockBits literals distances ps)
      (w.pieces (.ofLengths literals 15) (.ofLengths distances 15) ps.toArray) := by
  have hpieces := Bits.foldl_writes (fun p hp w hw =>
    Bits.piece_writes hl hd hw (hps p hp).1 (hps p hp).2) hw
  rw [Bits.pieces, List.foldl_toArray]
  exact hpieces.trans (hl.symbol_writes hend hpieces.tidy)

omit hd in
/-- No piece is without bits. -/
theorem Piece.length_bits_pos {p : Piece} (hc : p.Coded literals distances) (distances' : Coding) :
    0 < (p.bits (.ofLengths literals 15) distances').length := by
  cases p with
  | literal byte => exact hl.length_bits_pos hc
  | copy length distance =>
    have hpos := hl.length_bits_pos hc.1
    rw [Piece.bits, List.length_append, List.length_append]
    omega

namespace Inflater

variable {n : Nat} {more before : List Nat} {out out' : ByteArray}

omit hd in
/-- A byte is read, and then what follows. -/
theorem pieces_literal {distances : Table} {byte : UInt8} (hc : HasCode literals byte.toNat)
    (hnext : ∀ before,
      Reads (pieces (.ofLengths literals.toList) distances n) before (out.push byte) more () out') :
    Reads (pieces (.ofLengths literals.toList) distances (n + 1)) before out
      ((Coding.ofLengths literals 15).bits byte.toNat ++ more) () out' := by
  have hbyte : byte.toNat < endSymbol := byte.toNat_lt
  refine (hl.symbol_reads hc).bind ?_
  rw [if_pos hbyte]
  refine (reads_emit _).bind_nil ?_
  rw [UInt8.ofNat_toNat]
  exact hnext _

/-- A copy is read as the symbols of its length and of its distance, each with its extra bits, and
then what follows. -/
theorem pieces_copy {length distance : Nat} (hp : (Piece.copy length distance).Valid)
    (hc : (Piece.copy length distance).Coded literals distances)
    (hnext : ∀ before,
      Reads (pieces (.ofLengths literals.toList) (.ofLengths distances.toList) n) before
        (copyBack distance length out) more () out') :
    Reads (pieces (.ofLengths literals.toList) (.ofLengths distances.toList) (n + 1)) before out
      ((Piece.copy length distance).bits (.ofLengths literals 15) (.ofLengths distances 15) ++ more)
      () out' := by
  obtain ⟨⟨hleast, hmost⟩, hnear, hfar⟩ := hp
  obtain ⟨i, base, hlength, hi, hbase, hle, hfits⟩ := lengthSymbol_spec hleast hmost
  obtain ⟨j, base', hdistance, hj, hbase', hle', hfits'⟩ := distanceSymbol_spec hnear hfar
  obtain ⟨hcl, hcd⟩ := hc
  rw [Piece.bits]
  rw [hlength] at hcl ⊢
  rw [hdistance] at hcd ⊢
  rw [List.append_assoc, List.append_assoc, List.append_assoc]
  -- the length
  refine (hl.symbol_reads hcl).bind ?_
  rw [if_neg (by rw [endSymbol]; omega), if_neg (by rw [endSymbol]; omega),
    Nat.add_sub_cancel_left, hbase]
  refine (reads_bits hfits).bind ?_
  -- the distance
  refine (hd.symbol_reads hcd).bind ?_
  rw [hbase']
  refine (reads_bits hfits').bind ?_
  rw [Nat.add_sub_cancel' hle, Nat.add_sub_cancel' hle']
  exact (reads_emit _).bind_nil (hnext _)

/-- Pieces are read back up to the end of the block. -/
theorem pieces_reads {ps : List Piece} (hps : ∀ p ∈ ps, p.Valid ∧ p.Coded literals distances)
    (hend : HasCode literals endSymbol) {n : Nat} {before : List Nat} {out : ByteArray}
    (hn : (blockBits literals distances ps).length ≤ n) :
    Reads (pieces (.ofLengths literals.toList) (.ofLengths distances.toList) n) before out
      (blockBits literals distances ps) () (ps.foldl Piece.expand out) := by
  rw [blockBits] at hn ⊢
  -- each piece takes a bit at least, so the fuel lasts
  induction ps generalizing n before out with
  | nil =>
    have hpos := hl.length_bits_pos hend
    rw [List.flatMap_nil, List.nil_append] at hn ⊢
    obtain ⟨n, rfl⟩ := Nat.exists_eq_succ_of_ne_zero (by omega : n ≠ 0)
    refine (hl.symbol_reads hend).bind_last ?_
    rw [if_neg (Nat.lt_irrefl _), if_pos rfl]
    exact reads_pure
  | cons p ps ih =>
    obtain ⟨hp, hc⟩ := hps p List.mem_cons_self
    have hrest := fun q hq => hps q (List.mem_cons_of_mem p hq)
    have hpos := Piece.length_bits_pos hl hc (.ofLengths distances 15)
    rw [List.flatMap_cons, List.append_assoc] at hn ⊢
    rw [List.length_append] at hn
    obtain ⟨n, rfl⟩ := Nat.exists_eq_succ_of_ne_zero (by omega : n ≠ 0)
    cases p with
    | literal byte => exact pieces_literal hl hc fun _ => ih hrest (by omega)
    | copy length distance => exact pieces_copy hl hd hp hc fun _ => ih hrest (by omega)

end Inflater

end Pieces

end Playground.Deflate
