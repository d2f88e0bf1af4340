import Playground.Proofs.Deflate.Dynamic

/-!
# Blocks read back

A block says whether it is the last one and how it is coded, and goes on with fixed codes, with
codes of its own or with bytes as they are.  Whichever the writer chooses, the reader appends the
bytes that the block stands for: `Block.Covers` says which these are.
-/

namespace Playground.Deflate

/-! ### Fixed codes -/

/-- A symbol whose length is not zero has a code. -/
theorem hasCode_of_ne {lengths : Array Nat} {s : Nat} (h : lengths.toList.getD s 0 ≠ 0) :
    HasCode lengths s := by
  rw [List.getD_eq_getElem?_getD] at h
  cases hfound : lengths.toList[s]? with
  | none =>
    rw [hfound] at h
    exact absurd rfl h
  | some l =>
    rw [hfound, Option.getD_some] at h
    exact ⟨l - 1, by rw [hfound, Nat.sub_add_cancel (Nat.pos_of_ne_zero h)]⟩

theorem fixedLengths_readable : Readable fixedLengths 15 :=
  ⟨.full (by unfold Full; decide +kernel), by decide +kernel, Nat.le_refl _⟩

theorem fixedDistances_readable : Readable fixedDistances 15 :=
  ⟨.full (by unfold Full; decide +kernel), by decide +kernel, Nat.le_refl _⟩

theorem fixedLengths_hasCode {s : Nat} (hs : s < 288) : HasCode fixedLengths s := by
  have hall : ∀ s < 288, fixedLengths.toList.getD s 0 ≠ 0 := by decide +kernel
  exact hasCode_of_ne (hall s hs)

theorem fixedDistances_hasCode {s : Nat} (hs : s < 32) : HasCode fixedDistances s := by
  have hall : ∀ s < 32, fixedDistances.toList.getD s 0 ≠ 0 := by decide +kernel
  exact hasCode_of_ne (hall s hs)

/-- The fixed codes are codes for all pieces. -/
theorem fixed_coded {p : Piece} (hp : p.Valid) : p.Coded fixedLengths fixedDistances := by
  have hliteral := Nat.lt_trans (Piece.literalSymbol_lt hp) (by decide : 286 < 288)
  cases p with
  | literal byte => exact fixedLengths_hasCode hliteral
  | copy length distance =>
    have hdistance := Piece.distanceSymbols_lt hp _ (List.mem_singleton.2 rfl)
    exact ⟨fixedLengths_hasCode hliteral,
      fixedDistances_hasCode (Nat.lt_trans hdistance (by decide : 30 < 32))⟩

theorem endSymbol_fixed : HasCode fixedLengths endSymbol := fixedLengths_hasCode (by decide)

/-! ### Bytes as they are -/

namespace Bits

/-- The number of bits that were written. -/
theorem length_written (w : Bits) : w.written.length = 8 * w.bytes.size + w.count := by
  rw [written, List.length_append, length_byteBits, Bytes.length_toList, length_lowBits]

/-- Two whole bytes leave no bit to wait. -/
theorem put_count {w : Bits} (h : w.count = 0) (value : Nat) : (w.put value 16).count = 0 := by
  rw [put, h]
  rfl

/-- The bits of a block of bytes as they are, behind the bits that name it. -/
def storedBits (w : Bits) (bytes : ByteArray) : List Nat :=
  List.replicate (w.put 0 2).padding 0 ++ (lowBits 16 bytes.size ++
    (lowBits 16 (65535 - bytes.size) ++ byteBits bytes.data.toList))

/-- Bytes are written as they are. -/
theorem storedBlock_writes {w : Bits} (hw : w.Tidy) {bytes : ByteArray}
    (hsize : bytes.size < 65536) :
    w.Writes (lowBits 2 0 ++ w.storedBits bytes) (w.storedBlock bytes) := by
  have h₁ := put_writes hw (by decide : 0 < 2 ^ 2)
  obtain ⟨h₂, hcount₂⟩ := pad_writes h₁.tidy
  have h₃ := put_writes h₂.tidy (by omega : bytes.size < 2 ^ 16)
  have hcount₃ := put_count hcount₂ bytes.size
  have h₄ := put_writes h₃.tidy (by omega : 65535 - bytes.size < 2 ^ 16)
  have hcount₄ := put_count hcount₃ (65535 - bytes.size)
  have hall := h₁.trans (h₂.trans (h₃.trans h₄))
  rw [storedBlock, Nat.mod_eq_of_lt hsize]
  generalize ((w.put 0 2).pad.put bytes.size 16).put (65535 - bytes.size) 16 = w' at hall hcount₄ ⊢
  refine ⟨⟨hall.tidy.count_lt, hall.tidy.buffer_lt⟩, ?_⟩
  have hwritten : byteBits w'.bytes.data.toList = _ :=
    (written_of_count hcount₄).symm.trans hall.written
  rw [written_of_count (w := ⟨w'.bytes ++ bytes, w'.buffer, w'.count⟩) hcount₄,
    ByteArray.data_append, Array.toList_append, byteBits_append, hwritten, storedBits]
  simp only [List.append_assoc]

end Bits

/-- Bytes are read as they are. -/
theorem Inflater.storedBlock_reads {w : Bits} (hw : w.Tidy) {bytes : ByteArray}
    (hsize : bytes.size < 65536) {out : ByteArray} :
    Reads storedBlock (w.written ++ lowBits 2 0) out (w.storedBits bytes) () (out ++ bytes) := by
  have hput := Bits.put_writes hw (by decide : 0 < 2 ^ 2)
  have hlength := congrArg List.length hput.written
  rw [Bits.length_written] at hlength
  -- the length starts at the next whole byte
  have hpadding : (w.put 0 2).padding < 8 ∧
      ((w.written ++ lowBits 2 0).length + (w.put 0 2).padding) % 8 = 0 := by
    have hlt := hput.tidy.count_lt
    rw [← hlength, Bits.padding]
    by_cases hcount : (w.put 0 2).count = 0
    · rw [if_pos hcount]
      omega
    · rw [if_neg hcount]
      omega
  have hraw (before : List Nat) :
      Reads (rawBytes bytes.size) before out (byteBits bytes.data.toList) () (out ++ bytes) := by
    have hout : (⟨⟨out.data.toList ++ bytes.data.toList⟩⟩ : ByteArray) = out ++ bytes := by
      refine Bytes.ext_toList ?_
      rw [ByteArray.data_append, Array.toList_append]
    rw [← hout, ← Bytes.length_toList bytes]
    exact reads_rawBytes bytes.data.toList
  rw [storedBlock, Bits.storedBits]
  refine (reads_align hpadding.1 hpadding.2).bind ?_
  refine (reads_bits (by omega : bytes.size < 2 ^ 16)).bind ?_
  refine (reads_bits (by omega : 65535 - bytes.size < 2 ^ 16)).bind ?_
  dsimp only
  rw [if_neg (by omega)]
  exact hraw _

/-! ### A block -/

/-- A block stands for the bytes from its start on, so many as its size. -/
structure Block.Covers (bytes : ByteArray) (b : Block) : Prop where
  valid : ∀ p ∈ b.pieces.toList, p.Valid
  within : b.start + b.size ≤ bytes.size
  expands : b.pieces.toList.foldl Piece.expand (bytes.extract 0 b.start) =
    bytes.extract 0 (b.start + b.size)
  storable : b.storable = true → b.size < 65536

/-- A block that stands for bytes has pieces. -/
theorem Block.Covers.pieces_ne {bytes : ByteArray} {b : Block} (h : b.Covers bytes)
    (hsize : b.size ≠ 0) : b.pieces.toList ≠ [] := by
  intro hnone
  have hexpands := congrArg ByteArray.size h.expands
  have hwithin := h.within
  rw [hnone, List.foldl_nil, ByteArray.size_extract, ByteArray.size_extract] at hexpands
  omega

namespace Inflater

/-- The block of a kind. -/
def blockOf : Nat → Inflater Unit
  | 0 => storedBlock
  | 1 => left >>= fun n =>
      pieces (.ofLengths fixedLengths.toList) (.ofLengths fixedDistances.toList) (n + 1)
  | 2 => dynamicBlock
  | _ => throw .corrupt

/-- A block is read for its kind, and the next one unless it was the last. -/
theorem blocks_succ (fuel : Nat) :
    blocks (fuel + 1) = bit >>= fun isLast => bits 2 >>= fun kind =>
      blockOf kind >>= fun _ => if isLast = 1 then pure () else blocks fuel := by
  rw [blocks]
  refine bind_congr fun isLast => bind_congr fun kind => ?_
  match kind with
  | 0 => rfl
  | 1 => exact (bind_assoc ..).symm
  | 2 => rfl
  | _ + 3 => rfl

end Inflater

/-- The pieces of a block are read back, with fixed codes or with codes of its own. -/
theorem Bits.coded_reads {bytes : ByteArray} {b : Block} (hb : b.Covers bytes) {w : Bits}
    (hw : w.Tidy) :
    ∃ kind body, kind < 2 ^ 2 ∧
      w.Writes (lowBits 2 kind ++ body)
        (if b.size < 48 then w.fixedBlock b.pieces else w.dynamicBlock b.pieces) ∧
      ∀ before, Inflater.Reads (Inflater.blockOf kind) before (bytes.extract 0 b.start) body ()
        (bytes.extract 0 (b.start + b.size)) := by
  rw [← hb.expands]
  -- a small block goes with the fixed codes, and a larger one brings its own
  by_cases hsmall : b.size < 48
  · have hps : ∀ p ∈ b.pieces.toList, p.Valid ∧ p.Coded fixedLengths fixedDistances :=
      fun p hp => ⟨hb.valid p hp, fixed_coded (hb.valid p hp)⟩
    have hkind := Bits.put_writes hw (by decide : 1 < 2 ^ 2)
    have hpieces := Bits.pieces_writes fixedLengths_readable fixedDistances_readable hkind.tidy hps
      endSymbol_fixed
    rw [if_pos hsmall]
    refine ⟨1, _, by decide, hkind.trans hpieces, fun before => ?_⟩
    refine Inflater.reads_left fun n hn => ?_
    exact Inflater.pieces_reads fixedLengths_readable fixedDistances_readable hps endSymbol_fixed
      (by omega)
  · have hne := hb.pieces_ne (by omega)
    rw [if_neg hsmall]
    exact ⟨2, _, by decide, Bits.dynamicBlock_writes hb.valid hne hw,
      fun before => Inflater.dynamicBlock_reads hb.valid hne⟩

/-- A block is read back, whichever way it was written. -/
theorem Bits.block_reads {bytes : ByteArray} {b : Block} (hb : b.Covers bytes) (isLast : Bool)
    {w : Bits} (hw : w.Tidy) :
    ∃ kind body, kind < 2 ^ 2 ∧
      w.Writes ([isLast.toNat] ++ (lowBits 2 kind ++ body)) (w.block bytes b isLast) ∧
      Inflater.Reads (Inflater.blockOf kind) (w.written ++ [isLast.toNat] ++ lowBits 2 kind)
        (bytes.extract 0 b.start) body () (bytes.extract 0 (b.start + b.size)) := by
  have hlast : w.Writes [isLast.toNat] (w.put isLast.toNat 1) := by
    cases isLast
    · exact Bits.put_writes hw (by decide : 0 < 2 ^ 1)
    · exact Bits.put_writes hw (by decide : 1 < 2 ^ 1)
  obtain ⟨kind, body, hkind, hwrites, hreads⟩ := Bits.coded_reads hb hlast.tidy
  -- stored bytes are taken if that is shorter; otherwise the codes, whichever they are
  rw [Bits.block]
  generalize (if b.size < 48 then (w.put isLast.toNat 1).fixedBlock b.pieces
    else (w.put isLast.toNat 1).dynamicBlock b.pieces) = coded at hwrites ⊢
  split
  · rename_i hstored
    rw [Bool.and_eq_true] at hstored
    have hsize := hb.storable hstored.2
    have hwithin := hb.within
    have hstored : (bytes.extract b.start (b.start + b.size)).size < 65536 := by
      rw [ByteArray.size_extract]
      omega
    have hstands : bytes.extract 0 (b.start + b.size) =
        bytes.extract 0 b.start ++ bytes.extract b.start (b.start + b.size) :=
      ByteArray.extract_eq_extract_append_extract b.start (Nat.zero_le _) (Nat.le_add_right _ _)
    rw [hstands, ← hlast.written]
    exact ⟨0, _, by decide, hlast.trans (Bits.storedBlock_writes hlast.tidy hstored),
      Inflater.storedBlock_reads hlast.tidy hstored⟩
  · exact ⟨kind, body, hkind, hlast.trans hwrites, hreads _⟩

/-! ### All blocks -/

/-- Blocks stand for the bytes from one place to another, each from where the one before it ends. -/
inductive Cover (bytes : ByteArray) : Nat → List Block → Nat → Prop where
  | nil (n : Nat) : Cover bytes n [] n
  | cons {b : Block} {bs : List Block} {n : Nat} (hb : b.Covers bytes)
      (h : Cover bytes (b.start + b.size) bs n) : Cover bytes b.start (b :: bs) n

namespace Cover

variable {bytes : ByteArray} {l m n : Nat} {bs : List Block}

/-- Another block at the end. -/
theorem concat (h : Cover bytes m bs n) {b : Block} (hb : b.Covers bytes) (hstart : b.start = n) :
    Cover bytes m (bs ++ [b]) (n + b.size) := by
  induction h with
  | nil n =>
    subst hstart
    exact .cons hb (.nil _)
  | cons hc _ ih => exact .cons hc (ih hstart)

end Cover

/-- Appends the next block; the last one is told by its number. -/
def Bits.next (bytes : ByteArray) (count : Nat) (state : Bits × Nat) (b : Block) : Bits × Nat :=
  (state.1.block bytes b (state.2 + 1 = count), state.2 + 1)

/-- Blocks are read back up to the last one. -/
theorem Bits.blocks_reads {bytes : ByteArray} {m n : Nat} {bs : List Block}
    (h : Cover bytes m bs n) (hne : bs ≠ []) {w : Bits} (hw : w.Tidy) {i count : Nat}
    (hcount : i + bs.length = count) :
    ∃ bits, w.Writes bits (bs.foldl (Bits.next bytes count) (w, i)).1 ∧
      bs.length ≤ bits.length ∧ ∀ fuel, bs.length ≤ fuel →
        Inflater.Reads (Inflater.blocks fuel) w.written (bytes.extract 0 m) bits ()
          (bytes.extract 0 n) := by
  induction h generalizing w i with
  | nil n => exact absurd rfl hne
  | @cons b bs n hb h ih =>
    rw [List.length_cons] at hcount ⊢
    obtain ⟨kind, body, hkind, hwrites, hreads⟩ := Bits.block_reads hb (i + 1 = count) hw
    rw [List.foldl_cons]
    -- the first bit of a block tells the reader whether to go on
    by_cases hlast : i + 1 = count
    · obtain rfl : bs = [] := List.length_eq_zero_iff.1 (by omega)
      generalize b.start + b.size = k at h hreads
      cases h
      refine ⟨_, hwrites, ?_, fun fuel hfuel => ?_⟩
      · rw [List.length_append]
        exact Nat.le_add_right 1 _
      · obtain ⟨fuel, rfl⟩ := Nat.exists_eq_succ_of_ne_zero (Nat.ne_zero_of_lt hfuel)
        rw [Inflater.blocks_succ]
        refine (Inflater.reads_bit _).bind ((Inflater.reads_bits hkind).bind (hreads.bind_last ?_))
        rw [if_pos (by rw [decide_eq_true hlast]; rfl)]
        exact Inflater.reads_pure
    · have hrest : bs ≠ [] := fun hnil => hlast (by rw [hnil, List.length_nil] at hcount; omega)
      obtain ⟨bits, hwrites', hlength, hreads'⟩ := ih hrest hwrites.tidy
        (by omega : i + 1 + bs.length = count)
      refine ⟨_, hwrites.trans hwrites', ?_, fun fuel hfuel => ?_⟩
      · rw [List.length_append, List.length_append, List.length_singleton]
        omega
      · obtain ⟨fuel, rfl⟩ := Nat.exists_eq_succ_of_ne_zero (Nat.ne_zero_of_lt hfuel)
        have hnext := hreads' fuel (by omega)
        rw [hwrites.written] at hnext
        rw [Inflater.blocks_succ, List.append_assoc, List.append_assoc]
        refine (Inflater.reads_bit _).bind ((Inflater.reads_bits hkind).bind (hreads.bind ?_))
        rw [if_neg (by rw [decide_eq_false hlast]; decide)]
        simpa only [List.append_assoc] using hnext

/-- Blocks that stand for all bytes are compressed to data that is read back as these bytes. -/
theorem inflate_blocks {bytes : ByteArray} {bs : List Block} (h : Cover bytes 0 bs bytes.size)
    (hne : bs ≠ []) :
    inflate (bs.foldl (Bits.next bytes bs.length) (Bits.empty, 0)).1.pad.bytes =
      (bytes, .complete) := by
  have hempty : Bits.empty.Tidy := ⟨by decide, by decide⟩
  obtain ⟨bits, hwrites, hlength, hreads⟩ := Bits.blocks_reads h hne hempty (Nat.zero_add bs.length)
  obtain ⟨hpad, hcount⟩ := Bits.pad_writes hwrites.tidy
  have hall := hwrites.trans hpad
  generalize (bs.foldl (Bits.next bytes bs.length) (Bits.empty, 0)).1 = w at hpad hcount hall ⊢
  have hdata : byteBits w.pad.bytes.data.toList = [] ++ bits ++ List.replicate w.padding 0 := by
    rw [← Bits.written_of_count hcount, hall.written]
    rfl
  have hsize := congrArg List.length hdata
  rw [length_byteBits, Bytes.length_toList, List.length_append, List.nil_append] at hsize
  have hrun := hreads (8 * w.pad.bytes.size + 1) (by omega) w.pad.bytes _ hdata
  rw [ByteArray.extract_same, ByteArray.extract_zero_size] at hrun
  rw [show Bits.empty.written = [] from rfl, List.length_nil] at hrun
  rw [inflate, hrun]

end Playground.Deflate
