import Mathlib.Algebra.GroupWithZero.Nat
import Playground.Deflate.Encode
import Playground.Deflate.Inflate
import Playground.Proofs.Bytes

/-!
# Bits written and bits read

A writer stands for the list of the bits that were written, `Bits.written`; what is appended to it
is said by `Bits.Writes`.  A reader that stands behind some bits takes the bits that follow:
`Inflater.Reads m before out bits a out'` says that behind `before`, with the output `out`, the
reader `m` takes `bits`, gives `a` and leaves the output `out'`.  So a reader undoes a writer as
soon as it takes what the writer appends.
-/

namespace Playground.Deflate

/-! ### Numbers as bits -/

/-- The lowest bits of a number, the lowest first. -/
def lowBits : Nat → Nat → List Nat
  | 0, _ => []
  | n + 1, value => value % 2 :: lowBits n (value / 2)

@[simp] theorem length_lowBits (n value : Nat) : (lowBits n value).length = n := by
  induction n generalizing value with
  | zero => rfl
  | succ n ih => rw [lowBits, List.length_cons, ih]

/-- A number of several bits falls into its lower and its higher bits. -/
theorem lowBits_add (m n value : Nat) :
    lowBits (m + n) value = lowBits m value ++ lowBits n (value / 2 ^ m) := by
  induction m generalizing value with
  | zero => rw [Nat.zero_add, Nat.pow_zero, Nat.div_one, lowBits, List.nil_append]
  | succ m ih =>
    have hdiv : value / 2 / 2 ^ m = value / 2 ^ (m + 1) := by
      rw [Nat.div_div_eq_div_mul, Nat.pow_succ, Nat.mul_comm]
    rw [Nat.succ_add, lowBits, ih, lowBits, List.cons_append, hdiv]

/-- Bits above the lowest ones make no difference. -/
theorem lowBits_add_mul (m low high : Nat) : lowBits m (low + high * 2 ^ m) = lowBits m low := by
  induction m generalizing low high with
  | zero => rfl
  | succ m ih =>
    have hpow : high * 2 ^ (m + 1) = 2 * (high * 2 ^ m) := by
      rw [Nat.pow_succ]
      ac_rfl
    have hmod : (low + high * 2 ^ (m + 1)) % 2 = low % 2 := by omega
    have hdiv : (low + high * 2 ^ (m + 1)) / 2 = low / 2 + high * 2 ^ m := by omega
    rw [lowBits, lowBits, hmod, hdiv, ih]

/-- A number above another one appends its bits. -/
theorem lowBits_shiftLeft {m low : Nat} (h : low < 2 ^ m) (n high : Nat) :
    lowBits (m + n) (low + (high <<< m)) = lowBits m low ++ lowBits n high := by
  have hdiv : (low + high * 2 ^ m) / 2 ^ m = high := by
    rw [Nat.add_mul_div_right _ _ (Nat.two_pow_pos m), Nat.div_eq_of_lt h, Nat.zero_add]
  rw [Nat.shiftLeft_eq, lowBits_add, lowBits_add_mul, hdiv]

/-- The bit at a place. -/
theorem lowBits_getElem? (n value i : Nat) :
    (lowBits n value)[i]? = if i < n then some ((value >>> i) % 2) else none := by
  induction n generalizing value i with
  | zero => rfl
  | succ n ih =>
    cases i with
    | zero => rfl
    | succ i =>
      have hshift : (value / 2) >>> i = value >>> (i + 1) := by
        rw [Nat.shiftRight_eq_div_pow, Nat.shiftRight_eq_div_pow, Nat.div_div_eq_div_mul,
          Nat.pow_succ, Nat.mul_comm]
      rw [lowBits, List.getElem?_cons_succ, ih, hshift]
      by_cases hi : i < n
      · rw [if_pos hi, if_pos (Nat.succ_lt_succ hi)]
      · rw [if_neg hi, if_neg (fun hlt => hi (Nat.lt_of_succ_lt_succ hlt))]

/-- No number but zero has only zeros. -/
theorem lowBits_zero (n : Nat) : lowBits n 0 = List.replicate n 0 := by
  induction n with
  | zero => rfl
  | succ n ih => rw [lowBits, Nat.zero_mod, Nat.zero_div, ih, List.replicate_succ]

/-- The bits of some bytes. -/
def byteBits (bytes : List UInt8) : List Nat := bytes.flatMap fun b => lowBits 8 b.toNat

@[simp] theorem byteBits_cons (b : UInt8) (bytes : List UInt8) :
    byteBits (b :: bytes) = lowBits 8 b.toNat ++ byteBits bytes := List.flatMap_cons

theorem byteBits_append (a b : List UInt8) : byteBits (a ++ b) = byteBits a ++ byteBits b :=
  List.flatMap_append

theorem byteBits_push (bytes : ByteArray) (b : UInt8) :
    byteBits (bytes.push b).data.toList = byteBits bytes.data.toList ++ lowBits 8 b.toNat := by
  rw [ByteArray.data_push, Array.toList_push, byteBits_append, byteBits_cons]
  show _ ++ (_ ++ []) = _
  rw [List.append_nil]

@[simp] theorem length_byteBits (bytes : List UInt8) : (byteBits bytes).length = 8 * bytes.length := by
  induction bytes with
  | nil => rfl
  | cons b bytes ih =>
    rw [byteBits_cons, List.length_append, length_lowBits, ih, List.length_cons]
    omega

/-- The bit at a place is one of the byte that stands there. -/
theorem byteBits_getElem? (bytes : List UInt8) (i : Nat) :
    (byteBits bytes)[i]? = bytes[i / 8]?.map fun b => (b.toNat >>> (i % 8)) % 2 := by
  induction bytes generalizing i with
  | nil => rfl
  | cons b bytes ih =>
    rw [byteBits_cons]
    by_cases hi : i < 8
    · have hdiv : i / 8 = 0 := by omega
      have hmod : i % 8 = i := by omega
      rw [List.getElem?_append_left (by rwa [length_lowBits]), lowBits_getElem?, if_pos hi, hdiv,
        hmod]
      rfl
    · have hdiv : i / 8 = (i - 8) / 8 + 1 := by omega
      have hmod : i % 8 = (i - 8) % 8 := by omega
      rw [List.getElem?_append_right (by rw [length_lowBits]; omega), length_lowBits, ih, hdiv,
        hmod, List.getElem?_cons_succ]

/-! ### Writers -/

namespace Bits

/-- All bits that were written. -/
def written (w : Bits) : List Nat := byteBits w.bytes.data.toList ++ lowBits w.count w.buffer

/-- Fewer than eight bits wait for their byte, and nothing stands above them. -/
structure Tidy (w : Bits) : Prop where
  count_lt : w.count < 8
  buffer_lt : w.buffer < 2 ^ w.count

/-- From one writer to another, some bits are appended. -/
structure Writes (w : Bits) (bits : List Nat) (w' : Bits) : Prop where
  tidy : w'.Tidy
  written : w'.written = w.written ++ bits

theorem Writes.trans {w w' w'' : Bits} {a b : List Nat} (h : Writes w a w') (k : Writes w' b w'') :
    Writes w (a ++ b) w'' :=
  ⟨k.tidy, by rw [k.written, h.written, List.append_assoc]⟩

theorem Writes.refl {w : Bits} (h : w.Tidy) : Writes w [] w := ⟨h, (List.append_nil _).symm⟩

/-- Items are written one after the other. -/
theorem foldl_writes {α : Type} {f : Bits → α → Bits} {g : α → List Nat} {xs : List α}
    (h : ∀ x ∈ xs, ∀ w : Bits, w.Tidy → w.Writes (g x) (f w x)) {w : Bits} (hw : w.Tidy) :
    w.Writes (xs.flatMap g) (xs.foldl f w) := by
  induction xs generalizing w with
  | nil => exact .refl hw
  | cons x xs ih =>
    have hfirst := h x List.mem_cons_self w hw
    rw [List.flatMap_cons, List.foldl_cons]
    exact hfirst.trans (ih (fun y hy => h y (List.mem_cons_of_mem x hy)) hfirst.tidy)

/-- Moving whole bytes out of the buffer changes no bit. -/
theorem settle_written (fuel : Nat) (bytes : ByteArray) (buffer count : Nat)
    (hfuel : count < 8 * (fuel + 1)) (hbuffer : buffer < 2 ^ count) :
    (settle fuel bytes buffer count).Tidy ∧ (settle fuel bytes buffer count).written =
      byteBits bytes.data.toList ++ lowBits count buffer := by
  induction fuel generalizing bytes buffer count with
  | zero =>
    have hcount : count < 8 := by omega
    exact ⟨⟨hcount, hbuffer⟩, rfl⟩
  | succ fuel ih =>
    rw [settle]
    by_cases hcount : count < 8
    · rw [if_pos hcount]
      exact ⟨⟨hcount, hbuffer⟩, rfl⟩
    · have hsplit : count = 8 + (count - 8) := by omega
      have hhigh : buffer / 256 < 2 ^ (count - 8) := by
        rw [hsplit, Nat.pow_add] at hbuffer
        exact Nat.div_lt_of_lt_mul hbuffer
      obtain ⟨htidy, hwritten⟩ := ih (bytes.push (UInt8.ofNat buffer)) (buffer / 256) (count - 8)
        (by omega) hhigh
      -- the byte holds the lowest eight bits
      have hbyte : lowBits 8 (UInt8.ofNat buffer).toNat = lowBits 8 buffer := by
        have hdiv := Nat.mod_add_div buffer 256
        have hlow : lowBits 8 (buffer % 256 + buffer / 256 * 256) = lowBits 8 (buffer % 256) :=
          lowBits_add_mul 8 (buffer % 256) (buffer / 256)
        rw [Nat.mul_comm, hdiv] at hlow
        rw [UInt8.toNat_ofNat', hlow]
      have hbits : lowBits (8 + (count - 8)) buffer =
          lowBits 8 buffer ++ lowBits (count - 8) (buffer / 256) := lowBits_add 8 (count - 8) buffer
      rw [if_neg hcount]
      refine ⟨htidy, ?_⟩
      rw [hwritten, byteBits_push, hbyte, List.append_assoc, ← hbits, ← hsplit]

/-- A number of so many bits is appended. -/
theorem put_writes {w : Bits} (h : w.Tidy) {value width : Nat} (hvalue : value < 2 ^ width) :
    Writes w (lowBits width value) (w.put value width) := by
  have hbuffer : w.buffer + (value <<< w.count) < 2 ^ (w.count + width) := by
    rw [Nat.shiftLeft_eq, Nat.pow_add]
    calc w.buffer + value * 2 ^ w.count < 2 ^ w.count + value * 2 ^ w.count :=
          Nat.add_lt_add_right h.buffer_lt _
      _ = 2 ^ w.count * (value + 1) := by rw [Nat.mul_add, Nat.mul_comm, Nat.mul_one, Nat.add_comm]
      _ ≤ 2 ^ w.count * 2 ^ width := Nat.mul_le_mul_left _ hvalue
  have hcount := h.count_lt
  obtain ⟨htidy, hwritten⟩ := settle_written (width / 8 + 1) w.bytes
    (w.buffer + (value <<< w.count)) (w.count + width) (by omega) hbuffer
  refine ⟨htidy, hwritten.trans ?_⟩
  rw [lowBits_shiftLeft h.buffer_lt, written, List.append_assoc]

/-- How many zeros fill the last byte. -/
def padding (w : Bits) : Nat := if w.count = 0 then 0 else 8 - w.count

/-- Whole bytes are filled with zeros. -/
theorem pad_writes {w : Bits} (h : w.Tidy) :
    Writes w (List.replicate w.padding 0) w.pad ∧ w.pad.count = 0 := by
  unfold pad padding
  by_cases hcount : w.count = 0
  · rw [if_pos hcount, if_pos hcount]
    exact ⟨Writes.refl h, hcount⟩
  · rw [if_neg hcount, if_neg hcount]
    refine ⟨⟨⟨Nat.zero_lt_succ 7, Nat.one_pos⟩, ?_⟩, rfl⟩
    have hlt := h.count_lt
    have hbuffer : w.buffer < 256 := by
      refine Nat.lt_of_lt_of_le h.buffer_lt ?_
      exact Nat.pow_le_pow_right (by decide) (by omega : w.count ≤ 8)
    have hbits : lowBits 8 w.buffer = lowBits w.count w.buffer ++
        List.replicate (8 - w.count) 0 := by
      have hsplit : 8 = w.count + (8 - w.count) := by omega
      rw [hsplit, lowBits_add, Nat.div_eq_of_lt h.buffer_lt, lowBits_zero, ← hsplit]
    rw [written, written, byteBits_push, UInt8.toNat_ofNat', Nat.mod_eq_of_lt hbuffer, hbits]
    show _ ++ [] = _
    rw [List.append_nil, List.append_assoc]

/-- Without bits that wait, the bits are those of the bytes. -/
theorem written_of_count {w : Bits} (h : w.count = 0) : w.written = byteBits w.bytes.data.toList := by
  rw [written, h]
  exact List.append_nil _

end Bits

/-! ### Readers -/

namespace Inflater

/-- Behind some bits and with some output, the reader takes the next bits, gives a value and leaves
an output. -/
def Reads {α : Type} (m : Inflater α) (before : List Nat) (out : ByteArray) (bits : List Nat)
    (a : α) (out' : ByteArray) : Prop :=
  ∀ (data : ByteArray) (rest : List Nat), byteBits data.data.toList = before ++ bits ++ rest →
    m data ⟨before.length, out⟩ = .ok a ⟨(before ++ bits).length, out'⟩

section Rules

variable {α β : Type} {m : Inflater α} {f : α → Inflater β} {before bits more : List Nat}
  {out out' out'' : ByteArray} {a : α} {b : β}

theorem reads_pure : Reads (pure a) before out [] a out := by
  intro data rest _
  rw [List.append_nil]
  rfl

/-- One reader behind the other. -/
theorem Reads.bind (hm : Reads m before out bits a out')
    (hf : Reads (f a) (before ++ bits) out' more b out'') :
    Reads (m >>= f) before out (bits ++ more) b out'' := by
  intro data rest hdata
  rw [← List.append_assoc] at hdata
  have hrun := hm data (more ++ rest) (by rw [hdata, List.append_assoc])
  show EStateM.bind (m data) (fun a => f a data) _ = _
  rw [EStateM.bind, hrun, ← List.append_assoc]
  exact hf data rest hdata

/-- A reader whose value is changed. -/
theorem Reads.map (hm : Reads m before out bits a out') (g : α → β) :
    Reads (g <$> m) before out bits (g a) out' := by
  intro data rest hdata
  show EStateM.map g (m data) _ = _
  rw [EStateM.map, hm data rest hdata]

/-- A reader that takes nothing, in front of another. -/
theorem Reads.bind_nil (hm : Reads m before out [] a out')
    (hf : Reads (f a) before out' more b out'') : Reads (m >>= f) before out more b out'' := by
  rw [← List.append_nil before] at hf
  exact hm.bind hf

/-- A reader in front of one that takes nothing. -/
theorem Reads.bind_last (hm : Reads m before out bits a out')
    (hf : Reads (f a) (before ++ bits) out' [] b out'') : Reads (m >>= f) before out bits b out'' := by
  have hboth := hm.bind hf
  rwa [List.append_nil] at hboth

/-- A reader may be told a bound on the bits that it takes. -/
theorem reads_left {g : Nat → Inflater β}
    (h : ∀ n, bits.length < n → Reads (g n) before out bits b out') :
    Reads (left >>= g) before out bits b out' := by
  intro data rest hdata
  refine h _ ?_ data rest hdata
  have hlength := congrArg List.length hdata
  rw [length_byteBits, Bytes.length_toList, List.length_append, List.length_append] at hlength
  show bits.length < 8 * data.size + 1 - before.length
  omega

/-- The output is appended to at once. -/
theorem reads_emit (g : ByteArray → ByteArray) : Reads (emit g) before out [] () (g out) := by
  intro data rest _
  rw [List.append_nil]
  rfl

/-- A bit is taken from the byte in which the reader stands. -/
theorem bit_run (data : ByteArray) (s : Inflated) : bit data s = (match data[s.position / 8]? with
    | none => throw .incomplete
    | some byte => do
      set { s with position := s.position + 1 }
      return (byte.toNat >>> (s.position % 8)) % 2 : Inflater Nat) data s := rfl

theorem reads_bit (x : Nat) : Reads bit before out [x] x out := by
  intro data rest hdata
  have hbit : (byteBits data.data.toList)[before.length]? = some x := by
    rw [hdata, List.append_assoc, List.getElem?_append_right (Nat.le_refl _), Nat.sub_self]
    rfl
  rw [byteBits_getElem?, ← Bytes.getElem?_eq] at hbit
  obtain ⟨byte, hbyte, rfl⟩ := Option.map_eq_some_iff.1 hbit
  rw [List.length_append]
  rw [bit_run, hbyte]
  rfl

/-- A number is read back from its bits. -/
theorem reads_bits {width value : Nat} (h : value < 2 ^ width) :
    Reads (Inflater.bits width) before out (lowBits width value) value out := by
  induction width generalizing value before with
  | zero =>
    obtain rfl : value = 0 := by omega
    exact reads_pure
  | succ n ih =>
    have hhalf : value / 2 < 2 ^ n := by
      rw [Nat.pow_succ, Nat.mul_comm] at h
      exact Nat.div_lt_of_lt_mul h
    have hvalue : value % 2 + 2 * (value / 2) = value := Nat.mod_add_div value 2
    have hrest : Reads (do return value % 2 + 2 * (← Inflater.bits n)) (before ++ [value % 2]) out
        (lowBits n (value / 2)) value out := by
      have hpure : Reads (pure (value % 2 + 2 * (value / 2)))
          ((before ++ [value % 2]) ++ lowBits n (value / 2)) out [] value out := by
        rw [hvalue]
        exact reads_pure
      exact (ih hhalf).bind_last hpure
    exact (reads_bit (value % 2)).bind hrest

/-- The bits up to the next whole byte are skipped. -/
theorem reads_align {n : Nat} (hn : n < 8) (h : (before.length + n) % 8 = 0) :
    Reads align before out (List.replicate n 0) () out := by
  intro data rest _
  have hposition : (before.length + 7) / 8 * 8 = (before ++ List.replicate n 0).length := by
    rw [List.length_append, List.length_replicate]
    omega
  show EStateM.Result.ok () (Inflated.mk ((before.length + 7) / 8 * 8) out) = _
  rw [hposition]

/-- Whole bytes are read back. -/
theorem reads_rawBytes (bytes : List UInt8) :
    Reads (rawBytes bytes.length) before out (byteBits bytes) () ⟨⟨out.data.toList ++ bytes⟩⟩ := by
  induction bytes generalizing before out with
  | nil =>
    have hout : (⟨⟨out.data.toList ++ []⟩⟩ : ByteArray) = out := by rw [List.append_nil]
    rw [hout]
    exact reads_pure
  | cons b bytes ih =>
    have hbyte : Reads (Inflater.bits 8) before out (lowBits 8 b.toNat) b.toNat out :=
      reads_bits b.toNat_lt
    have hpush : (out.push b).data.toList ++ bytes = out.data.toList ++ b :: bytes := by
      rw [ByteArray.data_push, Array.toList_push, List.append_assoc]
      rfl
    have hrest : Reads (rawBytes bytes.length) (before ++ lowBits 8 b.toNat) (out.push b)
        (byteBits bytes) () ⟨⟨(out.push b).data.toList ++ bytes⟩⟩ := ih
    rw [hpush] at hrest
    rw [byteBits_cons]
    refine hbyte.bind ((reads_emit _).bind_nil ?_)
    rwa [UInt8.ofNat_toNat]

end Rules

end Inflater

end Playground.Deflate
