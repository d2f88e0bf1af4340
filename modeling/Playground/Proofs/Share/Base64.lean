import Playground.Proofs.Bytes
import Playground.Share.Codec

/-!
# Base64 read back

What is written over the URL alphabet without padding is read back from the standard alphabet
once the padding is restored: three bytes make four symbols, and one or two bytes left over make
two or three, so that the number of symbols is never one more than a multiple of four.
-/

namespace Playground.Base64

open Share

/-! ### Symbols -/

/-- The symbol of a number in the standard alphabet, as a byte. -/
def standard (n : Nat) : UInt8 := standardSymbol (UInt8.ofNat (symbol n).toNat)

/-- There are no symbols but those of the numbers below 64. -/
theorem exists_symbol_lt (n : Nat) : ∃ m < 64, symbol n = symbol m := by
  refine ⟨min n 63, by omega, ?_⟩
  by_cases h : n < 64
  · rw [Nat.min_eq_left (by omega)]
  · rw [Nat.min_eq_right (by omega), symbol, if_neg (by omega), if_neg (by omega),
      if_neg (by omega), if_neg (by omega)]
    rfl

theorem exists_symbol_of_mem {bytes : List UInt8} {c : Char} (h : c ∈ encode bytes) :
    ∃ n < 64, c = symbol n := by
  -- three bytes at a time, as they are encoded
  induction bytes using encode.induct with
  | case1 a b d rest ih =>
    simp only [encode, List.mem_cons] at h
    obtain rfl | rfl | rfl | rfl | h := h
    · exact exists_symbol_lt _
    · exact exists_symbol_lt _
    · exact exists_symbol_lt _
    · exact exists_symbol_lt _
    · exact ih h
  | case2 a b =>
    simp only [encode, List.mem_cons, List.not_mem_nil, or_false] at h
    obtain rfl | rfl | rfl := h
    · exact exists_symbol_lt _
    · exact exists_symbol_lt _
    · exact exists_symbol_lt _
  | case3 a =>
    simp only [encode, List.mem_cons, List.not_mem_nil, or_false] at h
    obtain rfl | rfl := h
    · exact exists_symbol_lt _
    · exact exists_symbol_lt _
  | case4 => cases h

/-- Symbols are ASCII characters. -/
theorem ascii_of_mem {bytes : List UInt8} {c : Char} (h : c ∈ encode bytes) : c.toNat < 128 := by
  have hall : ∀ n < 64, (symbol n).toNat < 128 := by decide
  obtain ⟨n, hn, rfl⟩ := exists_symbol_of_mem h
  exact hall n hn

/-- The number of a symbol is read back, wherever it stands. -/
theorem value_standard {n : Nat} (h : n < 64) (offset : Nat) :
    value (standard n) offset = .ok n := by
  have hall : ∀ n < 64, value? (standard n) = some n := by decide
  rw [value, hall n h]

/-- No symbol is taken for padding. -/
theorem standard_ne_pad {n : Nat} (h : n < 64) : standard n ≠ pad := by
  have hall : ∀ n < 64, standard n ≠ pad := by decide
  exact hall n h

/-! ### Groups of symbols -/

/-- The symbols of bytes in the standard alphabet. -/
def standardSymbols (bytes : List UInt8) : List UInt8 :=
  (encode bytes).map fun c => standardSymbol (UInt8.ofNat c.toNat)

theorem standardSymbols_three (a b c : UInt8) (rest : List UInt8) :
    standardSymbols (a :: b :: c :: rest) =
      standard ((a.toNat * 65536 + b.toNat * 256 + c.toNat) / 262144) ::
      standard ((a.toNat * 65536 + b.toNat * 256 + c.toNat) / 4096 % 64) ::
      standard ((a.toNat * 65536 + b.toNat * 256 + c.toNat) / 64 % 64) ::
      standard ((a.toNat * 65536 + b.toNat * 256 + c.toNat) % 64) :: standardSymbols rest := rfl

/-- A byte is determined by its value up to multiples of 256. -/
theorem ofNat_eq {a : UInt8} {n : Nat} (h : n % 256 = a.toNat) : UInt8.ofNat n = a := by
  rw [← UInt8.toNat_inj, UInt8.toNat_ofNat']
  exact h

/-- The three bytes of four numbers below 64. -/
theorem bytes_of_three (a b c : UInt8) (n : Nat)
    (hn : n = a.toNat * 65536 + b.toNat * 256 + c.toNat) :
    UInt8.ofNat (n / 262144 * 4 + n / 4096 % 64 / 16) = a ∧
    UInt8.ofNat (n / 4096 % 64 * 16 + n / 64 % 64 / 4) = b ∧
    UInt8.ofNat (n / 64 % 64 * 64 + n % 64) = c := by
  have ha := a.toNat_lt
  have hb := b.toNat_lt
  have hc := c.toNat_lt
  exact ⟨ofNat_eq (by omega), ofNat_eq (by omega), ofNat_eq (by omega)⟩

/-- The last group of symbols holds one, two or three bytes. -/
theorem decodeLast_three (a b c : UInt8) (n offset : Nat)
    (hn : n = a.toNat * 65536 + b.toNat * 256 + c.toNat) :
    decodeLast (standard (n / 262144)) (standard (n / 4096 % 64)) (standard (n / 64 % 64))
      (standard (n % 64)) offset = .ok [a, b, c] := by
  have ha := a.toNat_lt
  have hb := b.toNat_lt
  have hc := c.toNat_lt
  obtain ⟨h₁, h₂, h₃⟩ := bytes_of_three a b c n hn
  have hx : value (standard (n / 262144)) offset = .ok (n / 262144) :=
    value_standard (by omega) _
  simp only [decodeLast, hx, value_standard (Nat.mod_lt _ (by decide : 0 < 64)),
    if_neg (standard_ne_pad (Nat.mod_lt _ (by decide : 0 < 64))), bind, Except.bind, pure,
    Except.pure, h₁, h₂, h₃]

theorem decodeLast_two (a b : UInt8) (n offset : Nat) (hn : n = a.toNat * 256 + b.toNat) :
    decodeLast (standard (n / 1024)) (standard (n / 16 % 64)) (standard (n % 16 * 4)) pad offset =
      .ok [a, b] := by
  have ha := a.toNat_lt
  have hb := b.toNat_lt
  have hz : n % 16 * 4 < 64 := by omega
  have hx : value (standard (n / 1024)) offset = .ok (n / 1024) := value_standard (by omega) _
  have hrest : n % 16 * 4 % 4 = 0 := by omega
  have h₁ : UInt8.ofNat (n / 1024 * 4 + n / 16 % 64 / 16) = a := ofNat_eq (by omega)
  have h₂ : UInt8.ofNat (n / 16 % 64 * 16 + n % 16 * 4 / 4) = b := ofNat_eq (by omega)
  simp only [decodeLast, hx, value_standard (Nat.mod_lt _ (by decide : 0 < 64)),
    value_standard hz, if_neg (standard_ne_pad hz), hrest, ne_eq, not_true_eq_false, if_false,
    if_true, bind, Except.bind, pure, Except.pure, h₁, h₂]

theorem decodeLast_one (a : UInt8) (offset : Nat) :
    decodeLast (standard (a.toNat / 4)) (standard (a.toNat % 4 * 16)) pad pad offset =
      .ok [a] := by
  have ha := a.toNat_lt
  have hy : a.toNat % 4 * 16 < 64 := by omega
  have hx : value (standard (a.toNat / 4)) offset = .ok (a.toNat / 4) :=
    value_standard (by omega) _
  have hrest : a.toNat % 4 * 16 % 16 = 0 := by omega
  have h₁ : UInt8.ofNat (a.toNat / 4 * 4 + a.toNat % 4 * 16 / 16) = a := ofNat_eq (by omega)
  simp only [decodeLast, hx, value_standard hy, hrest, ne_eq, not_true_eq_false, if_false,
    if_true, bind, Except.bind, pure, Except.pure, h₁]

/-! ### Whole texts -/

/-- The padding that completes the symbols of some bytes. -/
def padding (bytes : List UInt8) : List UInt8 :=
  match bytes.length % 3 with
  | 1 => [pad, pad]
  | 2 => [pad]
  | _ => []

/-- The padding depends on what is left over. -/
theorem padding_three (a b c : UInt8) (rest : List UInt8) :
    padding (a :: b :: c :: rest) = padding rest := by
  have hlength : (rest.length + 1 + 1 + 1) % 3 = rest.length % 3 := by omega
  simp only [padding, List.length_cons, hlength]

theorem padded_two (a b : UInt8) : standardSymbols [a, b] ++ padding [a, b] =
    [standard ((a.toNat * 256 + b.toNat) / 1024), standard ((a.toNat * 256 + b.toNat) / 16 % 64),
      standard ((a.toNat * 256 + b.toNat) % 16 * 4), pad] := rfl

theorem padded_one (a : UInt8) : standardSymbols [a] ++ padding [a] =
    [standard (a.toNat / 4), standard (a.toNat % 4 * 16), pad, pad] := rfl

/-- With the padding, the symbols are a multiple of four. -/
theorem standardSymbols_length (bytes : List UInt8) :
    (standardSymbols bytes).length % 4 = match bytes.length % 3 with | 0 => 0 | 1 => 2 | _ => 3 := by
  induction bytes using encode.induct with
  | case1 a b c rest ih =>
    have hthree : (rest.length + 1 + 1 + 1) % 3 = rest.length % 3 := by omega
    have hfour : ((standardSymbols rest).length + 1 + 1 + 1 + 1) % 4 =
        (standardSymbols rest).length % 4 := by omega
    simpa only [standardSymbols_three, List.length_cons, hthree, hfour] using ih
  | case2 a b => rfl
  | case3 a => rfl
  | case4 => rfl

/-- Some symbols are a whole group or there are none. -/
theorem standardSymbols_padded_cases (bytes : List UInt8) :
    standardSymbols bytes ++ padding bytes = [] ∧ bytes = [] ∨
      ∃ w x y z more, standardSymbols bytes ++ padding bytes = w :: x :: y :: z :: more := by
  match bytes with
  | [] => exact .inl ⟨rfl, rfl⟩
  | [a] => exact .inr ⟨_, _, _, _, _, rfl⟩
  | [a, b] => exact .inr ⟨_, _, _, _, _, rfl⟩
  | a :: b :: c :: rest => exact .inr ⟨_, _, _, _, _, rfl⟩

/-- The bytes are read back, from any offset on and behind any bytes read before. -/
theorem decodeFrom_standardSymbols (bytes : List UInt8) (offset : Nat) (acc : List UInt8) :
    decodeFrom offset (standardSymbols bytes ++ padding bytes) acc = .ok (acc.reverse ++ bytes) := by
  induction bytes using encode.induct generalizing offset acc with
  | case1 a b c rest ih =>
    have ha := a.toNat_lt
    have hb := b.toNat_lt
    have hc := c.toNat_lt
    rw [standardSymbols_three, padding_three]
    rcases standardSymbols_padded_cases rest with ⟨hnone, rfl⟩ | ⟨w, x, y, z, more, hmore⟩
    · -- the group is the last one
      rw [List.cons_append, List.cons_append, List.cons_append, List.cons_append, hnone,
        decodeFrom, decodeLast_three a b c _ offset rfl]
      rfl
    · obtain ⟨h₁, h₂, h₃⟩ := bytes_of_three a b c _ rfl
      have hnext := ih (offset + 4) (c :: b :: a :: acc)
      rw [hmore] at hnext
      rw [List.cons_append, List.cons_append, List.cons_append, List.cons_append, hmore,
        decodeFrom, value_standard (by omega), value_standard (Nat.mod_lt _ (by decide)),
        value_standard (Nat.mod_lt _ (by decide)), value_standard (Nat.mod_lt _ (by decide))]
      · show decodeFrom (offset + 4) _ (_ :: _ :: _ :: acc) = _
        rw [h₁, h₂, h₃, hnext]
        simp
      · simp
  | case2 a b =>
    rw [padded_two, decodeFrom, decodeLast_two a b _ offset rfl]
    rfl
  | case3 a =>
    rw [padded_one, decodeFrom, decodeLast_one a offset]
    rfl
  | case4 => simp [standardSymbols, padding, encode, decodeFrom]

end Playground.Base64

namespace Playground.Share

open Base64

/-- Restoring the padding of what was written completes the symbols. -/
theorem restorePadding_encode (bytes : List UInt8) :
    restorePadding (String.ofList (Base64.encode bytes)) =
      .ok (standardSymbols bytes ++ padding bytes) := by
  have hsymbols : (String.ofList (Base64.encode bytes)).toUTF8.toList.map standardSymbol =
      standardSymbols bytes := by
    rw [Bytes.toList_eq, Bytes.toUTF8_ascii fun _ => ascii_of_mem, List.map_map]
    rfl
  have hlength := standardSymbols_length bytes
  unfold restorePadding padding
  simp only [hsymbols]
  have hthree : bytes.length % 3 < 3 := Nat.mod_lt _ (by decide)
  generalize bytes.length % 3 = r at hlength hthree ⊢
  match r with
  | 0 => simp only [hlength, List.append_nil]
  | 1 => simp only [hlength]
  | 2 => simp only [hlength]

/-- The bytes that a fragment was made of are read back. -/
theorem compressedBytes_encode (bytes : ByteArray) :
    compressedBytes (String.ofList (Base64.encode bytes.toList)) = .ok bytes := by
  have hdecode : Base64.decode (standardSymbols bytes.toList ++ padding bytes.toList) =
      .ok bytes.toList := decodeFrom_standardSymbols bytes.toList 0 []
  unfold compressedBytes
  rw [restorePadding_encode]
  simp only [bind, Except.bind, hdecode]
  rw [Bytes.toList_eq]
  rfl

end Playground.Share
