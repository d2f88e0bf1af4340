import Playground.Proofs.Share.Base64

/-!
# One spelling for any bytes

Fragments are written over one alphabet, without padding, and read over another, with it.  The two
ways are inverse to one another all the same:

* `decode_eq_ok_iff` — symbols are read exactly if they are those of some bytes, with the padding;
* `UrlSafe` — fragments without symbols that would be the same once they are in the other alphabet;
* `restorePadding_eq` — what the padding is put behind, and when there is none;
* `safe_fragments_inverse` — such a fragment is read exactly if it is what some bytes are written
  as.
-/

namespace Playground.Base64

open Share

variable {a b c d : UInt8} {x y z w offset : Nat} {bytes : List UInt8}

/-! ### Groups of symbols -/

/-- A symbol that is read is the symbol of its number. -/
theorem value_eq_ok (h : value a offset = .ok x) : x < 64 ∧ standard x = a := by
  have hall : ∀ b < 256, ∀ n ∈ value? (UInt8.ofNat b), n < 64 ∧ standard n = UInt8.ofNat b := by
    decide +kernel
  have hvalue : value? a = some x := by
    unfold value at h
    cases hv : value? a with
    | none =>
      rw [hv] at h
      cases h
    | some n =>
      rw [hv] at h
      cases h
      rfl
  have ha := hall a.toNat a.toNat_lt
  rw [UInt8.ofNat_toNat] at ha
  exact ha x hvalue

/-- Where two things in a row are read, the first one is. -/
theorem bind_eq_ok {α β : Type} {first : Except Fault α} {next : α → Except Fault β} {r : β}
    (h : first >>= next = .ok r) : ∃ s, first = .ok s ∧ next s = .ok r := by
  cases first with
  | error e => cases h
  | ok s => exact ⟨s, rfl, h⟩

/-- The symbols of one byte are those that it was put together from. -/
theorem symbols_one (hx : x < 64) (hy : y < 64) (hrest : y % 16 = 0) :
    standardSymbols [UInt8.ofNat (x * 4 + y / 16)] ++ padding [UInt8.ofNat (x * 4 + y / 16)] =
      [standard x, standard y, pad, pad] := by
  have hbyte : (UInt8.ofNat (x * 4 + y / 16)).toNat = x * 4 + y / 16 := by
    rw [UInt8.toNat_ofNat']
    omega
  have h₁ : (x * 4 + y / 16) / 4 = x := by omega
  have h₂ : (x * 4 + y / 16) % 4 * 16 = y := by omega
  rw [padded_one, hbyte, h₁, h₂]

theorem symbols_two (hx : x < 64) (hy : y < 64) (hz : z < 64) (hrest : z % 4 = 0) :
    standardSymbols [UInt8.ofNat (x * 4 + y / 16), UInt8.ofNat (y * 16 + z / 4)] ++
        padding [UInt8.ofNat (x * 4 + y / 16), UInt8.ofNat (y * 16 + z / 4)] =
      [standard x, standard y, standard z, pad] := by
  have hfirst : (UInt8.ofNat (x * 4 + y / 16)).toNat = x * 4 + y / 16 := by
    rw [UInt8.toNat_ofNat']
    omega
  have hsecond : (UInt8.ofNat (y * 16 + z / 4)).toNat = (y * 16 + z / 4) % 256 :=
    UInt8.toNat_ofNat'
  have h₁ : ((x * 4 + y / 16) * 256 + (y * 16 + z / 4) % 256) / 1024 = x := by omega
  have h₂ : ((x * 4 + y / 16) * 256 + (y * 16 + z / 4) % 256) / 16 % 64 = y := by omega
  have h₃ : ((x * 4 + y / 16) * 256 + (y * 16 + z / 4) % 256) % 16 * 4 = z := by omega
  rw [padded_two, hfirst, hsecond, h₁, h₂, h₃]

theorem symbols_three (hx : x < 64) (hy : y < 64) (hz : z < 64) (hw : w < 64) :
    standardSymbols (UInt8.ofNat (x * 4 + y / 16) :: UInt8.ofNat (y * 16 + z / 4) ::
        UInt8.ofNat (z * 64 + w) :: bytes) =
      standard x :: standard y :: standard z :: standard w :: standardSymbols bytes := by
  have hfirst : (UInt8.ofNat (x * 4 + y / 16)).toNat = x * 4 + y / 16 := by
    rw [UInt8.toNat_ofNat']
    omega
  have hsecond : (UInt8.ofNat (y * 16 + z / 4)).toNat = (y * 16 + z / 4) % 256 :=
    UInt8.toNat_ofNat'
  have hthird : (UInt8.ofNat (z * 64 + w)).toNat = (z * 64 + w) % 256 := UInt8.toNat_ofNat'
  have hnumber : (x * 4 + y / 16) * 65536 + (y * 16 + z / 4) % 256 * 256 + (z * 64 + w) % 256 =
      x * 262144 + y * 4096 + z * 64 + w := by omega
  have h₁ : (x * 262144 + y * 4096 + z * 64 + w) / 262144 = x := by omega
  have h₂ : (x * 262144 + y * 4096 + z * 64 + w) / 4096 % 64 = y := by omega
  have h₃ : (x * 262144 + y * 4096 + z * 64 + w) / 64 % 64 = z := by omega
  have h₄ : (x * 262144 + y * 4096 + z * 64 + w) % 64 = w := by omega
  rw [standardSymbols_three, hfirst, hsecond, hthird, hnumber, h₁, h₂, h₃, h₄]

/-- A last group that is read is that of its bytes. -/
theorem decodeLast_eq_ok (h : decodeLast a b c d offset = .ok bytes) :
    [a, b, c, d] = standardSymbols bytes ++ padding bytes := by
  obtain ⟨x, hx, hbehind⟩ := bind_eq_ok h
  obtain ⟨y, hy, hpads⟩ := bind_eq_ok hbehind
  clear h hbehind
  obtain ⟨hxlt, rfl⟩ := value_eq_ok hx
  obtain ⟨hylt, rfl⟩ := value_eq_ok hy
  split at hpads
  · -- two pads: one byte, and no bit is left over
    next hc =>
    dsimp only at hpads
    split at hpads
    · cases hpads
    · next hd =>
      split at hpads
      · cases hpads
      · next hrest =>
        cases hpads
        rw [symbols_one hxlt hylt (Decidable.not_not.1 hrest), hc, Decidable.not_not.1 hd]
  · obtain ⟨z, hz, hpad⟩ := bind_eq_ok hpads
    clear hpads
    obtain ⟨hzlt, rfl⟩ := value_eq_ok hz
    split at hpad
    · next hd =>
      dsimp only at hpad
      split at hpad
      · cases hpad
      · next hrest =>
        cases hpad
        rw [symbols_two hxlt hylt hzlt (Decidable.not_not.1 hrest), hd]
    · obtain ⟨w, hw, hfull⟩ := bind_eq_ok hpad
      clear hpad
      obtain ⟨hwlt, rfl⟩ := value_eq_ok hw
      cases hfull
      rw [symbols_three hxlt hylt hzlt hwlt, padding_three]
      rfl

/-- Symbols that are read are those of the bytes, with the padding. -/
theorem decodeFrom_eq_ok {symbols acc : List UInt8}
    (h : decodeFrom offset symbols acc = .ok bytes) :
    ∃ rest, bytes = acc.reverse ++ rest ∧ symbols = standardSymbols rest ++ padding rest := by
  fun_induction decodeFrom offset symbols acc with
  | case1 offset acc =>
    cases h
    exact ⟨[], (List.append_nil _).symm, rfl⟩
  | case2 offset a b c d acc =>
    obtain ⟨last, hlast, h⟩ := bind_eq_ok h
    cases h
    exact ⟨last, rfl, decodeLast_eq_ok hlast⟩
  | case3 offset a b c d symbols acc _ ih =>
    -- four symbols in the middle have a value each, and these give back the symbols of three bytes
    obtain ⟨x, hx, h₁⟩ := bind_eq_ok h
    obtain ⟨y, hy, h₂⟩ := bind_eq_ok h₁
    obtain ⟨z, hz, h₃⟩ := bind_eq_ok h₂
    obtain ⟨w, hw, h₄⟩ := bind_eq_ok h₃
    obtain ⟨rest, hbytes, hsymbols⟩ := ih x y z w h₄
    obtain ⟨hxlt, rfl⟩ := value_eq_ok hx
    obtain ⟨hylt, rfl⟩ := value_eq_ok hy
    obtain ⟨hzlt, rfl⟩ := value_eq_ok hz
    obtain ⟨hwlt, rfl⟩ := value_eq_ok hw
    refine ⟨UInt8.ofNat (x * 4 + y / 16) :: UInt8.ofNat (y * 16 + z / 4) ::
      UInt8.ofNat (z * 64 + w) :: rest, ?_, ?_⟩
    · rw [hbytes]
      simp
    · rw [symbols_three hxlt hylt hzlt hwlt, padding_three, hsymbols]
      rfl
  | case4 => cases h

/-- The bytes of symbols are those that have them for their own, with the padding. -/
theorem decode_eq_ok_iff {symbols : List UInt8} :
    decode symbols = .ok bytes ↔ symbols = standardSymbols bytes ++ padding bytes := by
  constructor
  · intro h
    obtain ⟨rest, rfl, hsymbols⟩ := decodeFrom_eq_ok h
    exact hsymbols
  · rintro rfl
    exact decodeFrom_standardSymbols bytes 0 []

/-- Padding is made of pads. -/
theorem eq_pad_of_mem_padding {p : UInt8} (h : p ∈ padding bytes) : p = pad := by
  unfold padding at h
  split at h
  · simpa using h
  · simpa using h
  · cases h

/-- No symbol of bytes is a pad. -/
theorem ne_pad_of_mem_standardSymbols {s : UInt8} (h : s ∈ standardSymbols bytes) : s ≠ pad := by
  obtain ⟨c, hc, rfl⟩ := List.mem_map.1 h
  obtain ⟨n, hn, rfl⟩ := exists_symbol_of_mem hc
  exact standard_ne_pad hn

end Playground.Base64

namespace Playground.Share

open Base64

variable {fragment other : String} {bytes : ByteArray} {symbols : List UInt8} {b : UInt8}

/-! ### The alphabet of fragments -/

/-- A fragment without the symbols that are not safe in a URL: those that only the standard
alphabet has, and the padding. -/
def UrlSafe (fragment : String) : Prop := ∀ c ∈ ['+', '/', '='], c ∉ fragment.toList

instance : DecidablePred UrlSafe := fun _ => List.decidableBAll _ _

/-- The symbols that stand for a fragment in the standard alphabet. -/
def standardBytes (fragment : String) : List UInt8 := fragment.toUTF8.toList.map standardSymbol

/-- A symbol of the URL alphabet for one of the standard alphabet. -/
def urlSymbol (b : UInt8) : UInt8 := if b = 43 then 45 else if b = 47 then 95 else b

theorem urlSymbol_standardSymbol (hplus : b ≠ 43) (hslash : b ≠ 47) :
    urlSymbol (standardSymbol b) = b := by
  unfold standardSymbol
  by_cases hminus : b = 45
  · subst hminus
    rfl
  · by_cases hunder : b = 95
    · subst hunder
      rfl
    · rw [if_neg hminus, if_neg hunder, urlSymbol, if_neg hplus, if_neg hslash]

/-- The bytes of a safe fragment are none of the symbols that are not safe. -/
theorem UrlSafe.byte_ne (h : UrlSafe fragment) (hb : b ∈ fragment.toUTF8.toList) :
    b ≠ 43 ∧ b ≠ 47 ∧ b ≠ pad := by
  rw [Bytes.toList_eq, Bytes.toUTF8_eq] at hb
  refine ⟨?_, ?_, ?_⟩
  · rintro rfl
    exact h '+' (by decide) (Bytes.mem_of_mem_ofChars (by decide) hb)
  · rintro rfl
    exact h '/' (by decide) (Bytes.mem_of_mem_ofChars (by decide) hb)
  · rintro rfl
    exact h '=' (by decide) (Bytes.mem_of_mem_ofChars (by decide) hb)

theorem UrlSafe.ne_pad (h : UrlSafe fragment) (hb : b ∈ standardBytes fragment) : b ≠ pad := by
  obtain ⟨d, hd, rfl⟩ := List.mem_map.1 hb
  have hne := (h.byte_ne hd).2.2
  unfold standardSymbol
  split
  · decide
  · split
    · decide
    · exact hne

/-- Safe fragments are told apart by their symbols in the standard alphabet. -/
theorem UrlSafe.ext (h : UrlSafe fragment) (hother : UrlSafe other)
    (heq : standardBytes fragment = standardBytes other) : fragment = other := by
  have hback {text : String} (htext : UrlSafe text) :
      (standardBytes text).map urlSymbol = text.toUTF8.toList := by
    rw [standardBytes, List.map_map]
    refine (List.map_congr_left fun b hb => ?_).trans (List.map_id _)
    obtain ⟨hplus, hslash, -⟩ := htext.byte_ne hb
    exact urlSymbol_standardSymbol hplus hslash
  refine Bytes.toUTF8_inj ?_
  rw [← Bytes.toList_eq, ← Bytes.toList_eq, ← hback h, ← hback hother, heq]

theorem urlSafe_encode (bytes : List UInt8) : UrlSafe (String.ofList (Base64.encode bytes)) := by
  have hsymbol : ∀ n < 64, symbol n ∉ ['+', '/', '='] := by decide
  intro c hc hmem
  rw [String.toList_ofList] at hmem
  obtain ⟨n, hn, rfl⟩ := exists_symbol_of_mem hmem
  exact hsymbol n hn hc

theorem standardBytes_encode (bytes : List UInt8) :
    standardBytes (String.ofList (Base64.encode bytes)) = standardSymbols bytes := by
  rw [standardBytes, Bytes.toList_eq, Bytes.toUTF8_ascii fun _ => ascii_of_mem, List.map_map]
  rfl

/-! ### Restoring the padding -/

theorem length_standardBytes (fragment : String) :
    (standardBytes fragment).length = fragment.utf8ByteSize := by
  rw [standardBytes, List.length_map, Bytes.toList_eq, Bytes.length_toList]
  rfl

theorem restorePadding_cases (fragment : String) :
    restorePadding fragment =
      match fragment.utf8ByteSize % 4 with
      | 0 => .ok (standardBytes fragment)
      | 2 => .ok (standardBytes fragment ++ [pad, pad])
      | 3 => .ok (standardBytes fragment ++ [pad])
      | _ => .error (.length fragment.utf8ByteSize) := by
  rw [← length_standardBytes]
  rfl

/-- What is restored is the symbols with pads behind them, unless there is one symbol more than a
multiple of four. -/
theorem restorePadding_eq (fragment : String) :
    (fragment.utf8ByteSize % 4 = 1 ∧
      restorePadding fragment = .error (.length fragment.utf8ByteSize)) ∨
    (fragment.utf8ByteSize % 4 ≠ 1 ∧ ∃ pads, (∀ p ∈ pads, p = pad) ∧
      restorePadding fragment = .ok (standardBytes fragment ++ pads)) := by
  rw [restorePadding_cases]
  have hfour : fragment.utf8ByteSize % 4 < 4 := Nat.mod_lt _ (by decide)
  generalize fragment.utf8ByteSize % 4 = r at hfour
  match r with
  | 0 => exact .inr ⟨by decide, [], by simp, by simp⟩
  | 1 => exact .inl ⟨rfl, rfl⟩
  | 2 => exact .inr ⟨by decide, [pad, pad], by simp, rfl⟩
  | 3 => exact .inr ⟨by decide, [pad], by simp, rfl⟩

/-- Symbols in front of pads are told apart from these. -/
theorem eq_of_padded {as bs ps qs : List UInt8} (h : as ++ ps = bs ++ qs)
    (has : ∀ a ∈ as, a ≠ pad) (hbs : ∀ b ∈ bs, b ≠ pad) (hps : ∀ p ∈ ps, p = pad)
    (hqs : ∀ q ∈ qs, q = pad) : as = bs := by
  -- where one text is longer, what it has more would be both a pad and none
  obtain ⟨more, rfl, rfl⟩ | ⟨more, rfl, rfl⟩ := List.append_eq_append_iff.1 h
  · obtain rfl : more = [] := List.eq_nil_iff_forall_not_mem.2 fun d hd =>
      hbs d (List.mem_append_right as hd) (hps d (List.mem_append_left qs hd))
    rw [List.append_nil]
  · obtain rfl : more = [] := List.eq_nil_iff_forall_not_mem.2 fun d hd =>
      has d (List.mem_append_right bs hd) (hqs d (List.mem_append_left ps hd))
    rw [List.append_nil]

/-! ### Reading fragments -/

/-- What the bytes of a fragment are read from. -/
theorem compressedBytes_of_restored (h : restorePadding fragment = .ok symbols) :
    compressedBytes fragment =
      match Base64.decode symbols with
      | .ok read => .ok ⟨read.toArray⟩
      | .error fault => .error (.base64 fault) := by
  unfold compressedBytes
  rw [h]
  rfl

theorem compressedBytes_of_error {e : ShareError} (h : restorePadding fragment = .error e) :
    compressedBytes fragment = .error e := by
  unfold compressedBytes
  rw [h]
  rfl

/-- A safe fragment is read as the bytes that are written as it. -/
theorem compressedBytes_eq_ok_iff (h : UrlSafe fragment) :
    compressedBytes fragment = .ok bytes ↔
      String.ofList (Base64.encode bytes.toList) = fragment := by
  constructor
  · intro hok
    obtain ⟨-, hrestore⟩ | ⟨-, pads, hpads, hrestore⟩ := restorePadding_eq fragment
    · rw [compressedBytes_of_error hrestore] at hok
      cases hok
    · rw [compressedBytes_of_restored hrestore] at hok
      split at hok
      · next read hread =>
        cases hok
        rw [decode_eq_ok_iff] at hread
        -- padding is no symbol, so what stands before it is the same on both sides
        have hsymbols : standardBytes fragment = standardSymbols read :=
          eq_of_padded hread (fun _ => h.ne_pad) (fun _ => ne_pad_of_mem_standardSymbols) hpads
            (fun _ => eq_pad_of_mem_padding)
        rw [Bytes.toList_eq]
        refine (urlSafe_encode read).ext h ?_
        rw [standardBytes_encode, hsymbols]
      · cases hok
  · rintro rfl
    exact compressedBytes_encode bytes

/-- A fragment is refused for its length exactly if it has one symbol more than a multiple of
four. -/
theorem compressedBytes_eq_length_iff {n : Nat} :
    compressedBytes fragment = .error (.length n) ↔ n = fragment.utf8ByteSize ∧ n % 4 = 1 := by
  obtain ⟨hlength, hrestore⟩ | ⟨hlength, pads, -, hrestore⟩ := restorePadding_eq fragment
  · rw [compressedBytes_of_error hrestore]
    constructor
    · intro h
      cases h
      exact ⟨rfl, hlength⟩
    · rintro ⟨rfl, -⟩
      rfl
  · rw [compressedBytes_of_restored hrestore]
    constructor
    · intro h
      split at h <;> cases h
    · rintro ⟨rfl, h⟩
      exact absurd h hlength

/-- There are two reasons to refuse the symbols of a fragment. -/
theorem refused_of_compressedBytes {e : ShareError} (h : compressedBytes fragment = .error e) :
    (∃ n, e = .length n) ∨ ∃ fault, e = .base64 fault := by
  obtain ⟨-, hrestore⟩ | ⟨-, pads, -, hrestore⟩ := restorePadding_eq fragment
  · rw [compressedBytes_of_error hrestore] at h
    cases h
    exact .inl ⟨_, rfl⟩
  · rw [compressedBytes_of_restored hrestore] at h
    split at h
    · cases h
    · next fault _ =>
      cases h
      exact .inr ⟨fault, rfl⟩

/-- **The two alphabets are inverse to one another.** Any bytes are written as a fragment that is
safe, and read back from it.  A safe fragment is read exactly if it is what some bytes are written
as, and as these bytes, so that no two of them are read as the same; otherwise it is refused, for
its length if it has one symbol more than a multiple of four, or for its symbols. -/
theorem safe_fragments_inverse :
    (∀ bytes : ByteArray, UrlSafe (String.ofList (Base64.encode bytes.toList)) ∧
      compressedBytes (String.ofList (Base64.encode bytes.toList)) = .ok bytes) ∧
    (∀ fragment, UrlSafe fragment →
      (∀ bytes, compressedBytes fragment = .ok bytes ↔
        String.ofList (Base64.encode bytes.toList) = fragment) ∧
      (∀ n, compressedBytes fragment = .error (.length n) ↔
        n = fragment.utf8ByteSize ∧ n % 4 = 1) ∧
      ∀ e, compressedBytes fragment = .error e →
        (∃ n, e = .length n) ∨ ∃ fault, e = .base64 fault) ∧
    ∀ fragment other bytes, UrlSafe fragment → UrlSafe other →
      compressedBytes fragment = .ok bytes → compressedBytes other = .ok bytes →
        fragment = other := by
  refine ⟨fun bytes => ⟨urlSafe_encode bytes.toList, compressedBytes_encode bytes⟩,
    fun fragment h => ⟨fun bytes => compressedBytes_eq_ok_iff h,
      fun n => compressedBytes_eq_length_iff, fun e => refused_of_compressedBytes⟩, ?_⟩
  intro fragment other bytes h hother hread hreadOther
  exact ((compressedBytes_eq_ok_iff h).1 hread).symm.trans
    ((compressedBytes_eq_ok_iff hother).1 hreadOther)

/-- A fragment with both symbols of its own alphabet, and two symbols more than a multiple of
four. -/
theorem safe_fragments_inverse_at : UrlSafe "_-8" ∧ compressedBytes "_-8" = .ok ⟨#[255, 239]⟩ := by
  have hsafe : UrlSafe "_-8" := by decide
  have hwritten : String.ofList (Base64.encode (ByteArray.toList ⟨#[255, 239]⟩)) = "_-8" := by
    rw [Bytes.toList_eq]
    decide
  exact ⟨hsafe, ((safe_fragments_inverse.2.1 "_-8" hsafe).1 _).2 hwritten⟩

/-- A last symbol that carries bits of no byte would be another spelling, and is refused. -/
example : Base64.decode [47, 43, 57, pad] = .error (.invalidLast 57 2) := by
  rfl

end Playground.Share
