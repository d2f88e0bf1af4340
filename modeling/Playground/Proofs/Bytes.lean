/-!
# Packed bytes as lists

Byte arrays are packed; what is proved about them is proved about the list of their bytes.

* `fromUTF8?_toUTF8`, `toUTF8_inj` — texts and their bytes;
* `toUTF8_lt_iff` — the order of texts, character by character, is that of their bytes.
-/

namespace Playground.Bytes

/-- The bytes of an array, listed one by one, are the list it was packed from. -/
theorem toList_eq (b : ByteArray) : b.toList = b.data.toList := by
  -- the loop keeps what it has listed in reverse, and drops as much of the front
  have hloop (n i : Nat) (r : List UInt8) (hn : b.size - i = n) :
      ByteArray.toList.loop b i r = r.reverse ++ b.data.toList.drop i := by
    induction n generalizing i r with
    | zero =>
      rw [ByteArray.toList.loop, if_neg (by omega)]
      have hdrop : b.data.toList.drop i = [] := by
        rw [List.drop_eq_nil_iff, Array.length_toList, ByteArray.size_data]
        omega
      rw [hdrop, List.append_nil]
    | succ n ih =>
      have hi : i < b.size := by omega
      have hlen : i < b.data.toList.length := by
        rw [Array.length_toList, ByteArray.size_data]
        exact hi
      have hget : b.get! i = b.data.toList[i] := by
        show b.data[i]! = _
        rw [getElem!_pos b.data i (by rwa [ByteArray.size_data]), Array.getElem_toList]
      rw [ByteArray.toList.loop, if_pos hi, ih (i + 1) _ (by omega), hget,
        List.drop_eq_getElem_cons hlen, List.reverse_cons, List.append_assoc]
      rfl
  exact (hloop _ 0 [] rfl).trans (by simp)

/-- A byte array is determined by its bytes. -/
theorem ext_toList {a b : ByteArray} (h : a.data.toList = b.data.toList) : a = b :=
  ByteArray.ext (Array.toList_inj.1 h)

/-- The number of bytes. -/
theorem length_toList (b : ByteArray) : b.data.toList.length = b.size := by
  rw [Array.length_toList, ByteArray.size_data]

/-- A byte of an array is that of its list. -/
theorem getElem?_eq (b : ByteArray) (i : Nat) : b[i]? = b.data.toList[i]? := by
  by_cases h : i < b.size
  · rw [getElem?_pos b i h, List.getElem?_eq_getElem (by rwa [length_toList]),
      ByteArray.getElem_eq_getElem_data, Array.getElem_toList]
  · rw [getElem?_neg b i h, List.getElem?_eq_none (by rw [length_toList]; omega)]

/-! ### Characters -/

/-- The bytes of some characters. -/
def ofChars (cs : List Char) : List UInt8 := cs.flatMap String.utf8EncodeChar

@[simp] theorem ofChars_nil : ofChars [] = [] := rfl

@[simp] theorem ofChars_cons (c : Char) (cs : List Char) :
    ofChars (c :: cs) = String.utf8EncodeChar c ++ ofChars cs := List.flatMap_cons

theorem ofChars_append (cs ds : List Char) : ofChars (cs ++ ds) = ofChars cs ++ ofChars ds :=
  List.flatMap_append

theorem ofChars_singleton (c : Char) : ofChars [c] = String.utf8EncodeChar c :=
  List.flatMap_singleton ..

/-- The bytes of a text, character by character. -/
theorem toUTF8_ofList (cs : List Char) : (String.ofList cs).toUTF8.data.toList = ofChars cs := by
  rw [String.toUTF8_eq_toByteArray, String.toByteArray_ofList, List.utf8Encode,
    List.toList_data_toByteArray]
  rfl

/-- The bytes of a text are those of its characters. -/
theorem toUTF8_eq (s : String) : s.toUTF8.data.toList = ofChars s.toList := by
  rw [← toUTF8_ofList, String.ofList_toList]

/-! ### The bytes of a character -/

/-- What is above the last `k` digits of a number to the base 64. -/
def above : Nat → Nat → Nat
  | 0, n => n
  | k + 1, n => above k (n / 64)

/-- A number in bytes: its last `k` digits to the base 64, each in a byte of its own, behind one
byte for what is above them and a mark. -/
def spread (mark : Nat) : Nat → Nat → List UInt8
  | 0, n => [UInt8.ofNat (n + mark)]
  | k + 1, n => spread mark k (n / 64) ++ [UInt8.ofNat (n % 64 + 128)]

theorem spread_eq_cons (mark k n : Nat) :
    ∃ bytes, spread mark k n = UInt8.ofNat (above k n + mark) :: bytes := by
  induction k generalizing n with
  | zero => exact ⟨[], rfl⟩
  | succ k ih =>
    obtain ⟨bytes, hbytes⟩ := ih (n / 64)
    refine ⟨bytes ++ [UInt8.ofNat (n % 64 + 128)], ?_⟩
    rw [spread, above, hbytes, List.cons_append]

/-- Where the mark is above the ASCII range, so are all bytes. -/
theorem spread_wide {mark k n : Nat} (hmark : 128 ≤ mark) (hn : above k n + mark < 256) :
    ∀ b ∈ spread mark k n, 128 ≤ b.toNat := by
  induction k generalizing n with
  | zero =>
    intro b hb
    obtain rfl := List.mem_singleton.1 hb
    have hsum : n + mark < 256 := hn
    rw [UInt8.toNat_ofNat']
    omega
  | succ k ih =>
    intro b hb
    obtain hb | hb := List.mem_append.1 hb
    · exact ih hn b hb
    · obtain rfl := List.mem_singleton.1 hb
      rw [UInt8.toNat_ofNat']
      omega

/-- The number of bytes behind the first one of a character. -/
def trailing (c : Char) : Nat :=
  if c.toNat ≤ 0x7f then 0 else if c.toNat ≤ 0x7ff then 1 else if c.toNat ≤ 0xffff then 2 else 3

theorem trailing_cases (c : Char) :
    c.toNat < 0x80 ∧ trailing c = 0 ∨ 0x80 ≤ c.toNat ∧ c.toNat < 0x800 ∧ trailing c = 1 ∨
      0x800 ≤ c.toNat ∧ c.toNat < 0x10000 ∧ trailing c = 2 ∨
      0x10000 ≤ c.toNat ∧ c.toNat < 0x110000 ∧ trailing c = 3 := by
  have hvalid : c.toNat < 0x110000 := by
    obtain hlow | ⟨-, hhigh⟩ := c.valid
    · exact Nat.lt_trans hlow (by decide)
    · exact hhigh
  unfold trailing
  split
  · omega
  · split
    · omega
    · split <;> omega

/-- What marks the first byte of a character, by the number of bytes behind it. -/
def leadMark : Nat → Nat
  | 0 => 0
  | 1 => 192
  | 2 => 224
  | _ => 240

/-- A character has its first byte marked with the number of bytes behind. -/
theorem utf8EncodeChar_eq_spread (c : Char) :
    String.utf8EncodeChar c = spread (leadMark (trailing c)) (trailing c) c.toNat := by
  unfold String.utf8EncodeChar
  simp only [show c.val.toNat = c.toNat from rfl]
  -- what is above the last digits is small enough for the first byte to hold it whole
  obtain ⟨hc, hw⟩ | ⟨hlow, hc, hw⟩ | ⟨hlow, hc, hw⟩ | ⟨hlow, hc, hw⟩ := trailing_cases c <;>
    rw [hw]
  · rw [if_pos (by omega)]
    rfl
  · rw [if_neg (by omega), if_pos (by omega), Nat.mod_eq_of_lt (b := 32) (by omega)]
    rfl
  · rw [if_neg (by omega), if_neg (by omega), if_pos (by omega),
      Nat.mod_eq_of_lt (b := 16) (by omega)]
    simp only [spread, leadMark, List.nil_append, List.cons_append, Nat.div_div_eq_div_mul]
  · rw [if_neg (by omega), if_neg (by omega), if_neg (by omega),
      Nat.mod_eq_of_lt (b := 8) (by omega)]
    simp only [spread, leadMark, List.nil_append, List.cons_append, Nat.div_div_eq_div_mul]

/-- The first byte of a character. -/
def lead (c : Char) : Nat := above (trailing c) c.toNat + leadMark (trailing c)

theorem lead_lt_256 (c : Char) : lead c < 256 := by
  unfold lead
  obtain ⟨hc, hw⟩ | ⟨hlow, hc, hw⟩ | ⟨hlow, hc, hw⟩ | ⟨hlow, hc, hw⟩ := trailing_cases c <;>
    rw [hw] <;> simp only [above, leadMark] <;> omega

theorem utf8EncodeChar_eq_cons (c : Char) :
    ∃ bytes, String.utf8EncodeChar c = UInt8.ofNat (lead c) :: bytes := by
  rw [utf8EncodeChar_eq_spread]
  exact spread_eq_cons (leadMark (trailing c)) (trailing c) c.toNat

/-- An ASCII character is one byte. -/
theorem utf8EncodeChar_ascii {c : Char} (h : c.toNat < 128) :
    String.utf8EncodeChar c = [UInt8.ofNat c.toNat] := by
  unfold String.utf8EncodeChar
  exact if_pos (Nat.le_of_lt_succ h)

/-- All bytes of another character are above the ASCII range. -/
theorem utf8EncodeChar_wide {c : Char} (h : 128 ≤ c.toNat) :
    ∀ b ∈ String.utf8EncodeChar c, 128 ≤ b.toNat := by
  rw [utf8EncodeChar_eq_spread]
  have hmark : 128 ≤ leadMark (trailing c) := by
    obtain ⟨hc, hw⟩ | ⟨-, -, hw⟩ | ⟨-, -, hw⟩ | ⟨-, -, hw⟩ := trailing_cases c
    · omega
    all_goals simp only [hw, leadMark, Nat.reduceLeDiff]
  exact spread_wide hmark (lead_lt_256 c)

/-! ### The bytes of a text -/

/-- A byte of the ASCII range stands only where its character does. -/
theorem mem_of_mem_ofChars {cs : List Char} {b : UInt8} (hb : b.toNat < 128)
    (h : b ∈ ofChars cs) : Char.ofNat b.toNat ∈ cs := by
  obtain ⟨c, hc, hmem⟩ := List.mem_flatMap.1 h
  by_cases hascii : c.toNat < 128
  · rw [utf8EncodeChar_ascii hascii, List.mem_singleton] at hmem
    have hvalue : b.toNat = c.toNat := by
      rw [hmem, UInt8.toNat_ofNat']
      omega
    rwa [hvalue, Char.ofNat_toNat]
  · exact absurd hb (Nat.not_lt.2 (utf8EncodeChar_wide (Nat.not_lt.1 hascii) b hmem))

/-- The bytes of an ASCII text. -/
theorem toUTF8_ascii {cs : List Char} (h : ∀ c ∈ cs, c.toNat < 128) :
    (String.ofList cs).toUTF8.data.toList = cs.map fun c => UInt8.ofNat c.toNat := by
  rw [toUTF8_ofList]
  induction cs with
  | nil => rfl
  | cons c cs ih =>
    rw [ofChars_cons, utf8EncodeChar_ascii (h c List.mem_cons_self), List.map_cons,
      ih fun d hd => h d (List.mem_cons_of_mem _ hd)]
    rfl

/-- The text of the bytes of a text. -/
theorem fromUTF8?_toUTF8 (s : String) : String.fromUTF8? s.toUTF8 = some s := by
  rw [String.fromUTF8?, String.toUTF8_eq_toByteArray, dif_pos s.isValidUTF8]
  rfl

/-- A text is determined by its bytes. -/
theorem toUTF8_inj {s t : String} (h : s.toUTF8.data.toList = t.toUTF8.data.toList) : s = t := by
  have hread := fromUTF8?_toUTF8 s
  rw [ext_toList h, fromUTF8?_toUTF8 t] at hread
  exact (Option.some.inj hread).symm

/-! ### The order of bytes -/

theorem ofNat_lt {m n : Nat} (h : m < n) (hn : n < 256) : UInt8.ofNat m < UInt8.ofNat n := by
  rw [UInt8.lt_iff_toNat_lt, UInt8.toNat_ofNat', UInt8.toNat_ofNat']
  omega

/-- Of two numbers in as many bytes, the smaller one has the smaller bytes, whatever follows. -/
theorem spread_lt {mark k m n : Nat} (h : m < n) (hn : above k n + mark < 256)
    (xs ys : List UInt8) : spread mark k m ++ xs < spread mark k n ++ ys := by
  induction k generalizing m n xs ys with
  | zero =>
    have hmark : m + mark < n + mark := Nat.add_lt_add_right h mark
    exact List.cons_lt_cons_iff.2 (.inl (ofNat_lt hmark hn))
  | succ k ih =>
    rw [spread, spread, List.append_assoc, List.append_assoc]
    obtain hlt | heq := Nat.lt_or_eq_of_le (Nat.div_le_div_right (c := 64) (Nat.le_of_lt h))
    · exact ih hlt hn _ _
    · -- the numbers differ in the last digit only
      have hdigit : m % 64 + 128 < n % 64 + 128 := by omega
      rw [heq]
      exact List.append_left_lt (List.cons_lt_cons_iff.2 (.inl (ofNat_lt hdigit (by omega))))

/-- A character with more bytes than a smaller one starts with a larger byte. -/
theorem lead_lt {c d : Char} (h : c < d) (hne : trailing c ≠ trailing d) : lead c < lead d := by
  have hlt : c.toNat < d.toNat := h
  unfold lead
  -- where `d` has fewer bytes than `c`, it is smaller
  rcases trailing_cases c with ⟨hc, hwc⟩ | ⟨hc, hc', hwc⟩ | ⟨hc, hc', hwc⟩ | ⟨hc, hc', hwc⟩ <;>
    rcases trailing_cases d with ⟨hd, hwd⟩ | ⟨hd, hd', hwd⟩ | ⟨hd, hd', hwd⟩ | ⟨hd, hd', hwd⟩ <;>
    rw [hwc, hwd] at hne ⊢ <;> simp only [above, leadMark] <;> omega

/-- Of two characters the smaller one has the smaller bytes, whatever follows. -/
theorem utf8EncodeChar_lt {c d : Char} (h : c < d) (xs ys : List UInt8) :
    String.utf8EncodeChar c ++ xs < String.utf8EncodeChar d ++ ys := by
  by_cases hsame : trailing c = trailing d
  · rw [utf8EncodeChar_eq_spread, utf8EncodeChar_eq_spread, hsame]
    exact spread_lt h (lead_lt_256 d) xs ys
  · -- the first byte tells how many follow
    obtain ⟨bytes, hbytes⟩ := utf8EncodeChar_eq_cons c
    obtain ⟨bytes', hbytes'⟩ := utf8EncodeChar_eq_cons d
    rw [hbytes, hbytes', List.cons_append, List.cons_append]
    exact List.cons_lt_cons_iff.2 (.inl (ofNat_lt (lead_lt h hsame) (lead_lt_256 d)))

theorem ofChars_lt {cs ds : List Char} (h : cs < ds) : ofChars cs < ofChars ds := by
  induction cs generalizing ds with
  | nil =>
    cases ds with
    | nil => exact absurd h (List.not_lt_nil [])
    | cons d ds =>
      obtain ⟨bytes, hbytes⟩ := utf8EncodeChar_eq_cons d
      rw [ofChars_cons, hbytes]
      exact List.nil_lt_cons _ _
  | cons c cs ih =>
    cases ds with
    | nil => exact absurd h (List.not_lt_nil _)
    | cons d ds =>
      rw [ofChars_cons, ofChars_cons]
      obtain hlt | ⟨rfl, hrest⟩ := List.cons_lt_cons_iff.1 h
      · exact utf8EncodeChar_lt hlt _ _
      · exact List.append_left_lt (ih hrest)

/-- The order of texts, character by character, is that of their bytes. -/
theorem toUTF8_lt_iff {s t : String} : s.toUTF8.data.toList < t.toUTF8.data.toList ↔ s < t := by
  have hmono {s t : String} (h : s < t) : s.toUTF8.data.toList < t.toUTF8.data.toList := by
    rw [toUTF8_eq, toUTF8_eq]
    exact ofChars_lt h
  refine ⟨fun h => ?_, hmono⟩
  obtain hlt | rfl | hgt := Std.lt_trichotomy s t
  · exact hlt
  · exact absurd h (List.lt_irrefl _)
  · exact absurd h (List.lt_asymm (hmono hgt))

end Playground.Bytes
