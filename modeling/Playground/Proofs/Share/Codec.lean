import Playground.Proofs.Deflate.RoundTrip
import Playground.Proofs.Json.Reader
import Playground.Proofs.Share.Base64
import Playground.Share.Location

/-!
# Fragments read back

What a fragment was made of is read back from it, as far as the limit allows: up to the largest
size a fragment is answered as its JSON is, and beyond it the fragment is refused, whatever it
carries.  So a state comes back from its own fragment exactly when its JSON is within the limit.

The JSON of a state is read back as that state, whatever characters its source has: quotes,
backslashes and control characters come back from their escapes, and all other characters from
their own bytes.
-/

namespace Playground.Share.ShareState

open Bytes Json Json.Reader

variable {rest : List UInt8}

/-! ### Characters -/

/-- A digit is an ASCII character, and its number is read back. -/
theorem hexDigit_read {n : Nat} (h : n < 16) :
    (hexDigit n).toNat < 128 ∧ Reader.hexDigit (UInt8.ofNat (hexDigit n).toNat) = some n := by
  have hall : ∀ n < 16, (hexDigit n).toNat < 128 ∧
      Reader.hexDigit (UInt8.ofNat (hexDigit n).toNat) = some n := by decide
  exact hall n h

/-- What a character is written as: a letter behind a backslash, its number behind a backslash,
or the character itself. -/
theorem quotedChar_cases (c : Char) :
    (∃ b, (b, c) ∈ letterEscapes ∧ ofChars (quotedChar c) = [92, b]) ∨
    (c.toNat < 32 ∧ quotedChar c =
      ['\\', 'u', '0', '0', hexDigit (c.toNat / 16), hexDigit (c.toNat % 16)]) ∨
    (quotedChar c = [c] ∧ c ≠ '"' ∧ c ≠ '\\' ∧ 32 ≤ c.toNat) := by
  by_cases hletter : c ∈ letterEscapes.map (·.2)
  · left
    simp only [letterEscapes, List.map_cons, List.map_nil, List.mem_cons, List.not_mem_nil,
      or_false] at hletter
    rcases hletter with rfl | rfl | rfl | rfl | rfl | rfl | rfl
    all_goals exact ⟨_, by decide, rfl⟩
  · right
    simp only [letterEscapes, List.map_cons, List.map_nil, List.mem_cons, List.not_mem_nil,
      or_false, not_or] at hletter
    obtain ⟨h₁, h₂, h₃, h₄, h₅, h₆, h₇⟩ := hletter
    unfold quotedChar
    rw [if_neg h₁, if_neg h₂, if_neg h₃, if_neg h₄, if_neg h₅, if_neg h₆, if_neg h₇]
    by_cases hcontrol : c.toNat < 32
    · exact .inl ⟨hcontrol, if_pos hcontrol⟩
    · exact .inr ⟨if_neg hcontrol, h₁, h₂, Nat.not_lt.1 hcontrol⟩

/-- All bytes of a character that needs no escape stand for themselves. -/
theorem isPlain_of_mem {c : Char} {b : UInt8} (hquote : c ≠ '"') (hslash : c ≠ '\\')
    (hcontrol : 32 ≤ c.toNat) (hb : b ∈ String.utf8EncodeChar c) : IsPlain b := by
  -- a narrow character is its only byte, and the bytes of a wide one lie above all marks
  by_cases hascii : c.toNat < 128
  · rw [utf8EncodeChar_ascii hascii, List.mem_singleton] at hb
    have hvalue : b.toNat = c.toNat := by
      rw [hb, UInt8.toNat_ofNat', Nat.mod_eq_of_lt (by omega)]
    refine ⟨?_, ?_, ?_⟩
    · rintro rfl
      exact hquote (Char.toNat_inj.1 hvalue.symm)
    · rintro rfl
      exact hslash (Char.toNat_inj.1 hvalue.symm)
    · rw [UInt8.lt_iff_toNat_lt]
      exact Nat.not_lt.2 (hvalue ▸ hcontrol)
  · have hwide := utf8EncodeChar_wide (Nat.not_lt.1 hascii) b hb
    refine ⟨?_, ?_, ?_⟩
    · rintro rfl
      exact absurd hwide (by decide)
    · rintro rfl
      exact absurd hwide (by decide)
    · rw [UInt8.lt_iff_toNat_lt]
      exact Nat.not_lt.2 (Nat.le_trans (by decide) hwide)

/-! ### Quoted texts -/

section StringBytes

variable {input read : List UInt8} {marked : Array (UInt8 × Nat)}
  {post : Array (UInt8 × Nat) → Prop} {n : Nat}

/-- Bytes that stand for themselves are taken one by one. -/
theorem stringBytes_plains {bs : List UInt8} (hbs : ∀ b ∈ bs, IsPlain b) (h : Marks read marked)
    (hn : (bs ++ input).length ≤ n)
    (hrest : ∀ n' marked', input.length ≤ n' → Marks (read ++ bs) marked' →
      Reads (stringBytes n' marked') input post rest) :
    Reads (stringBytes n marked) (bs ++ input) post rest := by
  induction bs generalizing read marked n with
  | nil => exact hrest n marked hn (by rwa [List.append_nil])
  | cons b bs ih =>
    obtain ⟨n, rfl⟩ := Nat.exists_eq_succ_of_ne_zero (Nat.ne_zero_of_lt hn)
    refine stringBytes_plain (hbs b List.mem_cons_self) h fun marked' hmarked' => ?_
    refine ih (fun d hd => hbs d (List.mem_cons_of_mem _ hd)) hmarked' (Nat.le_of_succ_le_succ hn)
      fun n' marked'' hn' hmarked'' => hrest n' marked'' hn' ?_
    rwa [List.append_cons]

/-- A character, however it is written, is taken for its bytes. -/
theorem stringBytes_quotedChar (c : Char) (h : Marks read marked)
    (hn : (ofChars (quotedChar c) ++ input).length ≤ n)
    (hrest : ∀ n' marked', input.length ≤ n' →
      Marks (read ++ String.utf8EncodeChar c) marked' →
      Reads (stringBytes n' marked') input post rest) :
    Reads (stringBytes n marked) (ofChars (quotedChar c) ++ input) post rest := by
  -- a letter behind a backslash, a number behind one, or the character itself
  rcases quotedChar_cases c with ⟨b, hb, hbytes⟩ | ⟨hcontrol, hchars⟩ | ⟨hself, h₁, h₂, h₃⟩
  · rw [hbytes] at hn ⊢
    obtain ⟨n, rfl⟩ := Nat.exists_eq_succ_of_ne_zero (Nat.ne_zero_of_lt hn)
    simp only [List.length_append, List.length_cons, List.length_nil] at hn
    exact stringBytes_escape (escape_letter hb) h fun marked' hmarked' =>
      hrest n marked' (by omega) hmarked'
  · have hhigh : c.toNat / 16 < 16 := by omega
    have hlow : c.toNat % 16 < 16 := Nat.mod_lt _ (by decide)
    have hbytes : ofChars (quotedChar c) = [92, 117, 48, 48,
        UInt8.ofNat (hexDigit (c.toNat / 16)).toNat,
        UInt8.ofNat (hexDigit (c.toNat % 16)).toNat] := by
      rw [hchars]
      simp only [ofChars_cons, ofChars_nil, utf8EncodeChar_ascii (hexDigit_read hhigh).1,
        utf8EncodeChar_ascii (hexDigit_read hlow).1]
      rfl
    rw [hbytes] at hn ⊢
    obtain ⟨n, rfl⟩ := Nat.exists_eq_succ_of_ne_zero (Nat.ne_zero_of_lt hn)
    simp only [List.length_append, List.length_cons, List.length_nil] at hn
    have hvalue : ((0 * 16 + 0) * 16 + c.toNat / 16) * 16 + c.toNat % 16 = c.toNat := by omega
    have hescape : Reads escape (117 :: 48 :: 48 :: UInt8.ofNat (hexDigit (c.toNat / 16)).toNat ::
        UInt8.ofNat (hexDigit (c.toNat % 16)).toNat :: input) (· = c) input := by
      have hzero : Reader.hexDigit 48 = some 0 := rfl
      have hnumber := @hexEscape_reads input _ _ _ _ _ _ _ _ hzero hzero (hexDigit_read hhigh).2
        (hexDigit_read hlow).2
      rw [hvalue] at hnumber
      have hread := escape_unicode (by omega) hnumber
      rwa [Char.ofNat_toNat] at hread
    exact stringBytes_escape hescape h fun marked' hmarked' => hrest n marked' (by omega) hmarked'
  · rw [hself] at hn ⊢
    rw [ofChars_singleton] at hn ⊢
    exact stringBytes_plains (fun b hb => isPlain_of_mem h₁ h₂ h₃ hb) h hn hrest

/-- So are the characters of a text, up to the closing quote. -/
theorem stringBytes_quoted (cs : List Char) (h : Marks read marked)
    (hn : (ofChars (cs.flatMap quotedChar) ++ 34 :: rest).length ≤ n) :
    Reads (stringBytes n marked) (ofChars (cs.flatMap quotedChar) ++ 34 :: rest)
      (Marks (read ++ ofChars cs)) rest := by
  induction cs generalizing read marked n with
  | nil =>
    obtain ⟨n, rfl⟩ := Nat.exists_eq_succ_of_ne_zero (Nat.ne_zero_of_lt hn)
    refine stringBytes_quote ?_
    rwa [ofChars_nil, List.append_nil]
  | cons c cs ih =>
    have hsplit : ofChars ((c :: cs).flatMap quotedChar) ++ 34 :: rest =
        ofChars (quotedChar c) ++ (ofChars (cs.flatMap quotedChar) ++ 34 :: rest) := by
      rw [List.flatMap_cons, ofChars_append, List.append_assoc]
    rw [hsplit] at hn ⊢
    refine stringBytes_quotedChar c h hn fun n' marked' hn' hmarked' => ?_
    rw [ofChars_cons, ← List.append_assoc]
    exact ih hmarked' hn'

end StringBytes

/-- A quoted text behind its opening quote. -/
theorem string_quoted (s : String) :
    Reads string (ofChars (s.toList.flatMap quotedChar) ++ 34 :: rest) (· = s) rest := by
  refine string_reads fun n hn => ?_
  rw [toUTF8_eq]
  have hmarks : Marks [] #[] := rfl
  exact stringBytes_quoted s.toList hmarks hn

/-! ### States -/

/-- The JSON of a state, taken apart. -/
theorem toJson_bytes (s : ShareState) : s.toJson.toUTF8.data.toList =
    123 :: 34 :: (ofChars "source".toList ++ 34 :: 58 :: 34 ::
      (ofChars (s.source.toList.flatMap quotedChar) ++ [34, 125])) := by
  rw [toUTF8_eq, toJson, quoted]
  simp only [String.toList_append, String.toList_ofList, ofChars_append, List.append_assoc]
  rfl

/-- The field is taken for the source. -/
theorem readFields_source (s : String) (n : Nat) :
    Reads (readFields (n + 2) true none)
      (34 :: (ofChars "source".toList ++ 34 :: 58 :: 34 ::
        (ofChars (s.toList.flatMap quotedChar) ++ [34, 125])))
      (· = some s) [125] := by
  have hkey : Reads (nextKey true) _ (· = some "source")
      (58 :: 34 :: (ofChars (s.toList.flatMap quotedChar) ++ [34, 125])) :=
    nextKey_first (string_quoted "source")
  refine hkey.bind_eq ?_
  refine colon_reads.bind fun _ _ => ?_
  refine (stringValue_reads (string_quoted s)).bind_eq ?_
  exact (nextKey_close false).bind_eq (reads_pure rfl)

theorem endObject_reads : Reads endObject (125 :: rest) (fun _ => True) rest :=
  (blanks_cons rfl).bind_eq pass_reads

theorem read_toJson (s : ShareState) :
    Reads read s.toJson.toUTF8.data.toList (· = s) [] := by
  rw [toJson_bytes]
  refine (blanks_cons rfl).bind_eq ?_
  refine pass_reads.bind fun _ _ => ?_
  refine left_reads.bind_eq ?_
  refine (readFields_source s.source _).bind_eq ?_
  exact endObject_reads.bind fun _ _ => reads_pure rfl

/-- A state is read back from its JSON. -/
theorem ofJson_toJson (s : ShareState) : ofJson s.toJson.toUTF8 = .ok s := by
  have hall : Reads (do let s ← read; finish; return s) s.toJson.toUTF8.data.toList (· = s) [] :=
    (read_toJson s).bind_eq (finish_reads.bind fun _ _ => reads_pure rfl)
  obtain ⟨_, place, hrun, rfl⟩ := hall.run
  unfold ofJson
  simp only [hrun]

end Playground.Share.ShareState

namespace Playground.Share

open Deflate

/-- What is inflated is handed on, unless it exceeds the largest size. -/
theorem payloadOf_of_inflate {compressed payload : ByteArray}
    (h : inflate compressed = (payload, .complete)) :
    payloadOf compressed =
      if maxPayload < payload.size then .error .tooLarge else .ok payload := by
  unfold payloadOf
  rw [h]
  rfl

/-- A fragment is answered as the bytes it was made of. -/
theorem tryDecode_fragmentOfBytes (payload : ByteArray) :
    tryDecode (fragmentOfBytes payload) =
      if maxPayload < payload.size then .error .tooLarge else stateOf payload := by
  have hbytes : compressedBytes (fragmentOfBytes payload) = .ok (deflate payload) :=
    compressedBytes_encode _
  have hpayload := payloadOf_of_inflate (inflate_deflate payload)
  simp only [tryDecode, hbytes, hpayload, bind, Except.bind]
  by_cases hsize : maxPayload < payload.size
  · rw [if_pos hsize, if_pos hsize]
  · rw [if_neg hsize, if_neg hsize]

/-- The JSON of a state is read as that state. -/
theorem stateOf_toJson (s : ShareState) : stateOf s.toJson.toUTF8 = .ok s := by
  rw [stateOf, ShareState.ofJson_toJson]

/-- A state is read back from its fragment, unless its JSON exceeds the largest size. -/
theorem tryDecode_encode (s : ShareState) :
    tryDecode (encode s) =
      if maxPayload < s.toJson.toUTF8.size then .error .tooLarge else .ok s := by
  rw [encode, tryDecode_fragmentOfBytes, stateOf_toJson]

/-- What a fragment carries is what it was made of, if it carries anything. -/
theorem eq_of_tryDecode_encode {s t : ShareState} (h : tryDecode (encode s) = .ok t) : t = s := by
  rw [tryDecode_encode] at h
  split at h
  · cases h
  · exact (Except.ok.inj h).symm

/-- A fragment carries a state exactly if there is no reason to refuse it. -/
theorem decode_eq_some {fragment : String} {s : ShareState} :
    decode fragment = some s ↔ tryDecode fragment = .ok s := by
  unfold decode
  cases tryDecode fragment <;> simp [Except.toOption]

/-- **Fragments are read back up to the limit, and refused beyond it.** -/
theorem fragment_read_back :
    (∀ s : ShareState, tryDecode (encode s) =
      if s.toJson.toUTF8.size ≤ maxPayload then .ok s else .error .tooLarge) ∧
    ∀ payload : ByteArray, tryDecode (fragmentOfBytes payload) =
      if maxPayload < payload.size then .error .tooLarge else stateOf payload := by
  refine ⟨fun s => ?_, tryDecode_fragmentOfBytes⟩
  rw [tryDecode_encode]
  by_cases hsize : s.toJson.toUTF8.size ≤ maxPayload
  · rw [if_pos hsize, if_neg (Nat.not_lt.2 hsize)]
  · rw [if_neg hsize, if_pos (Nat.not_le.1 hsize)]

/-- No fragment starts with `#`. -/
theorem withoutHash_encode (s : ShareState) : withoutHash (encode s) = encode s := by
  have hsymbol : ∀ n < 64, Base64.symbol n ≠ '#' := by decide
  unfold withoutHash
  split
  · next rest heq =>
    have hmem : '#' ∈ (encode s).toList := heq ▸ List.mem_cons_self
    rw [encode, fragmentOfBytes, String.toList_ofList] at hmem
    obtain ⟨n, hn, hhash⟩ := Base64.exists_symbol_of_mem hmem
    exact absurd hhash.symm (hsymbol n hn)
  · rfl

/-- Up to the limit, a state is carried by its own fragment. -/
theorem decode_withoutHash_encode {s : ShareState} (h : s.toJson.toUTF8.size ≤ maxPayload) :
    decode (withoutHash (encode s)) = some s := by
  rw [withoutHash_encode, decode_eq_some, tryDecode_encode, if_neg (Nat.not_lt.2 h)]

end Playground.Share
