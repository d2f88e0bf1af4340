import Playground.Json.Reader
import Playground.Proofs.Bytes

/-!
# What the reader takes

`Reader.Reads m input post rest` says that the reader `m`, standing in front of the bytes `input`,
does not stop, gives a value that satisfies `post` and stands in front of `rest` afterwards.  The
rules below follow the actions of the reader, so that a text is read piece by piece.
-/

namespace Playground.Json.Reader

/-- The bytes from a place on. -/
structure At (bytes : ByteArray) (place : Nat) (input : List UInt8) : Prop where
  le_size : place ≤ bytes.size
  drop_eq : bytes.data.toList.drop place = input

namespace At

variable {bytes : ByteArray} {place : Nat} {b : UInt8} {input : List UInt8}

theorem length_eq (h : At bytes place input) : bytes.size - place = input.length := by
  rw [← h.drop_eq, List.length_drop, Bytes.length_toList]

theorem head (h : At bytes place input) : bytes[place]? = input.head? := by
  rw [Bytes.getElem?_eq, ← h.drop_eq, List.head?_drop]

theorem next (h : At bytes place (b :: input)) : At bytes (place + 1) input where
  le_size := by
    have hlength := h.length_eq
    rw [List.length_cons] at hlength
    omega
  drop_eq := by rw [← List.drop_drop, h.drop_eq, List.drop_one, List.tail_cons]

/-- All bytes are in front of a reader that starts. -/
theorem start (bytes : ByteArray) : At bytes 0 bytes.data.toList := ⟨Nat.zero_le _, rfl⟩

end At

/-- The reader takes what `input` has in front of `rest`, and gives a value as described. -/
def Reads {α : Type} (m : Reader α) (input : List UInt8) (post : α → Prop)
    (rest : List UInt8) : Prop :=
  ∀ bytes place, At bytes place input →
    ∃ a place', m bytes place = .ok a place' ∧ post a ∧ At bytes place' rest

/-! ### Rules -/

section Rules

variable {α β : Type} {m : Reader α} {f : α → Reader β} {input middle rest : List UInt8}
  {post : α → Prop} {after : β → Prop}

/-- A value that is there already. -/
theorem reads_pure {a : α} (h : post a) : Reads (pure a) input post input :=
  fun _ place hat => ⟨a, place, rfl, h, hat⟩

/-- One reader behind the other. -/
theorem Reads.bind (hm : Reads m input post middle)
    (hf : ∀ a, post a → Reads (f a) middle after rest) : Reads (m >>= f) input after rest := by
  intro bytes place hat
  obtain ⟨a, place', hrun, ha, hat'⟩ := hm bytes place hat
  obtain ⟨b, place'', hrun', hb, hat''⟩ := hf a ha bytes place' hat'
  refine ⟨b, place'', ?_, hb, hat''⟩
  show EStateM.bind (m bytes) (fun a => f a bytes) place = _
  rw [EStateM.bind, hrun]
  exact hrun'

/-- A reader whose value is known, in front of another. -/
theorem Reads.bind_eq {a : α} (hm : Reads m input (· = a) middle)
    (hf : Reads (f a) middle after rest) : Reads (m >>= f) input after rest :=
  hm.bind fun _ h => h ▸ hf

/-- A reader over all of the bytes. -/
theorem Reads.run {bytes : ByteArray} (hm : Reads m bytes.data.toList post rest) :
    ∃ a place, m bytes 0 = .ok a place ∧ post a := by
  obtain ⟨a, place, hrun, ha, _⟩ := hm bytes 0 (At.start bytes)
  exact ⟨a, place, hrun, ha⟩

end Rules

/-! ### Bytes -/

variable {b : UInt8} {input rest : List UInt8}

theorem peek_reads : Reads peek input (· = input.head?) input :=
  fun _ place hat => ⟨_, place, rfl, hat.head, hat⟩

theorem pass_reads : Reads pass (b :: input) (fun _ => True) input :=
  fun _ place hat => ⟨(), place + 1, rfl, trivial, hat.next⟩

theorem next_reads : Reads next (b :: input) (· = some b) input :=
  peek_reads.bind_eq (pass_reads.bind fun _ _ => reads_pure rfl)

theorem left_reads : Reads left input (· = input.length + 1) input := by
  intro bytes place hat
  refine ⟨_, place, rfl, ?_, hat⟩
  have hlength := hat.length_eq
  have hle := hat.le_size
  show bytes.size + 1 - place = _
  omega

/-- Whether a byte is a blank. -/
def isBlank (b : UInt8) : Bool := b == 32 || b == 9 || b == 10 || b == 13

/-- Nothing is passed where no blank stands. -/
theorem skipWhile_reads {test : UInt8 → Bool} (h : ∀ b ∈ input.head?, test b = false) (n : Nat) :
    Reads (skipWhile test n) input (fun _ => True) input := by
  cases n with
  | zero => exact reads_pure trivial
  | succ n =>
    refine peek_reads.bind_eq ?_
    cases input with
    | nil => exact reads_pure trivial
    | cons b input =>
      show Reads (if test b = true then _ else _) _ _ _
      rw [if_neg (by rw [h b rfl]; exact Bool.false_ne_true)]
      exact reads_pure trivial

/-- The byte behind no blanks. -/
theorem blanks_reads (h : ∀ b ∈ input.head?, isBlank b = false) :
    Reads blanks input (· = input.head?) input :=
  left_reads.bind_eq ((skipWhile_reads h _).bind fun _ _ => peek_reads)

/-! ### Escapes -/

/-- Four digits are taken for their number. -/
theorem hexEscape_reads {b₁ b₂ b₃ b₄ : UInt8} {d₁ d₂ d₃ d₄ : Nat} (h₁ : hexDigit b₁ = some d₁)
    (h₂ : hexDigit b₂ = some d₂) (h₃ : hexDigit b₃ = some d₃) (h₄ : hexDigit b₄ = some d₄) :
    Reads hexEscape (b₁ :: b₂ :: b₃ :: b₄ :: input)
      (· = ((d₁ * 16 + d₂) * 16 + d₃) * 16 + d₄) input := by
  intro bytes place hat
  have hlength := hat.length_eq
  simp only [List.length_cons] at hlength
  have hdigits : (bytes.extract place (place + 4)).toList.map hexDigit =
      [some d₁, some d₂, some d₃, some d₄] := by
    rw [Bytes.toList_eq, ByteArray.data_extract, Array.toList_extract, List.extract_eq_take_drop,
      hat.drop_eq, Nat.add_sub_cancel_left]
    simp only [List.take_succ_cons, List.take_zero, List.map_cons, List.map_nil, h₁, h₂, h₃, h₄]
  refine ⟨_, place + 4, ?_, rfl, hat.next.next.next.next⟩
  have hfits : ¬place + 4 > bytes.size := by omega
  show (if place + 4 > bytes.size then _ else _ : Reader Nat) bytes place = _
  rw [if_neg hfits]
  dsimp only
  rw [hdigits]
  rfl

/-- An escaped number below the surrogates is a character by itself. -/
theorem unicodeEscape_reads {n : Nat} (hn : n < 0xd800) (h : Reads hexEscape input (· = n) rest) :
    Reads unicodeEscape input (· = Char.ofNat n) rest := by
  refine h.bind_eq ?_
  have hlow : (decide (0xdc00 ≤ n) && decide (n ≤ 0xdfff)) = false := by
    rw [decide_eq_false (by omega), Bool.false_and]
  have hhigh : (decide (n < 0xd800) || decide (0xdbff < n)) = true := by
    rw [decide_eq_true hn, Bool.true_or]
  simp only [hlow, hhigh, if_true]
  exact reads_pure rfl

/-- The letters of the escapes that are one letter. -/
def letterEscapes : List (UInt8 × Char) :=
  [(34, '"'), (92, '\\'), (98, '\x08'), (102, '\x0c'), (110, '\n'), (114, '\r'), (116, '\t')]

theorem escape_letter {c : Char} (h : (b, c) ∈ letterEscapes) :
    Reads escape (b :: input) (· = c) input := by
  refine next_reads.bind_eq ?_
  simp only [letterEscapes, List.mem_cons, Prod.mk.injEq, List.not_mem_nil, or_false] at h
  rcases h with ⟨rfl, rfl⟩ | ⟨rfl, rfl⟩ | ⟨rfl, rfl⟩ | ⟨rfl, rfl⟩ | ⟨rfl, rfl⟩ | ⟨rfl, rfl⟩ |
    ⟨rfl, rfl⟩
  all_goals exact reads_pure rfl

/-- An escaped number. -/
theorem escape_unicode {n : Nat} (hn : n < 0xd800) (h : Reads hexEscape input (· = n) rest) :
    Reads escape (117 :: input) (· = Char.ofNat n) rest :=
  next_reads.bind_eq (unicodeEscape_reads hn h)

/-! ### Strings -/

/-- A byte of a string that stands for itself. -/
def IsPlain (b : UInt8) : Prop := b ≠ 34 ∧ b ≠ 92 ∧ ¬b < 32

/-- The bytes of a string, without their places. -/
abbrev Marks (bytes : List UInt8) (marked : Array (UInt8 × Nat)) : Prop :=
  marked.toList.map (·.1) = bytes

theorem Marks.foldl_push {bytes : List UInt8} {marked : Array (UInt8 × Nat)}
    (h : Marks bytes marked) (more : List UInt8) (place : Nat) :
    Marks (bytes ++ more) (more.foldl (fun a x => a.push (x, place)) marked) := by
  induction more generalizing bytes marked with
  | nil => rwa [List.append_nil]
  | cons x more ih =>
    have hx : Marks (bytes ++ [x]) (marked.push (x, place)) := by
      rw [Marks, Array.toList_push, List.map_append, h]
      rfl
    rw [List.append_cons]
    exact ih hx

section StringBytes

variable {bytes : List UInt8} {marked : Array (UInt8 × Nat)} {post : Array (UInt8 × Nat) → Prop}
  {n : Nat}

/-- The closing quote ends a string. -/
theorem stringBytes_quote (h : post marked) :
    Reads (stringBytes (n + 1) marked) (34 :: rest) post rest :=
  peek_reads.bind_eq (pass_reads.bind fun _ _ => reads_pure h)

/-- A plain byte is taken as it is. -/
theorem stringBytes_plain (hb : IsPlain b) (h : Marks bytes marked)
    (hrest : ∀ marked', Marks (bytes ++ [b]) marked' →
      Reads (stringBytes n marked') input post rest) :
    Reads (stringBytes (n + 1) marked) (b :: input) post rest := by
  obtain ⟨hquote, hslash, hcontrol⟩ := hb
  refine peek_reads.bind_eq ?_
  have hquote : Reader.is b '"' = false := by
    rw [Reader.is, beq_eq_false_iff_ne]
    exact fun heq => hquote (UInt8.toNat_inj.1 heq)
  have hslash : Reader.is b '\\' = false := by
    rw [Reader.is, beq_eq_false_iff_ne]
    exact fun heq => hslash (UInt8.toNat_inj.1 heq)
  show Reads (if Reader.is b '"' = true then _ else if Reader.is b '\\' = true then _
    else if b < 32 then _ else _) _ _ _
  rw [hquote, hslash, if_neg Bool.false_ne_true, if_neg Bool.false_ne_true, if_neg hcontrol]
  intro source place hat
  exact hrest _ (h.foldl_push [b] place) source (place + 1) hat.next

/-- An escape is taken for the bytes of its character. -/
theorem stringBytes_escape {c : Char} {escaped : List UInt8}
    (hc : Reads escape escaped (· = c) input) (h : Marks bytes marked)
    (hrest : ∀ marked', Marks (bytes ++ String.utf8EncodeChar c) marked' →
      Reads (stringBytes n marked') input post rest) :
    Reads (stringBytes (n + 1) marked) (92 :: escaped) post rest := by
  refine peek_reads.bind_eq ?_
  intro source place hat
  have hbytes : c.toString.toUTF8.toList = String.utf8EncodeChar c := by
    have hone : c.toString = String.ofList [c] := rfl
    rw [Bytes.toList_eq, hone, Bytes.toUTF8_ofList, Bytes.ofChars_singleton]
  have hmarked := h.foldl_push (String.utf8EncodeChar c) place
  rw [← hbytes] at hmarked
  have hthen : Reads (do
      let c ← escape
      stringBytes n (c.toString.toUTF8.toList.foldl (fun a x => a.push (x, place)) marked))
      escaped post rest :=
    hc.bind_eq (hrest _ (hbytes ▸ hmarked))
  exact hthen source (place + 1) hat.next

end StringBytes

/-- A string, given its bytes up to the closing quote. -/
theorem string_reads {s : String}
    (h : ∀ n, input.length ≤ n → Reads (stringBytes n #[]) input
      (Marks s.toUTF8.data.toList) rest) :
    Reads string input (· = s) rest := by
  refine left_reads.bind_eq ((h _ (Nat.le_succ _)).bind fun marked hmarked => ?_)
  have hbytes : (⟨marked.map (·.1)⟩ : ByteArray) = s.toUTF8 := by
    refine Bytes.ext_toList ?_
    rw [← hmarked, Array.toList_map]
  have hs : String.fromUTF8? ⟨marked.map (·.1)⟩ = some s := by
    rw [hbytes, Bytes.fromUTF8?_toUTF8]
  dsimp only
  rw [hs]
  exact reads_pure rfl

/-! ### Objects -/

variable {s : String}

/-- A byte that is no blank is seen at once. -/
theorem blanks_cons (h : isBlank b = false) : Reads blanks (b :: input) (· = some b) (b :: input) :=
  blanks_reads fun _ hd => Option.some.inj hd ▸ h

theorem colon_reads : Reads colon (58 :: input) (fun _ => True) input :=
  (blanks_cons rfl).bind_eq pass_reads

/-- A string where one is expected. -/
theorem stringValue_reads (h : Reads string input (· = s) rest) :
    Reads stringValue (34 :: input) (· = s) rest :=
  (blanks_cons rfl).bind_eq (pass_reads.bind fun _ _ => h)

/-- The first key of an object. -/
theorem nextKey_first (h : Reads string input (· = s) rest) :
    Reads (nextKey true) (34 :: input) (· = some s) rest := by
  refine (blanks_cons rfl).bind_eq ?_
  have hkey : Reads (do return some (← string)) input (· = some s) rest :=
    h.bind_eq (reads_pure rfl)
  exact pass_reads.bind fun _ _ => hkey

/-- There is no key in front of a closing brace. -/
theorem nextKey_close (isFirst : Bool) :
    Reads (nextKey isFirst) (125 :: input) (· = none) (125 :: input) :=
  (blanks_cons rfl).bind_eq (reads_pure rfl)

theorem finish_reads : Reads finish [] (fun _ => True) [] :=
  (blanks_reads fun _ h => absurd h (Option.not_mem_none _)).bind_eq (reads_pure trivial)

end Playground.Json.Reader
