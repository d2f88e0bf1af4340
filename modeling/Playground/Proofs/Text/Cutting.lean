import Mathlib.Data.List.Infix
import Playground.Text.Chars

/-!
# Starts, ends and occurrences

What a text starts with, ends with or holds is told by the order of lists.

* `afterStart?_eq_some`, `beforeEnd?_eq_some` — a text without a start or an end it has;
* `trimmedStart_iff`, `trimmedEnd_iff` — a text without the copies of a word at one end;
* `firstReplaced_iff` — a text with the first of some characters replaced;
* `joined_pieces`, `pieces_joined` — the pieces of a text are what it is joined from;
* `infix_append_cons` — a word that lacks a character does not stand across it;
* `infix_of_infix_flatMap` — characters that are rewritten bring up no word that lacks what they
  are rewritten to.
-/

namespace Playground.Text

variable {start stop cs rest word as bs : List Char} {c : Char}

/-! ### Starts and ends -/

/-- What follows a start is what the start has to be continued by. -/
theorem afterStart?_eq_some : afterStart? start cs = some rest ↔ cs = start ++ rest := by
  induction start generalizing cs with
  | nil => simp [afterStart?, eq_comm]
  | cons s start ih =>
    cases cs with
    | nil => simp [afterStart?]
    | cons c cs =>
      rw [afterStart?]
      by_cases hc : s = c
      · simp [hc, ih]
      · simp [hc, Ne.symm hc]

theorem startsWith_iff : startsWith start cs = true ↔ start <+: cs := by
  rw [startsWith, Option.isSome_iff_exists]
  constructor
  · rintro ⟨rest, h⟩
    exact ⟨rest, (afterStart?_eq_some.1 h).symm⟩
  · rintro ⟨rest, h⟩
    exact ⟨rest, afterStart?_eq_some.2 h.symm⟩

/-- What comes before an end is what the end continues. -/
theorem beforeEnd?_eq_some : beforeEnd? stop cs = some rest ↔ cs = rest ++ stop := by
  rw [beforeEnd?, Option.map_eq_some_iff]
  constructor
  · rintro ⟨reversed, h, rfl⟩
    rw [afterStart?_eq_some] at h
    rw [← List.reverse_reverse cs, h, List.reverse_append, List.reverse_reverse]
  · rintro rfl
    exact ⟨rest.reverse, afterStart?_eq_some.2 (List.reverse_append ..), List.reverse_reverse rest⟩

theorem endsWith_iff : endsWith stop cs = true ↔ stop <:+ cs := by
  rw [endsWith, Option.isSome_iff_exists]
  constructor
  · rintro ⟨rest, h⟩
    exact ⟨rest, (beforeEnd?_eq_some.1 h).symm⟩
  · rintro ⟨rest, h⟩
    exact ⟨rest, beforeEnd?_eq_some.2 h.symm⟩

/-! ### Trimming -/

/-- Copies of a word were taken away from the start of a text, and none is left there. -/
def TrimmedStart (word cs rest : List Char) : Prop :=
  ∃ n, cs = (List.replicate n word).flatten ++ rest ∧ ¬ word <+: rest

/-- Copies of a word were taken away from the end of a text, and none is left there. -/
def TrimmedEnd (word cs rest : List Char) : Prop :=
  ∃ n, cs = rest ++ (List.replicate n word).flatten ∧ ¬ word <:+ rest

/-- There is one way to trim the start of a text. -/
theorem TrimmedStart.unique {other : List Char} (h : TrimmedStart word cs rest)
    (hother : TrimmedStart word cs other) : rest = other := by
  obtain ⟨n, rfl, hrest⟩ := h
  obtain ⟨m, heq, hother⟩ := hother
  -- the copies are as many on both sides: with fewer of them, one would be left at the start
  induction n generalizing m with
  | zero =>
    cases m with
    | zero => exact heq
    | succ m =>
      refine absurd ?_ hrest
      simp only [List.replicate_zero, List.flatten_nil, List.nil_append] at heq
      exact ⟨_, by rw [heq, List.replicate_succ, List.flatten_cons, List.append_assoc]⟩
  | succ n ih =>
    rw [List.replicate_succ, List.flatten_cons, List.append_assoc] at heq
    cases m with
    | zero => exact absurd ⟨_, heq⟩ hother
    | succ m =>
      rw [List.replicate_succ, List.flatten_cons, List.append_assoc] at heq
      exact ih m (List.append_cancel_left heq)

theorem trimmedStart_trimStarts (hword : word ≠ []) {n : Nat} (hn : cs.length < n) :
    TrimmedStart word cs (trimStarts word n cs) := by
  induction n generalizing cs with
  | zero => omega
  | succ n ih =>
    rw [trimStarts, if_neg (by simpa using hword)]
    split
    · next rest hrest =>
      obtain rfl := afterStart?_eq_some.1 hrest
      have hlength : 0 < word.length := List.length_pos_iff.2 hword
      rw [List.length_append] at hn
      have hrest : rest.length < n := by omega
      obtain ⟨m, heq, hleft⟩ := ih hrest
      refine ⟨m + 1, ?_, hleft⟩
      rw [List.replicate_succ, List.flatten_cons, List.append_assoc, ← heq]
    · next hnone =>
      refine ⟨0, rfl, fun hstart => ?_⟩
      obtain ⟨rest, rfl⟩ := hstart
      cases hnone.symm.trans (afterStart?_eq_some.2 rfl)

theorem trimmedStart_iff (hword : word ≠ []) :
    TrimmedStart word cs rest ↔ rest = trimStarts word (cs.length + 1) cs := by
  have htrim := trimmedStart_trimStarts hword (Nat.lt_succ_self cs.length)
  exact ⟨fun h => h.unique htrim, fun h => h ▸ htrim⟩

/-- Trimming an end is trimming the start of the reversed text. -/
theorem trimmedEnd_iff_reverse :
    TrimmedEnd word cs rest ↔ TrimmedStart word.reverse cs.reverse rest.reverse := by
  unfold TrimmedEnd TrimmedStart
  simp only [List.reverse_prefix]
  refine exists_congr fun n => and_congr_left fun _ => ?_
  have hreverse : cs = rest ++ (List.replicate n word).flatten ↔
      cs.reverse = (rest ++ (List.replicate n word).flatten).reverse := List.reverse_inj.symm
  rw [hreverse]
  simp [List.reverse_flatten]

theorem trimmedEnd_iff (hword : word ≠ []) :
    TrimmedEnd word cs rest ↔ rest = trimEnds word cs := by
  rw [trimmedEnd_iff_reverse, trimmedStart_iff (by simpa using hword), List.length_reverse, trimEnds,
    ← List.reverse_inj, List.reverse_reverse]

/-! ### The first of some characters -/

/-- The first of the occurrences of a character was replaced, if there is one. -/
def FirstReplaced (c : Char) (word cs new : List Char) : Prop :=
  (c ∉ cs ∧ new = cs) ∨
    ∃ front behind, c ∉ front ∧ cs = front ++ c :: behind ∧ new = front ++ word ++ behind

theorem replaceFirst_append (hc : c ∉ as) :
    replaceFirst c word (as ++ c :: bs) = as ++ word ++ bs := by
  induction as with
  | nil => simp [replaceFirst]
  | cons a as ih =>
    rw [List.mem_cons, not_or] at hc
    simp [replaceFirst, Ne.symm hc.1, ih hc.2]

theorem replaceFirst_of_not_mem (hc : c ∉ cs) : replaceFirst c word cs = cs := by
  induction cs with
  | nil => rfl
  | cons d cs ih =>
    rw [List.mem_cons, not_or] at hc
    rw [replaceFirst, if_neg (Ne.symm hc.1), ih hc.2]

theorem firstReplaced_iff {new : List Char} :
    FirstReplaced c word cs new ↔ new = replaceFirst c word cs := by
  constructor
  · rintro (⟨hc, rfl⟩ | ⟨front, behind, hc, rfl, rfl⟩)
    · exact (replaceFirst_of_not_mem hc).symm
    · exact (replaceFirst_append hc).symm
  · rintro rfl
    by_cases hc : c ∈ cs
    · obtain ⟨front, behind, rfl, hfront⟩ := List.eq_append_cons_of_mem hc
      exact .inr ⟨front, behind, hfront, rfl, replaceFirst_append hfront⟩
    · exact .inl ⟨hc, replaceFirst_of_not_mem hc⟩

/-! ### Pieces -/

theorem pieces_ne_nil : pieces c cs ≠ [] := by
  cases cs with
  | nil => simp [pieces]
  | cons d cs =>
    rw [pieces]
    split
    · simp
    · split <;> simp

/-- The pieces of a text are what it is joined from. -/
theorem joined_pieces : joined c (pieces c cs) = cs := by
  induction cs with
  | nil => rfl
  | cons d cs ih =>
    rw [pieces]
    split
    · next hnil => exact absurd hnil pieces_ne_nil
    · next p ps hcs =>
      rw [hcs] at ih
      split
      · next hd => simp [joined, ih, hd]
      · cases ps with
        | nil => exact congrArg (d :: ·) ih
        | cons q qs => exact congrArg (d :: ·) ih

theorem joined_append {ps : List (List Char)} (hps : ps ≠ []) (p : List Char) :
    joined c (ps ++ [p]) = joined c ps ++ c :: p := by
  induction ps with
  | nil => exact absurd rfl hps
  | cons q qs ih =>
    cases qs with
    | nil => rfl
    | cons r rs =>
      have hrest := congrArg (q ++ c :: ·) (ih (List.cons_ne_nil r rs))
      rw [joined, List.append_assoc]
      · exact hrest
      · exact nofun

/-- The pieces of a text lack the character in between. -/
theorem not_mem_of_mem_pieces {p : List Char} (hp : p ∈ pieces c cs) : c ∉ p := by
  induction cs generalizing p with
  | nil =>
    rw [pieces, List.mem_singleton] at hp
    simp [hp]
  | cons d cs ih =>
    rw [pieces] at hp
    split at hp
    · next hnil => exact absurd hnil pieces_ne_nil
    · next q qs hcs =>
      rw [hcs] at ih
      split at hp
      · obtain rfl | hp := List.mem_cons.1 hp
        · exact List.not_mem_nil
        · exact ih hp
      · next hd =>
        obtain rfl | hp := List.mem_cons.1 hp
        · have hq : c ∉ q := ih List.mem_cons_self
          simp [hq, Ne.symm hd]
        · exact ih (List.mem_cons_of_mem q hp)

theorem pieces_of_not_mem (hc : c ∉ cs) : pieces c cs = [cs] := by
  induction cs with
  | nil => rfl
  | cons d cs ih =>
    rw [List.mem_cons, not_or] at hc
    simp [pieces, ih hc.2, Ne.symm hc.1]

theorem pieces_cons (d : Char) : pieces c (d :: cs) =
    if d = c then [] :: pieces c cs
    else (d :: (pieces c cs).headD []) :: (pieces c cs).tail := by
  rw [pieces]
  split
  · next hnil => exact absurd hnil pieces_ne_nil
  · next hcs => rw [hcs]; rfl

/-- A character between two texts cuts where it stands. -/
theorem pieces_append : pieces c (as ++ c :: bs) = pieces c as ++ pieces c bs := by
  induction as with
  | nil => rw [List.nil_append, pieces_cons, if_pos rfl]; rfl
  | cons a as ih =>
    rw [List.cons_append, pieces_cons, pieces_cons, ih]
    cases hpieces : pieces c as with
    | nil => exact absurd hpieces pieces_ne_nil
    | cons p ps => split <;> rfl

theorem pieces_append_cons (hc : c ∉ as) : pieces c (as ++ c :: bs) = as :: pieces c bs := by
  rw [pieces_append, pieces_of_not_mem hc, List.singleton_append]

/-- A text with a character twice has three pieces. -/
theorem pieces_of_two (has : c ∉ as) (hbs : c ∉ bs) (hcs : c ∉ cs) :
    pieces c (as ++ c :: (bs ++ c :: cs)) = [as, bs, cs] := by
  rw [pieces_append_cons has, pieces_append_cons hbs, pieces_of_not_mem hcs]

/-- Pieces that lack the character in between are those of what they are joined to. -/
theorem pieces_joined {ps : List (List Char)} (hnil : ps ≠ []) (hps : ∀ p ∈ ps, c ∉ p) :
    pieces c (joined c ps) = ps := by
  induction ps with
  | nil => exact absurd rfl hnil
  | cons p ps ih =>
    obtain ⟨hp, hps⟩ := List.forall_mem_cons.1 hps
    cases ps with
    | nil => exact pieces_of_not_mem hp
    | cons q qs =>
      rw [joined, pieces_append_cons hp, ih (List.cons_ne_nil q qs) hps]
      simp

/-- There is one more piece than occurrences of the character in between. -/
theorem length_pieces : (pieces c cs).length = cs.count c + 1 := by
  induction cs with
  | nil => rfl
  | cons d cs ih =>
    have hpos : 0 < (pieces c cs).length := List.length_pos_of_ne_nil pieces_ne_nil
    rw [pieces_cons, List.count_cons]
    by_cases hd : d = c
    · rw [if_pos hd, List.length_cons, ih, if_pos (beq_iff_eq.2 hd)]
    · rw [if_neg hd, List.length_cons, List.length_tail, ih, if_neg (by simpa using hd)]
      omega

/-- Pieces that each end with the character in between are a text that ends with it. -/
theorem flatMap_concat_eq {ps : List (List Char)} (h : ps ≠ []) :
    ps.flatMap (· ++ [c]) = joined c ps ++ [c] := by
  induction ps with
  | nil => exact absurd rfl h
  | cons p ps ih =>
    cases ps with
    | nil => simp [joined]
    | cons q ps =>
      have hjoined : joined c (p :: q :: ps) = p ++ c :: joined c (q :: ps) := rfl
      rw [List.flatMap_cons, ih (List.cons_ne_nil _ _), hjoined, List.append_assoc,
        List.append_assoc]
      rfl

/-! ### Words within a text -/

/-- A word that lacks a character does not reach over it from the start. -/
theorem prefix_append_cons (hc : c ∉ word) : word <+: as ++ c :: bs ↔ word <+: as := by
  constructor
  · intro h
    obtain hshort | ⟨more, rfl⟩ :=
      List.prefix_or_prefix_of_prefix h (List.prefix_append as (c :: bs))
    · exact hshort
    · -- a word that goes on behind the text in front goes on with the character
      rw [List.prefix_append_right_inj] at h
      cases more with
      | nil => simp
      | cons d more =>
        obtain ⟨rfl, -⟩ := List.cons_prefix_cons.1 h
        simp at hc
  · intro h
    exact h.trans (List.prefix_append as (c :: bs))

/-- A word that lacks a character stands in front of it or behind it. -/
theorem infix_append_cons (hc : c ∉ word) :
    word <:+: as ++ c :: bs ↔ word <:+: as ∨ word <:+: bs := by
  induction as with
  | nil =>
    rw [List.nil_append, List.infix_cons_iff]
    cases word with
    | nil => simp
    | cons d word =>
      have hd : d ≠ c := fun h => hc (by simp [h])
      simp [List.cons_prefix_cons, hd]
  | cons a as ih =>
    rw [List.cons_append, List.infix_cons_iff, List.infix_cons_iff, ih, ← List.cons_append,
      prefix_append_cons hc, or_assoc]

/-- A word stands in no text that lacks one of its characters. -/
theorem not_infix_of_not_mem (hword : c ∈ word) (hcs : c ∉ cs) : ¬ word <:+: cs :=
  fun h => hcs (h.subset hword)

/-- A word starts nowhere in a text that lacks its first character. -/
theorem infix_append_of_not_mem (has : c ∉ as) : c :: word <:+: as ++ bs ↔ c :: word <:+: bs := by
  induction as with
  | nil => rw [List.nil_append]
  | cons a as ih =>
    have ha : c ≠ a := List.ne_of_not_mem_cons has
    rw [List.cons_append, List.infix_cons_iff, List.cons_prefix_cons,
      ih (List.not_mem_of_not_mem_cons has)]
    simp [ha]

/-- What starts with a character behind a text that lacks it stands in what follows that text. -/
theorem suffix_of_not_mem (has : c ∉ as) (h : c :: rest <:+ as ++ bs) : c :: rest <:+ bs := by
  induction as with
  | nil => exact h
  | cons a as ih =>
    obtain heq | hsuffix := List.suffix_cons_iff.1 h
    · exact absurd (List.cons.inj heq).1 (List.ne_of_not_mem_cons has)
    · exact ih (List.not_mem_of_not_mem_cons has) hsuffix

/-- A word that lacks the character in between stands in one of the texts that were joined. -/
theorem infix_joined {ps : List (List Char)} (hword : word ≠ []) (hc : c ∉ word) :
    word <:+: joined c ps ↔ ∃ p ∈ ps, word <:+: p := by
  induction ps with
  | nil => simp [joined, hword]
  | cons p ps ih =>
    cases ps with
    | nil => simp [joined]
    | cons q qs =>
      have hjoined : joined c (p :: q :: qs) = p ++ c :: joined c (q :: qs) := rfl
      rw [hjoined, infix_append_cons hc, ih]
      simp

section Rewritten

variable {f : Char → List Char}

/-- Where a text is rewritten character by character, a word that lacks the characters it is
rewritten to was there before. -/
theorem prefix_of_prefix_flatMap (hf : ∀ c, f c = [c] ∨ f c ≠ [] ∧ ∀ d ∈ f c, d ∉ word)
    (h : word <+: cs.flatMap f) : word <+: cs := by
  induction cs generalizing word with
  | nil => exact h
  | cons c cs ih =>
    cases word with
    | nil => exact List.nil_prefix
    | cons w word =>
      rw [List.flatMap_cons] at h
      obtain hself | ⟨hne, hlacks⟩ := hf c
      · rw [hself, List.singleton_append, List.cons_prefix_cons] at h
        rw [List.cons_prefix_cons]
        refine ⟨h.1, ih (fun d => (hf d).imp_right fun hd => ⟨hd.1, fun x hx => ?_⟩) h.2⟩
        exact List.not_mem_of_not_mem_cons (hd.2 x hx)
      · obtain ⟨d, ds, hd⟩ := List.exists_cons_of_ne_nil hne
        rw [hd, List.cons_append, List.cons_prefix_cons] at h
        rw [hd] at hlacks
        exact absurd (h.1 ▸ List.mem_cons_self) (hlacks d List.mem_cons_self)

theorem infix_of_infix_flatMap (hf : ∀ c, f c = [c] ∨ f c ≠ [] ∧ ∀ d ∈ f c, d ∉ word)
    (h : word <:+: cs.flatMap f) : word <:+: cs := by
  induction cs with
  | nil => exact h
  | cons c cs ih =>
    rw [List.infix_cons_iff]
    obtain hself | ⟨-, hlacks⟩ := hf c
    · rw [List.flatMap_cons, hself, List.singleton_append, List.infix_cons_iff] at h
      refine h.imp (fun hprefix => ?_) ih
      exact prefix_of_prefix_flatMap hf (by rwa [List.flatMap_cons, hself, List.singleton_append])
    · cases word with
      | nil => exact .inl List.nil_prefix
      | cons w word =>
        have hw : w ∉ f c := fun hmem => hlacks w hmem List.mem_cons_self
        rw [List.flatMap_cons, infix_append_of_not_mem hw] at h
        exact .inr (ih h)

end Rewritten

end Playground.Text
