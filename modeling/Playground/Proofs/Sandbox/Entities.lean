import Playground.Proofs.Sandbox.Document

/-!
# Escaped texts

A title and the sources of scripts go into the page with their special characters written as
entities.  What is written is read back, also if the text looks like entities from the start:

* `unescape` — a text with its entities read, from the left;
* `Readable` — entities that are found again where they are written;
* `Lossless` — an escape that leaves none of its characters bare, is read back, and goes piece by
  piece;
* `escapes_lossless` — the escapes of the page are lossless, and a source stays within its tag.
-/

namespace Playground.Sandbox

open Text

/-! ### Entities -/

/-- A character, and the name it is written as. -/
structure Entity where
  char : Char
  name : List Char
deriving DecidableEq

/-- The entities of a text between tags. -/
def textEntities : List Entity :=
  [⟨'&', "&amp;".toList⟩, ⟨'<', "&lt;".toList⟩, ⟨'>', "&gt;".toList⟩]

/-- The entities of a value between double quotes. -/
def attrEntities : List Entity := textEntities ++ [⟨'"', "&quot;".toList⟩]

/-- A text with its entities read, behind some characters that are passed over. -/
def unescapeFrom (entities : List Entity) : Nat → List Char → List Char
  | _, [] => []
  | skipped + 1, _ :: cs => unescapeFrom entities skipped cs
  | 0, c :: cs =>
    match entities.find? fun e => startsWith e.name (c :: cs) with
    | some e => e.char :: unescapeFrom entities (e.name.length - 1) cs
    | none => c :: unescapeFrom entities 0 cs

/-- A text with its entities read, from the left; what is no entity stays as it is. -/
def unescape (entities : List Entity) (cs : List Char) : List Char := unescapeFrom entities 0 cs

/-- Entities that are found again where they are written: all of them start with an ampersand,
which is written as one itself, and go on without any character that has one; and no name is the
start of another. -/
structure Readable (entities : List Entity) : Prop where
  ampersand : '&' ∈ entities.map Entity.char
  starts : ∀ e ∈ entities, e.name.head? = some '&'
  plain : ∀ e ∈ entities, ∀ f ∈ entities, f.char ∉ e.name.tail
  distinct : ∀ e ∈ entities, ∀ f ∈ entities, e.name <+: f.name → e = f

/-- Characters that have an entity are written as its name, and others as they are. -/
structure WrittenBy (entities : List Entity) (write : Char → List Char) : Prop where
  named : ∀ e ∈ entities, write e.char = e.name
  bare : ∀ c, c ∉ entities.map Entity.char → write c = [c]

/-- What makes an escape safe to place in a page, and to read again. -/
structure Lossless (entities : List Entity) (escape : List Char → List Char) : Prop where
  /-- no character that has an entity is left, but for the ampersands -/
  closed : ∀ cs, ∀ c ∈ entities.map Entity.char, c ≠ '&' → c ∉ escape cs
  /-- and these start an entity each -/
  named : ∀ cs behind, '&' :: behind <:+ escape cs → ∃ e ∈ entities, e.name <+: '&' :: behind
  decoded : ∀ cs, unescape entities (escape cs) = cs
  injective : Function.Injective escape
  append : ∀ cs ds, escape (cs ++ ds) = escape cs ++ escape ds

section

variable {entities : List Entity} {write : Char → List Char} {cs rest behind : List Char}
  {c : Char} {e : Entity}

/-! ### Reading what was written -/

/-- Characters that are passed over are not read. -/
theorem unescapeFrom_skip {as : List Char} {n : Nat} (h : as.length = n) :
    unescapeFrom entities n (as ++ cs) = unescape entities cs := by
  subst h
  induction as with
  | nil => rfl
  | cons a as ih => exact ih

/-- A name is an ampersand, and a word without any character that has an entity. -/
theorem Readable.name_eq (h : Readable entities) (he : e ∈ entities) :
    ∃ word, e.name = '&' :: word ∧ ∀ d ∈ word, d ∉ entities.map Entity.char := by
  obtain ⟨word, hname⟩ := List.head?_eq_some_iff.1 (h.starts e he)
  refine ⟨word, hname, fun d hd hchar => ?_⟩
  obtain ⟨f, hf, rfl⟩ := List.mem_map.1 hchar
  have hplain := h.plain e he f hf
  rw [hname] at hplain
  exact hplain hd

/-- Where a name is written, its entity is the one that is found. -/
theorem Readable.find (h : Readable entities) (he : e ∈ entities) :
    (entities.find? fun f => startsWith f.name (e.name ++ rest)) = some e := by
  cases hfind : entities.find? fun f => startsWith f.name (e.name ++ rest) with
  | none =>
    have hno := List.find?_eq_none.1 hfind e he
    exact absurd (startsWith_iff.2 (List.prefix_append e.name rest)) hno
  | some f =>
    have hf : f ∈ entities := List.mem_of_find?_eq_some hfind
    have hstart : startsWith f.name (e.name ++ rest) = true := by
      simpa using List.find?_some hfind
    -- two names at one place: one starts the other
    obtain hfe | hef := List.prefix_or_prefix_of_prefix (startsWith_iff.1 hstart)
      (List.prefix_append e.name rest)
    · rw [h.distinct f hf e he hfe]
    · rw [h.distinct e he f hf hef]

theorem Readable.unescape_name (h : Readable entities) (he : e ∈ entities) :
    unescape entities (e.name ++ rest) = e.char :: unescape entities rest := by
  obtain ⟨word, hname, -⟩ := h.name_eq he
  have hfind : (entities.find? fun f => startsWith f.name (e.name ++ rest)) = some e := h.find he
  rw [hname, List.cons_append] at hfind ⊢
  rw [unescape, unescapeFrom, hfind]
  refine congrArg (e.char :: ·) (unescapeFrom_skip ?_)
  rw [hname, List.length_cons, Nat.add_sub_cancel]

theorem Readable.unescape_bare (h : Readable entities) (hc : c ∉ entities.map Entity.char) :
    unescape entities (c :: rest) = c :: unescape entities rest := by
  have hfind : (entities.find? fun f => startsWith f.name (c :: rest)) = none := by
    refine List.find?_eq_none.2 fun f hf hstart => ?_
    obtain ⟨word, hname, -⟩ := h.name_eq hf
    rw [startsWith_iff, hname] at hstart
    obtain ⟨rfl, -⟩ := List.cons_prefix_cons.1 hstart
    exact hc h.ampersand
  rw [unescape, unescapeFrom, hfind]
  rfl

/-- A character is written as an entity or as it is. -/
theorem WrittenBy.named_or_bare (hw : WrittenBy entities write) (c : Char) :
    (∃ e ∈ entities, e.char = c ∧ write c = e.name) ∨
      (c ∉ entities.map Entity.char ∧ write c = [c]) := by
  by_cases hc : c ∈ entities.map Entity.char
  · obtain ⟨e, he, rfl⟩ := List.mem_map.1 hc
    exact .inl ⟨e, he, rfl, hw.named e he⟩
  · exact .inr ⟨hc, hw.bare c hc⟩

theorem unescape_flatMap (h : Readable entities) (hw : WrittenBy entities write)
    (cs : List Char) : unescape entities (cs.flatMap write) = cs := by
  induction cs with
  | nil => rfl
  | cons c cs ih =>
    rw [List.flatMap_cons]
    obtain ⟨e, he, rfl, hname⟩ | ⟨hc, hbare⟩ := hw.named_or_bare c
    · rw [hname, h.unescape_name he, ih]
    · rw [hbare, List.singleton_append, h.unescape_bare hc, ih]

/-! ### What stands in what was written -/

/-- The only character with an entity that is left in what was written is the ampersand. -/
theorem eq_of_mem_flatMap (h : Readable entities) (hw : WrittenBy entities write)
    (hc : c ∈ cs.flatMap write) (hentity : c ∈ entities.map Entity.char) : c = '&' := by
  obtain ⟨d, -, hd⟩ := List.mem_flatMap.1 hc
  obtain ⟨e, he, -, hname⟩ | ⟨hbare, hwrite⟩ := hw.named_or_bare d
  · obtain ⟨word, hword, hplain⟩ := h.name_eq he
    rw [hname, hword] at hd
    obtain rfl | hd := List.mem_cons.1 hd
    · rfl
    · exact absurd hentity (hplain c hd)
  · rw [hwrite, List.mem_singleton] at hd
    subst hd
    exact absurd hentity hbare

/-- Every ampersand in what was written starts a name. -/
theorem exists_name_of_suffix (h : Readable entities) (hw : WrittenBy entities write)
    (hsuffix : '&' :: behind <:+ cs.flatMap write) : ∃ e ∈ entities, e.name <+: '&' :: behind := by
  induction cs with
  | nil => exact absurd (List.suffix_nil.1 hsuffix) (List.cons_ne_nil _ _)
  | cons c cs ih =>
    rw [List.flatMap_cons] at hsuffix
    obtain ⟨e, he, -, hname⟩ | ⟨hbare, hwrite⟩ := hw.named_or_bare c
    · obtain ⟨word, hword, hplain⟩ := h.name_eq he
      rw [hname, hword] at hsuffix
      obtain heq | hbehind := List.suffix_cons_iff.1 hsuffix
      · -- this is the ampersand of the name itself
        refine ⟨e, he, ?_⟩
        rw [heq, hword]
        exact List.prefix_append _ _
      · exact ih (suffix_of_not_mem (fun hd => hplain '&' hd h.ampersand) hbehind)
    · rw [hwrite] at hsuffix
      refine ih (suffix_of_not_mem ?_ hsuffix)
      rw [List.mem_singleton]
      rintro rfl
      exact hbare h.ampersand

/-- A text written with readable entities is lossless. -/
theorem lossless_flatMap (h : Readable entities) (hw : WrittenBy entities write) :
    Lossless entities (·.flatMap write) where
  closed _ _ hc hne hmem := hne (eq_of_mem_flatMap h hw hmem hc)
  named _ _ := exists_name_of_suffix h hw
  decoded := unescape_flatMap h hw
  injective := Function.LeftInverse.injective (unescape_flatMap h hw)
  append _ _ := List.flatMap_append

end

/-! ### The escapes of the page -/

theorem textEntities_readable : Readable textEntities where
  ampersand := by decide
  starts := by decide
  plain := by decide
  distinct := by decide

theorem attrEntities_readable : Readable attrEntities where
  ampersand := by decide
  starts := by decide
  plain := by decide
  distinct := by decide

theorem textEntities_written : WrittenBy textEntities escapeTextChar where
  named := by decide
  bare c hc := by
    have hne : ∀ d ∈ textEntities.map Entity.char, c ≠ d := fun d hd h => hc (h ▸ hd)
    rw [escapeTextChar, if_neg (hne '&' (by decide)), if_neg (hne '<' (by decide)),
      if_neg (hne '>' (by decide))]

theorem attrEntities_written : WrittenBy attrEntities escapeAttrChar where
  named := by decide
  bare c hc := by
    rw [attrEntities, List.map_append, List.mem_append, not_or] at hc
    rw [escapeAttrChar, if_neg (List.ne_of_not_mem_cons hc.2), textEntities_written.bare c hc.1]

/-- Replacing a character is writing another text for it. -/
theorem replaceAll_singleton (c : Char) (replacement cs : List Char) :
    replaceAll [c] replacement cs = cs.flatMap fun d => if d = c then replacement else [d] := by
  induction cs with
  | nil => exact replaceAll_nil
  | cons d cs ih =>
    rw [List.flatMap_cons, ← ih]
    by_cases hd : d = c
    · subst hd
      rw [if_pos rfl]
      exact replaceAll_append (List.cons_ne_nil d [])
    · rw [if_neg hd, replaceAll_cons, List.singleton_append]
      intro h
      exact hd (List.cons_prefix_cons.1 h).1.symm

/-- A text is escaped by replacing one character after the other, the ampersands first. -/
theorem escapeText_eq_replaceAll (cs : List Char) :
    escapeText cs = replaceAll ['>'] "&gt;".toList
      (replaceAll ['<'] "&lt;".toList (replaceAll ['&'] "&amp;".toList cs)) := by
  simp only [replaceAll_singleton, List.flatMap_assoc, escapeText]
  refine congrArg (cs.flatMap ·) (funext fun c => ?_)
  unfold escapeTextChar
  by_cases hamp : c = '&'
  · subst hamp
    decide
  by_cases hlt : c = '<'
  · subst hlt
    decide
  · rw [if_neg hamp, if_neg hamp, if_neg hlt, List.flatMap_singleton, if_neg hlt,
      List.flatMap_singleton]

/-- A value is escaped as a text, and then its quotes are replaced. -/
theorem escapeAttr_eq_replaceAll (cs : List Char) :
    escapeAttr cs = replaceAll ['"'] "&quot;".toList (escapeText cs) := by
  rw [replaceAll_singleton, escapeText, escapeAttr, List.flatMap_assoc]
  refine congrArg (cs.flatMap ·) (funext fun c => ?_)
  obtain ⟨e, he, rfl, hname⟩ | ⟨-, hbare⟩ := textEntities_written.named_or_bare c
  · revert e
    decide
  · rw [hbare, escapeAttrChar, hbare, List.flatMap_singleton]

/-- The tag of a source has the quotes and the ends that it is written with, and no others. -/
theorem pieces_preludeTag (source : String) :
    pieces '"' (preludeTag source) =
        ["<script src=".toList, escapeAttr source.toList, "></script>".toList] ∧
      pieces '<' (preludeTag source) =
        [[], "script src=\"".toList ++ (escapeAttr source.toList ++ "\">".toList),
          "/script>".toList] ∧
      pieces '>' (preludeTag source) =
        ["<script src=\"".toList ++ (escapeAttr source.toList ++ ['"']), "</script".toList, []] := by
  -- quotes and brackets of the source are written as entities
  have hlacks : ∀ c ∈ attrEntities.map Entity.char, c ≠ '&' → c ∉ escapeAttr source.toList :=
    (lossless_flatMap attrEntities_readable attrEntities_written).closed source.toList
  have hsides (front back : List Char) {c : Char} (hfront : c ∉ front) (hback : c ∉ back)
      (hc : c ∉ escapeAttr source.toList) : c ∉ front ++ (escapeAttr source.toList ++ back) := by
    rw [List.mem_append, List.mem_append, not_or, not_or]
    exact ⟨hfront, hc, hback⟩
  have hquote := hlacks '"' (by decide) (by decide)
  have hopen := hsides "script src=\"".toList "\">".toList (by decide) (by decide)
    (hlacks '<' (by decide) (by decide))
  have hclose := hsides "<script src=\"".toList ['"'] (by decide) (by decide)
    (hlacks '>' (by decide) (by decide))
  refine ⟨?_, ?_, ?_⟩
  · rw [← pieces_of_two (by decide) hquote (by decide)]
    rfl
  · rw [← pieces_of_two List.not_mem_nil hopen (by decide), List.append_assoc, List.append_assoc]
    rfl
  · rw [← pieces_of_two hclose (by decide) List.not_mem_nil, List.append_assoc, List.append_assoc]
    rfl

/-- **Escaping is lossless and closed.** Both escapes leave no special character but the ampersands
that start their entities, and reading the entities gives every text back; the order in which the
characters are replaced matters, and is the one that makes it so.  A source therefore ends neither
the quotes nor the tag that it stands in. -/
theorem escapes_lossless :
    Lossless textEntities escapeText ∧ Lossless attrEntities escapeAttr ∧
      (∀ cs, escapeText cs = replaceAll ['>'] "&gt;".toList
        (replaceAll ['<'] "&lt;".toList (replaceAll ['&'] "&amp;".toList cs))) ∧
      (∀ cs, escapeAttr cs = replaceAll ['"'] "&quot;".toList (escapeText cs)) ∧
      ∀ source, pieces '"' (preludeTag source) =
          ["<script src=".toList, escapeAttr source.toList, "></script>".toList] ∧
        pieces '<' (preludeTag source) =
          [[], "script src=\"".toList ++ (escapeAttr source.toList ++ "\">".toList),
            "/script>".toList] ∧
        pieces '>' (preludeTag source) =
          ["<script src=\"".toList ++ (escapeAttr source.toList ++ ['"']),
            "</script".toList, []] :=
  ⟨lossless_flatMap textEntities_readable textEntities_written,
    lossless_flatMap attrEntities_readable attrEntities_written,
    escapeText_eq_replaceAll, escapeAttr_eq_replaceAll, pieces_preludeTag⟩

/-- A text that has an entity to begin with is read back with it. -/
example : escapeAttr "&lt;\"".toList = "&amp;lt;&quot;".toList ∧
    unescape attrEntities "&amp;lt;&quot;".toList = "&lt;\"".toList := by
  decide

/-- Were the ampersands replaced last, those of the entities would be replaced as well. -/
example : replaceAll ['&'] "&amp;".toList (replaceAll ['<'] "&lt;".toList ['<']) =
    "&amp;lt;".toList := by
  decide

end Playground.Sandbox
