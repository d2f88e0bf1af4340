import Playground.Proofs.Sandbox.Document

/-!
# Where the inline script ends

A page closes a script at the first end tag it reads, and reads the name of a tag in any mixture of
cases.  The page of a script keeps the tags of the script from closing it, but only those that are
written in lower case:

* `IsEndTag` — the spellings of an end tag;
* `scriptEnd?` — how far a script goes in a page that is read on from its start tag;
* `infix_inlineScript` — the end tags that are left are those that the script has in capitals;
* `closed_by_capitals` — the script is closed by one of these or by the tag of the page;
* `capitals_close_script` — a script that is closed by its own text.
-/

namespace Playground.Sandbox

open Text

variable {word name cs as bs : List Char} {c : Char}

/-! ### End tags -/

/-- How the end tag of a script starts. -/
def endTag : List Char := "</script".toList

/-- Whether a word is how an end tag of a script starts, in any mixture of cases. -/
def IsEndTag (word : List Char) : Prop := word.map Char.toLower = endTag

instance : DecidablePred IsEndTag := fun _ => inferInstanceAs (Decidable (_ = _))

/-- The character that opens a tag is no letter of either case. -/
theorem toLower_eq_lt (h : c.toLower = '<') : c = '<' := by
  unfold Char.toLower at h
  split at h
  · next hupper =>
    -- a lower case letter is no `<`
    have hval : c.val + ('a'.val - 'A'.val) = '<'.val := congrArg Char.val h
    have hbound := hupper.1
    have hlimit := hupper.2
    rw [← UInt32.toNat_inj, UInt32.toNat_add] at hval
    rw [ge_iff_le, UInt32.le_iff_toNat_le] at hbound
    rw [UInt32.le_iff_toNat_le] at hlimit
    simp at hval hbound hlimit
    omega
  · exact h

/-- An end tag starts with a `<`, and no other follows. -/
theorem IsEndTag.eq_cons (h : IsEndTag word) :
    ∃ name, word = '<' :: name ∧ name.map Char.toLower = "/script".toList ∧ '<' ∉ name := by
  obtain ⟨c, name, rfl, hc, hname⟩ := List.map_eq_cons_iff.1 (show word.map Char.toLower =
    '<' :: "/script".toList from h)
  refine ⟨name, by rw [toLower_eq_lt hc], hname, fun hlt => ?_⟩
  have hmem : '<'.toLower ∈ name.map Char.toLower := List.mem_map_of_mem hlt
  rw [hname] at hmem
  exact absurd hmem (by decide)

theorem IsEndTag.length (h : IsEndTag word) : word.length = 8 := by
  rw [← List.length_map (f := Char.toLower), show word.map Char.toLower = endTag from h]
  rfl

/-- An end tag stands on one line. -/
theorem IsEndTag.newline_not_mem (h : IsEndTag word) : '\n' ∉ word := by
  intro hmem
  have hlower : '\n'.toLower ∈ word.map Char.toLower := List.mem_map_of_mem hmem
  rw [show word.map Char.toLower = endTag from h] at hlower
  exact absurd hlower (by decide)

/-! ### Reading a script -/

/-- What the characters of a script are read as. -/
inductive Reading where
  | plain
  /-- text behind `<!--` and up to `-->` -/
  | hidden
  /-- hidden text behind a start tag of a script, of which the next end tag is the counterpart -/
  | nested
deriving DecidableEq

/-- Whether a character ends the name of a tag. -/
def isNameEnd (c : Char) : Bool := c ∈ ['\t', '\n', '\x0c', '\r', ' ', '/', '>']

/-- Whether a text starts with a tag, whose name is read in any mixture of cases. -/
def tagAt (tag cs : List Char) : Bool :=
  (cs.take tag.length).map Char.toLower = tag && (cs.drop tag.length).head?.any isNameEnd

/-- What is read behind the first character of a text. -/
def Reading.next : Reading → List Char → Reading
  | .plain, cs => if startsWith "<!--".toList cs then .hidden else .plain
  | .hidden, cs =>
    if startsWith "-->".toList cs then .plain
    else if tagAt "<script".toList cs then .nested else .hidden
  | .nested, cs =>
    if startsWith "-->".toList cs then .plain else if tagAt endTag cs then .hidden else .nested

/-- The number of characters in front of the end tag that closes a script. -/
def scriptEnd? : Reading → List Char → Option Nat
  | _, [] => none
  | r, c :: cs =>
    if r ≠ .nested ∧ tagAt endTag (c :: cs) then some 0
    else (scriptEnd? (r.next (c :: cs)) cs).map (· + 1)

/-- A text that starts with an end tag starts with a spelling of one. -/
theorem exists_prefix_of_tagAt (h : tagAt endTag cs = true) : ∃ word, IsEndTag word ∧ word <+: cs := by
  simp only [tagAt, Bool.and_eq_true, decide_eq_true_eq] at h
  exact ⟨cs.take endTag.length, h.1, List.take_prefix _ _⟩

/-- A script is closed by an end tag. -/
theorem tagAt_of_scriptEnd? {r : Reading} {n : Nat} (h : scriptEnd? r cs = some n) :
    tagAt endTag (cs.drop n) = true := by
  induction cs generalizing r n with
  | nil => simp [scriptEnd?] at h
  | cons c cs ih =>
    rw [scriptEnd?] at h
    split at h
    · next htag =>
      cases h
      exact htag.2
    · obtain ⟨m, hm, rfl⟩ := Option.map_eq_some_iff.1 h
      exact ih hm

/-- Plain text without end tags is passed over. -/
theorem scriptEnd?_append (htag : ∀ v, v ≠ [] → v <:+ as → tagAt endTag (v ++ bs) = false)
    (hopen : ∀ v, v ≠ [] → v <:+ as → ¬ "<!--".toList <+: v ++ bs) :
    scriptEnd? .plain (as ++ bs) = (scriptEnd? .plain bs).map (· + as.length) := by
  induction as with
  | nil => simp
  | cons a as ih =>
    have hnotag := htag (a :: as) (List.cons_ne_nil a as) List.suffix_rfl
    have hplain : Reading.plain.next (a :: as ++ bs) = .plain := by
      rw [Reading.next, if_neg]
      rw [startsWith_iff]
      exact hopen (a :: as) (List.cons_ne_nil a as) List.suffix_rfl
    rw [List.cons_append] at hnotag hplain ⊢
    rw [scriptEnd?, if_neg (by simp [hnotag]), hplain, ih, Option.map_map, List.length_cons]
    · congr 1
    · exact fun v hne hv => htag v hne (hv.trans (List.suffix_cons a as))
    · exact fun v hne hv => hopen v hne (hv.trans (List.suffix_cons a as))

/-! ### The escaped script -/

theorem escapeScript_nil : escapeScript [] = [] := replaceAll_nil

theorem escapeScript_cons (h : ¬ endTag <+: c :: cs) :
    escapeScript (c :: cs) = c :: escapeScript cs := replaceAll_cons h

theorem escapeScript_append :
    escapeScript (endTag ++ cs) = '<' :: ("\\/script".toList ++ escapeScript cs) :=
  replaceAll_append (by decide)

/-- A property of all scripts, by whether an end tag starts at a place. -/
theorem script_induction {P : List Char → Prop} (nil : P [])
    (cons : ∀ c cs, ¬ endTag <+: c :: cs → P cs → P (c :: cs))
    (append : ∀ cs, P cs → P (endTag ++ cs)) (cs : List Char) : P cs :=
  replaced_induction (by decide) nil cons append cs

/-- Up to the next tag, a script stays as it is. -/
theorem prefix_escapeScript (hname : '<' ∉ name) : name <+: escapeScript cs ↔ name <+: cs := by
  induction cs using script_induction generalizing name with
  | nil => rw [escapeScript_nil]
  | cons c cs hstart ih =>
    rw [escapeScript_cons hstart]
    cases name with
    | nil => simp
    | cons d name =>
      rw [List.cons_prefix_cons, List.cons_prefix_cons, ih fun h => hname (.tail d h)]
  | append cs ih =>
    -- both texts go on with a `<` here
    rw [escapeScript_append, show endTag ++ cs = '<' :: ("/script".toList ++ cs) from rfl]
    cases name with
    | nil => simp
    | cons d name =>
      have hd : d ≠ '<' := fun h => hname (by simp [h])
      simp [List.cons_prefix_cons, hd]

/-- Escaping brings up no word that starts with a `<` and has no other. -/
theorem infix_of_infix_escapeScript (hname : '<' ∉ name) (hhead : name.head? ≠ some '\\')
    (hne : name ≠ []) (h : '<' :: name <:+: escapeScript cs) : '<' :: name <:+: cs := by
  induction cs using script_induction with
  | nil => rwa [escapeScript_nil] at h
  | cons c cs hstart ih =>
    rw [escapeScript_cons hstart, List.infix_cons_iff, List.cons_prefix_cons,
      prefix_escapeScript hname, ← List.cons_prefix_cons] at h
    rw [List.infix_cons_iff]
    exact h.imp_right ih
  | append cs ih =>
    obtain ⟨d, rest, rfl⟩ := List.exists_cons_of_ne_nil hne
    have hd : d ≠ '\\' := fun h => hhead (by rw [h]; rfl)
    rw [escapeScript_append, List.infix_cons_iff] at h
    -- the word is not found where an end was escaped, for a backslash stands there
    obtain h | h := h
    · rw [show "\\/script".toList ++ escapeScript cs =
        '\\' :: ("/script".toList ++ escapeScript cs) from rfl, List.cons_prefix_cons,
        List.cons_prefix_cons] at h
      exact absurd h.2.1 hd
    · rw [infix_append_of_not_mem (by decide)] at h
      exact (ih h).trans (List.suffix_append endTag cs).isInfix

/-- An end tag in lower case is escaped. -/
theorem endTag_not_infix_escapeScript : ¬ endTag <:+: escapeScript cs := by
  have htag : endTag = '<' :: "/script".toList := rfl
  induction cs using script_induction with
  | nil =>
    rw [escapeScript_nil]
    decide
  | cons c cs hstart ih =>
    rw [escapeScript_cons hstart, List.infix_cons_iff, htag, List.cons_prefix_cons,
      prefix_escapeScript (by decide), ← List.cons_prefix_cons, ← htag]
    exact fun h => h.elim hstart ih
  | append cs ih =>
    rw [escapeScript_append, List.infix_cons_iff]
    rintro (h | h)
    · exact absurd (List.cons_prefix_cons.1 (List.cons_prefix_cons.1 h).2).1 (by decide)
    · rw [htag, infix_append_of_not_mem (by decide)] at h
      exact ih h

/-- The end tags of an escaped script are those that the script has in capitals. -/
theorem infix_escapeScript (h : IsEndTag word) :
    word <:+: escapeScript cs ↔ word <:+: cs ∧ word ≠ endTag := by
  obtain ⟨name, rfl, hlower, hname⟩ := h.eq_cons
  constructor
  · intro hword
    refine ⟨infix_of_infix_escapeScript hname ?_ ?_ hword, ?_⟩
    · rintro hhead
      have hmap := congrArg List.head? hlower
      rw [List.head?_map, hhead] at hmap
      exact absurd hmap (by decide)
    · rintro rfl
      exact absurd hlower (by decide)
    · intro htag
      rw [htag] at hword
      exact endTag_not_infix_escapeScript hword
  · rintro ⟨hword, hne⟩
    induction cs using script_induction with
    | nil => rwa [escapeScript_nil]
    | cons c cs hstart ih =>
      rw [List.infix_cons_iff] at hword
      rw [escapeScript_cons hstart, List.infix_cons_iff, List.cons_prefix_cons,
        prefix_escapeScript hname, ← List.cons_prefix_cons]
      exact hword.imp_right ih
    | append cs ih =>
      rw [escapeScript_append, List.infix_cons_iff, infix_append_of_not_mem (by decide)]
      rw [show endTag ++ cs = '<' :: ("/script".toList ++ cs) from rfl, List.infix_cons_iff,
        infix_append_of_not_mem (by decide)] at hword
      obtain hword | hword := hword
      · -- a tag at the place of one in lower case is that tag
        refine absurd ?_ hne
        have hprefix : '<' :: name <+: endTag ++ cs := hword
        have hlength : ('<' :: name).length = endTag.length := h.length
        exact (List.prefix_of_prefix_length_le hprefix (List.prefix_append endTag cs)
          hlength.le).eq_of_length hlength
      · exact .inr (ih hword)

/-! ### End tags in the page -/

section Inline

variable {strict : Bool} {script : String} {n : Nat}

/-- What stands on one line and has a `<` is in the inline script as it is in the escaped script:
the lines of the template have none. -/
theorem infix_inlineScript_iff (hlt : '<' ∈ word) (hnewline : '\n' ∉ word) :
    word <:+: inlineScript strict script ↔ word <:+: escapeScript script.toList := by
  have hnone {line : List Char} (hline : '<' ∉ line) : ¬ word <:+: line :=
    not_infix_of_not_mem hlt hline
  have hbody : word <:+: scriptBody strict script ↔ word <:+: escapeScript script.toList := by
    unfold scriptBody
    cases strict with
    | false => rw [if_neg (by decide), List.nil_append]
    | true =>
      rw [if_pos rfl, show "\"use strict\";\n".toList = "\"use strict\";".toList ++ ['\n'] by decide,
        List.append_assoc, List.singleton_append, infix_append_cons hnewline]
      exact or_iff_right (hnone (by decide))
  have hinline : inlineScript strict script =
      [] ++ '\n' :: (openLine ++ '\n' :: (scriptBody strict script ++
        '\n' :: (closeLine ++ '\n' :: []))) := rfl
  rw [← hbody, hinline]
  simp only [infix_append_cons hnewline]
  rw [or_iff_right (hnone (by decide)), or_iff_right (hnone (by decide)),
    or_iff_left fun hrest => hrest.elim (hnone (by decide)) (hnone (by decide))]

/-- The end tags of the inline script are those that the script has in capitals. -/
theorem infix_inlineScript (h : IsEndTag word) :
    word <:+: inlineScript strict script ↔ word <:+: script.toList ∧ word ≠ endTag := by
  obtain ⟨name, rfl, -, -⟩ := h.eq_cons
  rw [infix_inlineScript_iff List.mem_cons_self h.newline_not_mem, infix_escapeScript h]

/-- Text is hidden in the inline script by the script alone. -/
theorem infix_of_hidden (h : "<!--".toList <:+: inlineScript strict script) :
    "<!--".toList <:+: script.toList := by
  rw [infix_inlineScript_iff (by decide) (by decide)] at h
  exact infix_of_infix_escapeScript (by decide) (by decide) (by decide) h

/-- What stands on one line and starts in the inline script, ends in it. -/
theorem prefix_drop_inlineScript (hnewline : '\n' ∉ word)
    (hn : n < (inlineScript strict script).length)
    (h : word <+: (inlineScript strict script ++ pageBack).drop n) :
    word <+: (inlineScript strict script).drop n := by
  obtain ⟨lines, hlines⟩ : ∃ lines, inlineScript strict script = lines ++ ['\n'] :=
    ⟨'\n' :: (openLine ++ '\n' :: (scriptBody strict script ++ '\n' :: closeLine)),
      by simp [inlineScript]⟩
  have hlength : n ≤ lines.length := by
    rw [hlines, List.length_append, List.length_singleton] at hn
    omega
  rw [hlines, List.append_assoc, List.singleton_append, List.drop_append_of_le_length hlength,
    prefix_append_cons hnewline] at h
  rw [hlines, List.drop_append_of_le_length hlength]
  exact h.trans (List.prefix_append _ _)

/-- An end tag that is read within the inline script is one that the script has in capitals. -/
theorem exists_capitals (hn : n < (inlineScript strict script).length)
    (h : tagAt endTag ((inlineScript strict script ++ pageBack).drop n) = true) :
    ∃ word, IsEndTag word ∧ word <+: (inlineScript strict script).drop n ∧
      word <:+: script.toList ∧ word ≠ endTag := by
  obtain ⟨word, hword, hprefix⟩ := exists_prefix_of_tagAt h
  have hinline := prefix_drop_inlineScript hword.newline_not_mem hn hprefix
  exact ⟨word, hword, hinline, (infix_inlineScript hword).1
    (hinline.isInfix.trans (List.drop_suffix n _).isInfix)⟩

/-- A script without end tags in capitals and without hidden text is passed over. -/
theorem scriptEnd?_inlineScript
    (hlower : ∀ word, IsEndTag word → word <:+: script.toList → word = endTag)
    (hhidden : ¬ "<!--".toList <:+: script.toList) :
    scriptEnd? .plain (inlineScript strict script ++ pageBack) =
      (scriptEnd? .plain pageBack).map (· + (inlineScript strict script).length) := by
  -- a suffix is what is left of the inline script at some place
  have hplace {v : List Char} (hne : v ≠ []) (hv : v <:+ inlineScript strict script) :
      ∃ n < (inlineScript strict script).length,
        v ++ pageBack = (inlineScript strict script ++ pageBack).drop n := by
    obtain ⟨u, hu⟩ := hv
    have hpositive := List.length_pos_iff.2 hne
    refine ⟨u.length, ?_, ?_⟩
    · rw [← hu, List.length_append]
      omega
    · rw [← hu, List.append_assoc, List.drop_left]
  apply scriptEnd?_append
  · intro v hne hv
    by_contra htag
    obtain ⟨n, hn, hrest⟩ := hplace hne hv
    rw [hrest, Bool.not_eq_false] at htag
    obtain ⟨word, hword, -, hscript, hcapitals⟩ := exists_capitals hn htag
    exact hcapitals (hlower word hword hscript)
  · intro v hne hv hstart
    obtain ⟨n, hn, hrest⟩ := hplace hne hv
    rw [hrest] at hstart
    have hinline := prefix_drop_inlineScript (by decide) hn hstart
    exact hhidden (infix_of_hidden (hinline.isInfix.trans (List.drop_suffix n _).isInfix))

end Inline

/-- Behind the inline script, the page has one end tag of a script. -/
theorem eq_zero_of_tagAt_pageBack {n : Nat} (h : tagAt endTag (pageBack.drop n) = true) : n = 0 := by
  by_cases hn : n < pageBack.length
  · revert h
    revert n
    decide +kernel
  · rw [List.drop_eq_nil_of_le (by omega)] at h
    exact absurd h (by decide)

/-- The end tags in the inline script are those that the script has in capitals, and the inline
script is closed by one of these or by the end tag of the page.  It is closed by the end tag of the
page if the script has no end tag in capitals and no hidden text. -/
theorem closed_by_capitals (title : String) (prelude : List String) (strict : Bool)
    (script : String) :
    (document title prelude strict script).toList =
        filled title prelude strict script templateFront ++ '\n' :: (startTag ++
          (inlineScript strict script ++ pageBack)) ∧
      (∀ word, IsEndTag word → (word <:+: inlineScript strict script ↔
        word <:+: script.toList ∧ word ≠ endTag)) ∧
      (∀ n, scriptEnd? .plain (inlineScript strict script ++ pageBack) = some n →
        n = (inlineScript strict script).length ∨
          ∃ word, IsEndTag word ∧ word <+: (inlineScript strict script).drop n ∧
            word <:+: script.toList ∧ word ≠ endTag) ∧
      ((∀ word, IsEndTag word → word <:+: script.toList → word = endTag) →
        ¬ "<!--".toList <:+: script.toList →
        scriptEnd? .plain (inlineScript strict script ++ pageBack) =
          some (inlineScript strict script).length) := by
  refine ⟨document_eq title prelude strict script, fun word hword => infix_inlineScript hword,
    ?_, ?_⟩
  · intro n hn
    have htag := tagAt_of_scriptEnd? hn
    by_cases hinside : n < (inlineScript strict script).length
    · exact .inr (exists_capitals hinside htag)
    · -- the end tag is in the back of the page, so it is that of the page
      rw [List.drop_append, List.drop_eq_nil_of_le (by omega), List.nil_append] at htag
      have hzero := eq_zero_of_tagAt_pageBack htag
      exact .inl (by omega)
  · intro hlower hhidden
    have hend : scriptEnd? .plain pageBack = some 0 := by decide +kernel
    rw [scriptEnd?_inlineScript hlower hhidden, hend, Option.map_some, Nat.zero_add]

/-- A script that names the end tag in capitals is closed by its own text. -/
theorem capitals_close_script :
    IsEndTag "</SCRIPT".toList ∧ "</SCRIPT".toList <:+: scriptBody false "</SCRIPT>" ∧
      scriptEnd? .plain (inlineScript false "</SCRIPT>" ++ pageBack) = some 16 ∧
      (inlineScript false "</SCRIPT>").length = 32 := by
  decide +kernel

end Playground.Sandbox
