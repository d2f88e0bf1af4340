import Playground.Proofs.Text.Cutting
import Playground.Sandbox.Document

/-!
# The page of a script

`replaceAll` goes through a text from the left.  At each place the pattern either starts or does
not, which is all that is needed to follow it:

* `replaceAll_cons`, `replaceAll_append` — the two ways it goes on;
* `replaced_induction` — a property of all texts, by these two ways;
* `replaceAll_append_cons` — texts on the two sides of a character that the pattern lacks are
  replaced on their own;
* `CutBy` — what stands between the occurrences of the pattern, which is all that a replacement
  leaves.

The template of the page is filled line by line, for no marker reaches over the end of a line:

* `inlineScript` — what stands between the tags of the inline script;
* `filled_line` — the lines of the template are filled on their own;
* `document_eq` — the page is its front, the inline script and its back.
-/

namespace Playground.Sandbox

open Text

section Replacing

variable {pattern replacement cs as bs : List Char} {c : Char}

/-- Skipping passes characters over. -/
theorem replaceFrom_skip (h : as.length = n) :
    replaceFrom pattern replacement n (as ++ cs) = replaceFrom pattern replacement 0 cs := by
  induction as generalizing n with
  | nil =>
    subst h
    rfl
  | cons a as ih =>
    subst h
    exact ih rfl

theorem replaceAll_eq (h : pattern ≠ []) :
    replaceAll pattern replacement cs = replaceFrom pattern replacement 0 cs := by
  rw [replaceAll, if_neg (by simpa using h)]

@[simp]
theorem replaceAll_nil : replaceAll pattern replacement [] = [] := by
  rw [replaceAll]
  split
  · rfl
  · rw [replaceFrom]

/-- Where the pattern does not start, a character stays. -/
theorem replaceAll_cons (h : ¬ pattern <+: c :: cs) :
    replaceAll pattern replacement (c :: cs) = c :: replaceAll pattern replacement cs := by
  have hne : pattern ≠ [] := by
    rintro rfl
    exact h (List.nil_prefix)
  rw [replaceAll_eq hne, replaceAll_eq hne, replaceFrom, if_neg (by rwa [startsWith_iff])]

/-- Where the pattern starts, it is replaced. -/
theorem replaceAll_append (h : pattern ≠ []) :
    replaceAll pattern replacement (pattern ++ cs) =
      replacement ++ replaceAll pattern replacement cs := by
  rw [replaceAll_eq h, replaceAll_eq h]
  obtain ⟨c, rest, rfl⟩ := List.exists_cons_of_ne_nil h
  have hstart : startsWith (c :: rest) (c :: (rest ++ cs)) = true :=
    startsWith_iff.2 (List.prefix_append (c :: rest) cs)
  rw [List.cons_append, replaceFrom, if_pos hstart]
  exact congrArg _ (replaceFrom_skip rfl)

/-- A property of all texts, by whether the pattern starts at a place. -/
theorem replaced_induction {P : List Char → Prop} (hpattern : pattern ≠ []) (nil : P [])
    (cons : ∀ c cs, ¬ pattern <+: c :: cs → P cs → P (c :: cs))
    (append : ∀ cs, P cs → P (pattern ++ cs)) (cs : List Char) : P cs := by
  induction hlength : cs.length using Nat.strong_induction_on generalizing cs with
  | _ n ih =>
    subst hlength
    cases cs with
    | nil => exact nil
    | cons c cs =>
      by_cases hstart : pattern <+: c :: cs
      · obtain ⟨rest, hrest⟩ := hstart
        rw [← hrest]
        refine append rest (ih _ ?_ rest rfl)
        have hpositive : 0 < pattern.length := List.length_pos_iff.2 hpattern
        rw [← hrest, List.length_append]
        omega
      · exact cons c cs hstart (ih _ (by simp) cs rfl)

/-- A text without the pattern stays as it is. -/
theorem replaceAll_of_not_infix (h : ¬ pattern <:+: cs) :
    replaceAll pattern replacement cs = cs := by
  induction cs with
  | nil => exact replaceAll_nil
  | cons c cs ih =>
    obtain ⟨hstart, hfound⟩ := not_or.1 (mt List.infix_cons_iff.2 h)
    rw [replaceAll_cons hstart, ih hfound]

/-- A text that lacks a character of the pattern stays as it is. -/
theorem replaceAll_of_not_mem (hpattern : c ∈ pattern) (hcs : c ∉ cs) :
    replaceAll pattern replacement cs = cs :=
  replaceAll_of_not_infix (not_infix_of_not_mem hpattern hcs)

/-- A character that the pattern lacks parts a text. -/
theorem replaceAll_append_cons (hc : c ∉ pattern) (hpattern : pattern ≠ []) :
    replaceAll pattern replacement (as ++ c :: bs) =
      replaceAll pattern replacement as ++ c :: replaceAll pattern replacement bs := by
  induction as using replaced_induction hpattern with
  | nil =>
    rw [List.nil_append, replaceAll_nil, List.nil_append, replaceAll_cons]
    intro h
    obtain ⟨d, rest, rfl⟩ := List.exists_cons_of_ne_nil hpattern
    obtain ⟨rfl, -⟩ := List.cons_prefix_cons.1 h
    exact hc List.mem_cons_self
  | cons d as hstart ih =>
    rw [List.cons_append, replaceAll_cons hstart, replaceAll_cons, ih, List.cons_append]
    rwa [← List.cons_append, prefix_append_cons hc]
  | append as ih =>
    rw [List.append_assoc, replaceAll_append hpattern, replaceAll_append hpattern, ih,
      List.append_assoc]

/-! ### Between the occurrences -/

/-- Whether a pattern cuts a text into some parts: whatever it is replaced by stands between
them, and nothing else changes. -/
def CutBy (pattern cs : List Char) (parts : List (List Char)) : Prop :=
  ∀ replacement, replaceAll pattern replacement cs = replacement.intercalate parts

/-- Every text is cut into parts, and one without the pattern is the only part of itself. -/
theorem exists_cutBy (hpattern : pattern ≠ []) (cs : List Char) :
    ∃ parts, parts ≠ [] ∧ CutBy pattern cs parts ∧ (¬ pattern <:+: cs → parts = [cs]) := by
  induction cs using replaced_induction hpattern with
  | nil => exact ⟨[[]], List.cons_ne_nil _ _, fun _ => by simp, fun _ => rfl⟩
  | cons c cs hstart ih =>
    obtain ⟨parts, hne, hcut, hlone⟩ := ih
    obtain ⟨part, rest, rfl⟩ := List.exists_cons_of_ne_nil hne
    refine ⟨(c :: part) :: rest, List.cons_ne_nil _ _, fun replacement => ?_, fun hfound => ?_⟩
    · rw [replaceAll_cons hstart, hcut, List.intercalate_cons_cons_left]
    · obtain ⟨rfl, rfl⟩ := List.cons.inj (hlone fun h => hfound (List.infix_cons h))
      rfl
  | append cs ih =>
    obtain ⟨parts, hne, hcut, -⟩ := ih
    refine ⟨[] :: parts, List.cons_ne_nil _ _, fun replacement => ?_, fun hfound => ?_⟩
    · rw [replaceAll_append hpattern, hcut, List.intercalate_cons_of_ne_nil hne,
        List.nil_append]
    · exact absurd (List.prefix_append pattern cs).isInfix hfound

theorem intercalate_concat {parts : List (List Char)} (h : parts ≠ []) (part : List Char) :
    replacement.intercalate (parts ++ [part]) =
      replacement.intercalate parts ++ (replacement ++ part) := by
  induction parts with
  | nil => exact absurd rfl h
  | cons first rest ih =>
    rw [List.cons_append, List.intercalate_cons_of_ne_nil (by simp)]
    cases rest with
    | nil => simp
    | cons second rest =>
      rw [ih (List.cons_ne_nil _ _), List.intercalate_cons_of_ne_nil (List.cons_ne_nil _ _)]
      simp only [List.append_assoc]

/-- A pattern between texts adds a part, if the text in front ends with a character that the
pattern lacks and the text behind lacks the pattern. -/
theorem CutBy.concat {parts : List (List Char)} (hc : c ∉ pattern) (hpattern : pattern ≠ [])
    (h : CutBy pattern (as ++ [c]) parts) (hne : parts ≠ []) (hbs : ¬ pattern <:+: bs) :
    CutBy pattern (as ++ c :: (pattern ++ bs)) (parts ++ [bs]) := by
  intro replacement
  have hfront := h replacement
  rw [replaceAll_append_cons hc hpattern, replaceAll_nil] at hfront
  rw [replaceAll_append_cons hc hpattern, replaceAll_append hpattern,
    replaceAll_of_not_infix hbs, intercalate_concat hne, ← hfront, List.append_assoc,
    List.cons_append, List.nil_append]

end Replacing

/-! ### The lines of the template -/

/-- The start tag of the inline script. -/
def startTag : List Char := "<script>".toList

/-- The line in front of the script. -/
def openLine : List Char := "(function () \x7b".toList

/-- The line behind the script. -/
def closeLine : List Char := "\x7d)();".toList

/-- The text between the tags of the inline script. -/
def inlineScript (strict : Bool) (script : String) : List Char :=
  '\n' :: (openLine ++ '\n' :: (scriptBody strict script ++ '\n' :: (closeLine ++ ['\n'])))

/-- The page behind the inline script. -/
def pageBack : List Char := "</script>\n</body>\n</html>\n".toList

/-- The template up to the line of the inline script. -/
def templateFront : List Char :=
  "<!DOCTYPE html>\n<html>\n<head>\n<meta charset=\"utf-8\">\n".toList
    ++ "<meta name=\"viewport\" content=\"width=device-width, initial-scale=1\">\n".toList
    ++ "<title>".toList ++ titleMarker ++ "</title>\n".toList
    ++ preludeMarker ++ "\n</head>\n<body>\n<div id=\"root\"></div>".toList

/-- The lines of the template in front of that of the script, from the start tag on. -/
def scriptFront : List Char := startTag ++ '\n' :: openLine

/-- The lines of the template behind that of the script. -/
def scriptBack : List Char := closeLine ++ '\n' :: pageBack

/-- The lines from the start tag on, with a text at the place of the script. -/
def scriptLines (text : List Char) : List Char := scriptFront ++ '\n' :: (text ++ '\n' :: scriptBack)

theorem template_eq : template = templateFront ++ '\n' :: scriptLines scriptMarker := by
  decide +kernel

/-! ### The page -/

section Filled

variable (title : String) (prelude : List String) (strict : Bool) (script : String)

/-- A text of the template with everything filled in but the script. -/
def loaded (text : List Char) : List Char :=
  replaceAll preludeMarker (preludeTags prelude)
    (replaceAll titleMarker (escapeText title.toList) text)

/-- A text of the template with everything filled in. -/
def filled (text : List Char) : List Char :=
  replaceAll scriptMarker (scriptBody strict script)
    (replaceAll preludeMarker (preludeTags prelude)
      (replaceAll titleMarker (escapeText title.toList) text))

/-- The template is filled line by line, before the script goes in. -/
theorem loaded_line (as bs : List Char) : loaded title prelude (as ++ '\n' :: bs) =
    loaded title prelude as ++ '\n' :: loaded title prelude bs := by
  unfold loaded
  rw [replaceAll_append_cons (by decide) (by decide), replaceAll_append_cons (by decide) (by decide)]

/-- The template is filled line by line. -/
theorem filled_line (as bs : List Char) : filled title prelude strict script (as ++ '\n' :: bs) =
    filled title prelude strict script as ++ '\n' :: filled title prelude strict script bs := by
  show replaceAll _ _ (loaded title prelude (as ++ '\n' :: bs)) = _
  rw [loaded_line, replaceAll_append_cons (by decide) (by decide)]
  rfl

/-- The lines from the start tag on hold the marker of the script and no other. -/
theorem loaded_scriptLines :
    loaded title prelude (scriptLines scriptMarker) = scriptLines scriptMarker := by
  have hother {marker : List Char} (replacement : List Char) (h : 'E' ∈ marker) :
      replaceAll marker replacement (scriptLines scriptMarker) = scriptLines scriptMarker :=
    replaceAll_of_not_mem h (by decide +kernel)
  rw [loaded, hother _ (by decide), hother _ (by decide)]

/-- The marker of the script is what is replaced in its lines. -/
theorem filled_scriptLines : filled title prelude strict script (scriptLines scriptMarker) =
    scriptLines (scriptBody strict script) := by
  have hplain {as : List Char} (has : '_' ∉ as) :
      replaceAll scriptMarker (scriptBody strict script) as = as :=
    replaceAll_of_not_mem (by decide) has
  show replaceAll _ _ (loaded title prelude (scriptLines scriptMarker)) = _
  rw [loaded_scriptLines, scriptLines, replaceAll_append_cons (by decide) (by decide),
    hplain (by decide), replaceAll_append (by decide), hplain (by decide +kernel), scriptLines]

/-- The page is its front, the inline script and its back. -/
theorem document_eq : (document title prelude strict script).toList =
    filled title prelude strict script templateFront ++ '\n' :: (startTag ++
      (inlineScript strict script ++ pageBack)) := by
  let fill := filled title prelude strict script
  calc (document title prelude strict script).toList
      = fill template := String.toList_ofList
    _ = fill (templateFront ++ '\n' :: scriptLines scriptMarker) := congrArg fill template_eq
    _ = fill templateFront ++ '\n' :: fill (scriptLines scriptMarker) := filled_line ..
    _ = fill templateFront ++ '\n' :: scriptLines (scriptBody strict script) :=
        congrArg (fill templateFront ++ '\n' :: ·) (filled_scriptLines ..)
    _ = fill templateFront ++ '\n' :: (startTag ++
          (inlineScript strict script ++ pageBack)) := by
        simp only [scriptLines, scriptFront, scriptBack, inlineScript, List.append_assoc,
          List.cons_append, List.nil_append]

end Filled

end Playground.Sandbox
