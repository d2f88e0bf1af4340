import Playground.Proofs.Sandbox.Entities

/-!
# Markers in the page

The texts of the page go in one after the other, and what went in is searched for the markers that
are still to be replaced.  The script goes in last, so that nothing is searched for in it:

* `pageStart` — the page up to the script, with texts at the places of the title and the tags;
* `infix_pageStart` — a marker stands in there only if it stands in one of these texts;
* `infix_of_infix_escape` — and in an escaped text only if it stood in the text;
* `script_never_searched` — the page is made of texts that do not depend on the script, with the
  script between them; it stands there once, unless the title or a source brings in a marker.
-/

namespace Playground.Sandbox

open Text

/-! ### Markers -/

/-- The markers of the template. -/
def markers : List (List Char) := [titleMarker, preludeMarker, scriptMarker]

variable {marker title tags : List Char}

/-- A marker is made of underscores and capitals. -/
theorem marker_chars (h : marker ∈ markers) :
    '_' ∈ marker ∧ marker.all fun c => c = '_' || c.isUpper := by
  revert marker
  decide

theorem marker_ne_nil (h : marker ∈ markers) : marker ≠ [] :=
  List.ne_nil_of_mem (marker_chars h).1

/-- Another character is none of a marker. -/
theorem not_mem_marker (h : marker ∈ markers) {c : Char} (hunderscore : c ≠ '_')
    (hupper : c.isUpper = false) : c ∉ marker := by
  intro hc
  have hchar := List.all_eq_true.1 (marker_chars h).2 c hc
  rw [decide_eq_false hunderscore, hupper] at hchar
  cases hchar

/-- A marker stands in no text without an underscore. -/
theorem not_infix_marker (h : marker ∈ markers) {text : List Char} (htext : '_' ∉ text) :
    ¬ marker <:+: text :=
  not_infix_of_not_mem (marker_chars h).1 htext

/-! ### The page up to the script -/

/-- The page up to the text of the title. -/
def headStart : List Char :=
  "<!DOCTYPE html>\n<html>\n<head>\n<meta charset=\"utf-8\">\n".toList
    ++ "<meta name=\"viewport\" content=\"width=device-width, initial-scale=1\">\n<title".toList

/-- The page up to the end of the title. -/
def titled (title : List Char) : List Char :=
  headStart ++ '>' :: (title ++ '<' :: "/title>".toList)

/-- The lines between the tags of the prelude and the inline script. -/
def bodyStart : List Char := "</head>\n<body>\n<div id=\"root\"></div>".toList

/-- The page up to the line of the inline script. -/
def pageFront (title tags : List Char) : List Char :=
  titled title ++ '\n' :: (tags ++ '\n' :: bodyStart)

/-- The page up to the script. -/
def pageStart (title tags : List Char) : List Char :=
  pageFront title tags ++ '\n' :: scriptFront ++ ['\n']

/-- The page behind the script. -/
def pageRest : List Char := '\n' :: scriptBack

theorem templateFront_eq : templateFront = pageFront titleMarker preludeMarker := by
  decide +kernel

/-- The start of the page has no character that a marker needs. -/
theorem underscore_not_mem_headStart : '_' ∉ headStart := by
  decide

/-- A marker stands at the start of the page if it stands in a text that was filled in. -/
theorem infix_titled (h : marker ∈ markers) : marker <:+: titled title ↔ marker <:+: title := by
  rw [titled, infix_append_cons (not_mem_marker h (by decide) (by decide)),
    infix_append_cons (not_mem_marker h (by decide) (by decide)),
    or_iff_right (not_infix_marker h underscore_not_mem_headStart),
    or_iff_left (not_infix_marker h (by decide))]

theorem infix_pageStart (h : marker ∈ markers) :
    marker <:+: pageStart title tags ↔ marker <:+: title ∨ marker <:+: tags := by
  have hnewline : '\n' ∉ marker := not_mem_marker h (by decide) (by decide)
  have hline : ¬ marker <:+: scriptFront ++ ['\n'] := not_infix_marker h (by decide)
  rw [pageStart, List.append_assoc, List.cons_append, infix_append_cons hnewline,
    or_iff_left hline, pageFront, infix_append_cons hnewline, infix_append_cons hnewline,
    or_iff_left (not_infix_marker h (by decide)), infix_titled h]

/-! ### Escaped texts -/

/-- Escaping brings up no marker. -/
theorem infix_of_infix_escape (h : marker ∈ markers) {entities : List Entity}
    {write : Char → List Char} (hw : WrittenBy entities write)
    (hnames : ∀ e ∈ entities, e.name ≠ [] ∧ e.name.all fun c => c ≠ '_' && !c.isUpper)
    {cs : List Char} (hfound : marker <:+: cs.flatMap write) : marker <:+: cs := by
  refine infix_of_infix_flatMap (fun c => ?_) hfound
  obtain ⟨e, he, -, hname⟩ | ⟨-, hbare⟩ := hw.named_or_bare c
  · rw [hname]
    obtain ⟨hne, hchars⟩ := hnames e he
    refine .inr ⟨hne, fun d hd => ?_⟩
    have hchar := List.all_eq_true.1 hchars d hd
    rw [Bool.and_eq_true, decide_eq_true_iff, Bool.not_eq_true'] at hchar
    exact not_mem_marker h hchar.1 hchar.2
  · exact .inl hbare

theorem infix_of_infix_escapeText (h : marker ∈ markers) {cs : List Char}
    (hfound : marker <:+: escapeText cs) : marker <:+: cs :=
  infix_of_infix_escape h textEntities_written (by decide) hfound

theorem infix_of_infix_escapeAttr (h : marker ∈ markers) {cs : List Char}
    (hfound : marker <:+: escapeAttr cs) : marker <:+: cs :=
  infix_of_infix_escape h attrEntities_written (by decide) hfound

/-- A marker stands in the tags of the prelude only if it stands in a source. -/
theorem infix_of_infix_preludeTags (h : marker ∈ markers) {prelude : List String}
    (hfound : marker <:+: preludeTags prelude) :
    ∃ source ∈ prelude, marker <:+: source.toList := by
  rw [preludeTags, infix_joined (marker_ne_nil h) (not_mem_marker h (by decide) (by decide))]
    at hfound
  obtain ⟨tag, htag, hfound⟩ := hfound
  obtain ⟨source, hsource, rfl⟩ := List.mem_map.1 htag
  have hquote : '"' ∉ marker := not_mem_marker h (by decide) (by decide)
  have hparts : preludeTag source = "<script src=".toList ++ '"' ::
    (escapeAttr source.toList ++ '"' :: "></script>".toList) := rfl
  rw [hparts, infix_append_cons hquote, infix_append_cons hquote] at hfound
  obtain hstart | hvalue | hend := hfound
  · exact absurd hstart (not_infix_marker h (by decide))
  · exact ⟨source, hsource, infix_of_infix_escapeAttr h hvalue⟩
  · exact absurd hend (not_infix_marker h (by decide))

/-! ### Filling in -/

/-- The start of the page with the title and the tags filled in, if the title brings in no marker
that is replaced after it. -/
theorem loaded_templateFront (title : String) (prelude : List String)
    (h : ¬ preludeMarker <:+: title.toList) :
    loaded title prelude templateFront =
      pageFront (escapeText title.toList) (preludeTags prelude) := by
  -- the markers alone have underscores, so the lines between them stay as they are
  have hplain {text : List Char} (htext : '_' ∉ text) : loaded title prelude text = text := by
    rw [loaded, replaceAll_of_not_mem (by decide) htext, replaceAll_of_not_mem (by decide) htext]
  have htitle : loaded title prelude (titled titleMarker) = titled (escapeText title.toList) := by
    have hfilled : replaceAll titleMarker (escapeText title.toList) (titled titleMarker) =
        titled (escapeText title.toList) := by
      rw [titled, replaceAll_append_cons (by decide) (by decide),
        replaceAll_of_not_mem (by decide : '_' ∈ titleMarker) underscore_not_mem_headStart,
        replaceAll_append (by decide),
        replaceAll_of_not_mem (by decide : '_' ∈ titleMarker) (by decide), titled]
    have hmarker : preludeMarker ∈ markers := by decide
    rw [loaded, hfilled, replaceAll_of_not_infix]
    rw [infix_titled hmarker]
    exact fun hfound => h (infix_of_infix_escapeText hmarker hfound)
  have htags : loaded title prelude preludeMarker = preludeTags prelude := by
    have hall := @replaceAll_append preludeMarker (preludeTags prelude) [] (by decide)
    rw [List.append_nil, replaceAll_nil, List.append_nil] at hall
    rw [loaded, replaceAll_of_not_mem (by decide : 'I' ∈ titleMarker) (by decide), hall]
  rw [templateFront_eq, pageFront, loaded_line, loaded_line, htitle, htags,
    hplain (by decide), pageFront]

/-- The template with the title and the tags filled in, up to the script and from there. -/
theorem loaded_template (title : String) (prelude : List String) :
    loaded title prelude template =
      (loaded title prelude templateFront ++ '\n' :: scriptFront) ++
        '\n' :: (scriptMarker ++ pageRest) := by
  rw [template_eq, loaded_line, loaded_scriptLines, scriptLines, List.append_assoc,
    List.cons_append, pageRest]

/-- **The script is never searched for markers.** The page is made of two or more texts that depend
on the title and the sources only, with the script between them.  They are just two, the template
up to the marker of the script and behind it, if neither the title nor a source brings in a marker
that is replaced later. -/
theorem script_never_searched (title : String) (prelude : List String) :
    template = pageStart titleMarker preludeMarker ++ scriptMarker ++ pageRest ∧
    ∃ parts : List (List Char), 2 ≤ parts.length ∧
      (∀ strict script, (document title prelude strict script).toList =
        (scriptBody strict script).intercalate parts) ∧
      ((∀ marker ∈ [preludeMarker, scriptMarker], ¬ marker <:+: title.toList) →
        (∀ source ∈ prelude, ¬ scriptMarker <:+: source.toList) →
        parts = [pageStart (escapeText title.toList) (preludeTags prelude), pageRest]) := by
  have hscript : scriptMarker ∈ markers := by decide
  have hnewline : '\n' ∉ scriptMarker := by decide
  obtain ⟨parts, hne, hcut, hlone⟩ := exists_cutBy (marker_ne_nil hscript)
    (loaded title prelude templateFront ++ '\n' :: scriptFront ++ ['\n'])
  refine ⟨?_, parts ++ [pageRest], ?_, fun strict script => ?_, fun htitle hprelude => ?_⟩
  · rw [template_eq, templateFront_eq, scriptLines, pageStart, pageRest]
    simp only [List.append_assoc, List.cons_append, List.nil_append]
  · have hlength : 0 < parts.length := List.length_pos_iff.2 hne
    rw [List.length_append, List.length_singleton]
    omega
  · have hrest : ¬ scriptMarker <:+: pageRest := not_infix_marker hscript (by decide)
    have hpage := hcut.concat hnewline (marker_ne_nil hscript) hne hrest (scriptBody strict script)
    rw [← loaded_template] at hpage
    exact String.toList_ofList.trans hpage
  · have hfront := loaded_templateFront title prelude (htitle preludeMarker (by decide))
    rw [hfront] at hlone
    rw [hlone fun hfound => ?_]
    · rfl
    · obtain hfound | hfound := (infix_pageStart hscript).1 hfound
      · exact htitle scriptMarker (by decide) (infix_of_infix_escapeText hscript hfound)
      · obtain ⟨source, hsource, hfound⟩ := infix_of_infix_preludeTags hscript hfound
        exact hprelude source hsource hfound

/-- A script that spells a marker, below a title and a source that spell those replaced before. -/
theorem script_never_searched_below_markers :
    (∀ marker ∈ [preludeMarker, scriptMarker], ¬ marker <:+: "__TSPLAY_TITLE__ & <_>".toList) ∧
    (∀ source ∈ ["a.js?__TSPLAY_PRELUDE__"], ¬ scriptMarker <:+: source.toList) ∧
    (document "__TSPLAY_TITLE__ & <_>" ["a.js?__TSPLAY_PRELUDE__"] true
        "__TSPLAY_SCRIPT__</script").toList =
      pageStart "__TSPLAY_TITLE__ &amp; &lt;_&gt;".toList
          "<script src=\"a.js?__TSPLAY_PRELUDE__\"></script>".toList ++
        ("\"use strict\";\n__TSPLAY_SCRIPT__<\\/script".toList ++ pageRest) := by
  have htitle : ∀ marker ∈ [preludeMarker, scriptMarker],
      ¬ marker <:+: "__TSPLAY_TITLE__ & <_>".toList := by decide
  have hprelude : ∀ source ∈ ["a.js?__TSPLAY_PRELUDE__"], ¬ scriptMarker <:+: source.toList := by
    decide
  have htext : escapeText "__TSPLAY_TITLE__ & <_>".toList =
      "__TSPLAY_TITLE__ &amp; &lt;_&gt;".toList := by decide
  have htags : preludeTags ["a.js?__TSPLAY_PRELUDE__"] =
      "<script src=\"a.js?__TSPLAY_PRELUDE__\"></script>".toList := by decide
  have hbody : scriptBody true "__TSPLAY_SCRIPT__</script" =
      "\"use strict\";\n__TSPLAY_SCRIPT__<\\/script".toList := by decide
  obtain ⟨-, parts, -, hpage, hlone⟩ :=
    script_never_searched "__TSPLAY_TITLE__ & <_>" ["a.js?__TSPLAY_PRELUDE__"]
  refine ⟨htitle, hprelude, ?_⟩
  rw [hpage, hlone htitle hprelude, List.intercalate_cons_cons, List.intercalate_singleton, htext,
    htags, hbody, List.append_assoc]

/-- A title may bring in a marker without spelling it: here one forms where the prelude, without
any source, is put in. -/
example : replaceAll preludeMarker (preludeTags [])
    (escapeText "__TSPLAY___TSPLAY_PRELUDE__SCRIPT__".toList) = scriptMarker := by
  decide

end Playground.Sandbox
