import Playground.Proofs.Command.Run
import Playground.Proofs.Link.Reread
import Playground.Proofs.Share.Codec

/-!
# Links survive the forms they are passed in

A fragment consists of letters, digits, `-` and `_`, so nothing in it is taken for a part of a
link, encoded, or cut off.  It is found again as it is, behind a `#`, and behind any page, also
between blanks, and the text it was made of is restored.

* `mem_encode`, `plain_of_mem` — what fragments are written with;
* `fragmentOf_bare`, `fragmentOf_hash`, `fragmentOf_permalink` — one lemma for each form;
* `links_survive` — whichever form is opened, and whichever command wrote it, the text is printed or
  written into a file as it was.
-/

namespace Playground.Share

open Deflate Link Text

/-! ### Symbols -/

/-- Letters, digits, `-` and `_`, as they stand in fragments. -/
def isSymbol (c : Char) : Bool := c.isAlphanum || c = '-' || c = '_'

/-- Fragments are made of symbols. -/
theorem mem_encode {x : ShareState} {c : Char} (h : c ∈ (encode x).toList) :
    ∃ n < 64, c = Base64.symbol n := by
  rw [encode, fragmentOfBytes, String.toList_ofList] at h
  exact Base64.exists_symbol_of_mem h

/-- A symbol is neither a blank nor a mark of a link, and is not encoded in a fragment. -/
structure Plain (c : Char) : Prop where
  symbol : isSymbol c
  blank : isBlank c = false
  visible : 32 < c.toNat
  skipped : Url.isSkipped c = false
  encoded : inFragment c = false
  hash : c ≠ '#'
  colon : c ≠ ':'

theorem plain_of_mem {x : ShareState} {c : Char} (h : c ∈ (encode x).toList) : Plain c := by
  have hall : ∀ n < 64, isSymbol (Base64.symbol n) ∧ isBlank (Base64.symbol n) = false ∧
      32 < (Base64.symbol n).toNat ∧ Url.isSkipped (Base64.symbol n) = false ∧
      inFragment (Base64.symbol n) = false ∧ Base64.symbol n ≠ '#' ∧ Base64.symbol n ≠ ':' := by
    decide +kernel
  obtain ⟨n, hn, rfl⟩ := mem_encode h
  obtain ⟨h1, h2, h3, h4, h5, h6, h7⟩ := hall n hn
  exact ⟨h1, h2, h3, h4, h5, h6, h7⟩

/-- Only no bytes have no symbols. -/
theorem base64_eq_nil {bytes : List UInt8} (h : Base64.encode bytes = []) : bytes = [] := by
  match bytes with
  | [] => rfl
  | [_] => cases h
  | [_, _] => cases h
  | _ :: _ :: _ :: _ => cases h

/-- No fragment is empty, for something was compressed. -/
theorem encode_ne_empty (x : ShareState) : encode x ≠ "" := by
  have hnone : (inflate ⟨#[]⟩).2 ≠ .complete := by decide +kernel
  intro h
  have hsymbols : Base64.encode (deflate x.toJson.toUTF8).toList = [] := by
    rw [← String.toList_ofList (l := Base64.encode _), ← fragmentOfBytes, ← encode, h]
    rfl
  have hbytes : deflate x.toJson.toUTF8 = ⟨#[]⟩ :=
    Bytes.ext_toList ((Bytes.toList_eq _).symm.trans (base64_eq_nil hsymbols))
  apply hnone
  rw [← hbytes, inflate_deflate]

/-- A fragment never has one symbol more than a multiple of four. -/
theorem encode_length (x : ShareState) : (encode x).length % 4 ≠ 1 := by
  have hlength := Base64.standardSymbols_length (deflate x.toJson.toUTF8).toList
  rw [Base64.standardSymbols, List.length_map] at hlength
  rw [encode, fragmentOfBytes, String.length_ofList, hlength]
  split <;> decide

/-! ### Forms -/

/-- The last symbol of a fragment. -/
theorem encode_last (x : ShareState) :
    ∃ c ∈ (encode x).toList.getLast?, c ∈ (encode x).toList := by
  have hne : (encode x).toList ≠ [] := fun h => encode_ne_empty x (by
    rw [← String.ofList_toList (s := encode x), h])
  exact ⟨_, List.getLast?_eq_some_getLast hne, List.getLast_mem hne⟩

/-- Whether a text starts and ends with something visible. -/
def Edged (form : String) : Prop :=
  (∀ c ∈ form.toList.head?, isBlank c = false) ∧ ∀ c ∈ form.toList.getLast?, isBlank c = false

theorem Edged.trimBlanks {form : String} (h : Edged form) {before behind : List Char}
    (hbefore : ∀ c ∈ before, isBlank c) (hbehind : ∀ c ∈ behind, isBlank c) :
    trimBlanks (before ++ form.toList ++ behind) = form.toList :=
  trim_padded hbefore hbehind h.1 h.2

/-- Blanks around a form are of no account. -/
theorem fragmentOf_padded {form : String} (h : Edged form) {before behind : String}
    (hbefore : ∀ c ∈ before.toList, isBlank c) (hbehind : ∀ c ∈ behind.toList, isBlank c) :
    fragmentOf (before ++ form ++ behind) = fragmentOf form := by
  have hnone : ∀ c ∈ ([] : List Char), isBlank c := fun c hc => nomatch hc
  have hpadded := h.trimBlanks hbefore hbehind
  have hform := h.trimBlanks hnone hnone
  rw [List.nil_append, List.append_nil] at hform
  unfold fragmentOf
  dsimp only
  rw [String.toList_append, String.toList_append, hpadded, hform]

/-- A form without a colon is a fragment, perhaps behind a `#`. -/
theorem fragmentOf_noScheme {form : String} (h : Edged form) (hcolon : ':' ∉ form.toList) :
    fragmentOf form =
      if (withoutHash form).isEmpty then none else some (withoutHash form) := by
  have hnone : ∀ c ∈ ([] : List Char), isBlank c := fun c hc => nomatch hc
  have hform := h.trimBlanks hnone hnone
  rw [List.nil_append, List.append_nil] at hform
  unfold fragmentOf
  dsimp only
  rw [hform, String.ofList_toList, Url.parse_noScheme hcolon]

theorem encode_edged (x : ShareState) : Edged (encode x) :=
  ⟨fun _ hc => (plain_of_mem (List.mem_of_mem_head? hc)).blank,
    fun _ hc => (plain_of_mem (List.mem_of_mem_getLast? hc)).blank⟩

theorem encode_noColon (x : ShareState) : ':' ∉ (encode x).toList :=
  fun h => (plain_of_mem h).colon rfl

theorem fragmentOf_bare (x : ShareState) : fragmentOf (encode x) = some (encode x) := by
  rw [fragmentOf_noScheme (encode_edged x) (encode_noColon x), withoutHash_encode, if_neg]
  rw [String.isEmpty_iff]
  exact encode_ne_empty x

/-- What starts with something visible in front of a fragment starts and ends so. -/
theorem edged_append {form : String} {c : Char} {rest : List Char} (hform : form.toList = c :: rest)
    (hc : isBlank c = false) (x : ShareState) : Edged (form ++ encode x) := by
  obtain ⟨last, hlast, hmem⟩ := encode_last x
  refine ⟨fun d hd => ?_, fun d hd => ?_⟩
  · rw [String.toList_append, hform] at hd
    exact Option.some.inj hd ▸ hc
  · rw [String.toList_append, List.getLast?_append, Option.mem_def.1 hlast] at hd
    exact Option.some.inj hd ▸ (plain_of_mem hmem).blank

theorem fragmentOf_hash (x : ShareState) : fragmentOf ("#" ++ encode x) = some (encode x) := by
  have hhash : "#".toList = ['#'] := rfl
  have hcolon : ':' ∉ ("#" ++ encode x).toList := by
    rw [String.toList_append, hhash]
    simpa using encode_noColon x
  have hwithout : withoutHash ("#" ++ encode x) = encode x := by
    unfold withoutHash
    rw [String.toList_append, hhash]
    exact String.ofList_toList
  rw [fragmentOf_noScheme (edged_append hhash (by decide) x) hcolon, hwithout, if_neg]
  rw [String.isEmpty_iff]
  exact encode_ne_empty x

/-- A fragment is attached to a link as it is. -/
theorem fragmentText_encode (x : ShareState) : Url.fragmentText (encode x).toList = encode x := by
  have hfilter : (encode x).toList.filter (fun c => !Url.isSkipped c) = (encode x).toList :=
    List.filter_eq_self.2 fun c hc => by rw [(plain_of_mem hc).skipped]; rfl
  have hencode (cs : List Char) (h : ∀ c ∈ cs, inFragment c = false) :
      percentEncode inFragment cs = cs := by
    induction cs with
    | nil => rfl
    | cons c cs ih =>
      have hc := h c List.mem_cons_self
      have hcs := ih fun d hd => h d (List.mem_cons_of_mem _ hd)
      rw [percentEncode, List.flatMap_cons, ← percentEncode, hcs, percentChar, hc]
      rfl
  rw [Url.fragmentText, hfilter, hencode _ fun c hc => (plain_of_mem hc).encoded,
    String.ofList_toList]

theorem permalink_text (base : Url) (x : ShareState) :
    (permalink base (encode x)).text = base.front ++ "#" ++ encode x := by
  have hfront : (permalink base (encode x)).front = base.front := rfl
  have hfragment : (permalink base (encode x)).fragment = some (encode x) :=
    congrArg some (fragmentText_encode x)
  rw [Url.text, hfront, hfragment, Url.marked, String.append_assoc]

theorem permalink_edged {base : Url} (h : base.Written) (x : ShareState) :
    Edged (permalink base (encode x)).text := by
  obtain ⟨⟨c, word, hcons, halpha⟩, -⟩ := h.scheme
  have hhead : (base.front ++ "#").toList =
      c :: (word ++ ':' :: (base.behindScheme ++ ['#'])) := by
    rw [String.toList_append, Url.front_eq, hcons]
    simp
  have hblank : isBlank c = false := by
    have hvisible := Url.isAlpha_visible halpha
    have hascii := Url.isSchemeChar_ascii (h.scheme.2 c (hcons ▸ List.mem_cons_self)).1
    simp only [isBlank, Bool.or_eq_false_iff, Bool.and_eq_false_iff, decide_eq_false_iff_not]
    omega
  rw [permalink_text]
  exact edged_append hhead hblank x

theorem fragmentOf_permalink {base : Url} (h : base.Written) (hreads : base.AuthorityReads)
    (x : ShareState) : fragmentOf (permalink base (encode x)).text = some (encode x) := by
  have hnone : ∀ c ∈ ([] : List Char), isBlank c := fun c hc => nomatch hc
  have hform := (permalink_edged h x).trimBlanks hnone hnone
  rw [List.nil_append, List.append_nil] at hform
  obtain ⟨last, hlast, hmem⟩ := encode_last x
  obtain ⟨url, hurl, hfragment⟩ := Url.parse_fragment h hreads
    (fun c hc => (plain_of_mem hc).skipped) ⟨last, hlast, (plain_of_mem hmem).visible⟩
  rw [String.ofList_toList, ← permalink_text] at hurl
  rw [fragmentText_encode] at hfragment
  unfold fragmentOf
  dsimp only
  rw [hform, String.ofList_toList, hurl]
  dsimp only
  rw [hfragment, Option.filter_some_pos]
  exact decide_eq_true (encode_ne_empty x)

/-! ### Restoring -/

open Command Config Files Session

/-- The source that a form carries is the one its fragment was made of. -/
theorem sourceOfLink_of_fragmentOf {x : ShareState} {link : String}
    (hsize : x.toJson.toUTF8.size ≤ maxPayload) (h : fragmentOf link = some (encode x)) :
    sourceOfLink link = .ok x.source := by
  unfold sourceOfLink
  rw [h]
  dsimp only
  rw [tryDecode_encode, if_neg (Nat.not_lt.2 hsize)]

/-- **Links survive the forms they are passed in.** A fragment is not empty, has no other symbols
than those of links, and is never one symbol longer than a multiple of four.  Bare, behind a `#` and
behind any page, with blanks around it, it is found again, and opening it restores the text it was
made of.  So does opening what a source is shared by, what is said once a source was compiled, and
what stands in the file of the permalink. -/
theorem links_survive {x : ShareState} {page : String} {base : Url}
    (hsize : x.toJson.toUTF8.size ≤ maxPayload) (hpage : Url.parse page = .ok base)
    (hreads : base.AuthorityReads) :
    encode x ≠ "" ∧
    (∀ c ∈ (encode x).toList, c.isAlphanum ∨ c = '-' ∨ c = '_') ∧
    (encode x).length % 4 ≠ 1 ∧
    (∀ form ∈ [encode x, "#" ++ encode x, (permalink base (encode x)).text],
      ∀ before behind : String, (∀ c ∈ before.toList, isBlank c) →
        (∀ c ∈ behind.toList, isBlank c) →
        fragmentOf (before ++ form ++ behind) = some (encode x) ∧
        tryDecode (encode x) = .ok x ∧
        Restores (before ++ form ++ behind) x.source) ∧
    (∀ (p : Project) (file : Option String) (d : Desk), p.options.share.base = .ok base →
      d.disk.content (p.source file) = .ok x.source →
      ∃ printed, (shareSource p file).run d = (.ok (), d.printing printed) ∧
        Restores printed x.source) ∧
    (∀ (p : Project) (file out : Option String) (d d' : Desk), p.options.share.base = .ok base →
      (compileOnce p file out).run d = (.ok (), d') →
      ∃ text link, Compiled p file out d d' text link ∧
        (d.disk.Proper → d.disk.content (p.source file) = .ok x.source → x.source ≠ "" →
          text = x.source) ∧
        (text = x.source → Restores link x.source ∧ Restores (link ++ "\n") x.source)) ∧
    ∀ (l : FileLayout) (path : String) (w : DiskWorld), l.base = base →
      l.permalinkFile = some path →
      ∃ written, (l.surroundings.setFragment (encode x) w).2 = (DiskWorld.reply
          (DiskWorld.steps [(·.write path written)] { w with fragment := some (encode x) })).2 ∧
        Restores written x.source ∧
        (w.disk.Proper →
          let v := (l.surroundings.setFragment (encode x) w).2
          v.disk.content path = .ok written ∨
            ∃ fault, v.disk.writeText path written = .error fault) := by
  have hwritten := Url.parse_written hpage
  have hform : ∀ form ∈ [encode x, "#" ++ encode x, (permalink base (encode x)).text],
      Edged form ∧ fragmentOf form = some (encode x) := by
    simp only [List.mem_cons, List.not_mem_nil, or_false]
    rintro form (rfl | rfl | rfl)
    · exact ⟨encode_edged x, fragmentOf_bare x⟩
    · exact ⟨edged_append rfl (by decide) x, fragmentOf_hash x⟩
    · exact ⟨permalink_edged hwritten x, fragmentOf_permalink hwritten hreads x⟩
  have hfragment : ∀ form ∈ [encode x, "#" ++ encode x, (permalink base (encode x)).text],
      ∀ before behind : String, (∀ c ∈ before.toList, isBlank c) →
        (∀ c ∈ behind.toList, isBlank c) →
        fragmentOf (before ++ form ++ behind) = some (encode x) := by
    intro form hmem before behind h h'
    exact (fragmentOf_padded (hform form hmem).1 h h').trans (hform form hmem).2
  have hlink : Restores (permalink base (encode x)).text x.source :=
    .of_carried (sourceOfLink_of_fragmentOf hsize (hform _ (by simp)).2)
  -- a link that was printed or written down has a line break behind it
  have hline : Restores ((permalink base (encode x)).text ++ "\n") x.source := by
    have hempty : ∀ c ∈ "".toList, isBlank c := by simp
    have hbreak : ∀ c ∈ "\n".toList, isBlank c := by simp [isBlank]
    have hfound := hfragment (permalink base (encode x)).text (by simp) "" "\n" hempty hbreak
    rw [String.empty_append] at hfound
    exact .of_carried (sourceOfLink_of_fragmentOf hsize hfound)
  refine ⟨encode_ne_empty x, fun c hc => ?_, encode_length x,
    fun form hmem before behind h h' => ?_, fun p file d hbase htext => ?_,
    fun p file out d d' hbase hrun => ?_, fun l path w hbase hpath => ?_⟩
  · have hsymbol := (plain_of_mem hc).symbol
    simpa [isSymbol, or_assoc] using hsymbol
  · have hfound := hfragment form hmem before behind h h'
    refine ⟨hfound, ?_, .of_carried (sourceOfLink_of_fragmentOf hsize hfound)⟩
    rw [tryDecode_encode, if_neg (Nat.not_lt.2 hsize)]
  · exact ⟨_, shareSource_run hbase htext, hline⟩
  · obtain ⟨text, hcompiled⟩ := compileOnce_compiled hbase hrun
    refine ⟨text, _, hcompiled, hcompiled.text_eq, ?_⟩
    rintro rfl
    exact ⟨hlink, hline⟩
  · subst hbase
    refine ⟨(permalink l.base (encode x)).text ++ "\n", ?_, hline,
      fun hproper => l.mirror_holds hpath hproper (encode x)⟩
    simp only [FileLayout.surroundings, hpath]
    rfl

/-- A text is shared, compiled, and restored into a folder that is new, with links to a page of this
computer. -/
theorem links_survive_on_page :
    let base : Url := ⟨"http", some "[::1]:5277", "/", none, some "old"⟩
    let link := (permalink base (encode ⟨"a;\n"⟩)).text
    let options : PlaygroundOptions :=
      { compiler := { noLib := true }
        libs := { base := "none", roots := [] }
        share := ⟨"http://[::1]:5277/#old"⟩ }
    let p : Project := ⟨options, "/home/tsplay.toml", "/home"⟩
    let d : Desk :=
      { disk := { home := "/home", tree := .folder [("index.tsx", .file "a;\n".toUTF8)] } }
    fragmentOf ("" ++ link ++ "\n") = some (encode ⟨"a;\n"⟩) ∧
    (∃ printed, (shareSource p none).run d = (.ok (), d.printing printed) ∧
      (restoreSource printed none).run d = (.ok (), d.printing "a;\n")) ∧
    (∃ d' said, (compileOnce p none none).run d = (.ok (), d') ∧
      (∃ before : Desk, d' = before.noting [⟨"share", said, false⟩]) ∧
      (restoreSource said none).run d = (.ok (), d.printing "a;\n")) ∧
    ∃ d', (restoreSource link (some "new/a.tsx")).run d = (.ok (), d') ∧
      d'.disk.content "new/a.tsx" = .ok "a;\n" := by
  intro base link options p d
  have hpage : Url.parse "http://[::1]:5277/#old" = .ok base := by decide +kernel
  have hreads : base.AuthorityReads := by
    intro authority h
    obtain rfl := Option.some.inj h
    exact ⟨"[::1]:5277", by decide +kernel⟩
  have hsize : (ShareState.toJson ⟨"a;\n"⟩).toUTF8.size ≤ maxPayload := by decide +kernel
  have hsource : d.disk.content (p.source none) = .ok "a;\n" := by decide +kernel
  have hproper : d.disk.Proper := ⟨rfl, .folder (by decide) (by simpa using .file _)⟩
  obtain ⟨-, -, -, hforms, hshared, hcompiled, -⟩ :=
    links_survive (x := ⟨"a;\n"⟩) hsize hpage hreads
  refine ⟨?_, ?_, ?_, ?_⟩
  · exact (hforms link (by simp [link]) "" "\n" (by simp) (by simp [isBlank])).1
  · obtain ⟨printed, hprinted, hrestores⟩ := hshared p none d hpage hsource
    exact ⟨printed, hprinted, hrestores.printed d⟩
  · have hgood : ((compileOnce p none none).run d).1.toOption.isSome := by decide +kernel
    obtain ⟨⟨⟩, hok⟩ := exists_ok hgood
    obtain ⟨text, said, hleft, htext, hrestores⟩ :=
      hcompiled p none none d _ hpage (Prod.ext hok rfl)
    have hlink : Restores said "a;\n" := (hrestores (htext hproper hsource (by decide))).1
    exact ⟨_, said, Prod.ext hok rfl, hleft.said, hlink.printed d⟩
  · have hrestores := (hforms link (by simp [link]) "" "" (by simp) (by simp)).2.2
    rw [String.empty_append, String.append_empty] at hrestores
    have hfits : (withParent d.disk "new/a.tsx" >>=
        (·.writeText "new/a.tsx" "a;\n")).toOption.isSome := by decide +kernel
    obtain ⟨left, hfit⟩ := exists_ok hfits
    obtain ⟨made, hmade, hleft⟩ := Disk.bind_eq_ok hfit
    have hrun := hrestores.written "new/a.tsx" d made left hmade hleft
    exact ⟨_, hrun, hrestores.held "new/a.tsx" d _ hproper hrun⟩

end Playground.Share
