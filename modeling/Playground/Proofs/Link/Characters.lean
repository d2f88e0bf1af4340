import Mathlib.Data.List.Basic
import Mathlib.Data.List.Lemmas
import Playground.Link.Url

/-!
# The characters of a link

No part of a link, as it is written, holds a character at which reading would go astray: neither a
blank that is passed over, nor the start of a fragment, nor, within an authority, the start of a
path or of a query.

* `mem_percentEncode` — what is left where characters are encoded;
* `authorityText_disjoint` — user, host and port;
* `pathFrom_disjoint`, `pathFrom_rooted` — paths.
-/

namespace Playground.Link

open Playground.Text

/-- Where a fragment starts, and the blanks that are passed over. -/
def strayMarks : List Char := ['#', '\t', '\n', '\r']

/-- Where an authority ends, and the blanks that are passed over. -/
def partMarks : List Char := ['/', '\\', '?'] ++ strayMarks

/-! ### Encoded characters -/

/-- The characters that an encoded byte is written with. -/
def percentMarks : List Char := "%0123456789ABCDEF".toList

theorem percentByte_subset (b : UInt8) : percentByte b ⊆ percentMarks := by
  have hdigit : ∀ n < 16, upperHex n ∈ percentMarks := by decide
  have hb := b.toNat_lt
  intro c hc
  simp only [percentByte, List.mem_cons, List.not_mem_nil, or_false] at hc
  obtain rfl | rfl | rfl := hc
  · decide
  · exact hdigit _ (by omega)
  · exact hdigit _ (by omega)

/-- A character of an encoded text belongs to an encoded byte, or did not have to be encoded. -/
theorem mem_percentEncode {set : Char → Bool} {cs : List Char} {c : Char}
    (h : c ∈ percentEncode set cs) : c ∈ percentMarks ∨ (c ∈ cs ∧ set c = false) := by
  obtain ⟨d, hd, hc⟩ := List.mem_flatMap.1 h
  unfold percentChar at hc
  split at hc
  · obtain ⟨b, -, hb⟩ := List.mem_flatMap.1 hc
    exact .inl (percentByte_subset b hb)
  · rename_i hset
    obtain rfl := List.mem_singleton.1 hc
    exact .inr ⟨hd, by simpa using hset⟩

/-- A text is free of what is encoded in it. -/
theorem percentEncode_disjoint {set : Char → Bool} {cs marks : List Char}
    (h : ∀ c ∈ cs, c ∈ marks → set c = true) (hmarks : percentMarks.Disjoint marks) :
    (percentEncode set cs).Disjoint marks := by
  intro c hc hmark
  obtain hc | ⟨hc, hset⟩ := mem_percentEncode hc
  · exact hmarks hc hmark
  · rw [h c hc hmark] at hset
    cases hset

theorem percentMarks_disjoint : percentMarks.Disjoint partMarks := by
  have hall : percentMarks.all (!partMarks.contains ·) = true := by decide
  intro c hc hmark
  have hnone := List.all_eq_true.1 hall c hc
  rw [List.contains_iff_mem.2 hmark] at hnone
  cases hnone

/-! ### Numbers -/

/-- A number is written with digits of its base. -/
theorem mem_toDigits {base : Nat} (hbase : 1 < base) (n : Nat) {c : Char}
    (h : c ∈ Nat.toDigits base n) : ∃ d < base, c = Nat.digitChar d := by
  induction n using Nat.strong_induction_on with
  | _ n ih =>
    rw [Nat.toDigits_eq_if hbase] at h
    split at h
    · rename_i hlt
      exact ⟨n, hlt, List.mem_singleton.1 h⟩
    · obtain h | h := List.mem_append.1 h
      · exact ih (n / base) (Nat.div_lt_self (by omega) hbase) h
      · exact ⟨n % base, Nat.mod_lt _ (by omega), List.mem_singleton.1 h⟩

/-- Numbers are free of the marks of a link. -/
theorem toDigits_disjoint {base : Nat} (hbase : 1 < base) (hle : base ≤ 16) (n : Nat) :
    (Nat.toDigits base n).Disjoint partMarks := by
  have hdigit : ∀ d < 16, Nat.digitChar d ∉ partMarks := by decide
  intro c hc
  obtain ⟨d, hd, rfl⟩ := mem_toDigits hbase n hc
  exact hdigit d (by omega)

theorem toString_disjoint (n : Nat) : (toString n).toList.Disjoint partMarks := by
  have htext : (toString n).toList = Nat.toDigits 10 n := by
    rw [show toString n = n.repr from rfl, Nat.repr_eq_ofList_toDigits, String.toList_ofList]
  rw [htext]
  exact toDigits_disjoint (by decide) (by decide) n

/-- Texts in a row are free of marks if they are and what stands between them is. -/
theorem intercalate_disjoint {between : String} {texts : List String} {marks : List Char}
    (hbetween : between.toList.Disjoint marks) (h : ∀ t ∈ texts, t.toList.Disjoint marks) :
    (between.intercalate texts).toList.Disjoint marks := by
  induction texts with
  | nil => exact List.disjoint_nil_left _
  | cons t rest ih =>
    have ht := h t List.mem_cons_self
    have hrest := ih fun u hu => h u (List.mem_cons_of_mem _ hu)
    cases rest with
    | nil => simpa using ht
    | cons u rest =>
      rw [String.intercalate_cons_cons, String.toList_append, String.toList_append]
      exact List.disjoint_append_left.2 ⟨List.disjoint_append_left.2 ⟨ht, hbetween⟩, hrest⟩

/-! ### Hosts -/

theorem ipv4Text_disjoint (address : Nat) : (ipv4Text address).toList.Disjoint partMarks := by
  refine intercalate_disjoint (by simp [partMarks, strayMarks]) fun t ht => ?_
  obtain ⟨unit, -, rfl⟩ := List.mem_map.1 ht
  exact toString_disjoint _

theorem ipv6Text_disjoint (words : List Nat) : (ipv6Text words).toList.Disjoint partMarks := by
  have hcolon : ":".toList.Disjoint partMarks := by simp [partMarks, strayMarks]
  have hgap : "::".toList.Disjoint partMarks := by simp [partMarks, strayMarks]
  have hwords (ws : List Nat) : (":".intercalate (ws.map hexText)).toList.Disjoint partMarks := by
    refine intercalate_disjoint hcolon fun t ht => ?_
    obtain ⟨w, -, rfl⟩ := List.mem_map.1 ht
    rw [hexText, String.toList_ofList]
    exact toDigits_disjoint (by decide) (by decide) w
  unfold ipv6Text
  dsimp only
  split
  · exact hwords words
  · rw [String.toList_append, String.toList_append]
    exact List.disjoint_append_left.2 ⟨List.disjoint_append_left.2 ⟨hwords _, hgap⟩, hwords _⟩

theorem bracketed_disjoint {cs : List Char} {host : String} (h : bracketed cs = .ok host) :
    host.toList.Disjoint partMarks := by
  unfold bracketed at h
  split at h
  · rename_i words _
    cases h
    rw [String.toList_append, String.toList_append]
    exact List.disjoint_append_left.2 ⟨List.disjoint_append_left.2
      ⟨by simp [partMarks, strayMarks], ipv6Text_disjoint words⟩, by simp [partMarks, strayMarks]⟩
  · cases h

theorem opaqueHost_disjoint {cs : List Char} {host : String} (h : opaqueHost cs = .ok host) :
    host.toList.Disjoint partMarks := by
  unfold opaqueHost at h
  split at h
  · exact bracketed_disjoint h
  · split at h
    · cases h
    · rename_i hforbidden
      cases h
      rw [String.toList_ofList]
      refine percentEncode_disjoint (fun c hc hmark => ?_) percentMarks_disjoint
      -- what a host may not hold was refused, and the blanks are encoded
      have hrefused : partMarks.all (fun c => isControl c ||
          ['\x00', ' ', '#', '/', ':', '<', '>', '?', '@', '[', '\\', ']', '^', '|'].contains c) =
            true := by decide
      obtain hcontrol | hhost := Bool.or_eq_true_iff.1 (List.all_eq_true.1 hrefused c hmark)
      · exact hcontrol
      · exact absurd (List.any_eq_true.2 ⟨c, hc, hhost⟩) hforbidden

/-! ### Domains -/

theorem forbidden_of_mem : ∀ c ∈ partMarks, isForbidden c = true :=
  List.all_eq_true.1 (by decide)

/-- The characters of the pieces of a text are those of the text. -/
theorem mem_of_mem_pieces {separator c : Char} {cs piece : List Char}
    (hpiece : piece ∈ pieces separator cs) (hc : c ∈ piece) : c ∈ cs := by
  induction cs generalizing piece with
  | nil => simp_all [pieces]
  | cons d cs ih =>
    rw [pieces] at hpiece
    split at hpiece
    · simp_all
    · rename_i p ps heq
      split at hpiece
      · obtain rfl | hpiece := List.mem_cons.1 hpiece
        · simp at hc
        · exact List.mem_cons_of_mem _ (ih (heq ▸ hpiece) hc)
      · obtain rfl | hpiece := List.mem_cons.1 hpiece
        · obtain rfl | hc := List.mem_cons.1 hc
          · exact List.mem_cons_self
          · exact List.mem_cons_of_mem _ (ih (heq ▸ List.mem_cons_self) hc)
        · exact List.mem_cons_of_mem _ (ih (heq ▸ List.mem_cons_of_mem _ hpiece) hc)

theorem mem_joined {separator c : Char} {parts : List (List Char)}
    (h : c ∈ joined separator parts) : c = separator ∨ ∃ part ∈ parts, c ∈ part := by
  induction parts with
  | nil => simp [joined] at h
  | cons part rest ih =>
    cases rest with
    | nil => exact .inr ⟨part, List.mem_cons_self, h⟩
    | cons next rest =>
      rw [joined] at h
      · obtain h | h := List.mem_append.1 h
        · exact .inr ⟨part, List.mem_cons_self, h⟩
        · obtain rfl | h := List.mem_cons.1 h
          · exact .inl rfl
          · obtain hsep | ⟨p, hp, hc⟩ := ih h
            · exact .inl hsep
            · exact .inr ⟨p, List.mem_cons_of_mem _ hp, hc⟩
      · simp

namespace Punycode

theorem digit_disjoint {n : Nat} (h : n < 36) : digit n ∉ partMarks := by
  have hall : ∀ n < 36, digit n ∉ partMarks := by decide
  exact hall n h

theorem threshold_bounds (k bias : Nat) : 1 ≤ threshold k bias ∧ threshold k bias ≤ 26 := by
  unfold threshold
  split <;> omega

/-- The digits of a step are digits. -/
theorem stepDigits_disjoint (fuel q k bias : Nat) :
    (stepDigits fuel q k bias).Disjoint partMarks := by
  induction fuel generalizing q k with
  | zero => exact List.disjoint_nil_left _
  | succ fuel ih =>
    obtain ⟨hlow, hhigh⟩ := threshold_bounds k bias
    rw [stepDigits]
    split
    · exact List.disjoint_cons_left.2 ⟨digit_disjoint (by omega), List.disjoint_nil_left _⟩
    · have hmod : (q - threshold k bias) % (36 - threshold k bias) < 36 - threshold k bias :=
        Nat.mod_lt _ (by omega)
      exact List.disjoint_cons_left.2 ⟨digit_disjoint (by omega), ih _ _⟩

theorem writeAt_disjoint {point basic : Nat} {w : Writing} (h : w.output.Disjoint partMarks)
    (c : Char) : (writeAt point basic w c).output.Disjoint partMarks := by
  unfold writeAt
  split
  · exact h
  · split
    · exact List.disjoint_append_left.2 ⟨h, stepDigits_disjoint ..⟩
    · exact h

theorem writeFrom_disjoint (text : List Char) (basic fuel point : Nat) {w : Writing}
    (h : w.output.Disjoint partMarks) :
    (writeFrom text basic fuel point w).Disjoint partMarks := by
  induction fuel generalizing point w with
  | zero => exact h
  | succ fuel ih =>
    rw [writeFrom]
    split
    · exact h
    · rename_i next _
      refine ih _ ?_
      have hfold : ∀ (cs : List Char) (w : Writing), w.output.Disjoint partMarks →
          (cs.foldl (writeAt next basic) w).output.Disjoint partMarks := by
        intro cs
        induction cs with
        | nil => exact fun _ hw => hw
        | cons c cs ihcs => exact fun w hw => ihcs _ (writeAt_disjoint hw c)
      exact hfold text _ h

/-- The code of a text is free of marks if the text is. -/
theorem encode_disjoint {text : List Char} (h : text.Disjoint partMarks) :
    (encode text).Disjoint partMarks := by
  unfold encode
  refine writeFrom_disjoint _ _ _ _ ?_
  dsimp only
  split
  · exact List.disjoint_nil_left _
  · refine List.disjoint_append_left.2 ⟨fun c hc => h (List.mem_of_mem_filter hc), ?_⟩
    simp [partMarks, strayMarks]

end Punycode

theorem label?_disjoint {cs : List Char} {label : Label} (hcs : cs.Disjoint partMarks)
    (h : label? cs = some label) : label.ascii.Disjoint partMarks := by
  have hcode : ['x', 'n', '-', '-'].Disjoint partMarks := by simp [partMarks, strayMarks]
  unfold label? at h
  split at h
  · -- a part that is coded already stays as it is
    rename_i code
    obtain ⟨text, -, h⟩ := Option.bind_eq_some_iff.1 h
    split at h
    · cases h
    · obtain ⟨mapped, -, h⟩ := Option.bind_eq_some_iff.1 h
      split at h
      · cases h
      · cases h
        exact hcs
  · split at h
    · cases h
      exact hcs
    · split at h
      · cases h
        exact List.disjoint_append_left.2 ⟨hcode, Punycode.encode_disjoint hcs⟩
      · cases h

/-- What comes out of a list, where every item has an outcome, is the outcome of one of them. -/
theorem exists_of_mem_mapM {α β : Type} {f : α → Option β} {items : List α} {outcomes : List β}
    (h : items.mapM f = some outcomes) {y : β} (hy : y ∈ outcomes) :
    ∃ x ∈ items, f x = some y := by
  induction items generalizing outcomes with
  | nil =>
    cases h
    cases hy
  | cons x items ih =>
    rw [List.mapM_cons] at h
    obtain ⟨first, hfirst, h⟩ := Option.bind_eq_some_iff.1 h
    obtain ⟨others, hothers, h⟩ := Option.bind_eq_some_iff.1 h
    cases h
    obtain rfl | hy := List.mem_cons.1 hy
    · exact ⟨x, List.mem_cons_self, hfirst⟩
    · obtain ⟨x', hx', hfx⟩ := ih hothers hy
      exact ⟨x', List.mem_cons_of_mem _ hx', hfx⟩

/-- Domains are free of the marks of a link. -/
theorem domain?_disjoint {cs domain : List Char} (h : domain? cs = some domain) :
    domain.Disjoint partMarks := by
  obtain ⟨mapped, -, h⟩ := Option.bind_eq_some_iff.1 h
  split at h
  · cases h
  · rename_i hforbidden
    obtain ⟨labels, hlabels, h⟩ := Option.bind_eq_some_iff.1 h
    dsimp only at h
    split at h
    · cases h
    · cases h
      have hmapped : mapped.Disjoint partMarks := fun c hc hmark =>
        hforbidden (List.any_eq_true.2 ⟨c, hc, forbidden_of_mem c hmark⟩)
      -- each part comes from a piece of the text, or is coded by other characters
      have hascii : ∀ label ∈ labels, label.ascii.Disjoint partMarks := by
        intro label hlabel
        obtain ⟨piece, hpiece, hpl⟩ := exists_of_mem_mapM hlabels hlabel
        exact label?_disjoint (fun c hc => hmapped (mem_of_mem_pieces hpiece hc)) hpl
      intro c hc hmark
      obtain rfl | ⟨part, hpart, hc⟩ := mem_joined hc
      · exact absurd hmark (by decide)
      · obtain ⟨label, hlabel, rfl⟩ := List.mem_map.1 hpart
        exact hascii label hlabel hc hmark

/-- Hosts of well-known schemes are free of the marks of a link. -/
theorem knownHost_disjoint {cs : List Char} {host : String} (h : knownHost cs = .ok host) :
    host.toList.Disjoint partMarks := by
  unfold knownHost at h
  split at h
  · exact bracketed_disjoint h
  · dsimp only at h
    split at h
    · cases h
    · split at h
      · cases h
      · cases h
      · rename_i domain _ hdomain
        split at h
        · split at h
          · cases h
            exact ipv4Text_disjoint _
          · cases h
        · cases h
          rw [String.toList_ofList]
          exact domain?_disjoint hdomain

namespace Url

/-! ### Authorities -/

theorem userInfo_disjoint (cs : List Char) : (userInfo cs).toList.Disjoint partMarks := by
  have hset : ∀ c ∈ partMarks, inUserInfo c = true := List.all_eq_true.1 (by decide)
  have hencoded (cs : List Char) : (percentEncode inUserInfo cs).Disjoint partMarks :=
    percentEncode_disjoint (fun c _ hmark => hset c hmark) percentMarks_disjoint
  have hat : "@".toList.Disjoint partMarks := by simp [partMarks, strayMarks]
  have hcolon : ":".toList.Disjoint partMarks := by simp [partMarks, strayMarks]
  unfold userInfo
  dsimp only
  split
  · split
    · exact List.disjoint_nil_left _
    · rw [String.toList_append, String.toList_ofList]
      exact List.disjoint_append_left.2 ⟨hencoded _, hat⟩
  · simp only [String.toList_append, String.toList_ofList, List.disjoint_append_left]
    exact ⟨⟨⟨hencoded _, hcolon⟩, hencoded _⟩, hat⟩

theorem portText_disjoint {scheme text : String} {digits : List Char}
    (h : portText scheme digits = .ok text) : text.toList.Disjoint partMarks := by
  have htext (port : Nat) :
      (if some port = usualPort scheme then "" else ":" ++ toString port).toList.Disjoint
        partMarks := by
    split
    · exact List.disjoint_nil_left _
    · rw [String.toList_append]
      exact List.disjoint_append_left.2
        ⟨by simp [partMarks, strayMarks], toString_disjoint port⟩
  unfold portText at h
  dsimp only at h
  split at h
  · cases h
    exact List.disjoint_nil_left _
  · split at h
    · cases h
    · split at h
      · cases h
      · cases h
        exact htext _

/-- The host of an authority, as it is written. -/
def hostText (scheme : String) (cs : List Char) : Except LinkError String :=
  if kindOf scheme = .known then knownHost cs else opaqueHost cs

theorem hostText_disjoint {scheme text : String} {cs : List Char}
    (h : hostText scheme cs = .ok text) : text.toList.Disjoint partMarks := by
  unfold hostText at h
  split at h
  · exact knownHost_disjoint h
  · exact opaqueHost_disjoint h

/-- An authority is written as the user, the host and the port that were read in it. -/
theorem authorityText_eq {scheme text : String} {cs : List Char} {endsLink : Bool}
    (h : authorityText scheme cs endsLink = .ok text) :
    let (user, rest) := cutUser cs
    let (host, port) := cutPort rest false
    ∃ hostPart portPart, hostText scheme host = .ok hostPart ∧
      portText scheme (port.getD []) = .ok portPart ∧
      text = (user.map userInfo).getD "" ++ hostPart ++ portPart := by
  unfold authorityText at h
  dsimp only at h ⊢
  split at h
  · cases h
  · split at h
    · cases h
    · have hhost (next : String → Except LinkError String) :
          (if kindOf scheme = .known then knownHost (cutPort (cutUser cs).2 false).1 >>= next
            else opaqueHost (cutPort (cutUser cs).2 false).1 >>= next) =
          hostText scheme (cutPort (cutUser cs).2 false).1 >>= next := by
        unfold hostText
        split <;> rfl
      rw [hhost] at h
      cases hpart : hostText scheme (cutPort (cutUser cs).2 false).1 with
      | error e =>
        rw [hpart] at h
        cases h
      | ok hostPart =>
        rw [hpart] at h
        dsimp only [bind, Except.bind] at h
        split at h
        · cases h
        · cases hport : portText scheme ((cutPort (cutUser cs).2 false).2.getD []) with
          | error e =>
            rw [hport] at h
            cases h
          | ok portPart =>
            rw [hport] at h
            dsimp only at h
            split at h
            · cases h
            · cases h
              exact ⟨hostPart, portPart, rfl, rfl, rfl⟩

/-- An authority is free of the marks of a link. -/
theorem authorityText_disjoint {scheme text : String} {cs : List Char} {endsLink : Bool}
    (h : authorityText scheme cs endsLink = .ok text) : text.toList.Disjoint partMarks := by
  obtain ⟨hostPart, portPart, hhost, hport, rfl⟩ := authorityText_eq h
  have hinfo : (((cutUser cs).1.map userInfo).getD "").toList.Disjoint partMarks := by
    cases (cutUser cs).1 with
    | none => exact List.disjoint_nil_left _
    | some user => exact userInfo_disjoint user
  rw [String.toList_append, String.toList_append]
  exact List.disjoint_append_left.2 ⟨List.disjoint_append_left.2
    ⟨hinfo, hostText_disjoint hhost⟩, portText_disjoint hport⟩

/-! ### Paths -/

/-- Whether a path starts with a slash. -/
def Rooted (path : List Char) : Prop := ∃ rest, path = '/' :: rest

theorem popSegment_sublist (kind : Kind) (path : List Char) :
    (popSegment kind path).Sublist path := by
  unfold popSegment
  dsimp only
  split
  · exact List.Sublist.refl _
  · exact List.take_sublist ..

theorem goUp_sublist (kind : Kind) (path : List Char) : (goUp kind path).Sublist path := by
  unfold goUp
  dsimp only
  split
  · exact (popSegment_sublist ..).trans (List.dropLast_sublist _)
  · exact popSegment_sublist ..

theorem slashed_disjoint {path : List Char} (h : path.Disjoint strayMarks) :
    (slashed path).Disjoint strayMarks := by
  unfold slashed
  split
  · exact h
  · exact List.disjoint_append_left.2 ⟨h, by simp [strayMarks]⟩

/-- Going along a segment adds only what is encoded. -/
theorem walk_disjoint {kind : Kind} {path : List Char} (h : path.Disjoint strayMarks)
    (segment : List Char × Bool) : (walk kind path segment).Disjoint strayMarks := by
  have hset : ∀ c ∈ strayMarks, inPath c = true := List.all_eq_true.1 (by decide)
  have hname : (percentEncode inPath segment.1).Disjoint strayMarks :=
    percentEncode_disjoint (fun c _ hmark => hset c hmark) fun c hc hmark =>
      percentMarks_disjoint hc (List.mem_append_right _ hmark)
  have hup : (goUp kind path).Disjoint strayMarks := fun c hc => h ((goUp_sublist ..).mem hc)
  unfold walk
  dsimp only
  split
  · split
    · exact slashed_disjoint hup
    · exact hup
  · split
    · exact slashed_disjoint h
    · refine List.disjoint_append_left.2 ⟨List.disjoint_append_left.2 ⟨h, hname⟩, ?_⟩
      split <;> simp [strayMarks]

theorem pathFrom_disjoint {kind : Kind} {start : List Char} (h : start.Disjoint strayMarks)
    (cs : List Char) : (pathFrom kind start cs).toList.Disjoint strayMarks := by
  have hfold : ∀ (segments : List (List Char × Bool)) (path : List Char),
      path.Disjoint strayMarks → (segments.foldl (walk kind) path).Disjoint strayMarks := by
    intro segments
    induction segments with
    | nil => exact fun _ hp => hp
    | cons segment segments ih => exact fun path hp => ih _ (walk_disjoint hp segment)
  have hall := hfold (segments kind cs []) start h
  unfold pathFrom settled
  rw [String.toList_ofList]
  split
  · exact List.disjoint_cons_left.2
      ⟨by decide, fun c hc => hall ((List.dropWhile_sublist _).mem hc)⟩
  · exact hall

/-- Taking a segment off leaves the slash at the start. -/
theorem Rooted.popSegment {path : List Char} (h : Rooted path) (kind : Kind) :
    Rooted (popSegment kind path) := by
  obtain ⟨rest, rfl⟩ := h
  have hlast : (lastSegment ('/' :: rest)).length ≤ rest.length := by
    unfold lastSegment
    rw [List.length_reverse, List.reverse_cons, List.takeWhile_append]
    split
    · simp
    · exact (List.takeWhile_sublist _).length_le.trans (by simp)
  unfold Url.popSegment
  dsimp only
  split
  · exact ⟨rest, rfl⟩
  · refine ⟨rest.take (rest.length - (lastSegment ('/' :: rest)).length), ?_⟩
    rw [List.length_cons, Nat.sub_add_comm hlast, List.take_succ_cons]

theorem Rooted.goUp {path : List Char} (h : Rooted path) (kind : Kind) :
    Rooted (goUp kind path) := by
  unfold Url.goUp
  dsimp only
  split
  · rename_i hshorter
    refine Rooted.popSegment ?_ kind
    obtain ⟨rest, rfl⟩ := h
    cases rest with
    | nil => simp at hshorter
    | cons c rest => exact ⟨(c :: rest).dropLast, rfl⟩
  · exact h.popSegment kind

theorem Rooted.append {path : List Char} (h : Rooted path) (more : List Char) :
    Rooted (path ++ more) := by
  obtain ⟨rest, rfl⟩ := h
  exact ⟨rest ++ more, rfl⟩

theorem Rooted.slashed {path : List Char} (h : Rooted path) : Rooted (slashed path) := by
  unfold Url.slashed
  split
  · exact h
  · exact h.append _

/-- Going along a segment leaves the slash at the start. -/
theorem Rooted.walk {path : List Char} (h : Rooted path) (kind : Kind)
    (segment : List Char × Bool) : Rooted (walk kind path segment) := by
  unfold Url.walk
  dsimp only
  split
  · split
    · exact (h.goUp kind).slashed
    · exact h.goUp kind
  · split
    · exact h.slashed
    · exact (h.append _).append _

theorem Rooted.foldl {path : List Char} (h : Rooted path) (kind : Kind)
    (segments : List (List Char × Bool)) : Rooted (segments.foldl (Url.walk kind) path) := by
  induction segments generalizing path with
  | nil => exact h
  | cons segment segments ih => exact ih (h.walk kind segment)

/-- A path starts with a slash, if it is read behind one or starts with one itself. -/
theorem pathFrom_rooted {kind : Kind} {start cs : List Char}
    (h : kind = .file ∨ Rooted start ∨ start = [] ∧ ∃ c rest, cs = c :: rest ∧ kind.isSlash c) :
    Rooted (pathFrom kind start cs).toList := by
  unfold pathFrom settled
  rw [String.toList_ofList]
  split
  · exact ⟨_, rfl⟩
  · rename_i hkind
    obtain hfile | hstart | ⟨rfl, c, rest, rfl, hslash⟩ := h
    · exact absurd hfile hkind
    · exact hstart.foldl kind _
    · rw [segments, if_pos hslash, List.foldl_cons]
      exact Rooted.foldl ⟨[], rfl⟩ kind _

end Url

end Playground.Link
