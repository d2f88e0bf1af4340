import Mathlib.Data.List.Induction
import Mathlib.Data.String.Basic
import Playground.Text.Position

/-!
# Boundaries in a text

Two boundaries of a text have a stretch of it between them.

* `Boundary.cut` — two boundaries cut a text into three stretches;
* `extract_append` — stretches between boundaries, one behind the other, make up the whole.

The position of an offset is looked for from behind: the line counts the line breaks in front of
where a character starts, and the column the characters behind the last of these.  Read from the
front, the position moves on character by character.

* `boundaryBelow_eq` — going back from an offset comes to the last boundary up to it;
* `Position.counted` — the position behind some characters, without a limit;
* `counted_concat` — one character more moves the position on by that character;
* `offsets_placed` — so do the offsets of a text, in a strict order along its boundaries.
-/

namespace Playground.Text

/-! ### Stretches -/

variable {text : String} {i j k : Nat}

/-- A width is the number of bytes by which texts are indexed. -/
theorem utf8Len_eq_width (cs : List Char) : String.utf8Len cs = width cs := by
  induction cs with
  | nil => rfl
  | cons c cs ih => rw [String.utf8Len_cons, width_cons, ih, Nat.add_comm]

theorem boundary_size (text : String) : Boundary text text.utf8ByteSize :=
  ⟨text.toList, [], (List.append_nil _).symm, (width_toList text).symm⟩

theorem Boundary.le_size (h : Boundary text i) : i ≤ text.utf8ByteSize := by
  obtain ⟨before, behind, htext, rfl⟩ := h
  rw [← width_toList, htext, width_append]
  exact Nat.le_add_right _ _

/-- Boundaries are the positions that are valid for a text. -/
theorem isValid_iff : String.Pos.Raw.isValid text ⟨i⟩ = true ↔ Boundary text i := by
  rw [String.Pos.Raw.isValid_eq_true_iff, String.Pos.Raw.isValid_iff_exists_append]
  constructor
  · rintro ⟨before, behind, rfl, hpos⟩
    refine ⟨before.toList, behind.toList, String.toList_append .., ?_⟩
    rw [width_toList]
    exact congrArg String.Pos.Raw.byteIdx hpos
  · rintro ⟨before, behind, htext, rfl⟩
    refine ⟨String.ofList before, String.ofList behind, ?_, ?_⟩
    · rw [← String.ofList_append, ← htext, String.ofList_toList]
    · rw [← String.toList_ofList (l := before), width_toList, String.toList_ofList]
      rfl

instance : Decidable (Boundary text i) := decidable_of_iff _ isValid_iff

/-- Characters of the same width at the start of a text are the same. -/
theorem append_inj_of_width {before before' behind behind' : List Char}
    (h : before ++ behind = before' ++ behind') (hw : width before = width before') :
    before = before' ∧ behind = behind' := by
  have hnone {cs : List Char} (hcs : width cs = 0) : cs = [] := by
    rwa [← utf8Len_eq_width, String.utf8Len_eq_zero] at hcs
  obtain ⟨more, rfl, rfl⟩ | ⟨more, rfl, rfl⟩ := List.append_eq_append_iff.1 h
  · rw [width_append] at hw
    obtain rfl : more = [] := hnone (by omega)
    simp
  · rw [width_append] at hw
    obtain rfl : more = [] := hnone (by omega)
    simp

/-- Two boundaries cut a text into three stretches. -/
theorem Boundary.cut (hi : Boundary text i) (hj : Boundary text j) (hij : i ≤ j) :
    ∃ before between behind, text.toList = before ++ between ++ behind ∧
      i = width before ∧ j = width before + width between := by
  obtain ⟨before, behind, htext, rfl⟩ := hi
  obtain ⟨before', behind', htext', rfl⟩ := hj
  obtain ⟨between, rfl, rfl⟩ | ⟨between, rfl, rfl⟩ :=
    List.append_eq_append_iff.1 (htext.symm.trans htext')
  · exact ⟨before, between, behind', by rw [List.append_assoc, htext], rfl, width_append ..⟩
  · rw [width_append] at hij
    exact ⟨before', [], between ++ behind, by rw [List.append_nil, htext'],
      by rw [width_append]; omega, by rw [width_nil, Nat.add_zero]⟩

/-- The stretch between two boundaries. -/
theorem extract_cut {before between behind : List Char}
    (h : text.toList = before ++ between ++ behind) :
    String.Pos.Raw.extract text ⟨width before⟩ ⟨width before + width between⟩ =
      String.ofList between := by
  have hextract := String.extract_of_valid before between behind
  rwa [← h, String.ofList_toList, utf8Len_eq_width, utf8Len_eq_width] at hextract

/-- Stretches of a text, one behind the other, make up the stretch of both. -/
theorem extract_append (hi : Boundary text i) (hj : Boundary text j) (hk : Boundary text k)
    (hij : i ≤ j) (hjk : j ≤ k) :
    String.Pos.Raw.extract text ⟨i⟩ ⟨j⟩ ++ String.Pos.Raw.extract text ⟨j⟩ ⟨k⟩ =
      String.Pos.Raw.extract text ⟨i⟩ ⟨k⟩ := by
  obtain ⟨before, first, rest, htext, rfl, rfl⟩ := hi.cut hj hij
  obtain ⟨before', second, behind, htext', hlen, rfl⟩ := hj.cut hk hjk
  -- both cuts at the boundary between the stretches are the same
  have hlists : (before ++ first) ++ rest = before' ++ (second ++ behind) := by
    rw [← htext, htext', List.append_assoc]
  obtain ⟨rfl, rfl⟩ := append_inj_of_width hlists (by rw [width_append, hlen])
  have hfirst := extract_cut htext
  have hsecond := extract_cut htext'
  have hboth : text.toList = before ++ (first ++ second) ++ behind := by
    rw [htext', List.append_assoc before first second]
  have hboth := extract_cut hboth
  simp only [width_append, ← Nat.add_assoc] at hsecond hboth ⊢
  rw [hfirst, hsecond, hboth, String.ofList_append]

/-- A stretch of one byte is a line break exactly if a line break stands there. -/
theorem extract_break_iff {before behind : List Char} (h : text.toList = before ++ behind) :
    String.Pos.Raw.extract text ⟨width before⟩ ⟨width before + 1⟩ = "\n" ↔
      behind.head? = some '\n' := by
  constructor
  · intro hbreak
    have hge : ¬(width before ≥ width before + 1) := by omega
    rw [String.Pos.Raw.extract, if_neg hge, h,
      String.Pos.Raw.extract.go₁_append_right _ _ _ _ _ (by simp [utf8Len_eq_width])] at hbreak
    have hbreak := String.ofList_injective hbreak
    have hne : (⟨width before⟩ : String.Pos.Raw) ≠ ⟨width before + 1⟩ := by
      simp [String.Pos.Raw.ext_iff]
    -- the stretch is not empty, so it starts with the character that stands there
    cases behind with
    | nil => cases hbreak
    | cons c behind =>
      rw [String.Pos.Raw.extract.go₂, if_neg hne] at hbreak
      exact congrArg some (List.cons.inj hbreak).1
  · intro hhead
    obtain ⟨behind, rfl⟩ := List.head?_eq_some_iff.1 hhead
    have hcut : text.toList = before ++ ['\n'] ++ behind := by rw [h, List.append_assoc]; rfl
    exact extract_cut hcut

/-- Behind a line break the next character starts one byte further on. -/
theorem Boundary.behind_break (h : Boundary text i)
    (hbreak : String.Pos.Raw.extract text ⟨i⟩ ⟨i + 1⟩ = "\n") : Boundary text (i + 1) := by
  obtain ⟨before, behind, htext, rfl⟩ := h
  obtain ⟨behind, rfl⟩ := List.head?_eq_some_iff.1 ((extract_break_iff htext).1 hbreak)
  refine ⟨before ++ ['\n'], behind, by rw [htext, List.append_assoc]; rfl, ?_⟩
  rw [width_append]
  rfl

theorem extract_all (text : String) :
    String.Pos.Raw.extract text ⟨0⟩ ⟨text.utf8ByteSize⟩ = text :=
  String.extract_zero_rawEndPos text

/-- Between the start of a character and its end there is no boundary. -/
theorem Boundary.outside {front rest : List Char} {c : Char} (h : text.toList = front ++ c :: rest)
    (hj : Boundary text j) : j ≤ width front ∨ width front + c.utf8Size ≤ j := by
  obtain ⟨before, behind, htext, rfl⟩ := hj
  obtain ⟨more, rfl, -⟩ | ⟨more, rfl, hmore⟩ := List.append_eq_append_iff.1 (htext.symm.trans h)
  · rw [width_append]
    exact .inl (Nat.le_add_right _ _)
  · cases more with
    | nil =>
      rw [List.append_nil]
      exact .inl (Nat.le_refl _)
    | cons d more =>
      obtain ⟨rfl, -⟩ := List.cons.inj hmore
      rw [width_append, width_cons]
      exact .inr (by omega)

/-! ### Going back to a boundary -/

theorem boundaryBelow_le (text : String) (n : Nat) : boundaryBelow text n ≤ n := by
  induction n with
  | zero => exact Nat.le_refl 0
  | succ n ih =>
    rw [boundaryBelow]
    split
    · exact Nat.le_refl _
    · exact Nat.le_succ_of_le ih

theorem boundary_boundaryBelow (text : String) (n : Nat) :
    Boundary text (boundaryBelow text n) := by
  induction n with
  | zero => exact boundary_zero text
  | succ n ih =>
    rw [boundaryBelow]
    split
    · next hvalid => exact isValid_iff.1 hvalid
    · exact ih

/-- Going back passes over no boundary. -/
theorem Boundary.le_boundaryBelow {n : Nat} (h : Boundary text i) (hi : i ≤ n) :
    i ≤ boundaryBelow text n := by
  induction n with
  | zero => exact hi
  | succ n ih =>
    rw [boundaryBelow]
    split
    · exact hi
    · next hvalid =>
      have hne : i ≠ n + 1 := fun heq => hvalid (isValid_iff.2 (heq ▸ h))
      exact ih (by omega)

/-- Going back from an offset comes to the last boundary up to it. -/
theorem boundaryBelow_eq {n : Nat} (h : Boundary text i) (hi : i ≤ n)
    (hlast : ∀ j, Boundary text j → j ≤ n → j ≤ i) : boundaryBelow text n = i :=
  Nat.le_antisymm
    (hlast _ (boundary_boundaryBelow text n) (boundaryBelow_le text n)) (h.le_boundaryBelow hi)

theorem boundaryBelow_self (h : Boundary text i) : boundaryBelow text i = i :=
  boundaryBelow_eq h (Nat.le_refl i) fun _ _ hj => hj

theorem boundaryBelow_mono {m n : Nat} (h : m ≤ n) : boundaryBelow text m ≤ boundaryBelow text n :=
  (boundary_boundaryBelow text m).le_boundaryBelow (Nat.le_trans (boundaryBelow_le text m) h)

/-! ### Lines and columns -/

namespace Position

/-- A position is in front of another on an earlier line, or in an earlier column of its line. -/
instance : LT Position := ⟨fun p q => p.line < q.line ∨ p.line = q.line ∧ p.column < q.column⟩

instance : LE Position := ⟨fun p q => p < q ∨ p = q⟩

theorem lt_iff {p q : Position} :
    p < q ↔ p.line < q.line ∨ p.line = q.line ∧ p.column < q.column := Iff.rfl

theorem lt_irrefl (p : Position) : ¬ p < p := by
  rw [lt_iff]
  omega

theorem lt_trans {p q r : Position} (hpq : p < q) (hqr : q < r) : p < r := by
  rw [lt_iff] at *
  omega

theorem lt_after (p : Position) (c : Char) : p < p.after c := by
  unfold after
  split
  · exact .inl (Nat.lt_succ_self _)
  · exact .inr ⟨rfl, Nat.lt_succ_self _⟩

/-- The position behind some characters, however large lines and columns become. -/
def counted (front : List Char) : Position := ⟨front.count '\n' + 1, (lastLine front).length + 1⟩

/-- One character more moves the position on by that character. -/
theorem counted_concat (front : List Char) (c : Char) :
    counted (front ++ [c]) = (counted front).after c := by
  unfold counted after lastLine
  by_cases hc : c = '\n'
  · subst hc
    simp
  · simp [hc]

/-- More characters move the position on. -/
theorem counted_lt (front : List Char) {more : List Char} (h : more ≠ []) :
    counted front < counted (front ++ more) := by
  induction more using List.reverseRecOn with
  | nil => exact absurd rfl h
  | append_singleton more c ih =>
    rw [← List.append_assoc, counted_concat]
    by_cases hmore : more = []
    · rw [hmore, List.append_nil]
      exact lt_after _ c
    · exact lt_trans (ih hmore) (lt_after _ c)

/-- Every character takes a byte at least. -/
theorem length_le_width (cs : List Char) : cs.length ≤ width cs := by
  induction cs with
  | nil => exact Nat.le_refl 0
  | cons c cs ih =>
    have hpos := c.utf8Size_pos
    rw [List.length_cons, width_cons]
    omega

/-- Behind fewer bytes than the limit, no line and no column is too large. -/
theorem behind_eq_counted {front : List Char} (h : width front < limit) :
    behind front = counted front := by
  have hlines : front.count '\n' ≤ front.length := List.count_le_length
  have hcolumns : (lastLine front).length ≤ front.length := by
    have hsub := (List.takeWhile_sublist (l := front.reverse) (· ≠ '\n')).length_le
    rw [List.length_reverse] at hsub
    rw [lastLine, List.length_reverse]
    exact hsub
  have hlength := length_le_width front
  rw [behind, counted, Nat.min_eq_left (by omega), Nat.min_eq_left (by omega)]

/-- A boundary has the position behind the characters in front of it. -/
theorem ofOffset_width {text : String} {front rest : List Char} (h : text.toList = front ++ rest) :
    ofOffset text (width front) = behind front := by
  have hboundary : Boundary text (width front) := ⟨front, rest, h, rfl⟩
  have hfront : String.Pos.Raw.extract text ⟨0⟩ ⟨width front⟩ = String.ofList front := by
    have hnone : text.toList = [] ++ front ++ rest := h
    have hcut := extract_cut hnone
    rwa [width_nil, Nat.zero_add] at hcut
  rw [ofOffset, Nat.min_eq_left hboundary.le_size, boundaryBelow_self hboundary, hfront,
    String.toList_ofList]

/-- An offset has the position of the boundary that is found going back from it. -/
theorem ofOffset_boundaryBelow (text : String) (i : Nat) :
    ofOffset text i = ofOffset text (boundaryBelow text (min i text.utf8ByteSize)) := by
  have hboundary := boundary_boundaryBelow text (min i text.utf8ByteSize)
  conv_rhs => rw [ofOffset, Nat.min_eq_left hboundary.le_size, boundaryBelow_self hboundary]
  rfl

/-- An offset inside of a character has the position of where the character starts. -/
theorem ofOffset_inside {text : String} {front rest : List Char} {c : Char}
    (h : text.toList = front ++ c :: rest) {k : Nat} (hk : k < c.utf8Size) :
    ofOffset text (width front + k) = ofOffset text (width front) := by
  have hstart : Boundary text (width front) := ⟨front, c :: rest, h, rfl⟩
  have hsize : width front + c.utf8Size ≤ text.utf8ByteSize := by
    rw [← width_toList, h, width_append, width_cons]
    omega
  have hback : boundaryBelow text (width front + k) = width front := by
    refine boundaryBelow_eq hstart (Nat.le_add_right _ _) fun j hj hle => ?_
    obtain hbefore | hbehind := hj.outside h
    · exact hbefore
    · omega
  rw [ofOffset_boundaryBelow, Nat.min_eq_left (by omega), hback]

/-- Along the boundaries of a text that is not too long, positions become larger. -/
theorem ofOffset_lt {text : String} (hsize : text.utf8ByteSize < limit) {i j : Nat}
    (hi : Boundary text i) (hj : Boundary text j) (hij : i < j) :
    ofOffset text i < ofOffset text j := by
  obtain ⟨front, more, rest, htext, rfl, rfl⟩ := hi.cut hj (Nat.le_of_lt hij)
  have hfront : text.toList = front ++ (more ++ rest) := by rw [htext, List.append_assoc]
  have hfits : width (front ++ more) < limit := by
    have hle := hj.le_size
    rw [width_append]
    omega
  have hmore : more ≠ [] := by
    rintro rfl
    exact absurd hij (Nat.lt_irrefl _)
  rw [ofOffset_width hfront, ← width_append, ofOffset_width htext, behind_eq_counted hfits,
    behind_eq_counted (by rw [width_append] at hfits; omega)]
  exact counted_lt front hmore

/-- The offsets of a text that is not too long have the positions that reading it character by
character comes to: the first line and column at its start, moved on by each character; those of
its start inside of a character, and those of the end behind it.  So positions become larger along
the boundaries, and never smaller along all offsets. -/
theorem offsets_placed (source : String) (hsize : source.utf8ByteSize < 2 ^ 32 - 1) :
    ofOffset source 0 = ⟨1, 1⟩ ∧
    (∀ front c rest, source.toList = front ++ c :: rest →
      ofOffset source (width front + c.utf8Size) =
          (if c = '\n' then ⟨(ofOffset source (width front)).line + 1, 1⟩
          else ⟨(ofOffset source (width front)).line,
            (ofOffset source (width front)).column + 1⟩) ∧
        ∀ k < c.utf8Size,
          ofOffset source (width front + k) = ofOffset source (width front)) ∧
    (∀ i, source.utf8ByteSize ≤ i →
      ofOffset source i = ofOffset source source.utf8ByteSize) ∧
    (∀ i j, Boundary source i → Boundary source j → i < j →
      ofOffset source i < ofOffset source j) ∧
    (∀ i j, Boundary source i → Boundary source j →
      ofOffset source i = ofOffset source j → i = j) ∧
    ∀ i j, i ≤ j → ofOffset source i ≤ ofOffset source j := by
  have hlt {i j : Nat} := ofOffset_lt hsize (i := i) (j := j)
  refine ⟨?_, fun front c rest h => ⟨?_, fun k hk => ofOffset_inside h hk⟩, fun i hi => ?_,
    fun i j => hlt, fun i j hi hj heq => ?_, fun i j hij => ?_⟩
  · have hnone : source.toList = [] ++ source.toList := rfl
    rw [← width_nil, ofOffset_width hnone, behind_eq_counted (by decide)]
    rfl
  · have hbehind : source.toList = (front ++ [c]) ++ rest := by rw [h, List.append_assoc]; rfl
    have hfits : width (front ++ [c]) < limit := by
      rw [← width_toList, hbehind, width_append] at hsize
      exact Nat.lt_of_le_of_lt (Nat.le_add_right _ _) hsize
    have hwidth : width front + c.utf8Size = width (front ++ [c]) := by rw [width_append]; rfl
    rw [hwidth, ofOffset_width hbehind, ofOffset_width h, behind_eq_counted hfits,
      behind_eq_counted (by omega), counted_concat]
    rfl
  · rw [ofOffset, ofOffset, Nat.min_eq_right hi, Nat.min_self]
  · obtain hij | hij | hij := Nat.lt_trichotomy i j
    · exact absurd (hlt hi hj hij) (heq ▸ lt_irrefl _)
    · exact hij
    · exact absurd (hlt hj hi hij) (heq ▸ lt_irrefl _)
  · have hmono : min i source.utf8ByteSize ≤ min j source.utf8ByteSize := by omega
    rw [ofOffset_boundaryBelow source i, ofOffset_boundaryBelow source j]
    obtain hbelow | hbelow := Nat.lt_or_eq_of_le (@boundaryBelow_mono source _ _ hmono)
    · exact .inl (hlt (boundary_boundaryBelow _ _) (boundary_boundaryBelow _ _) hbelow)
    · exact .inr (congrArg _ hbelow)

/-- A wide character, a line break and a plain character: offset 1 is inside of the first. -/
theorem offsets_placed_wide :
    "é\nx".utf8ByteSize < 2 ^ 32 - 1 ∧ ofOffset "é\nx" 0 = ⟨1, 1⟩ ∧
      ofOffset "é\nx" 1 = ⟨1, 1⟩ ∧ ofOffset "é\nx" 2 = ⟨1, 2⟩ ∧ ofOffset "é\nx" 3 = ⟨2, 1⟩ ∧
      ofOffset "é\nx" 9 = ofOffset "é\nx" 4 ∧ ofOffset "é\nx" 3 < ofOffset "é\nx" 4 := by
  have hsize : "é\nx".utf8ByteSize < 2 ^ 32 - 1 := by decide
  obtain ⟨hstart, hmoves, hend, hgrows, -, -⟩ := offsets_placed "é\nx" hsize
  have hwide := hmoves [] 'é' ['\n', 'x'] rfl
  have hbreak := hmoves ['é'] '\n' ['x'] rfl
  have hsecond : ofOffset "é\nx" 2 = ⟨1, 2⟩ := by
    have hmoved : ofOffset "é\nx" 2 = ⟨(ofOffset "é\nx" 0).line, (ofOffset "é\nx" 0).column + 1⟩ :=
      hwide.1
    rw [hmoved, hstart]
  have hthird : ofOffset "é\nx" 3 = ⟨2, 1⟩ := by
    have hmoved : ofOffset "é\nx" 3 = ⟨(ofOffset "é\nx" 2).line + 1, 1⟩ := hbreak.1
    rw [hmoved, hsecond]
  exact ⟨hsize, hstart, (hwide.2 1 (by decide)).trans hstart, hsecond, hthird, hend 9 (by decide),
    hgrows 3 4 ⟨['é', '\n'], ['x'], rfl, rfl⟩ ⟨['é', '\n', 'x'], [], rfl, rfl⟩ (by decide)⟩

end Position

end Playground.Text
