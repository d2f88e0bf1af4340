import Playground.Files.Path
import Playground.Proofs.Text.Cutting

/-!
# Names at the end of a path

A plain name that is joined to a path becomes its last part, whatever the path looks like, and
what is said about the ending of the name is said about the path.

* `PlainName` — a name that leads to an entry of a folder;
* `join_toList` — what stands in front of the name;
* `components_join` — the name is the last part;
* `withEnding_join` — another ending of the path is one of the name;
* `below?_steps` — the parts of a path below a directory are those behind its own.
-/

namespace Playground.Files

open Text

/-- A name that leads to an entry of a folder. -/
structure PlainName (name : String) : Prop where
  slash : '/' ∉ name.toList
  busy : isIdle name.toList = false
  up : name ≠ ".."

namespace PlainName

variable {name : String} (h : PlainName name)

include h

theorem toList_ne_nil : name.toList ≠ [] := fun hnil => by
  have hbusy := h.busy
  rw [hnil] at hbusy
  cases hbusy

theorem ne_dot : name ≠ "." := by
  rintro rfl
  cases h.busy

theorem isAbsolute : isAbsolute name = false := by
  rw [Bool.eq_false_iff]
  intro habsolute
  obtain ⟨rest, hrest⟩ := startsWith_iff.1 habsolute
  exact h.slash (hrest ▸ List.mem_cons_self)

end PlainName

/-- The name of a file is plain. -/
instance (name : String) : Decidable (PlainName name) :=
  decidable_of_iff ('/' ∉ name.toList ∧ isIdle name.toList = false ∧ name ≠ "..")
    ⟨fun ⟨hslash, hbusy, hup⟩ => ⟨hslash, hbusy, hup⟩, fun h => ⟨h.slash, h.busy, h.up⟩⟩

/-! ### Joining -/

/-- What a path puts in front of the names that are joined to it. -/
def lead (base : String) : List Char :=
  if base.isEmpty || endsWith ['/'] base.toList then base.toList else base.toList ++ ['/']

theorem join_toList (base : String) {path : String} (h : isAbsolute path = false) :
    (join base path).toList = lead base ++ path.toList := by
  unfold join lead
  rw [if_neg (by rw [h]; exact Bool.false_ne_true)]
  split
  · rw [String.toList_append]
  · rw [String.toList_append, String.toList_append]; rfl

theorem isEmpty_join (base : String) {name : String} (h : PlainName name) :
    (join base name).isEmpty = false := by
  rw [Bool.eq_false_iff]
  intro hempty
  have hnil := join_toList base h.isAbsolute
  rw [String.isEmpty_iff.1 hempty] at hnil
  exact h.toList_ne_nil (List.append_eq_nil_iff.1 hnil.symm).2

/-- Nothing stands in front of a name, or something that ends with a slash. -/
theorem lead_cases (base : String) : lead base = [] ∨ ∃ front, lead base = front ++ ['/'] := by
  unfold lead
  split
  · next h =>
    obtain hempty | hslash := Bool.or_eq_true .. |>.mp h
    · exact .inl (by simpa using hempty)
    · obtain ⟨front, hfront⟩ := endsWith_iff.1 hslash
      exact .inr ⟨front, hfront.symm⟩
  · exact .inr ⟨_, rfl⟩

/-- The texts between the slashes of a path with a name at its end. -/
theorem pieces_join (base : String) : ∃ front, ∀ name, PlainName name →
    pieces '/' (join base name).toList = front ++ [name.toList] ∧
      joined '/' (front ++ [name.toList]) = (join base name).toList := by
  obtain hlead | ⟨front, hlead⟩ := lead_cases base
  · refine ⟨[], fun name h => ?_⟩
    rw [join_toList base h.isAbsolute, hlead, List.nil_append]
    exact ⟨pieces_of_not_mem h.slash, rfl⟩
  · refine ⟨pieces '/' front, fun name h => ?_⟩
    rw [join_toList base h.isAbsolute, hlead, List.append_assoc, List.singleton_append,
      pieces_append, pieces_of_not_mem h.slash, joined_append pieces_ne_nil, joined_pieces]
    exact ⟨rfl, rfl⟩

theorem components_dot {path : String} {rest : List (List Char)}
    (h : pieces '/' path.toList = ['.'] :: rest) :
    components path = "." :: (rest.filter fun p => !isIdle p).map String.ofList := by
  rw [components, h]
  rfl

theorem components_plain {path : String} (h : ∀ rest, pieces '/' path.toList ≠ ['.'] :: rest) :
    components path =
      ((pieces '/' path.toList).filter fun p => !isIdle p).map String.ofList := by
  unfold components
  split
  · next rest heq => exact absurd heq (h rest)
  · rfl

/-- A name is the last part of the path it is joined to. -/
theorem components_join (base : String) {name : String} (h : PlainName name) :
    (components (join base name)).getLast? = some name := by
  obtain ⟨front, hfront⟩ := pieces_join base
  have hlast (parts : List (List Char)) :
      ((parts ++ [name.toList]).filter fun p => !isIdle p).map String.ofList =
        ((parts.filter fun p => !isIdle p).map String.ofList) ++ [name] := by
    simp [h.busy]
  unfold components
  rw [(hfront name h).1]
  split
  · next rest heq =>
    cases front with
    | nil =>
      obtain ⟨hdot, -⟩ := List.cons_eq_cons.1 heq
      exact absurd (String.toList_injective hdot) h.ne_dot
    | cons p ps =>
      obtain ⟨-, rfl⟩ := List.cons_eq_cons.1 heq
      show ("." :: ((ps ++ [name.toList]).filter _).map _).getLast? = _
      rw [hlast, ← List.cons_append, List.getLast?_concat]
  · rw [hlast, List.getLast?_concat]

/-! ### Endings -/

/-- Another ending of a path with a name at its end is one of the name. -/
theorem withEnding_join (ending base : String) {name : String} (h : PlainName name)
    (hnew : PlainName (withEnding ending name)) :
    withEnding ending (join base name) = join base (withEnding ending name) := by
  obtain ⟨front, hfront⟩ := pieces_join base
  refine String.toList_injective ?_
  rw [← (hfront _ hnew).2]
  unfold withEnding
  rw [(hfront name h).1, pieces_of_not_mem h.slash]
  simp [joined]

/-! ### Below a directory -/

theorem dropParts_cons (n : Nat) (p : List Char) (parts : List (List Char)) :
    dropParts n (p :: parts) =
      if isIdle p then dropParts n parts
      else if n = 0 then p :: parts else dropParts (n - 1) parts := by
  rw [dropParts.eq_def]
  cases n <;> rfl

theorem dropParts_filter (n : Nat) (parts : List (List Char)) :
    ((dropParts n parts).filter fun p => !isIdle p) =
      (parts.filter fun p => !isIdle p).drop n := by
  induction parts generalizing n with
  | nil => cases n <;> rfl
  | cons p parts ih =>
    rw [dropParts_cons]
    cases hidle : isIdle p with
    | true => simp [hidle, ih]
    | false => cases n <;> simp [hidle, ih]

/-- What is left starts with something that leads somewhere. -/
theorem dropParts_head {n : Nat} {parts rest : List (List Char)} {p : List Char}
    (h : dropParts n parts = p :: rest) : isIdle p = false := by
  induction parts generalizing n with
  | nil => cases n <;> cases h
  | cons q parts ih =>
    rw [dropParts_cons] at h
    split at h
    · exact ih h
    · next hbusy =>
      split at h
      · exact (List.cons_eq_cons.1 h).1 ▸ Bool.eq_false_iff.2 hbusy
      · exact ih h

theorem mem_of_mem_dropParts {n : Nat} {parts : List (List Char)} {p : List Char}
    (h : p ∈ dropParts n parts) : p ∈ parts := by
  induction parts generalizing n with
  | nil => cases n <;> cases h
  | cons q parts ih =>
    rw [dropParts_cons] at h
    split at h
    · exact List.mem_cons_of_mem q (ih h)
    · split at h
      · exact h
      · exact List.mem_cons_of_mem q (ih h)

/-- The parts of a path that lead somewhere. -/
def steps (path : String) : List String := (components path).filter (· ≠ ".")

/-- The parts that lead somewhere lack dots. -/
theorem filter_busy (parts : List (List Char)) :
    ((parts.filter fun p => !isIdle p).map String.ofList).filter (· ≠ ".") =
      (parts.filter fun p => !isIdle p).map String.ofList := by
  refine List.filter_eq_self.2 fun s hs => decide_eq_true ?_
  rintro rfl
  obtain ⟨p, hp, hdot⟩ := List.mem_map.1 hs
  obtain rfl : p = ['.'] := by simpa using congrArg String.toList hdot
  simpa [isIdle] using (List.mem_filter.1 hp).2

/-- What is left of a path has the parts that are left. -/
theorem steps_dropped {parts : List (List Char)} (hparts : ∀ p ∈ parts, '/' ∉ p) (n : Nat) :
    steps (String.ofList (joined '/' (dropParts n parts))) =
      ((parts.filter fun p => !isIdle p).drop n).map String.ofList := by
  rw [← dropParts_filter]
  unfold steps components
  rw [String.toList_ofList]
  cases hleft : dropParts n parts with
  | nil => rfl
  | cons p rest =>
    rw [pieces_joined (List.cons_ne_nil p rest) fun q hq => hparts q
      (mem_of_mem_dropParts (hleft ▸ hq))]
    split
    · next rest' heq =>
      -- what is left does not start with a dot
      have hidle := dropParts_head hleft
      rw [(List.cons_eq_cons.1 heq).1] at hidle
      cases hidle
    · exact filter_busy _

/-- The parts of a path below a directory are those behind the parts of the directory. -/
theorem below?_steps {base path rest : String} (h : below? base path = some rest) :
    components base <+: components path ∧
      steps rest = ((components path).drop (components base).length).filter (· ≠ ".") := by
  unfold below? at h
  split at h
  · next hbelow =>
    obtain ⟨-, hprefix⟩ := Bool.and_eq_true_iff.1 hbelow
    refine ⟨List.isPrefixOf_iff_prefix.1 hprefix, ?_⟩
    have hparts : ∀ p ∈ pieces '/' path.toList, '/' ∉ p := fun p => not_mem_of_mem_pieces
    obtain rfl := Option.some.inj h
    split
    · next rest count heq hcount =>
      -- a dot in front counts as a part
      rw [hcount, components_dot heq, List.drop_succ_cons, ← List.map_drop, ← dropParts_filter,
        filter_busy, dropParts_filter]
      exact steps_dropped (List.forall_mem_cons.1 (heq ▸ hparts)).2 count
    · next hother =>
      rw [steps_dropped hparts]
      by_cases hdot : ∃ rest, pieces '/' path.toList = ['.'] :: rest
      · obtain ⟨rest, hrest⟩ := hdot
        have hcount : (components base).length = 0 :=
          Nat.eq_zero_of_not_pos fun hpos =>
            hother rest _ hrest (Nat.succ_pred_eq_of_pos hpos).symm
        rw [hcount, List.drop_zero, List.drop_zero, components_dot hrest, hrest]
        exact (filter_busy rest).symm
      · rw [components_plain (not_exists.1 hdot), ← List.map_drop, ← dropParts_filter, filter_busy]
  · cases h

end Playground.Files
