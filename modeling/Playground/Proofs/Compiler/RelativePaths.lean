import Playground.Compiler.Resolve
import Playground.Proofs.Text.Cutting

/-!
# Relative paths

A relative specifier is a path from the root, with segments to skip and steps up.  Walking it from
the root comes to a directory, whose path is the normal form of the specifier: the root has no
directory above it, so that no path leads out of it.

* `Relative` — a specifier is a path;
* `enter` — what a segment makes of a directory;
* `NormalForm`, `normalForm_iff` — a path has one normal form;
* `LeadsTo`, `leadsTo_iff` — a path leads to one directory from the root;
* `directory_plain`, `directory_joined` — only plain segments are left of a path, and these are left
  as they are;
* `directory_append` — a path is walked one part after the other;
* `relative_paths_normal` — what relative specifiers stand for.
-/

namespace Playground.Compiler

open Playground.Text

/-! ### Walking a path -/

/-- Whether a specifier is a path. -/
def Relative (specifier : List Char) : Prop :=
  ['.', '/'] <+: specifier ∨ ['.', '.', '/'] <+: specifier ∨ ['/'] <+: specifier

/-- Enters a segment from a directory, of which the innermost segment comes last; a step up from the
root stays there. -/
def enter (directory : List (List Char)) (segment : List Char) : List (List Char) :=
  if segment = [] ∨ segment = ['.'] then directory
  else if segment = ['.', '.'] then directory.dropLast
  else directory ++ [segment]

/-- A path without segments to skip and steps up: its segments are entered from the root. -/
def NormalForm (path base : List Char) : Prop :=
  ∃ segments, segments ≠ [] ∧ (∀ s ∈ segments, '/' ∉ s) ∧ path = joined '/' segments ∧
    base = joined '/' (segments.foldl enter [])

/-- The paths among the specifiers are told by their starts. -/
theorem isRelative_iff {specifier : List Char} :
    isRelative specifier = true ↔ Relative specifier := by
  simp only [isRelative, Bool.or_eq_true, startsWith_iff, Relative, or_assoc]

/-- Walking enters one segment after another. -/
theorem walk_eq (directory segments : List (List Char)) :
    walk directory.reverse segments = (segments.foldl enter directory).reverse := by
  induction segments generalizing directory with
  | nil => rfl
  | cons s rest ih =>
    rw [walk, List.foldl_cons, enter]
    split
    · exact ih directory
    · split
      · rw [List.tail_reverse, ih]
      · rw [← ih, List.reverse_append, List.reverse_singleton, List.singleton_append]

/-- A path has one normal form. -/
theorem normalForm_iff {path base : List Char} : NormalForm path base ↔ base = normalPath path := by
  have hwalk (segments : List (List Char)) :
      (walk [] segments).reverse = segments.foldl enter [] := by
    have h := walk_eq [] segments
    rw [List.reverse_nil] at h
    rw [h, List.reverse_reverse]
  constructor
  · rintro ⟨segments, hnil, hsegments, rfl, rfl⟩
    -- a path has one list of segments without slashes
    rw [normalPath, pieces_joined hnil hsegments, hwalk]
  · rintro rfl
    exact ⟨pieces '/' path, pieces_ne_nil, fun s => not_mem_of_mem_pieces, joined_pieces.symm, by
      rw [normalPath, hwalk]⟩

/-! ### Where a path leads to -/

/-- A segment that a directory can have: it is not skipped, and no step up. -/
structure PlainSegment (s : List Char) : Prop where
  ne_nil : s ≠ []
  ne_dot : s ≠ ['.']
  ne_up : s ≠ ['.', '.']
  slash : '/' ∉ s

/-- Entering the segments of a path, one after another from the root, comes to a directory. -/
def LeadsTo (path : List Char) (directory : List (List Char)) : Prop :=
  ∃ segments, segments ≠ [] ∧ (∀ s ∈ segments, '/' ∉ s) ∧ path = joined '/' segments ∧
    directory = segments.foldl enter []

/-- The directory that a path leads to. -/
def directory (path : List Char) : List (List Char) := (pieces '/' path).foldl enter []

variable {path : List Char} {d segments : List (List Char)}

theorem leadsTo_iff : LeadsTo path d ↔ d = directory path := by
  constructor
  · rintro ⟨segments, hnil, hsegments, rfl, rfl⟩
    rw [directory, pieces_joined hnil hsegments]
  · rintro rfl
    exact ⟨pieces '/' path, pieces_ne_nil, fun _ => not_mem_of_mem_pieces, joined_pieces.symm, rfl⟩

/-- The normal form of a path is the path of the directory it leads to. -/
theorem normalPath_eq (path : List Char) : normalPath path = joined '/' (directory path) := by
  obtain ⟨segments, hnil, hsegments, hpath, hd⟩ := leadsTo_iff.2 (Eq.refl (directory path))
  exact (normalForm_iff.1 ⟨segments, hnil, hsegments, hpath, congrArg _ hd⟩).symm

/-- What a segment without slashes makes of a directory with plain segments has plain segments. -/
theorem enter_plain (hd : ∀ s ∈ d, PlainSegment s) {s : List Char} (hs : '/' ∉ s) :
    ∀ t ∈ enter d s, PlainSegment t := by
  intro t ht
  unfold enter at ht
  split at ht
  · exact hd t ht
  · next hskip =>
    rw [not_or] at hskip
    split at ht
    · exact hd t (List.mem_of_mem_dropLast ht)
    · next hup =>
      obtain ht | ht := List.mem_append.1 ht
      · exact hd t ht
      · rw [List.mem_singleton.1 ht]
        exact ⟨hskip.1, hskip.2, hup, hs⟩

/-- Where a path leads to has plain segments only. -/
theorem directory_plain (path : List Char) : ∀ s ∈ directory path, PlainSegment s := by
  have hwalk (parts : List (List Char)) (hparts : ∀ p ∈ parts, '/' ∉ p) :
      ∀ d : List (List Char), (∀ s ∈ d, PlainSegment s) →
        ∀ s ∈ parts.foldl enter d, PlainSegment s := by
    induction parts with
    | nil => exact fun d hd => hd
    | cons p parts ih =>
      obtain ⟨hp, hparts⟩ := List.forall_mem_cons.1 hparts
      exact fun d hd => ih hparts _ (enter_plain hd hp)
  exact hwalk _ (fun _ => not_mem_of_mem_pieces) [] (by simp)

/-- Plain segments are entered as they are. -/
theorem foldl_enter_plain (h : ∀ s ∈ segments, PlainSegment s) :
    segments.foldl enter d = d ++ segments := by
  induction segments generalizing d with
  | nil => rw [List.append_nil]; rfl
  | cons s segments ih =>
    obtain ⟨hs, hsegments⟩ := List.forall_mem_cons.1 h
    have henter : enter d s = d ++ [s] := by
      rw [enter, if_neg (not_or.2 ⟨hs.ne_nil, hs.ne_dot⟩), if_neg hs.ne_up]
    rw [List.foldl_cons, henter, ih hsegments, List.append_assoc, List.singleton_append]

/-- The path of a directory leads to it. -/
theorem directory_joined (h : ∀ s ∈ segments, PlainSegment s) :
    directory (joined '/' segments) = segments := by
  cases segments with
  | nil => rfl
  | cons s segments =>
    rw [directory, pieces_joined (List.cons_ne_nil _ _) fun t ht => (h t ht).slash,
      foldl_enter_plain h, List.nil_append]

/-- A path behind another one is walked from where that leads to. -/
theorem directory_append (a b : List Char) :
    directory (a ++ '/' :: b) = (pieces '/' b).foldl enter (directory a) := by
  rw [directory, pieces_append, List.foldl_append]
  rfl

/-- A slash in front of a path leaves it as it is. -/
theorem directory_slash (a : List Char) : directory ('/' :: a) = directory a :=
  directory_append [] a

/-- The path of a directory does not start with a slash. -/
theorem joined_head (h : ∀ s ∈ segments, PlainSegment s) :
    (joined '/' segments).head? ≠ some '/' := by
  cases segments with
  | nil => exact nofun
  | cons s segments =>
    obtain ⟨hs, -⟩ := List.forall_mem_cons.1 h
    obtain ⟨c, cs, rfl⟩ := List.exists_cons_of_ne_nil hs.ne_nil
    have hc : c ≠ '/' := fun hslash => hs.slash (hslash ▸ List.mem_cons_self)
    cases segments <;> simpa [joined] using hc

/-- The path of a directory does not end in a slash. -/
theorem joined_last (h : ∀ s ∈ segments, PlainSegment s) :
    (joined '/' segments).getLast? ≠ some '/' := by
  obtain rfl | ⟨outer, s, rfl⟩ := segments.eq_nil_or_concat
  · exact nofun
  · have hs : PlainSegment s := h s (by simp)
    have hlast : s.getLast? ≠ some '/' := fun hslash => hs.slash (List.mem_of_getLast? hslash)
    cases outer with
    | nil => exact hlast
    | cons p outer =>
      have hlast' : ('/' :: s).getLast? = s.getLast? := by
        rw [← List.singleton_append, List.getLast?_append_of_ne_nil _ hs.ne_nil]
      rw [List.concat_eq_append, joined_append (List.cons_ne_nil p outer),
        List.getLast?_append_of_ne_nil _ (List.cons_ne_nil '/' s), hlast']
      exact hlast

/-! ### Relative specifiers -/

variable {specifier base : String}

theorem relativeBase?_eq_none : relativeBase? specifier = none ↔ ¬ Relative specifier.toList := by
  rw [← isRelative_iff, relativeBase?]
  split <;> simp_all

/-- A relative specifier stands for the path of the directory it leads to. -/
theorem relativeBase?_of_relative (h : Relative specifier.toList) :
    relativeBase? specifier =
      some (String.ofList (joined '/' (directory specifier.toList))) := by
  rw [relativeBase?, if_pos (isRelative_iff.2 h), normalPath_eq]

theorem relativeBase?_eq_some : relativeBase? specifier = some base ↔
    Relative specifier.toList ∧ base.toList = joined '/' (directory specifier.toList) := by
  have hbase (cs : List Char) : String.ofList cs = base ↔ base.toList = cs := by
    rw [← String.toList_inj, String.toList_ofList, eq_comm]
  rw [← isRelative_iff, relativeBase?, normalPath_eq, Option.ite_none_right_eq_some,
    Option.some_inj, hbase]

/-- What a relative specifier stands for leads to the same directory. -/
theorem directory_base (h : relativeBase? specifier = some base) :
    directory base.toList = directory specifier.toList := by
  rw [(relativeBase?_eq_some.1 h).2, directory_joined (directory_plain _)]

/-- Relative specifiers stand for the same path exactly if they lead to the same directory. -/
theorem relativeBase?_inj {s t : String} (hs : Relative s.toList) (ht : Relative t.toList) :
    relativeBase? s = relativeBase? t ↔ directory s.toList = directory t.toList := by
  constructor
  · intro h
    have hbase := relativeBase?_of_relative hs
    rw [← directory_base hbase, directory_base (h ▸ hbase)]
  · intro h
    rw [relativeBase?_of_relative hs, relativeBase?_of_relative ht, h]

/-- What follows a slash is a path from the root. -/
theorem relative_slash (a : String) : Relative ("/" ++ a).toList :=
  .inr (.inr ⟨a.toList, by simp⟩)

/-- A slash in front of a specifier leaves where it leads to as it is. -/
theorem directory_slash_append (a : String) : directory ("/" ++ a).toList = directory a.toList := by
  rw [String.toList_append]
  exact directory_slash a.toList

/-- A specifier behind another one is walked from where that leads to. -/
theorem directory_slash_slash (a b : String) : directory ("/" ++ a ++ "/" ++ b).toList =
    (pieces '/' b.toList).foldl enter (directory a.toList) := by
  rw [String.append_assoc, String.append_assoc, directory_slash_append, String.toList_append,
    String.toList_append]
  exact directory_append a.toList b.toList

/-- Resolving a relative specifier is looking for what it stands for. -/
theorem resolve_of_base (h : relativeBase? specifier = some base)
    (paths : List (String × List String)) : resolve paths specifier = probeAll [base] := by
  rw [resolve, bases, h]

/-- A specifier stands for a path from the root exactly if it is relative, and the path is that of
the directory that its segments lead to, entered one after another from the root.  Only plain
segments are left, with no slash at either end, so that the path stands for itself.  A specifier
that goes on behind another one stands for the same path when that one is replaced by what it stands
for.  Two relative specifiers stand for the same path exactly if they lead to the same directory,
and then resolving them asks the host for the same files and finds the same one. -/
theorem relative_paths_normal :
    (∀ specifier, relativeBase? specifier = none ↔ ¬ Relative specifier.toList) ∧
    (∀ specifier base, relativeBase? specifier = some base →
      (∃ directory, LeadsTo specifier.toList directory ∧ (∀ s ∈ directory, PlainSegment s) ∧
        base.toList = joined '/' directory) ∧
      base.toList.head? ≠ some '/' ∧ base.toList.getLast? ≠ some '/' ∧
      relativeBase? ("/" ++ base) = some base) ∧
    (∀ a b, ∃ base, relativeBase? ("/" ++ a) = some base ∧
      (Relative a.toList → relativeBase? a = some base) ∧
      relativeBase? ("/" ++ a ++ "/" ++ b) = relativeBase? ("/" ++ base ++ "/" ++ b)) ∧
    ∀ s t, Relative s.toList → Relative t.toList →
      (relativeBase? s = relativeBase? t ↔
        ∃ directory, LeadsTo s.toList directory ∧ LeadsTo t.toList directory) ∧
      (relativeBase? s = relativeBase? t → ∀ paths, resolve paths s = resolve paths t) := by
  refine ⟨fun specifier => relativeBase?_eq_none, fun specifier base h => ?_, fun a b => ?_,
    fun s t hs ht => ⟨?_, fun h paths => ?_⟩⟩
  · have hplain := directory_plain specifier.toList
    have hbase := (relativeBase?_eq_some.1 h).2
    refine ⟨⟨_, leadsTo_iff.2 rfl, hplain, hbase⟩, ?_, ?_, ?_⟩
    · exact hbase ▸ joined_head hplain
    · exact hbase ▸ joined_last hplain
    · rw [relativeBase?_eq_some, directory_slash_append, directory_base h]
      exact ⟨relative_slash base, hbase⟩
  · have hslash := relativeBase?_of_relative (relative_slash a)
    refine ⟨_, hslash, fun ha => ?_, ?_⟩
    · rw [← hslash, relativeBase?_inj ha (relative_slash a), directory_slash_append]
    · have hrelative (a : String) : Relative ("/" ++ a ++ "/" ++ b).toList := by
        simpa only [String.append_assoc] using relative_slash (a ++ "/" ++ b)
      rw [relativeBase?_inj (hrelative a) (hrelative _), directory_slash_slash,
        directory_slash_slash, directory_base hslash, directory_slash_append]
  · rw [relativeBase?_inj hs ht]
    constructor
    · exact fun h => ⟨_, leadsTo_iff.2 rfl, leadsTo_iff.2 h⟩
    · rintro ⟨d, hd, hd'⟩
      rw [← leadsTo_iff.1 hd, ← leadsTo_iff.1 hd']
  · have hbase := relativeBase?_of_relative hs
    rw [resolve_of_base hbase, resolve_of_base (h ▸ hbase)]

/-- Surplus steps up stay at the root. -/
example : relativeBase? "../a//./b/../../../c/" = some "c" := by decide +kernel

end Playground.Compiler
