import Playground.Proofs.Files.Disk
import Playground.Proofs.Snapshot.Store
import Playground.Snapshot.Load

/-!
# What a snapshot captures

A snapshot holds the files that its roots capture: the visible files of the folders that exist,
which lie below the base as their paths are written, whose keys qualify, and which are texts.
Where several of them have one key, the last one counts, in the order of the roots and of the names.

* `LibRoot.Captures` — a root captures a file;
* `Precedes` — the order in which files are captured;
* `mem_visibleFiles`, `visibleFiles_ordered` — a walk meets every visible file once, in order;
* `captured_iff` — what the store holds, told by the files that are captured;
* `loadSnapshot_captures` — loading as a whole.
-/

namespace Playground.Snapshot

open Files

/-! ### The walk -/

theorem not_lt_of_namesBefore {a b : List String} (h : namesBefore a b = true) : ¬ b < a := by
  induction a generalizing b with
  | nil => exact List.not_lt_nil b
  | cons x a ih =>
    cases b with
    | nil => cases h
    | cons y b =>
      rw [namesBefore] at h
      rw [List.cons_lt_cons_iff, not_or, not_and]
      split at h
      · next heq => exact ⟨heq ▸ String.lt_irrefl x, fun _ => ih h⟩
      · next hne =>
        have hlt : x < y := of_decide_eq_true h
        exact ⟨String.lt_asymm hlt, fun heq => absurd heq.symm hne⟩

theorem namesBefore_of_not_lt {a b : List String} (h : ¬ b < a) : namesBefore a b = true := by
  induction a generalizing b with
  | nil => rfl
  | cons x a ih =>
    cases b with
    | nil => exact absurd (List.nil_lt_cons x a) h
    | cons y b =>
      rw [List.cons_lt_cons_iff, not_or, not_and] at h
      rw [namesBefore]
      split
      · next heq => exact ih (h.2 heq.symm)
      · next hne =>
        exact decide_eq_true ((Std.lt_trichotomy x y).resolve_right fun hother =>
          hother.elim hne h.1)

theorem namesBefore_iff {a b : List String} : namesBefore a b = true ↔ ¬ b < a :=
  ⟨not_lt_of_namesBefore, namesBefore_of_not_lt⟩

variable {t : Tree} {names : List String}

/-- The files that a walk meets are those of which no name is hidden. -/
theorem mem_visibleFiles (h : t.Distinct) {bytes : ByteArray} :
    (names, bytes) ∈ visibleFiles t ↔
      t.file? names = some bytes ∧ ∀ name ∈ names, isHidden name = false := by
  rw [visibleFiles, List.mem_mergeSort, List.mem_filter, Tree.mem_files_iff h]
  simp

/-- A walk meets files in the order of their names, and none of them twice. -/
theorem visibleFiles_ordered (h : t.Distinct) :
    (visibleFiles t).Pairwise fun f g => f.1 < g.1 := by
  have hsorted : (visibleFiles t).Pairwise fun f g => namesBefore f.1 g.1 = true := by
    refine List.pairwise_mergeSort (fun a b c hab hbc => ?_) (fun a b => ?_) _
    · rw [namesBefore_iff] at hab hbc ⊢
      exact fun hca => (Std.lt_trichotomy a.1 b.1).elim (fun hlt => hbc (List.lt_trans hca hlt))
        fun hother => hother.elim (fun heq => hbc (heq ▸ hca)) hab
    · rw [Bool.or_eq_true, namesBefore_iff, namesBefore_iff]
      exact (em (b.1 < a.1)).elim (fun hlt => .inr (List.lt_asymm hlt)) .inl
  have hnodup : (visibleFiles t).Pairwise fun f g => f.1 ≠ g.1 :=
    ((List.mergeSort_perm _ _).pairwise_iff Ne.symm).2
      ((List.pairwise_map.1 (Tree.nodup_files h)).filter _)
  refine (hsorted.and hnodup).imp fun {f g} hfg => ?_
  exact (Std.lt_trichotomy f.1 g.1).resolve_right fun hother =>
    hother.elim hfg.2 (namesBefore_iff.1 hfg.1)

/-! ### What roots capture -/

/-- A root captures a file, the names of which lead to it from the root, under a key: no name is
hidden, the path of the file is written as one below the base, the key that this gives qualifies,
and the file is a text. -/
def LibRoot.Captures (r : LibRoot) (disk : Disk) (base : String) (names : List String)
    (key text : String) : Prop :=
  ∃ es bytes rel, disk.find (join base r.dir) = .ok (.folder es) ∧
    (Tree.folder es).file? names = some bytes ∧ (∀ name ∈ names, isHidden name = false) ∧
    below? base (names.foldl join (join base r.dir)) = some rel ∧ key = normalKey rel ∧
    r.accepts key = true ∧ String.fromUTF8? bytes = some text

/-- The place of a file of a root on the disk. -/
def LibRoot.place? (r : LibRoot) (disk : Disk) (base : String) (names : List String) :
    Option (List String) :=
  (disk.place? (join base r.dir)).map (· ++ names)

/-- Files come in the order of the roots, and of the names within a root. -/
def Precedes (a b : Nat × List String) : Prop := a.1 < b.1 ∨ a.1 = b.1 ∧ a.2 < b.2

theorem Precedes.asymm (a b : Nat × List String) (h : Precedes a b) : ¬ Precedes b a := by
  rintro (hba | ⟨heq, hba⟩)
  · obtain hab | ⟨heq, -⟩ := h
    · exact Nat.lt_asymm hab hba
    · exact Nat.lt_irrefl _ (heq ▸ hba)
  · obtain hab | ⟨-, hab⟩ := h
    · exact Nat.lt_irrefl _ (heq ▸ hab)
    · exact List.lt_asymm hab hba

variable {disk : Disk} {base : String} {r : LibRoot}

/-- The key and the text of a file of a root, if it qualifies. -/
def LibRoot.captured? (r : LibRoot) (base dir : String) (f : List String × ByteArray) :
    Option (String × String) := do
  let key := normalKey (← below? base (f.1.foldl join dir))
  if r.accepts key then readable (key, f.2) else none

/-- The files that a root captures, each with its names, its key and its text. -/
def LibRoot.captured (r : LibRoot) (disk : Disk) (base : String) :
    List (List String × String × String) :=
  match disk.find (join base r.dir) with
  | .ok (.folder es) => (visibleFiles (.folder es)).filterMap fun f =>
    (r.captured? base (join base r.dir) f).map fun e => (f.1, e)
  | _ => []

theorem LibRoot.captured?_eq_some {dir key text : String} {f : List String × ByteArray} :
    r.captured? base dir f = some (key, text) ↔ ∃ rel,
      below? base (f.1.foldl join dir) = some rel ∧ key = normalKey rel ∧
        r.accepts key = true ∧ String.fromUTF8? f.2 = some text := by
  unfold captured?
  cases hbelow : below? base (f.1.foldl join dir) with
  | none => simp
  | some rel =>
    by_cases haccepts : r.accepts (normalKey rel) = true
    · simp only [Option.bind_eq_bind, Option.bind_some, haccepts, if_true, readable,
        Option.map_eq_some_iff, Prod.mk.injEq, Option.some.injEq]
      constructor
      · rintro ⟨content, hcontent, rfl, rfl⟩
        exact ⟨rel, rfl, rfl, haccepts, hcontent⟩
      · rintro ⟨rel, rfl, rfl, -, hcontent⟩
        exact ⟨text, hcontent, rfl, rfl⟩
    · simp only [Option.bind_eq_bind, Option.bind_some, haccepts, if_false, reduceCtorEq,
        false_iff, Option.some.injEq]
      rintro ⟨rel, rfl, rfl, htrue, -⟩
      exact haccepts htrue

/-- What is found on a disk has distinct names. -/
theorem distinct_of_find (h : disk.tree.Distinct) {path : String} (hfind : disk.find path = .ok t) :
    t.Distinct := by
  obtain ⟨-, place, -, hat⟩ := Disk.find_eq_ok.1 hfind
  exact h.of_at? hat

theorem LibRoot.captured_eq {es : List (String × Tree)}
    (hfind : disk.find (join base r.dir) = .ok (.folder es)) : r.captured disk base =
      (visibleFiles (.folder es)).filterMap fun f =>
        (r.captured? base (join base r.dir) f).map fun e => (f.1, e) := by
  rw [captured, hfind]

theorem LibRoot.mem_captured (h : disk.tree.Distinct) {key text : String} :
    (names, key, text) ∈ r.captured disk base ↔ r.Captures disk base names key text := by
  constructor
  · intro hmem
    unfold captured at hmem
    -- nothing is captured below a root that is no folder
    split at hmem
    · next es hfind =>
      obtain ⟨⟨_, bytes⟩, hf, hcaptured⟩ := List.mem_filterMap.1 hmem
      obtain ⟨_, he, heq⟩ := Option.map_eq_some_iff.1 hcaptured
      cases heq
      obtain ⟨rel, hbelow, hkey, haccepts, htext⟩ := captured?_eq_some.1 he
      obtain ⟨hfile, hvisible⟩ := (mem_visibleFiles (distinct_of_find h hfind)).1 hf
      exact ⟨es, bytes, rel, hfind, hfile, hvisible, hbelow, hkey, haccepts, htext⟩
    · cases hmem
  · rintro ⟨es, bytes, rel, hfind, hfile, hvisible, hbelow, hkey, haccepts, htext⟩
    have hcaptured : r.captured? base (join base r.dir) (names, bytes) = some (key, text) :=
      captured?_eq_some.2 ⟨rel, hbelow, hkey, haccepts, htext⟩
    rw [captured_eq hfind]
    refine List.mem_filterMap.2 ⟨(names, bytes),
      (mem_visibleFiles (distinct_of_find h hfind)).2 ⟨hfile, hvisible⟩, ?_⟩
    rw [hcaptured]
    rfl

theorem LibRoot.captured_ordered (h : disk.tree.Distinct) :
    (r.captured disk base).Pairwise fun f g => f.1 < g.1 := by
  unfold captured
  split
  · next es hfind =>
    refine List.Pairwise.filterMap _ (fun f g hlt e he e' he' => ?_)
      (visibleFiles_ordered (distinct_of_find h hfind))
    obtain ⟨_, -, rfl⟩ := Option.map_eq_some_iff.1 he
    obtain ⟨_, -, rfl⟩ := Option.map_eq_some_iff.1 he'
    exact hlt
  · exact List.Pairwise.nil

/-- The files that some roots capture, each with its position. -/
def capturedBy (disk : Disk) (base : String) (roots : List LibRoot) :
    List ((Nat × List String) × String × String) :=
  roots.zipIdx.flatMap fun x => (x.1.captured disk base).map fun f => ((x.2, f.1), f.2)

theorem mem_capturedBy (h : disk.tree.Distinct) {roots : List LibRoot} {i : Nat}
    {key text : String} : ((i, names), key, text) ∈ capturedBy disk base roots ↔
      ∃ r, roots[i]? = some r ∧ r.Captures disk base names key text := by
  rw [capturedBy, List.mem_flatMap]
  constructor
  · rintro ⟨x, hx, hmem⟩
    obtain ⟨⟨_, _, _⟩, hf, heq⟩ := List.mem_map.1 hmem
    cases heq
    exact ⟨x.1, List.mem_zipIdx_iff_getElem?.1 hx, (LibRoot.mem_captured h).1 hf⟩
  · rintro ⟨r, hr, hcaptures⟩
    exact ⟨(r, i), List.mem_zipIdx_iff_getElem?.2 hr,
      List.mem_map.2 ⟨_, (LibRoot.mem_captured h).2 hcaptures, rfl⟩⟩

theorem capturedBy_ordered (h : disk.tree.Distinct) (roots : List LibRoot) :
    (capturedBy disk base roots).Pairwise fun f g => Precedes f.1 g.1 := by
  refine List.pairwise_flatMap.2 ⟨fun x _ => ?_, ?_⟩
  · exact List.pairwise_map.2 ((LibRoot.captured_ordered h).imp fun hlt => .inr ⟨rfl, hlt⟩)
  · refine (pairwise_zipIdx roots).imp fun {x y} hlt f hf g hg => ?_
    obtain ⟨_, -, rfl⟩ := List.mem_map.1 hf
    obtain ⟨_, -, rfl⟩ := List.mem_map.1 hg
    exact .inl hlt

/-- What a root adds to a store are the files that it captures. -/
theorem LibRoot.candidates_readable (r : LibRoot) (base dir : String) (t : Tree) :
    (r.candidates base dir t).filterMap readable =
      (visibleFiles t).filterMap fun f => r.captured? base dir f := by
  rw [candidates, List.filterMap_filterMap]
  refine List.filterMap_congr fun f _ => ?_
  obtain ⟨names, bytes⟩ := f
  unfold captured?
  dsimp only
  cases below? base (names.foldl join dir) with
  | none => rfl
  | some rel =>
    simp only [Option.bind_eq_bind, Option.bind_some]
    split <;> rfl

/-- A root that is missing captures nothing. -/
theorem LibRoot.captured_eq_nil (h : disk.hasFolder (join base r.dir) = false) :
    r.captured disk base = [] := by
  unfold captured
  unfold Disk.hasFolder at h
  split
  · next es hfind =>
    rw [hfind] at h
    cases h
  · rfl

/-- What goes into the store are the files that the roots capture, one root after another. -/
theorem gather_readable (disk : Disk) (base : String) (roots : List LibRoot) :
    (gather disk base roots).2.filterMap readable =
      roots.flatMap fun r => (r.captured disk base).map Prod.snd := by
  induction roots with
  | nil => rfl
  | cons r rest ih =>
    rw [List.flatMap_cons, ← ih, gather]
    dsimp only
    split
    · next es hfind =>
      rw [List.filterMap_append, LibRoot.candidates_readable, LibRoot.captured_eq hfind,
        List.map_filterMap]
      simp only [Option.map_map, Function.comp_def, Option.map_id_fun', id_eq]
    · next hother =>
      have hnone : r.captured disk base = [] := by
        unfold LibRoot.captured
        split
        · next es hfind => exact absurd hfind (hother es)
        · rfl
      rw [hnone]
      rfl

theorem map_capturedBy (disk : Disk) (base : String) (roots : List LibRoot) :
    (capturedBy disk base roots).map Prod.snd =
      roots.flatMap fun r => (r.captured disk base).map Prod.snd := by
  have hfst : roots = roots.zipIdx.map Prod.fst := (List.zipIdx_map_fst 0 roots).symm
  conv_rhs => rw [hfst]
  rw [capturedBy, List.map_flatMap, List.flatMap_map]
  simp only [List.map_map, Function.comp_def]

/-! ### What a snapshot holds -/

/-- The store of the files of some roots. -/
def snapshotOf (disk : Disk) (base : String) (roots : List LibRoot) : Store :=
  .ofEntries ((gather disk base roots).2.filterMap readable)

theorem loadSnapshot_store (disk : Disk) (base : String) (roots : List LibRoot) :
    (loadSnapshot disk base roots).map Prod.snd =
      if disk.hasFolder base then some (snapshotOf disk base roots) else none := by
  unfold loadSnapshot
  split <;> rfl

/-- There is a snapshot if and only if there is a base. -/
theorem loadSnapshot_eq_none {roots : List LibRoot} :
    loadSnapshot disk base roots = none ↔ ∀ es, disk.find base ≠ .ok (.folder es) := by
  rw [← Option.map_eq_none_iff (f := Prod.snd), loadSnapshot_store, Disk.hasFolder]
  cases disk.find base with
  | error fault => simp
  | ok t => cases t <;> simp [Tree.isFolder]

/-- A store holds what is captured last. -/
theorem captured_iff (h : disk.tree.Distinct) {roots : List LibRoot} {key text : String} :
    (snapshotOf disk base roots).get? key = some text ↔
      ∃ i r names, roots[i]? = some r ∧ r.Captures disk base names key text ∧
        ∀ j r' names' text', roots[j]? = some r' → r'.Captures disk base names' key text' →
          ¬ Precedes (i, names) (j, names') := by
  -- a store looks up the last file of a path, here told with its root and its names
  rw [snapshotOf, Store.get?_ofEntries, gather_readable, ← map_capturedBy,
    List.filter_map, List.getLast?_map,
    Option.map_map, Option.map_eq_some_iff]
  constructor
  · rintro ⟨⟨⟨i, names⟩, key', text'⟩, hlast, rfl⟩
    obtain ⟨hmem, hkey, hlater⟩ := (getLast?_filter_eq_some (fun _ _ => Precedes.asymm _ _)
      (capturedBy_ordered h roots)).1 hlast
    obtain rfl : key' = key := of_decide_eq_true hkey
    obtain ⟨r, hr, hcaptures⟩ := (mem_capturedBy h).1 hmem
    exact ⟨i, r, names, hr, hcaptures, fun j r' names' text'' hr' hcaptures' =>
      hlater _ ((mem_capturedBy h).2 ⟨r', hr', hcaptures'⟩) (decide_eq_true rfl)⟩
  · rintro ⟨i, r, names, hr, hcaptures, hlater⟩
    refine ⟨((i, names), key, text), ?_, rfl⟩
    refine (getLast?_filter_eq_some (fun _ _ => Precedes.asymm _ _)
      (capturedBy_ordered h roots)).2 ⟨(mem_capturedBy h).2 ⟨r, hr, hcaptures⟩,
        decide_eq_true rfl, fun y hy hkey => ?_⟩
    obtain ⟨⟨j, names'⟩, key', text'⟩ := y
    obtain rfl : key' = key := of_decide_eq_true hkey
    obtain ⟨r', hr', hcaptures'⟩ := (mem_capturedBy h).1 hy
    exact hlater j r' names' text' hr' hcaptures'

/-- Something is held under a key if it is captured at all. -/
theorem exists_captured (h : disk.tree.Distinct) {roots : List LibRoot} {key : String} :
    (∃ text, (snapshotOf disk base roots).get? key = some text) ↔
      ∃ r ∈ roots, ∃ names text, r.Captures disk base names key text := by
  constructor
  · rintro ⟨text, htext⟩
    obtain ⟨i, r, names, hr, hcaptures, -⟩ := (captured_iff h).1 htext
    exact ⟨r, List.mem_of_getElem? hr, names, text, hcaptures⟩
  · rintro ⟨r, hr, names, text, hcaptures⟩
    obtain ⟨i, hi⟩ := List.getElem?_of_mem hr
    rw [← Option.isSome_iff_exists, snapshotOf, Store.get?_ofEntries, gather_readable,
      ← map_capturedBy, Option.isSome_map, List.getLast?_isSome]
    refine List.ne_nil_of_mem (a := (key, text)) (List.mem_filter.2 ⟨?_, decide_eq_true rfl⟩)
    exact List.mem_map.2 ⟨_, (mem_capturedBy h).2 ⟨r, hi, hcaptures⟩, rfl⟩

/-- The text of a file of a root is that at its place. -/
theorem LibRoot.Captures.place {key text : String} (h : r.Captures disk base names key text) :
    ∃ place bytes, r.place? disk base names = some place ∧
      disk.tree.file? place = some bytes ∧ String.fromUTF8? bytes = some text := by
  obtain ⟨es, bytes, rel, hfind, hfile, -, -, -, -, htext⟩ := h
  obtain ⟨-, front, hlocate, hat⟩ := Disk.find_eq_ok.1 hfind
  refine ⟨front ++ names, bytes, ?_, ?_, htext⟩
  · rw [LibRoot.place?, (Disk.place_of_locate hlocate).1]
    rfl
  · rw [Tree.file?, Tree.at?_append, hat]
    exact hfile

/-- The path of a file that is captured has the parts of the base in front. -/
theorem LibRoot.Captures.below {key text : String} (h : r.Captures disk base names key text) :
    components base <+: components (names.foldl join (join base r.dir)) := by
  obtain ⟨-, -, rel, -, -, -, hbelow, -⟩ := h
  exact (below?_steps hbelow).1

/-- Where the files that have one key are the same file, a store does not depend on the order of the
roots, or on how often they are given. -/
theorem snapshotOf_congr (h : disk.tree.Distinct) {roots others : List LibRoot}
    (hroots : ∀ r, r ∈ roots ↔ r ∈ others)
    (hkeys : ∀ r ∈ roots, ∀ r' ∈ roots, ∀ names names' key text text',
      r.Captures disk base names key text → r'.Captures disk base names' key text' →
        r.place? disk base names = r'.place? disk base names') :
    snapshotOf disk base others = snapshotOf disk base roots := by
  refine Store.ext_of_get? (Store.ofEntries_ordered _) (Store.ofEntries_ordered _) fun key => ?_
  have hsome : (∃ text, (snapshotOf disk base others).get? key = some text) ↔
      ∃ text, (snapshotOf disk base roots).get? key = some text := by
    rw [exists_captured h, exists_captured h]
    exact exists_congr fun r => and_congr_left' (hroots r).symm
  cases hget : (snapshotOf disk base roots).get? key with
  | none =>
    rw [hget] at hsome
    exact Option.eq_none_iff_forall_ne_some.2 fun text htext =>
      (hsome.1 ⟨text, htext⟩).elim fun _ => nofun
  | some text =>
    obtain ⟨text', htext'⟩ := hsome.2 ⟨text, hget⟩
    obtain ⟨i, r, names, hr, hcaptures, -⟩ := (captured_iff h).1 hget
    obtain ⟨j, r', names', hr', hcaptures', -⟩ := (captured_iff h).1 htext'
    -- both texts are those of one file
    obtain ⟨place, bytes, hplace, hfile, hbytes⟩ := hcaptures.place
    obtain ⟨place', bytes', hplace', hfile', hbytes'⟩ := hcaptures'.place
    have hsame := hkeys r (List.mem_of_getElem? hr) r' ((hroots r').2 (List.mem_of_getElem? hr'))
      names names' key text text' hcaptures hcaptures'
    obtain rfl : place = place' := Option.some.inj (hplace.symm.trans (hsame.trans hplace'))
    obtain rfl : bytes = bytes' := Option.some.inj (hfile.symm.trans hfile')
    rw [htext', ← hbytes, hbytes']

/-- Roots that are missing add nothing. -/
theorem snapshotOf_missing (disk : Disk) (base : String) (roots : List LibRoot) :
    snapshotOf disk base (roots.filter fun r => disk.hasFolder (join base r.dir)) =
      snapshotOf disk base roots := by
  rw [snapshotOf, snapshotOf, gather_readable, gather_readable]
  congr 1
  induction roots with
  | nil => rfl
  | cons r rest ih =>
    rw [List.flatMap_cons, List.filter_cons]
    split
    · rw [List.flatMap_cons, ih]
    · next hmissing =>
      rw [ih, LibRoot.captured_eq_nil (Bool.eq_false_iff.2 hmissing)]
      rfl

/-! ### Reading in any order -/

/-- What was read of some files, each in its own place, after reading them in some order. -/
def readInOrder (files : List (String × ByteArray)) (order : List Nat) :
    List (Option (Option (String × String))) :=
  order.foldl (fun slots i => slots.set i (files[i]?.map readable))
    (List.replicate files.length none)

/-- However the files are read, all of them are read. -/
theorem readInOrder_eq {files : List (String × ByteArray)} {order : List Nat}
    (horder : ∀ i < files.length, i ∈ order) :
    readInOrder files order = files.map fun file => some (readable file) := by
  -- a slot is filled when the turn of its file comes, and stays as it is
  have hread (slots : List (Option (Option (String × String)))) (i : Nat) :
      (order.foldl (fun slots i => slots.set i (files[i]?.map readable)) slots)[i]? =
        if i ∈ order then slots[i]?.map fun _ => files[i]?.map readable else slots[i]? := by
    clear horder
    induction order generalizing slots with
    | nil => rfl
    | cons j order ih =>
      rw [List.foldl_cons, ih, List.getElem?_set]
      by_cases hij : j = i
      · subst hij
        by_cases hj : j < slots.length <;> simp [hj]
      · simp [hij, Ne.symm hij]
  refine List.ext_getElem? fun i => ?_
  rw [readInOrder, hread, List.getElem?_map]
  by_cases hi : i < files.length
  · simp [hi, horder i hi]
  · simp [hi]

/-! ### Loading -/

/-- **A snapshot captures the files that qualify.** There is none if and only if its base is no
folder.  Otherwise it holds, under each key, the text of the file that is captured last under this
key, and nothing else.  The path of a file that is captured has the parts of the base in front, as
it is written.  Roots that are missing add nothing; the order of the roots, and how often they are
given, does not matter where no two files have one key; and neither does the order in which the
files are read. -/
theorem loadSnapshot_captures (disk : Disk) (hdistinct : disk.tree.Distinct) (base : String)
    (roots : List LibRoot) :
    (loadSnapshot disk base roots = none ↔ ∀ es, disk.find base ≠ .ok (.folder es)) ∧
    (∀ remarks store, loadSnapshot disk base roots = some (remarks, store) →
      (∀ key text, store.get? key = some text ↔
        ∃ i r names, roots[i]? = some r ∧ r.Captures disk base names key text ∧
          ∀ j r' names' text', roots[j]? = some r' →
            r'.Captures disk base names' key text' → ¬ Precedes (i, names) (j, names')) ∧
      ∀ order : List Nat, (∀ i < (gather disk base roots).2.length, i ∈ order) →
        Store.ofEntries ((readInOrder (gather disk base roots).2 order).filterMap Option.join) =
          store) ∧
    (∀ r names key text, LibRoot.Captures r disk base names key text →
      components base <+: components (names.foldl join (join base r.dir))) ∧
    (loadSnapshot disk base (roots.filter fun r => disk.hasFolder (join base r.dir))).map Prod.snd =
      (loadSnapshot disk base roots).map Prod.snd ∧
    ∀ others : List LibRoot, (∀ r, r ∈ roots ↔ r ∈ others) →
      (∀ r ∈ roots, ∀ r' ∈ roots, ∀ names names' key text text',
        r.Captures disk base names key text → r'.Captures disk base names' key text' →
          r.place? disk base names = r'.place? disk base names') →
      (loadSnapshot disk base others).map Prod.snd =
        (loadSnapshot disk base roots).map Prod.snd := by
  refine ⟨loadSnapshot_eq_none, fun remarks store hstore => ?_,
    fun r names key text hcaptures => hcaptures.below, ?_, fun others hroots hkeys => ?_⟩
  · have hsnapshot := loadSnapshot_store disk base roots
    rw [hstore] at hsnapshot
    obtain rfl : store = snapshotOf disk base roots := by
      split at hsnapshot
      · exact Option.some.inj hsnapshot
      · cases hsnapshot
    refine ⟨fun key text => captured_iff hdistinct, fun order horder => ?_⟩
    rw [readInOrder_eq horder, List.filterMap_map]
    rfl
  · rw [loadSnapshot_store, loadSnapshot_store, snapshotOf_missing]
  · rw [loadSnapshot_store, loadSnapshot_store, snapshotOf_congr hdistinct hroots hkeys]

/-- A base with one file, and another folder beside it. -/
def besides : Disk where
  home := "/w"
  tree := .folder [("base", .folder [("a.ts", .file "y".toUTF8)]),
    ("other", .folder [("a.ts", .file "x".toUTF8)])]

theorem besides_distinct : besides.tree.Distinct := by
  have hfile (bytes : ByteArray) : (Tree.folder [("a.ts", .file bytes)]).Distinct := by
    refine .folder (List.nodup_singleton _) ?_
    simp only [List.forall_mem_singleton]
    exact .file bytes
  refine .folder (by decide) ?_
  simp only [List.forall_mem_cons]
  exact ⟨hfile _, hfile _, nofun⟩

/-- Of three roots, one is missing; a key of the base is captured from the base itself. -/
theorem loadSnapshot_captures_besides :
    let roots : List LibRoot := [⟨"gone", none⟩, ⟨"", none⟩, ⟨"../other", none⟩]
    ∃ r ∈ roots, ∃ names, r.Captures besides "/w/base" names "a.ts" "y" := by
  intro roots
  have hheld : (loadSnapshot besides "/w/base" roots).map (·.2.get? "a.ts") = some (some "y") := by
    decide +kernel
  obtain ⟨⟨remarks, store⟩, hload, hget⟩ := Option.map_eq_some_iff.1 hheld
  obtain ⟨-, hholds, -⟩ := loadSnapshot_captures besides besides_distinct "/w/base" roots
  obtain ⟨i, r, names, hr, hcaptures, -⟩ := ((hholds remarks store hload).1 "a.ts" "y").1 hget
  exact ⟨r, List.mem_of_getElem? hr, names, hcaptures⟩

/-- What a snapshot holds need not lie in the folder of its base: a root may lead upwards, and the
paths of its files still start with that of the base. -/
theorem captured_beside_base : ¬ ∀ (disk : Disk) (base : String) (roots : List LibRoot)
    (remarks : List Remark) (store : Store) (key text : String), disk.tree.Distinct →
      loadSnapshot disk base roots = some (remarks, store) → store.get? key = some text →
        ∃ front names, disk.place? base = some front ∧
          disk.tree.file? (front ++ names) = some text.toUTF8 := by
  intro h
  have hheld : (loadSnapshot besides "/w/base" [⟨"../other", none⟩]).map
      (·.2.get? "../other/a.ts") = some (some "x") := by
    decide +kernel
  obtain ⟨⟨remarks, store⟩, hload, hget⟩ := Option.map_eq_some_iff.1 hheld
  obtain ⟨front, names, hfront, hfile⟩ := h _ _ _ _ _ _ _ besides_distinct hload hget
  have hbase : besides.place? "/w/base" = some ["base"] := by decide +kernel
  obtain rfl : ["base"] = front := Option.some.inj (hbase.symm.trans hfront)
  -- the only file of the base has another text
  have hother : "y".toUTF8 ≠ "x".toUTF8 := by decide +kernel
  change (Tree.folder [("a.ts", .file "y".toUTF8)]).file? names = _ at hfile
  match names with
  | [] => cases hfile
  | name :: rest =>
    rw [Tree.file?_cons, lookup_cons_ite] at hfile
    split at hfile
    · cases rest with
      | nil => exact hother (Option.some.inj hfile)
      | cons _ _ => cases hfile
    · cases hfile

end Playground.Snapshot
