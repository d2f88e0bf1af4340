import Playground.Proofs.Bytes
import Playground.Proofs.Entries
import Playground.Snapshot.Store
import Mathlib.Data.List.Dedup
import Mathlib.Logic.Equiv.Basic

/-!
# What a store holds

A store is told by the contents that are looked up in it, whatever the files were put in.

* `get?_ofEntries`, `get?_ofEntries_eq_some` — of the files of one path, the last one counts;
* `ext_of_get?` — stores of some files that hold the same are the same;
* `Reordering` — orders of files that differ only in how files of different paths follow each
  other, `Reordering.get?_eq` — a store does not tell them apart;
* `listing_of_perm`, `get?_of_perm` — the arrangement of the files in a store does not matter;
* `ofEntries_observed` — what is observed of a store as a whole.
-/

namespace Playground.Snapshot.Store

variable {s t : Store} {path content : String}

/-! ### Looking up -/

theorem lookup_insertInto (path content other : String) (entries : List (String × String)) :
    (insertInto path content entries).lookup other =
      if other = path then some content else entries.lookup other := by
  induction entries with
  | nil => rw [insertInto, lookup_cons_ite]
  | cons e rest ih =>
    obtain ⟨p, c⟩ := e
    rw [insertInto]
    split
    · next heq =>
      rw [lookup_cons_ite, lookup_cons_ite, ← heq]
      split <;> rfl
    · next hne =>
      split
      · rw [lookup_cons_ite]
      · rw [lookup_cons_ite, lookup_cons_ite, ih]
        by_cases hother : other = p
        · simp [hother, Ne.symm hne]
        · simp [hother]

/-- A file that is put into a store replaces the one of its path. -/
theorem get?_insert (s : Store) (path content other : String) :
    (s.insert path content).get? other = if other = path then some content else s.get? other :=
  lookup_insertInto path content other s.entries

theorem get?_foldl_insert (files : List (String × String)) (s : Store) (path : String) :
    (files.foldl (fun s f => s.insert f.1 f.2) s).get? path =
      (((files.filter fun f => f.1 = path).getLast?).map Prod.snd).or (s.get? path) := by
  induction files generalizing s with
  | nil => rfl
  | cons f files ih =>
    rw [List.foldl_cons, ih, get?_insert, List.filter_cons]
    by_cases hf : f.1 = path
    · cases hlast : (files.filter fun f => f.1 = path).getLast? <;>
        simp [hf, hlast, List.getLast?_cons]
    · simp [hf, Ne.symm hf]

/-- Of the files of a path, a store holds the last one. -/
theorem get?_ofEntries (files : List (String × String)) (path : String) :
    (ofEntries files).get? path =
      ((files.filter fun f => f.1 = path).getLast?).map Prod.snd := by
  rw [ofEntries, get?_foldl_insert]
  exact Option.or_none

/-! ### Order -/

/-- The files of a store are in the order of their paths. -/
def Ordered (s : Store) : Prop := s.entries.Pairwise fun a b => a.1 < b.1

theorem mem_insertInto {entries : List (String × String)} {e : String × String}
    (he : e ∈ insertInto path content entries) : e = (path, content) ∨ e ∈ entries := by
  induction entries with
  | nil => exact .inl (List.mem_singleton.1 he)
  | cons d rest ih =>
    obtain ⟨p, c⟩ := d
    rw [insertInto] at he
    split at he
    · exact (List.mem_cons.1 he).imp_right (List.mem_cons_of_mem _)
    · split at he
      · exact List.mem_cons.1 he
      · obtain rfl | he := List.mem_cons.1 he
        · exact .inr List.mem_cons_self
        · exact (ih he).imp_right (List.mem_cons_of_mem _)

theorem pairwise_insertInto {entries : List (String × String)}
    (h : entries.Pairwise fun a b => a.1 < b.1) :
    (insertInto path content entries).Pairwise fun a b => a.1 < b.1 := by
  induction entries with
  | nil => exact List.pairwise_singleton ..
  | cons e rest ih =>
    obtain ⟨p, c⟩ := e
    obtain ⟨hfirst, hrest⟩ := List.pairwise_cons.1 h
    rw [insertInto]
    split
    · next heq => exact List.pairwise_cons.2 ⟨fun d hd => heq ▸ hfirst d hd, hrest⟩
    · next hne =>
      split
      · next hbefore =>
        have hlt : path < p := of_decide_eq_true hbefore
        refine List.pairwise_cons.2 ⟨fun d hd => ?_, h⟩
        obtain rfl | hd := List.mem_cons.1 hd
        · exact hlt
        · exact String.lt_trans hlt (hfirst d hd)
      · next hnot =>
        refine List.pairwise_cons.2 ⟨fun d hd => ?_, ih hrest⟩
        obtain rfl | hd := mem_insertInto hd
        · -- neither the same nor before
          have hlt : ¬ path < p := fun hlt => hnot (decide_eq_true hlt)
          exact (Std.lt_trichotomy p path).resolve_right fun h =>
            h.elim (fun heq => hne heq.symm) hlt
        · exact hfirst d hd

theorem ofEntries_ordered (files : List (String × String)) : (ofEntries files).Ordered := by
  have hfold (s : Store) (hs : s.Ordered) :
      (files.foldl (fun s f => s.insert f.1 f.2) s).Ordered := by
    induction files generalizing s with
    | nil => exact hs
    | cons f files ih => exact ih _ (pairwise_insertInto hs)
  exact hfold empty List.Pairwise.nil

/-- Stores in order are told by what they hold. -/
theorem ext_of_get? (hs : s.Ordered) (ht : t.Ordered) (h : ∀ path, s.get? path = t.get? path) :
    s = t :=
  congrArg Store.mk (eq_of_lookup hs ht h)

/-! ### The last file of a path -/

/-- What is looked up is the content at the last position of the path. -/
theorem get?_ofEntries_eq_some {files : List (String × String)} :
    (ofEntries files).get? path = some content ↔
      ∃ i : Fin files.length, files[i] = (path, content) ∧ ∀ j, i < j → files[j].1 ≠ path := by
  rw [get?_ofEntries, Option.map_eq_some_iff]
  simp only [getLast?_filter_eq_some_getElem, decide_eq_true_eq, decide_eq_false_iff_not]
  constructor
  · rintro ⟨⟨_, _⟩, ⟨i, hfile, rfl, hlater⟩, rfl⟩
    exact ⟨i, hfile, hlater⟩
  · rintro ⟨i, hfile, hlater⟩
    exact ⟨(path, content), ⟨i, hfile, rfl, hlater⟩, rfl⟩

theorem get?_ofEntries_eq_none {files : List (String × String)} :
    (ofEntries files).get? path = none ↔ ∀ f ∈ files, f.1 ≠ path := by
  rw [get?_ofEntries, Option.map_eq_none_iff, List.getLast?_eq_none_iff, List.filter_eq_nil_iff]
  simp only [decide_eq_true_eq, ne_eq]

/-- Files in another order, in which those of one path still follow each other as before. -/
structure Reordering (files others : List (String × String)) where
  /-- Where each position goes. -/
  place : Fin files.length ≃ Fin others.length
  /-- The file of a position goes with it. -/
  same : ∀ i, others[place i] = files[i]
  /-- Files of one path keep their order. -/
  keeps : ∀ i j, i < j → files[i].1 = files[j].1 → place i < place j

/-- A store holds the same whatever the order of its files, if those of each path keep theirs. -/
theorem Reordering.get?_eq {files others : List (String × String)} (r : Reordering files others)
    (path : String) : (ofEntries others).get? path = (ofEntries files).get? path := by
  refine Option.ext fun content => ?_
  rw [get?_ofEntries_eq_some, get?_ofEntries_eq_some]
  constructor
  · rintro ⟨k, hfile, hlater⟩
    obtain ⟨i, rfl⟩ := r.place.surjective k
    rw [r.same] at hfile
    refine ⟨i, hfile, fun j hij hpath => ?_⟩
    refine hlater (r.place j) (r.keeps i j hij ?_) ?_
    · rw [hpath, hfile]
    · rw [r.same, hpath]
  · rintro ⟨i, hfile, hlater⟩
    refine ⟨r.place i, (r.same i).trans hfile, fun k hik hpath => ?_⟩
    obtain ⟨j, rfl⟩ := r.place.surjective k
    rw [r.same] at hpath
    -- the file comes neither later than the last one of its path nor earlier
    obtain hij | rfl | hji := Std.lt_trichotomy i j
    · exact hlater j hij hpath
    · exact Fin.lt_irrefl _ hik
    · exact Fin.lt_asymm hik (r.keeps j i hji (by rw [hpath, hfile]))

/-! ### Listings -/

theorem not_before_iff {a b : String} : (!before b a) = true ↔ a ≤ b := by
  unfold before
  rw [Bool.not_eq_true', decide_eq_false_iff_not]
  exact Iff.rfl

/-- What is sorted by names is in the order of the names. -/
theorem pairwise_mergeSort_before {α : Type} (es : List (String × α)) :
    (es.mergeSort fun a b => !before b.1 a.1).Pairwise fun a b => a.1 ≤ b.1 := by
  refine (List.pairwise_mergeSort (fun a b c hab hbc => ?_) (fun a b => ?_) es).imp
    not_before_iff.1
  · rw [not_before_iff] at hab hbc ⊢
    exact String.le_trans hab hbc
  · rw [Bool.or_eq_true, not_before_iff, not_before_iff]
    exact String.le_total a.1 b.1

/-- However the files of an ordered store are arranged, they are listed in its order. -/
theorem listing_of_perm (ht : t.Ordered) (h : s.entries.Perm t.entries) :
    s.listing = t.entries := by
  have hperm : s.listing.Perm t.entries := (List.mergeSort_perm _ _).trans h
  refine List.Perm.eq_of_pairwise (fun a b ha hb hab hba => ?_)
    (pairwise_mergeSort_before s.entries) (ht.imp fun hlt => Std.le_of_lt hlt) hperm
  exact List.inj_on_of_nodup_map (nodup_of_ordered ht) (hperm.mem_iff.1 ha) hb
    (String.le_antisymm hab hba)

/-- However the files of an ordered store are arranged, the same is looked up. -/
theorem get?_of_perm (ht : t.Ordered) (h : s.entries.Perm t.entries) (path : String) :
    s.get? path = t.get? path := by
  have hnodup := nodup_of_ordered ht
  refine Option.ext fun content => ?_
  rw [get?, get?, lookup_eq_some_iff ((h.map Prod.fst).nodup_iff.2 hnodup),
    lookup_eq_some_iff hnodup, h.mem_iff]

/-- The paths of a store are those of its files. -/
theorem mem_paths_ofEntries {files : List (String × String)} :
    path ∈ (ofEntries files).entries.map Prod.fst ↔ path ∈ files.map Prod.fst := by
  have hnone : path ∉ (ofEntries files).entries.map Prod.fst ↔ path ∉ files.map Prod.fst := by
    rw [← lookup_eq_none_iff, ← get?, get?_ofEntries_eq_none, List.mem_map, not_exists]
    exact forall_congr' fun f => by rw [not_and]
  exact not_iff_not.1 hnone

/-- A store has one file for each path. -/
theorem paths_ofEntries_perm (files : List (String × String)) :
    ((ofEntries files).entries.map Prod.fst).Perm (files.map Prod.fst).dedup := by
  refine (List.perm_ext_iff_of_nodup (nodup_of_ordered (ofEntries_ordered files))
    (List.nodup_dedup _)).2 fun path => ?_
  rw [List.mem_dedup, mem_paths_ofEntries]

theorem size_ofEntries (files : List (String × String)) :
    (ofEntries files).size = (files.map Prod.fst).dedup.length := by
  rw [size, ← (paths_ofEntries_perm files).length_eq, List.length_map]

theorem isEmpty_ofEntries {files : List (String × String)} :
    (ofEntries files).isEmpty = true ↔ files = [] := by
  rw [isEmpty, List.isEmpty_iff_length_eq_zero, ← size, size_ofEntries, List.length_eq_zero_iff,
    List.dedup_eq_nil, List.map_eq_nil_iff]

/-! ### Stores as a whole -/

/-- **A store tells the last file of each path.**  What is looked up is the content of the last
file whose path is exactly the one asked for, and there is nothing if no file has this path;
`contains` says which is the case.  The size is the number of the paths, and only the store of no
files is empty.  The listing has every path once, with the content that is looked up, and goes up
strictly in the order of the bytes of the paths.  All this does not depend on how the files of the
store are arranged, and the listing is the same for every order of the files in which those of each
path follow each other as before. -/
theorem ofEntries_observed (files : List (String × String)) :
    (∀ path content, (ofEntries files).get? path = some content ↔
      ∃ i : Fin files.length, files[i] = (path, content) ∧ ∀ j, i < j → files[j].1 ≠ path) ∧
    (∀ path, (ofEntries files).get? path = none ↔ ∀ f ∈ files, f.1 ≠ path) ∧
    (∀ path, (ofEntries files).shared? path = (ofEntries files).get? path) ∧
    (∀ path, (ofEntries files).contains path = true ↔
      ∃ content, (ofEntries files).get? path = some content) ∧
    (ofEntries files).size = (files.map Prod.fst).dedup.length ∧
    ((ofEntries files).isEmpty = true ↔ files = []) ∧
    (∀ path, ((ofEntries files).listing.map Prod.fst).count path =
      if path ∈ files.map Prod.fst then 1 else 0) ∧
    (∀ path content, (path, content) ∈ (ofEntries files).listing ↔
      (ofEntries files).get? path = some content) ∧
    ((ofEntries files).listing.Pairwise fun a b =>
      a.1.toUTF8.data.toList < b.1.toUTF8.data.toList) ∧
    (∀ s : Store, s.entries.Perm (ofEntries files).entries →
      (∀ path, s.get? path = (ofEntries files).get? path ∧
        s.shared? path = (ofEntries files).shared? path ∧
        s.contains path = (ofEntries files).contains path) ∧
      s.size = (ofEntries files).size ∧ s.isEmpty = (ofEntries files).isEmpty ∧
      s.listing = (ofEntries files).listing) ∧
    ∀ others, Reordering files others → (ofEntries others).listing = (ofEntries files).listing := by
  have hordered := ofEntries_ordered files
  have hnodup := nodup_of_ordered hordered
  have hlisting : (ofEntries files).listing = (ofEntries files).entries :=
    listing_of_perm hordered (.refl _)
  refine ⟨fun _ _ => get?_ofEntries_eq_some, fun _ => get?_ofEntries_eq_none, fun _ => rfl,
    fun _ => Option.isSome_iff_exists, size_ofEntries files, isEmpty_ofEntries, fun path => ?_,
    fun path content => ?_, ?_, fun s hs => ?_, fun others r => ?_⟩
  · rw [hlisting, hnodup.count]
    simp only [mem_paths_ofEntries]
  · rw [hlisting, get?, lookup_eq_some_iff hnodup]
  · rw [hlisting]
    exact hordered.imp Bytes.toUTF8_lt_iff.2
  · have hget := get?_of_perm hordered hs
    refine ⟨fun path => ⟨hget path, hget path, congrArg Option.isSome (hget path)⟩, hs.length_eq,
      hs.isEmpty_eq, ?_⟩
    rw [hlisting, listing_of_perm hordered hs]
  · rw [ext_of_get? (ofEntries_ordered others) hordered r.get?_eq]

/-- The first two of three files the other way round; the last one has the path of the first. -/
def swapped : Reordering [("b", "1"), ("a", "2"), ("b", "3")]
    [("a", "2"), ("b", "1"), ("b", "3")] where
  place := Equiv.swap (0 : Fin 3) 1
  same := by decide
  keeps := by decide

theorem ofEntries_observed_swapped :
    let files := [("b", "1"), ("a", "2"), ("b", "3")]
    (ofEntries files).get? "b" = some "3" ∧ (ofEntries files).size = 2 ∧
      listing ⟨[("b", "3"), ("a", "2")]⟩ = (ofEntries files).listing ∧
      (ofEntries [("a", "2"), ("b", "1"), ("b", "3")]).listing = (ofEntries files).listing := by
  intro files
  obtain ⟨hget, -, -, -, hsize, -, -, -, -, harranged, hreordered⟩ := ofEntries_observed files
  refine ⟨(hget "b" "3").2 ⟨(2 : Fin 3), rfl, by decide⟩, hsize, ?_, hreordered _ swapped⟩
  have hentries : (ofEntries files).entries = [("a", "2"), ("b", "3")] := by decide +kernel
  have hperm : [("b", "3"), ("a", "2")].Perm (ofEntries files).entries :=
    hentries ▸ .swap ("a", "2") ("b", "3") []
  exact (harranged ⟨[("b", "3"), ("a", "2")]⟩ hperm).2.2.2

end Playground.Snapshot.Store
