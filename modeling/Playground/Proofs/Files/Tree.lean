import Playground.Files.Tree
import Playground.Proofs.Entries

/-!
# What a change of a tree does to its files

A tree is looked at through its files.  Putting a file in its place, or taking it away, changes
that file alone; making a folder changes none.

* `file?` — the bytes of the file under some names;
* `Distinct` — trees in which no folder has two entries of one name;
* `file?_put` — the files of a tree in which a file was put somewhere or taken away;
* `file?_put_folder` — a folder that is made hides no file and brings none;
* `Keeps` — a tree in which all folders of another are still folders, as in one that something was
  put into;
* `mem_files_iff`, `nodup_files` — the files that are listed, each of them once.
-/

namespace Playground.Files.Tree

variable {name : String} {names : List String} {es : List (String × Tree)} {t : Tree}

/-- The bytes of the file under some names. -/
def file? (t : Tree) (names : List String) : Option ByteArray :=
  match t.at? names with
  | some (file bytes) => some bytes
  | _ => none

/-- No folder of the tree has two entries of one name. -/
inductive Distinct : Tree → Prop
  | file (bytes : ByteArray) : Distinct (file bytes)
  | folder {es : List (String × Tree)} (hnames : (es.map Prod.fst).Nodup)
      (hes : ∀ e ∈ es, Distinct e.2) : Distinct (folder es)

/-! ### Looking up -/

theorem at?_append (t : Tree) (front behind : List String) :
    t.at? (front ++ behind) = (t.at? front).bind (at? behind) := by
  induction front generalizing t with
  | nil => rfl
  | cons name front ih =>
    cases t with
    | file bytes => rfl
    | folder es =>
      rw [List.cons_append, at?, at?, Option.bind_assoc]
      exact Option.bind_congr fun inner _ => ih inner

theorem file?_eq_some {bytes : ByteArray} :
    t.file? names = some bytes ↔ t.at? names = some (file bytes) := by
  unfold file?
  split
  · next h => simp [h]
  · next h => simpa using h bytes

theorem file?_cons (name : String) (names : List String) (es : List (String × Tree)) :
    (folder es).file? (name :: names) = (es.lookup name).bind (file? · names) := by
  unfold file?
  rw [at?]
  cases es.lookup name <;> rfl

/-- Without entries there are no files. -/
theorem file?_empty (names : List String) : (folder []).file? names = none := by
  cases names with
  | nil => rfl
  | cons name names => rw [file?_cons]; rfl

theorem Distinct.empty : (Tree.folder []).Distinct := .folder List.nodup_nil nofun

/-- What lies in a folder that is looked up has distinct names again. -/
theorem Distinct.of_lookup (h : (Tree.folder es).Distinct) {inner : Tree}
    (hinner : es.lookup name = some inner) : inner.Distinct := by
  cases h with
  | folder _ hes =>
    obtain ⟨front, behind, rfl, -⟩ := List.lookup_eq_some_iff.1 hinner
    exact hes (name, inner) (by simp)

theorem Distinct.of_at? (h : t.Distinct) {inner : Tree} (hinner : t.at? names = some inner) :
    inner.Distinct := by
  induction names generalizing t with
  | nil => exact Option.some.inj hinner ▸ h
  | cons name names ih =>
    cases t with
    | file bytes => cases hinner
    | folder es =>
      obtain ⟨next, hnext, hinner⟩ := Option.bind_eq_some_iff.1 hinner
      exact ih (h.of_lookup hnext) hinner

/-! ### Replacing an entry -/

theorem names_replaceEntry_subset (name : String) (value : Option Tree)
    (es : List (String × Tree)) :
    (replaceEntry name value es).map Prod.fst ⊆ name :: es.map Prod.fst := by
  induction es with
  | nil => cases value <;> simp [replaceEntry]
  | cons e es ih =>
    rw [replaceEntry]
    split
    · next heq => cases value <;> simp [heq]
    · next hne =>
      intro n hn
      obtain rfl | hn := List.mem_cons.1 hn
      · simp
      · obtain rfl | hn := List.mem_cons.1 (ih hn) <;> simp [*]

theorem nodup_replaceEntry (value : Option Tree) (hnames : (es.map Prod.fst).Nodup) :
    ((replaceEntry name value es).map Prod.fst).Nodup := by
  induction es with
  | nil => cases value <;> simp [replaceEntry]
  | cons e es ih =>
    obtain ⟨hfresh, hnames⟩ := List.nodup_cons.1 hnames
    rw [replaceEntry]
    split
    · next heq =>
      cases value with
      | none => exact hnames
      | some t => exact List.nodup_cons.2 ⟨heq ▸ hfresh, hnames⟩
    · next hne =>
      refine List.nodup_cons.2 ⟨fun hmem => ?_, ih hnames⟩
      obtain heq | hmem := List.mem_cons.1 (names_replaceEntry_subset name value es hmem)
      · exact hne heq
      · exact hfresh hmem

theorem mem_replaceEntry {value : Option Tree} {e : String × Tree}
    (he : e ∈ replaceEntry name value es) : value = some e.2 ∨ e ∈ es := by
  induction es with
  | nil => cases value <;> simp_all [replaceEntry]
  | cons d es ih =>
    rw [replaceEntry] at he
    split at he
    · obtain he | he := List.mem_append.1 he
      · cases value <;> simp_all
      · exact .inr (List.mem_cons_of_mem _ he)
    · obtain rfl | he := List.mem_cons.1 he
      · exact .inr List.mem_cons_self
      · exact (ih he).imp_right (List.mem_cons_of_mem _)

theorem lookup_replaceEntry (value : Option Tree) (hnames : (es.map Prod.fst).Nodup)
    (other : String) : (replaceEntry name value es).lookup other =
      if other = name then value else es.lookup other := by
  induction es with
  | nil => cases value <;> simp [replaceEntry, lookup_cons_ite]
  | cons e es ih =>
    obtain ⟨hfresh, hrest⟩ := List.nodup_cons.1 hnames
    obtain ⟨first, t⟩ := e
    rw [replaceEntry, lookup_cons_ite]
    by_cases heq : first = name
    · subst heq
      -- behind the entry that is replaced, its name does not come again
      have hnone : es.lookup first = none := lookup_eq_none_iff.2 hfresh
      rw [if_pos rfl]
      by_cases hother : other = first
      · subst hother
        cases value with
        | none => simp [hnone]
        | some new => simp
      · cases value <;> simp [hother, lookup_cons_ite]
    · rw [if_neg heq, lookup_cons_ite, ih hrest]
      by_cases hother : other = first
      · subst hother
        simp [heq]
      · simp [hother]

/-! ### Putting something in its place -/

theorem put_cons_cons (value : Option Tree) (name next : String) (names : List String)
    (es : List (String × Tree)) : put value (name :: next :: names) (folder es) =
      folder (replaceEntry name
        (some (put value (next :: names) ((es.lookup name).getD (folder [])))) es) := by
  rw [put]
  exact nofun

/-- What lies in an entry, if there is one, and a new folder otherwise. -/
theorem Distinct.inner (h : (Tree.folder es).Distinct) (name : String) :
    ((es.lookup name).getD (Tree.folder [])).Distinct := by
  cases hinner : es.lookup name with
  | none => exact .empty
  | some inner => exact h.of_lookup hinner

/-- Names stay distinct when something with distinct names is put somewhere. -/
theorem Distinct.put {value : Option Tree} (hvalue : ∀ v, value = some v → v.Distinct)
    (h : t.Distinct) (names : List String) : (put value names t).Distinct := by
  induction names generalizing t with
  | nil => cases value <;> simp_all [Tree.put]
  | cons name names ih =>
    cases h with
    | file bytes => cases names <;> exact .file bytes
    | folder hnames hes =>
      have hreplaced (new : Option Tree) (hnew : ∀ v, new = some v → v.Distinct) :
          (Tree.folder (replaceEntry name new _)).Distinct :=
        .folder (nodup_replaceEntry new hnames) fun e he =>
          (mem_replaceEntry he).elim (hnew e.2) (hes e)
      cases names with
      | nil => exact hreplaced value hvalue
      | cons next names =>
        refine hreplaced _ fun v hv => ?_
        cases hv
        exact ih (Distinct.inner (.folder hnames hes) name)

/-- A folder stays one when something is put into it. -/
theorem isFolder_put (value : Option Tree) (h : t.isFolder) (hnames : names ≠ []) :
    (put value names t).isFolder := by
  cases t with
  | file bytes => cases h
  | folder es =>
    match names with
    | [_] => rfl
    | _ :: _ :: _ => rfl

/-- Nothing lies within a file. -/
theorem file?_within {value : Option Tree} (hvalue : ∀ v, value = some v → v.isFolder = false)
    (name : String) (names : List String) : value.bind (file? · (name :: names)) = none := by
  match value with
  | none => rfl
  | some (.file _) => rfl
  | some (.folder _) => cases hvalue _ rfl

/-- A file is put into a folder, or taken away from there. -/
theorem file?_put_entry {value : Option Tree} (h : (Tree.folder es).Distinct)
    (hvalue : ∀ v, value = some v → v.isFolder = false)
    (hold : ∀ old, es.lookup name = some old → old.isFolder = false) (other : List String) :
    (put value [name] (folder es)).file? other =
      if other = [name] then value.bind (file? · []) else (folder es).file? other := by
  match other with
  | [] => rfl
  | n :: ns =>
    cases h with
    | folder hnames _ =>
      rw [put, file?_cons, file?_cons, lookup_replaceEntry value hnames]
      by_cases hn : n = name
      · subst hn
        cases ns with
        | nil => simp
        | cons m ns => simpa [file?_within hvalue] using (file?_within hold m ns).symm
      · simp [hn]

/-- What is put further inside is put into the folder of the first name. -/
theorem put_inside (value : Option Tree) {step : String} {inner : Tree}
    (hinner : es.lookup step = some inner) (front : List String) (name : String) :
    put value (step :: front ++ [name]) (folder es) =
      folder (replaceEntry step (some (put value (front ++ [name]) inner)) es) := by
  cases front <;> simp [put, hinner]

/-- A file that is put into a folder that exists, or taken away from there, is found as it was put,
and all other files are found as they were. -/
theorem file?_put {value : Option Tree} (h : t.Distinct) {front : List String}
    (hfront : t.at? front = some (folder es)) (hvalue : ∀ v, value = some v → v.isFolder = false)
    (hold : ∀ old, t.at? (front ++ [name]) = some old → old.isFolder = false)
    (other : List String) : (put value (front ++ [name]) t).file? other =
      if other = front ++ [name] then value.bind (file? · []) else t.file? other := by
  induction front generalizing t other with
  | nil =>
    cases hfront
    refine file?_put_entry h hvalue (fun old hlookup => hold old ?_) other
    rw [List.nil_append, at?, hlookup]
    rfl
  | cons step front ih =>
    cases t with
    | file bytes => cases hfront
    | folder entries =>
      obtain ⟨inner, hinner, hinside⟩ := Option.bind_eq_some_iff.1 hfront
      rw [put_inside value hinner]
      match other with
      | [] => rfl
      | n :: ns =>
        have hdistinct := h.of_lookup hinner
        cases h with
        | folder hnames _ =>
          rw [file?_cons, file?_cons, lookup_replaceEntry _ hnames]
          by_cases hn : n = step
          · -- the same holds further inside
            subst hn
            have hrest := ih hdistinct hinside
              (fun old hat => hold old (by rw [List.cons_append, at?, hinner]; exact hat)) ns
            simpa [hinner] using hrest
          · simp [hn]

/-- A folder that is made where nothing is leaves all files as they are. -/
theorem file?_put_folder (h : t.Distinct) (hnone : t.at? names = none) (other : List String) :
    (put (some (folder [])) names t).file? other = t.file? other := by
  induction names generalizing t other with
  | nil => cases hnone
  | cons name names ih =>
    cases h with
    | file bytes => cases names <;> rfl
    | @folder entries hnames hes =>
      match names, other with
      | [], [] => rfl
      | _ :: _, [] => rfl
      | [], n :: ns =>
        rw [put, file?_cons, file?_cons, lookup_replaceEntry _ hnames]
        by_cases hn : n = name
        · subst hn
          have hentry : entries.lookup n = none := by simpa [at?] using hnone
          simp [hentry, file?_empty]
        · simp [hn]
      | next :: names, n :: ns =>
        rw [put_cons_cons, file?_cons, file?_cons, lookup_replaceEntry _ hnames]
        by_cases hn : n = name
        · subst hn
          -- a folder on the way may be missing: then it is made, and holds no file
          cases hentry : entries.lookup n with
          | none =>
            have hkept := ih .empty rfl ns
            simpa [file?_empty] using hkept
          | some inner =>
            rw [at?, hentry] at hnone
            simpa using ih (Distinct.of_lookup (.folder hnames hes) hentry) hnone ns
        · simp [hn]

/-! ### Folders that stay -/

/-- All folders of one tree are folders of another. -/
def Keeps (t u : Tree) : Prop :=
  ∀ names es, t.at? names = some (folder es) → ∃ fs, u.at? names = some (folder fs)

theorem Keeps.refl (t : Tree) : t.Keeps t := fun _ es h => ⟨es, h⟩

theorem Keeps.trans {t u v : Tree} (h : t.Keeps u) (k : u.Keeps v) : t.Keeps v := by
  intro names es hes
  obtain ⟨fs, hfs⟩ := h names es hes
  exact k names fs hfs

/-- A folder keeps the others if an entry of it is replaced in which nothing but folders that stay
was found. -/
theorem keeps_replaceEntry {value : Option Tree} (hnames : (es.map Prod.fst).Nodup)
    (hvalue : ∀ old, es.lookup name = some old → ∀ names fs, old.at? names = some (folder fs) →
      ∃ gs, value.bind (at? names) = some (folder gs)) :
    (folder es).Keeps (folder (replaceEntry name value es)) := by
  intro names fs hfs
  match names with
  | [] => exact ⟨_, rfl⟩
  | n :: ns =>
    rw [at?] at hfs ⊢
    rw [lookup_replaceEntry value hnames]
    by_cases hn : n = name
    · subst hn
      obtain ⟨old, hold, hinside⟩ := Option.bind_eq_some_iff.1 hfs
      rw [if_pos rfl]
      exact hvalue old hold ns fs hinside
    · rw [if_neg hn]
      exact ⟨fs, hfs⟩

/-- Nothing that is put where no folder is takes a folder away. -/
theorem keeps_put (value : Option Tree) (h : t.Distinct)
    (hold : ∀ old, t.at? names = some old → old.isFolder = false) (hnames : names ≠ []) :
    t.Keeps (put value names t) := by
  induction names generalizing t with
  | nil => exact absurd rfl hnames
  | cons name names ih =>
    cases h with
    | file bytes => cases names <;> exact .refl _
    | @folder es hnodup hes =>
      cases names with
      | nil =>
        refine keeps_replaceEntry hnodup fun old hlookup inside fs hfs => ?_
        -- what is replaced is no folder, so nothing lies in it
        have hfile := hold old (by rw [at?, hlookup]; rfl)
        match old, inside with
        | .file _, [] => cases hfs
        | .file _, _ :: _ => cases hfs
        | .folder _, _ => cases hfile
      | cons next names =>
        rw [put_cons_cons]
        refine keeps_replaceEntry hnodup fun old hlookup inside fs hfs => ?_
        rw [hlookup]
        refine ih (Distinct.of_lookup (.folder hnodup hes) hlookup) (fun v hv => ?_)
          (List.cons_ne_nil next names) inside fs hfs
        exact hold v (by rw [at?, hlookup]; exact hv)

/-! ### The files that are listed -/

theorem mem_filesOfEntries {f : List String × ByteArray} :
    f ∈ filesOfEntries es ↔ ∃ e ∈ es, ∃ g ∈ e.2.files, f = (e.1 :: g.1, g.2) := by
  induction es with
  | nil => simp [filesOfEntries]
  | cons e es ih =>
    obtain ⟨name, t⟩ := e
    rw [filesOfEntries, List.mem_append, ih]
    simp [eq_comm]

/-- The files that are listed are those that are found. -/
theorem mem_files_iff (h : t.Distinct) {bytes : ByteArray} :
    (names, bytes) ∈ t.files ↔ t.file? names = some bytes := by
  induction h generalizing names with
  | file content =>
    cases names <;> simp [files, file?, at?, eq_comm]
  | @folder es hnames hes ih =>
    rw [files, mem_filesOfEntries]
    cases names with
    | nil => simp [file?, at?]
    | cons name names =>
      rw [file?_cons, Option.bind_eq_some_iff]
      constructor
      · rintro ⟨e, he, ⟨inside, content⟩, hg, heq⟩
        cases heq
        exact ⟨e.2, (lookup_eq_some_iff hnames).2 he, (ih e he).1 hg⟩
      · rintro ⟨inner, hinner, hfile⟩
        have he := (lookup_eq_some_iff hnames).1 hinner
        exact ⟨_, he, _, (ih _ he).2 hfile, rfl⟩

/-- No file is listed twice. -/
theorem nodup_files (h : t.Distinct) : (t.files.map Prod.fst).Nodup := by
  induction h with
  | file content => simp [files]
  | @folder es hnames hes ih =>
    rw [files]
    induction es with
    | nil => exact List.nodup_nil
    | cons e es ihes =>
      obtain ⟨name, t⟩ := e
      obtain ⟨hfresh, hrest⟩ := List.nodup_cons.1 hnames
      obtain ⟨ht, hts⟩ := List.forall_mem_cons.1 ih
      rw [filesOfEntries, List.map_append, List.map_map]
      refine List.nodup_append.2 ⟨?_, ihes hrest (List.forall_mem_cons.1 hes).2 hts, ?_⟩
      · -- the names of one entry differ where those of its tree differ
        have heq : (Prod.fst ∘ fun f : List String × ByteArray => (name :: f.1, f.2)) =
            List.cons name ∘ Prod.fst := rfl
        rw [heq, ← List.map_map]
        exact List.Pairwise.map _ (fun _ _ hne hcons => hne (List.tail_eq_of_cons_eq hcons)) ht
      · -- and those of different entries start differently
        intro a ha b hb hab
        obtain ⟨f, -, rfl⟩ := List.mem_map.1 ha
        obtain ⟨g, hg, rfl⟩ := List.mem_map.1 hb
        obtain ⟨e, he, inside, -, rfl⟩ := mem_filesOfEntries.1 hg
        exact hfresh (List.mem_map.2 ⟨e, he, (List.head_eq_of_cons_eq hab).symm⟩)

end Playground.Files.Tree
