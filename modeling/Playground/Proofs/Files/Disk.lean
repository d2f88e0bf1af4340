import Playground.Proofs.Bytes
import Playground.Proofs.Files.Path
import Playground.Proofs.Files.Tree

/-!
# What the operations of a disk do to its files

Every path has a place in the tree of a disk, which its parts give.  An operation that succeeds
changes the files at the places of its paths, in the way it says, and no others.

* `place?` — where a path leads, whether or not anything is there;
* `Proper` — disks whose root is a folder, with distinct names;
* `KeepsBut` — a disk that holds the files of another, except at some places;
* `makeFolder_ok`, `write_ok`, `removeFile_ok`, `rename_ok` — the operations;
* `content_writeText` — a text that was written is read back;
* `content_makeFolder` — making folders changes no text.
-/

namespace Playground.Files.Disk

open Playground.Files.Tree

/-! ### Places -/

/-- Where parts lead, given the names of the folder that was reached, last one first. -/
def walk : List String → List String → Option (List String)
  | reached, [] => some reached.reverse
  | reached, part :: parts =>
    if part = ".." then
      match reached with
      | [] => none
      | _ :: up => walk up parts
    else walk (part :: reached) parts

/-- The names of what a path leads to, by its parts alone. -/
def place? (disk : Disk) (path : String) : Option (List String) :=
  (disk.inner? path).bind (walk [])

/-- The bytes of the file at the place of a path. -/
def file? (disk : Disk) (path : String) : Option ByteArray :=
  (disk.place? path).bind disk.tree.file?

/-- The root is a folder, and no folder has two entries of one name. -/
structure Proper (disk : Disk) : Prop where
  isFolder : disk.tree.isFolder
  distinct : disk.tree.Distinct

variable {disk d : Disk} {path : String} {names : List String}

/-- What is reached by following a path is where its parts lead. -/
theorem walk_of_follow {reached parts : List String} (h : disk.follow reached parts = .ok names) :
    walk reached parts = some names := by
  induction parts generalizing reached with
  | nil => exact congrArg some (Except.ok.inj h)
  | cons part parts ih =>
    unfold follow at h
    unfold walk
    split at h
    · cases h
    · cases h
    · split at h
      · next hup =>
        rw [if_pos hup]
        cases reached with
        | nil => cases h
        | cons last up => exact ih h
      · next hdown =>
        rw [if_neg hdown]
        exact ih h

/-- What lies under some names lies in folders. -/
theorem at?_front {t : Tree} {front : List String} {name : String} {inner : Tree}
    (h : t.at? (front ++ [name]) = some inner) : ∃ es, t.at? front = some (.folder es) := by
  rw [at?_append] at h
  obtain ⟨folder, hfolder, hinner⟩ := Option.bind_eq_some_iff.1 h
  cases folder with
  | file bytes => cases hinner
  | folder es => exact ⟨es, hfolder⟩

/-- Following a path leads to the root or into a folder that exists. -/
theorem folder_of_follow {reached parts : List String}
    (hreached : ∀ last up, reached = last :: up →
      ∃ es, disk.tree.at? up.reverse = some (.folder es))
    (h : disk.follow reached parts = .ok names) :
    names = [] ∨ ∃ front name es, names = front ++ [name] ∧
      disk.tree.at? front = some (.folder es) := by
  induction parts generalizing reached with
  | nil =>
    obtain rfl := Except.ok.inj h
    cases reached with
    | nil => exact .inl rfl
    | cons last up =>
      obtain ⟨es, hes⟩ := hreached last up rfl
      exact .inr ⟨up.reverse, last, es, List.reverse_cons, hes⟩
  | cons part parts ih =>
    unfold follow at h
    split at h
    · cases h
    · cases h
    · next es hes =>
      split at h
      · cases reached with
        | nil => cases h
        | cons last up =>
          refine ih (fun last' up' heq => ?_) h
          -- the folder that is left lies in one, so this one does
          obtain ⟨es', hes'⟩ := hreached last up rfl
          rw [heq, List.reverse_cons] at hes'
          exact at?_front hes'
      · refine ih (fun last up heq => ?_) h
        obtain ⟨-, rfl⟩ := List.cons_eq_cons.1 heq
        exact ⟨es, hes⟩

/-- A path that can be followed leads to its place, which is the root or lies in a folder. -/
theorem place_of_locate (h : disk.locate path = .ok names) :
    disk.place? path = some names ∧ (names = [] ∨ ∃ front name es, names = front ++ [name] ∧
      disk.tree.at? front = some (.folder es)) := by
  unfold locate at h
  unfold place?
  cases hinner : disk.inner? path with
  | none => rw [hinner] at h; cases h
  | some parts =>
    rw [hinner] at h
    exact ⟨walk_of_follow h, folder_of_follow (fun _ _ heq => by cases heq) h⟩

theorem bind_eq_ok {α β : Type} {first : Except IoFault α} {next : α → Except IoFault β} {r : β}
    (h : first >>= next = .ok r) : ∃ a, first = .ok a ∧ next a = .ok r := by
  cases first with
  | error fault => cases h
  | ok a => exact ⟨a, rfl, h⟩

/-- What is found under a path lies where the path leads. -/
theorem find_eq_ok {t : Tree} : disk.find path = .ok t ↔ path.isEmpty = false ∧
    ∃ names, disk.locate path = .ok names ∧ disk.tree.at? names = some t := by
  unfold find
  cases hpath : path.isEmpty with
  | true =>
    constructor
    · intro h
      cases h
    · rintro ⟨h, -⟩
      cases h
  | false =>
    constructor
    · intro h
      obtain ⟨names, hnames, h⟩ := bind_eq_ok h
      refine ⟨rfl, names, hnames, ?_⟩
      split at h
      · next hat => exact (Except.ok.inj h) ▸ hat
      · cases h
    · rintro ⟨-, names, hnames, hat⟩
      simp only [Bool.false_eq_true, if_false, hnames, hat, bind, Except.bind]
      rfl

/-! ### Places of names -/

theorem walk_append (reached parts : List String) {name : String} (hname : name ≠ "..") :
    walk reached (parts ++ [name]) = (walk reached parts).map (· ++ [name]) := by
  induction parts generalizing reached with
  | nil => simp [walk, hname]
  | cons part parts ih =>
    rw [List.cons_append]
    unfold walk
    split
    · cases reached with
      | nil => rfl
      | cons last up => exact ih up
    · exact ih _

/-- A path with a plain name at its end leads to something of this name, unless it is the path of
the working directory. -/
theorem place?_last {name : String} (hname : PlainName name)
    (hlast : (components path).getLast? = some name) (h : disk.place? path = some names) :
    names.getLast? = some name ∨ names = [] ∧ components disk.home = components path := by
  obtain ⟨parts, hinner, hwalk⟩ := Option.bind_eq_some_iff.1 h
  have hstep (front : List String) (hparts : parts = (front ++ [name]).filter (· ≠ ".")) :
      names.getLast? = some name := by
    rw [hparts, List.filter_append, List.filter_cons_of_pos (by simpa using hname.ne_dot),
      List.filter_nil, walk_append _ _ hname.up, Option.map_eq_some_iff] at hwalk
    obtain ⟨front, -, rfl⟩ := hwalk
    exact List.getLast?_concat
  obtain ⟨front, hfront⟩ := List.getLast?_eq_some_iff.1 hlast
  unfold inner? at hinner
  split at hinner
  · next rest hbelow =>
    obtain ⟨⟨behind, hbehind⟩, hsteps⟩ := below?_steps hbelow
    rw [← hbehind, List.drop_left] at hsteps
    obtain rfl := Option.some.inj hinner
    obtain rfl | ⟨init, last, rfl⟩ := List.eq_nil_or_concat' behind
    · -- the path is that of the working directory
      rw [show (components rest).filter _ = [] from hsteps] at hwalk
      rw [List.append_nil] at hbehind
      exact .inr ⟨(Option.some.inj hwalk).symm, hbehind⟩
    · obtain ⟨-, hsame⟩ : _ ∧ [last] = [name] := List.append_inj'
        (by rw [List.append_assoc, hbehind, hfront] : (components disk.home ++ init) ++ [last] = _)
        rfl
      exact .inl (hstep init (hsame ▸ hsteps))
  · split at hinner
    · cases hinner
    · exact .inl (hstep front (hfront ▸ (Option.some.inj hinner).symm))

/-- Different names that are joined to one path lead to different places. -/
theorem place?_join_ne {base name other : String} (hname : PlainName name)
    (hother : PlainName other) (hne : name ≠ other)
    (h : disk.place? (join base name) = some names) :
    disk.place? (join base other) ≠ some names := by
  intro hsame
  have hlast := components_join base hname
  have hlast' := components_join base hother
  obtain hn | ⟨rfl, hhome⟩ := place?_last hname hlast h
  · obtain ho | ⟨rfl, -⟩ := place?_last hother hlast' hsame
    · exact hne (Option.some.inj (hn.symm.trans ho))
    · cases hn
  · obtain ho | ⟨-, hhome'⟩ := place?_last hother hlast' hsame
    · cases ho
    · rw [← hhome] at hlast
      rw [← hhome'] at hlast'
      exact hne (Option.some.inj (hlast.symm.trans hlast'))

/-! ### Disks that hold the same files -/

/-- A disk that is left with the files of another, except at some places. -/
structure KeepsBut (disk : Disk) (places : List (List String)) (d : Disk) : Prop where
  home : d.home = disk.home
  proper : d.Proper
  files : ∀ names, names ∉ places → d.tree.file? names = disk.tree.file? names

namespace KeepsBut

variable {e : Disk} {places others : List (List String)}

theorem refl (h : disk.Proper) (places : List (List String)) : disk.KeepsBut places disk :=
  ⟨rfl, h, fun _ _ => rfl⟩

theorem trans (hd : disk.KeepsBut places d) (he : d.KeepsBut others e)
    (hsub : others ⊆ places) : disk.KeepsBut places e where
  home := he.home.trans hd.home
  proper := he.proper
  files names hnames :=
    (he.files names fun hmem => hnames (hsub hmem)).trans (hd.files names hnames)

theorem mono (hd : disk.KeepsBut others d) (hsub : others ⊆ places) : disk.KeepsBut places d :=
  ⟨hd.home, hd.proper, fun names hnames => hd.files names fun hmem => hnames (hsub hmem)⟩

/-- Paths keep their places. -/
theorem place? (h : disk.KeepsBut places d) (path : String) : d.place? path = disk.place? path := by
  unfold Disk.place? inner?
  rw [h.home]

/-- The file of a path whose place is kept is the same. -/
theorem file? (h : disk.KeepsBut places d)
    (hpath : ∀ names, disk.place? path = some names → names ∉ places) :
    d.file? path = disk.file? path := by
  unfold Disk.file?
  rw [h.place?]
  exact Option.bind_congr fun names hnames => h.files names (hpath names hnames)

end KeepsBut

/-- A disk that is left with a content, or nothing, at the place of a path, and with the files of
another everywhere else. -/
structure Sets (disk : Disk) (path : String) (content : Option ByteArray) (d : Disk)
    (names : List String) : Prop where
  place : disk.place? path = some names
  content : d.tree.file? names = content
  keeps : disk.KeepsBut [names] d

theorem Sets.file? {content : Option ByteArray} (h : disk.Sets path content d names) :
    d.file? path = content := by
  rw [Disk.file?, h.keeps.place?, h.place]
  exact h.content

/-! ### Operations -/

/-- A file that is put where a path leads, or taken away from there. -/
theorem sets_put (hproper : disk.Proper) (hlocate : disk.locate path = .ok names)
    (value : Option Tree) (hvalue : ∀ v, value = some v → v.isFolder = false)
    (hold : ∀ old, disk.tree.at? names = some old → old.isFolder = false) :
    disk.Sets path (value.bind (Tree.file? · []))
      { disk with tree := put value names disk.tree } names := by
  obtain ⟨hplace, rfl | ⟨front, name, es, rfl, hfront⟩⟩ := place_of_locate hlocate
  · -- the root is a folder
    exact absurd (hold disk.tree rfl) (by rw [hproper.isFolder]; exact Bool.noConfusion)
  · have hfiles := file?_put hproper.distinct hfront hvalue hold
    refine ⟨hplace, ?_, rfl, ⟨?_, ?_⟩, fun other hother => ?_⟩
    · rw [hfiles, if_pos rfl]
    · exact isFolder_put value hproper.isFolder (by simp)
    · refine hproper.distinct.put (fun v hv => ?_) _
      match v with
      | .file bytes => exact .file bytes
      | .folder es => cases hvalue _ hv
    · rw [hfiles, if_neg fun heq => hother (List.mem_singleton.2 heq)]

/-- A file is written where its path leads, unless a folder is there. -/
theorem write_eq_ok {bytes : ByteArray} (h : disk.write path bytes = .ok d) :
    path.isEmpty = false ∧ ∃ names, disk.locate path = .ok names ∧
      (∀ old, disk.tree.at? names = some old → old.isFolder = false) ∧
      d = { disk with tree := put (some (.file bytes)) names disk.tree } := by
  unfold write at h
  cases hpath : path.isEmpty with
  | true =>
    rw [hpath] at h
    cases h
  | false =>
    rw [hpath] at h
    obtain ⟨names, hlocate, h⟩ := bind_eq_ok h
    split at h
    · cases h
    · next hat =>
      refine ⟨rfl, names, hlocate, fun old hold => ?_, (Except.ok.inj h).symm⟩
      match old with
      | .file content => rfl
      | .folder es => exact absurd hold (hat es)

/-- A file that is written has the content, and no other file changes. -/
theorem write_ok {bytes : ByteArray} (hproper : disk.Proper) (h : disk.write path bytes = .ok d) :
    ∃ names, disk.Sets path (some bytes) d names := by
  obtain ⟨-, names, hlocate, hold, rfl⟩ := write_eq_ok h
  refine ⟨names, sets_put hproper hlocate (some (.file bytes)) (fun v hv => ?_) hold⟩
  cases hv
  rfl

/-- A file that is removed is gone, and no other file changes. -/
theorem removeFile_ok (hproper : disk.Proper) (h : disk.removeFile path = .ok d) :
    ∃ names, disk.Sets path none d names := by
  unfold removeFile at h
  obtain ⟨t, hfind, h⟩ := bind_eq_ok h
  obtain ⟨-, names, hlocate, hat⟩ := find_eq_ok.1 hfind
  cases t with
  | folder es => cases h
  | file bytes =>
    rw [hlocate] at h
    obtain rfl := Except.ok.inj h
    refine ⟨names, sets_put hproper hlocate none nofun fun old hold => ?_⟩
    obtain rfl := Option.some.inj (hat.symm.trans hold)
    rfl

/-- Without parts that lead upwards, what is there can be reached. -/
theorem follow_eq_ok {reached parts : List String} {t : Tree} (hup : ".." ∉ parts)
    (h : disk.tree.at? (reached.reverse ++ parts) = some t) :
    disk.follow reached parts = .ok (reached.reverse ++ parts) := by
  induction parts generalizing reached with
  | nil => rw [follow, List.append_nil]
  | cons part parts ih =>
    rw [List.mem_cons, not_or] at hup
    have hfront := h
    rw [at?_append] at hfront
    obtain ⟨folder, hfolder, hinner⟩ := Option.bind_eq_some_iff.1 hfront
    cases folder with
    | file bytes => cases hinner
    | folder es =>
      unfold follow
      rw [hfolder]
      dsimp only
      rw [if_neg (Ne.symm hup.1), ih hup.2 (by simpa using h)]
      simp

theorem walk_eq {reached parts : List String} (hup : ".." ∉ parts) :
    walk reached parts = some (reached.reverse ++ parts) := by
  induction parts generalizing reached with
  | nil => simp [walk]
  | cons part parts ih =>
    rw [List.mem_cons, not_or] at hup
    unfold walk
    rw [if_neg (Ne.symm hup.1), ih hup.2]
    simp

/-- The parts that a path has on a disk are some of its own. -/
theorem mem_components_of_inner? {parts : List String} (h : disk.inner? path = some parts)
    {part : String} (hpart : part ∈ parts) : part ∈ components path := by
  unfold inner? at h
  split at h
  · next rest hbelow =>
    obtain rfl := Option.some.inj h
    rw [show (components rest).filter _ = _ from (below?_steps hbelow).2] at hpart
    exact List.mem_of_mem_drop (List.mem_filter.1 hpart).1
  · split at h
    · cases h
    · obtain rfl := Option.some.inj h
      exact (List.mem_filter.1 hpart).1

/-- A file that is said not to be there is not, if no part of its path leads upwards. -/
theorem removeFile_notFound (hpath : path.isEmpty = false) (hup : ".." ∉ components path)
    (h : disk.removeFile path = .error .notFound) : disk.file? path = none := by
  cases hfile : disk.file? path with
  | none => rfl
  | some bytes =>
    obtain ⟨names, hplace, hbytes⟩ := Option.bind_eq_some_iff.1 hfile
    obtain ⟨parts, hinner, hwalk⟩ := Option.bind_eq_some_iff.1 hplace
    have hparts : ".." ∉ parts := fun hmem => hup (mem_components_of_inner? hinner hmem)
    rw [walk_eq hparts] at hwalk
    obtain rfl := Option.some.inj hwalk
    have hat : disk.tree.at? parts = some (.file bytes) := file?_eq_some.1 hbytes
    have hlocate : disk.locate path = .ok parts := by
      rw [locate, hinner]
      exact follow_eq_ok hparts hat
    rw [removeFile, find_eq_ok.2 ⟨hpath, parts, hlocate, hat⟩, hlocate] at h
    cases h

/-- The bytes that are read are those of the file at the place of the path. -/
theorem bytes_eq_ok {bytes : ByteArray} (h : disk.bytes path = .ok bytes) :
    ∃ names, disk.place? path = some names ∧ disk.tree.file? names = some bytes := by
  unfold Disk.bytes at h
  obtain ⟨t, hfind, h⟩ := bind_eq_ok h
  obtain ⟨-, names, hlocate, hat⟩ := find_eq_ok.1 hfind
  cases t with
  | folder es => cases h
  | file content =>
    obtain rfl := Except.ok.inj h
    exact ⟨names, (place_of_locate hlocate).1, file?_eq_some.2 hat⟩

/-- A file that is moved takes the place of the other, and no third file changes. -/
theorem rename_ok {source target : String} (hproper : disk.Proper)
    (hne : disk.place? source ≠ disk.place? target) (h : disk.rename source target = .ok d) :
    ∃ old names, disk.place? source = some old ∧ disk.place? target = some names ∧
      d.tree.file? names = disk.tree.file? old ∧ disk.KeepsBut [old, names] d := by
  unfold rename at h
  obtain ⟨bytes, hbytes, h⟩ := bind_eq_ok h
  obtain ⟨moved, hmoved, h⟩ := bind_eq_ok h
  obtain ⟨old, hold, hcontent⟩ := bytes_eq_ok hbytes
  obtain ⟨names, hwritten⟩ := write_ok hproper hmoved
  obtain ⟨old', hremoved⟩ := removeFile_ok hwritten.keeps.proper h
  obtain rfl : old' = old := Option.some.inj
    (hremoved.place.symm.trans ((hwritten.keeps.place? source).trans hold))
  have hnames : names ∉ [old'] := fun hmem => hne (by
    rw [hold, hwritten.place, List.mem_singleton.1 hmem])
  refine ⟨old', names, hold, hwritten.place, ?_, ?_⟩
  · rw [hremoved.keeps.files names hnames, hwritten.content, hcontent]
  · exact (hwritten.keeps.mono (by simp)).trans hremoved.keeps (by simp)

/-- Making the folders of a path changes no file of a tree, and takes no folder away. -/
theorem makeFolders_ok {t u : Tree} {reached parts : List String} (hfolder : t.isFolder)
    (hdistinct : t.Distinct) (h : t.makeFolders reached parts = .ok u) :
    u.isFolder ∧ u.Distinct ∧ t.Keeps u ∧ ∀ names, u.file? names = t.file? names := by
  induction parts generalizing t reached with
  | nil =>
    obtain rfl := Except.ok.inj h
    exact ⟨hfolder, hdistinct, .refl t, fun _ => rfl⟩
  | cons part parts ih =>
    unfold makeFolders at h
    split at h
    · exact ih hfolder hdistinct h
    · dsimp only at h
      split at h
      · exact ih hfolder hdistinct h
      · cases h
      · next hnone =>
        -- a folder that was not there is made, and the others below it
        obtain ⟨hfolders, hdistincts, hkeeps, hfiles⟩ := ih
          (isFolder_put _ hfolder (by simp))
          (hdistinct.put (fun v hv => Option.some.inj hv ▸ .empty) _) h
        have hput : t.Keeps (put (some (.folder [])) (part :: reached).reverse t) :=
          keeps_put _ hdistinct (fun old hold => by rw [hnone] at hold; cases hold) (by simp)
        exact ⟨hfolders, hdistincts, hput.trans hkeeps, fun names =>
          (hfiles names).trans (file?_put_folder hdistinct hnone names)⟩

/-- Making folders changes no file, and takes no folder away. -/
theorem makeFolder_ok (hproper : disk.Proper) (h : disk.makeFolder path = .ok d) :
    disk.KeepsBut [] d ∧ disk.tree.Keeps d.tree := by
  unfold makeFolder at h
  split at h
  · exact Except.ok.inj h ▸ ⟨.refl hproper [], .refl _⟩
  · split at h
    · exact Except.ok.inj h ▸ ⟨.refl hproper [], .refl _⟩
    · next parts hparts =>
      cases hmade : disk.tree.makeFolders [] parts with
      | error fault =>
        rw [hmade] at h
        cases h
      | ok tree =>
        rw [hmade] at h
        obtain rfl := Except.ok.inj h
        obtain ⟨hfolder, hdistinct, hkeeps, hfiles⟩ :=
          makeFolders_ok hproper.isFolder hproper.distinct hmade
        exact ⟨⟨rfl, ⟨hfolder, hdistinct⟩, fun names _ => hfiles names⟩, hkeeps⟩

/-! ### Texts that are read -/

/-- The folders that parts lead through are found again where they are kept. -/
theorem follow_keeps {reached parts : List String} (hkeeps : disk.tree.Keeps d.tree)
    (h : disk.follow reached parts = .ok names) : d.follow reached parts = .ok names := by
  induction parts generalizing reached with
  | nil => exact h
  | cons part parts ih =>
    unfold follow at h ⊢
    split at h
    · cases h
    · cases h
    · next es hes =>
      obtain ⟨fs, hfs⟩ := hkeeps _ es hes
      rw [hfs]
      split at h
      · next hup =>
        dsimp only
        rw [if_pos hup]
        cases reached with
        | nil => cases h
        | cons last up => exact ih h
      · next hdown =>
        dsimp only
        rw [if_neg hdown]
        exact ih h

theorem locate_keeps (hkeeps : disk.tree.Keeps d.tree) (hhome : d.home = disk.home)
    (h : disk.locate path = .ok names) : d.locate path = .ok names := by
  unfold locate inner? at h ⊢
  rw [hhome]
  split at h
  · cases h
  · exact follow_keeps hkeeps h

/-- The text of a file is what the bytes at its place spell. -/
theorem content_eq_ok {text : String} : disk.content path = .ok text ↔ path.isEmpty = false ∧
    ∃ names bytes, disk.locate path = .ok names ∧ disk.tree.file? names = some bytes ∧
      String.fromUTF8? bytes = some text := by
  constructor
  · intro h
    obtain ⟨bytes, hbytes, h⟩ := bind_eq_ok h
    obtain ⟨t, hfind, hbytes⟩ := bind_eq_ok hbytes
    obtain ⟨hpath, names, hlocate, hat⟩ := find_eq_ok.1 hfind
    cases t with
    | folder es => cases hbytes
    | file content =>
      obtain rfl := Except.ok.inj hbytes
      refine ⟨hpath, names, content, hlocate, file?_eq_some.2 hat, ?_⟩
      split at h
      · next hread => exact Except.ok.inj h ▸ hread
      · cases h
  · rintro ⟨hpath, names, bytes, hlocate, hfile, hread⟩
    have hfind := find_eq_ok.2 ⟨hpath, names, hlocate, file?_eq_some.1 hfile⟩
    unfold content Disk.bytes
    rw [hfind]
    simp only [bind, Except.bind, pure, Except.pure, hread]

/-- A text that was written is read back. -/
theorem content_writeText {text : String} (hproper : disk.Proper)
    (h : disk.writeText path text = .ok d) : d.content path = .ok text := by
  obtain ⟨hpath, names, hlocate, hold, rfl⟩ := write_eq_ok h
  have hne : names ≠ [] := by
    rintro rfl
    have hroot := hold disk.tree rfl
    rw [hproper.isFolder] at hroot
    cases hroot
  have hset := sets_put hproper hlocate (some (.file text.toUTF8))
    (fun v hv => by cases hv; rfl) hold
  have hkeeps : disk.tree.Keeps (put (some (.file text.toUTF8)) names disk.tree) :=
    keeps_put _ hproper.distinct hold hne
  have hfound : { disk with tree := put (some (.file text.toUTF8)) names disk.tree }.locate path =
      .ok names := locate_keeps hkeeps rfl hlocate
  exact content_eq_ok.2 ⟨hpath, names, _, hfound, hset.content, Bytes.fromUTF8?_toUTF8 text⟩

/-- Texts are read as before after folders were made. -/
theorem content_makeFolder {folder text : String} (hproper : disk.Proper)
    (h : disk.makeFolder folder = .ok d) (htext : disk.content path = .ok text) :
    d.content path = .ok text := by
  obtain ⟨hkeeps, hfolders⟩ := makeFolder_ok hproper h
  obtain ⟨hpath, names, bytes, hlocate, hfile, hread⟩ := content_eq_ok.1 htext
  exact content_eq_ok.2 ⟨hpath, names, bytes, locate_keeps hfolders hkeeps.home hlocate,
    (hkeeps.files names List.not_mem_nil).trans hfile, hread⟩

end Playground.Files.Disk
