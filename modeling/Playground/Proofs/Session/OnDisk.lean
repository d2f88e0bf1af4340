import Playground.Proofs.Files.Disk
import Playground.Proofs.Session.Pass
import Playground.Session.OnDisk

/-!
# A session on a disk

The pane and the sandbox of a session on a disk are files of one folder, each written beside itself
first and then moved.  The operating system may let any step of this fail, at any time.  Still, the
two files are those of an abstract pane and an abstract sandbox: they change with the errands that
succeed, and with nothing else.  The fragment of the location is not a file, and is kept even if the
permalink cannot be written.

* `FileLayout.holdsFragment` — the fragment is the one that was set last, whatever happens to files;
* `FileOps.Reliable` — what the operations of a system promise, also where they fail;
* `writeWhole_cases`, `clear_cases` — how replacing and removing a file may end;
* `Shown` — an abstract pane and an abstract sandbox;
* `Attempt`, `FileLayout.run` — errands on systems that may fail differently each time;
* `Attempt.request_keeps`, `Attempt.request_shown` — what one attempt changes and what it leaves;
* `files_show_taken` — the files after any attempts.
-/

namespace Playground.Session

open Files

/-! ### The fragment -/

namespace DiskWorld

/-- What every step keeps, a list of steps keeps, also one that ends in a failure. -/
theorem reply_steps_keeps {α : Type} (view : DiskWorld → α) {list : List Step}
    (h : ∀ step ∈ list, ∀ w, view (DiskWorld.reply (step w)).2 = view w) (w : DiskWorld) :
    view (DiskWorld.reply (DiskWorld.steps list w)).2 = view w := by
  induction list generalizing w with
  | nil => rfl
  | cons step rest ih =>
    have hfirst := h step List.mem_cons_self w
    unfold DiskWorld.steps
    cases hstep : step w with
    | error e =>
      rw [hstep] at hfirst
      exact hfirst
    | ok w' =>
      rw [hstep] at hfirst
      exact (ih (fun s hs => h s (List.mem_cons_of_mem _ hs)) w').trans hfirst

/-- An operation on files keeps the fragment. -/
theorem fragment_changed (w : DiskWorld) (words : String) (r : Except (IoFault × Disk) Disk) :
    (DiskWorld.reply (w.changed words r)).2.fragment = w.fragment := by
  cases r <;> rfl

theorem fragment_makeParent (w : DiskWorld) (path : String) (ops : FileOps) :
    (DiskWorld.reply (w.makeParent path ops)).2.fragment = w.fragment := by
  unfold makeParent
  split
  · rfl
  · exact fragment_changed ..

theorem fragment_clear (w : DiskWorld) (path : String) (ops : FileOps) :
    (DiskWorld.reply (w.clear path ops)).2.fragment = w.fragment := by
  unfold clear
  split
  · rfl
  · exact fragment_changed ..

/-- Writing a whole file keeps the fragment. -/
theorem fragment_writeWhole (w : DiskWorld) (path text : String) (ops : FileOps) :
    (DiskWorld.reply (w.writeWhole path text ops)).2.fragment = w.fragment := by
  refine reply_steps_keeps fragment ?_ w
  intro step hstep v
  simp only [List.mem_cons, List.not_mem_nil, or_false] at hstep
  rcases hstep with rfl | rfl | rfl
  · exact fragment_makeParent ..
  · exact fragment_changed ..
  · exact fragment_changed ..

end DiskWorld

open DiskWorld

/-- The location of a session on a disk holds the fragment it was last given. -/
theorem FileLayout.holdsFragment (l : FileLayout) (ops : FileOps) :
    (l.surroundings ops).HoldsFragment where
  owns e h w := by
    cases e with
    | setEditor text =>
      refine reply_steps_keeps fragment ?_ w
      intro step hstep v
      simp only [List.mem_cons, List.not_mem_nil, or_false] at hstep
      rcases hstep with rfl | rfl
      · exact fragment_makeParent ..
      · exact fragment_changed ..
    | setPane text => exact fragment_writeWhole ..
    | load document => exact fragment_writeWhole ..
    | clear => exact fragment_clear ..
    | setFragment fragment => exact absurd rfl h
  shows f w _ := by
    refine reply_steps_keeps DiskWorld.fragment ?_ { w with fragment := some f }
    intro step hstep v
    obtain ⟨path, -, rfl⟩ := List.mem_map.1 hstep
    exact fragment_changed ..

/-! ### Operations that may fail -/

/-- The disk that an operation leaves, whether or not it failed. -/
def FileOps.left : Except (IoFault × Disk) Disk → Disk
  | .ok d => d
  | .error (_, d) => d

/-- What a system promises about its operations on files. -/
structure FileOps.Reliable (ops : FileOps) : Prop where
  /-- making folders changes no file -/
  makeFolder : ∀ (path : String) (disk : Disk), disk.Proper →
    disk.KeepsBut [] (left (ops.makeFolder path disk))
  /-- a text that was written is the content of its file -/
  writeText_ok : ∀ (path text : String) (disk d : Disk), disk.Proper →
    ops.writeText path text disk = .ok d → ∃ names, disk.Sets path (some text.toUTF8) d names
  /-- a write that fails may leave anything in its own file -/
  writeText_failed : ∀ (path text : String) (disk : Disk) (fault : IoFault) (d : Disk),
    disk.Proper → ops.writeText path text disk = .error (fault, d) →
      disk.KeepsBut (disk.place? path).toList d
  /-- a file that is moved takes the place of the other as a whole -/
  rename_ok : ∀ (source target : String) (disk d : Disk), disk.Proper →
    disk.place? source ≠ disk.place? target → ops.rename source target disk = .ok d →
      ∃ old names, disk.place? source = some old ∧ disk.place? target = some names ∧
        d.tree.file? names = disk.tree.file? old ∧ disk.KeepsBut [old, names] d
  rename_failed : ∀ (source target : String) (disk : Disk) (fault : IoFault) (d : Disk),
    disk.Proper → ops.rename source target disk = .error (fault, d) → disk.KeepsBut [] d
  removeFile_ok : ∀ (path : String) (disk d : Disk), disk.Proper →
    ops.removeFile path disk = .ok d → ∃ names, disk.Sets path none d names
  removeFile_failed : ∀ (path : String) (disk : Disk) (fault : IoFault) (d : Disk),
    disk.Proper → ops.removeFile path disk = .error (fault, d) → disk.KeepsBut [] d

/-- A disk keeps these promises itself. -/
theorem FileOps.ofDisk_reliable : FileOps.ofDisk.Reliable := by
  -- an operation that fails leaves the disk as it is
  have hfailed {r : Except IoFault Disk} {disk d : Disk} {fault : IoFault}
      (places : List (List String)) (hproper : disk.Proper)
      (h : r.mapError (·, disk) = .error (fault, d)) : disk.KeepsBut places d := by
    cases r with
    | ok _ => cases h
    | error _ => cases h; exact .refl hproper places
  have hok {r : Except IoFault Disk} {disk d : Disk}
      (h : r.mapError (·, disk) = .ok d) : r = .ok d := by
    cases r with
    | ok _ => exact congrArg _ (Except.ok.inj h)
    | error _ => cases h
  constructor
  case makeFolder =>
    intro path disk hproper
    show disk.KeepsBut [] (left ((disk.makeFolder path).mapError _))
    cases h : disk.makeFolder path with
    | ok d => exact (Disk.makeFolder_ok hproper h).1
    | error fault => exact .refl hproper []
  case writeText_ok => exact fun _ _ _ _ hproper h => Disk.write_ok hproper (hok h)
  case writeText_failed => exact fun _ _ _ _ _ hproper h => hfailed _ hproper h
  case rename_ok => exact fun _ _ _ _ hproper hne h => Disk.rename_ok hproper hne (hok h)
  case rename_failed => exact fun _ _ _ _ _ hproper h => hfailed _ hproper h
  case removeFile_ok => exact fun _ _ _ hproper h => Disk.removeFile_ok hproper (hok h)
  case removeFile_failed => exact fun _ _ _ _ hproper h => hfailed _ hproper h

/-! ### Steps -/

namespace DiskWorld

variable {ops : FileOps} {w : DiskWorld}

/-- An operation of a disk, which changes nothing if it fails. -/
theorem changed_ofDisk (w : DiskWorld) (words : String) (r : Except IoFault Disk) :
    w.changed words (r.mapError (·, w.disk)) = match r with
      | .ok d => .ok { w with disk := d }
      | .error fault => .error (⟨words, [fault.message]⟩, w) := by
  cases r <;> rfl

theorem changed_eq_ok {v : DiskWorld} {words : String} {r : Except IoFault Disk} :
    w.changed words (r.mapError (·, w.disk)) = .ok v ↔
      ∃ d, r = .ok d ∧ { w with disk := d } = v := by
  rw [changed_ofDisk]
  cases r <;> simp

/-- Steps that all succeed go on from the first of them. -/
theorem steps_eq_ok {v : DiskWorld} {step : Step} {rest : List Step} :
    steps (step :: rest) w = .ok v ↔ ∃ u, step w = .ok u ∧ steps rest u = .ok v := by
  rw [steps]
  cases step w <;> simp

/-- Making the folder of a file changes no file. -/
theorem makeParent_keeps (hops : ops.Reliable) (hproper : w.disk.Proper) (path : String) :
    w.disk.KeepsBut [] (reply (w.makeParent path ops)).2.disk := by
  unfold makeParent
  split
  · exact .refl hproper []
  · next folder _ =>
    have hkeeps := hops.makeFolder folder w.disk hproper
    cases hmade : ops.makeFolder folder w.disk with
    | ok d => rwa [hmade] at hkeeps
    | error e => rwa [hmade] at hkeeps

/-- A file that is written beside itself either holds the text as a whole, or is as it was; in both
cases no file but its draft has changed besides. -/
theorem writeWhole_cases (hops : ops.Reliable) (hproper : w.disk.Proper) {path : String}
    (hdraft : ∀ names, w.disk.place? (draft path) = some names →
      w.disk.place? path ≠ some names) (text : String) :
    (∃ v old names, w.writeWhole path text ops = .ok v ∧
      w.disk.place? (draft path) = some old ∧ w.disk.place? path = some names ∧
      v.disk.tree.file? names = some text.toUTF8 ∧ w.disk.KeepsBut [old, names] v.disk) ∨
    ∃ f v, w.writeWhole path text ops = .error (f, v) ∧
      w.disk.KeepsBut (w.disk.place? (draft path)).toList v.disk := by
  have hparent := makeParent_keeps hops hproper path
  -- three things may fail one after the other: the folder, the draft, and moving the draft
  cases hmade : w.makeParent path ops with
  | error e =>
    rw [hmade] at hparent
    exact .inr ⟨e.1, e.2, by simp only [writeWhole, steps, hmade],
      hparent.mono (List.nil_subset _)⟩
  | ok w₁ =>
    rw [hmade] at hparent
    change w.disk.KeepsBut [] w₁.disk at hparent
    cases hwrite : ops.writeText (draft path) text w₁.disk with
    | error e =>
      obtain ⟨fault, d⟩ := e
      have hkeeps := hops.writeText_failed _ _ _ _ _ hparent.proper hwrite
      rw [hparent.place?] at hkeeps
      exact .inr ⟨⟨"failed to write " ++ draft path, [fault.message]⟩, { w₁ with disk := d },
        by simp only [writeWhole, steps, hmade, write, hwrite, changed],
        (hparent.mono (List.nil_subset _)).trans hkeeps (List.Subset.refl _)⟩
    | ok d =>
      obtain ⟨old, hwritten⟩ := hops.writeText_ok _ _ _ _ hparent.proper hwrite
      have hold := (hparent.place? _).symm.trans hwritten.place
      have hkept : w.disk.KeepsBut [old] d :=
        (hparent.mono (List.nil_subset _)).trans hwritten.keeps (List.Subset.refl _)
      cases hmove : ops.rename (draft path) path d with
      | error e =>
        obtain ⟨fault, d'⟩ := e
        have hkeeps := hops.rename_failed _ _ _ _ _ hkept.proper hmove
        rw [hold]
        exact .inr ⟨⟨"failed to replace " ++ path, [fault.message]⟩, { w₁ with disk := d' },
          by simp only [writeWhole, steps, hmade, write, hwrite, replace, hmove, changed],
          hkept.trans hkeeps (List.nil_subset _)⟩
      | ok d' =>
        obtain ⟨old', names, hold', hnames, hcontent, hmoved⟩ := hops.rename_ok _ _ _ _
          hkept.proper (by
            rw [hkept.place?, hkept.place?, hold]
            exact (hdraft old hold).symm) hmove
        rw [hkept.place?] at hold' hnames
        obtain rfl : old' = old := Option.some.inj (hold'.symm.trans hold)
        exact .inl ⟨{ w₁ with disk := d' }, old', names,
          by simp only [writeWhole, steps, hmade, write, hwrite, replace, hmove, changed],
          hold, hnames, hcontent.trans hwritten.content,
          (hkept.mono (by simp)).trans hmoved (List.Subset.refl _)⟩

/-- A reply to writing a file beside itself tells whether the file holds the text now. -/
theorem writeWhole_file (hops : ops.Reliable) (hproper : w.disk.Proper) {path : String}
    (hdraft : ∀ names, w.disk.place? (draft path) = some names →
      w.disk.place? path ≠ some names) (text : String) :
    let answer := reply (w.writeWhole path text ops)
    w.disk.KeepsBut ([draft path, path].filterMap w.disk.place?) answer.2.disk ∧
      answer.2.disk.file? path =
        if answer.1.failure = none then some text.toUTF8 else w.disk.file? path := by
  obtain ⟨v, old, names, hresult, hold, hnames, hcontent, hkeeps⟩ | ⟨f, v, hresult, hkeeps⟩ :=
    writeWhole_cases hops hproper hdraft text
  · rw [hresult]
    refine ⟨by simpa [reply, hold, hnames] using hkeeps, ?_⟩
    show v.disk.file? path = some text.toUTF8
    rw [Disk.file?, hkeeps.place?, hnames]
    exact hcontent
  · rw [hresult]
    refine ⟨hkeeps.mono fun names hmem => ?_, ?_⟩
    · exact List.mem_filterMap.2 ⟨_, List.mem_cons_self, Option.mem_toList.1 hmem⟩
    · show v.disk.file? path = w.disk.file? path
      exact hkeeps.file? fun names hnames hmem => hdraft names (Option.mem_toList.1 hmem) hnames

/-- A file that is removed is gone, or it is said not to be there; otherwise nothing changes. -/
theorem clear_cases (hops : ops.Reliable) (hproper : w.disk.Proper) (path : String) :
    (∃ v names, w.clear path ops = .ok v ∧ w.disk.Sets path none v.disk names) ∨
    (∃ d, ops.removeFile path w.disk = .error (.notFound, d) ∧
      w.clear path ops = .ok { w with disk := d } ∧ w.disk.KeepsBut [] d) ∨
    ∃ f v, w.clear path ops = .error (f, v) ∧ w.disk.KeepsBut [] v.disk := by
  cases hremove : ops.removeFile path w.disk with
  | ok d =>
    obtain ⟨names, hset⟩ := hops.removeFile_ok _ _ _ hproper hremove
    exact .inl ⟨{ w with disk := d }, names, by simp only [clear, hremove, changed], hset⟩
  | error e =>
    obtain ⟨fault, d⟩ := e
    have hkeeps := hops.removeFile_failed _ _ _ _ hproper hremove
    by_cases hfault : fault = .notFound
    · subst hfault
      exact .inr (.inl ⟨d, rfl, by simp only [clear, hremove], hkeeps⟩)
    · refine .inr (.inr ⟨⟨"failed to clear " ++ path, [fault.message]⟩, { w with disk := d }, ?_,
        hkeeps⟩)
      unfold clear
      rw [hremove]
      cases fault <;> first | rfl | exact absurd rfl hfault

/-- A reply to removing a file tells whether the file is gone now, on a system that does not say so
while it is there. -/
theorem clear_file (hops : ops.Reliable) (hproper : w.disk.Proper) {path : String}
    (habsent : ∀ d, ops.removeFile path w.disk = .error (.notFound, d) →
      w.disk.file? path = none) :
    let answer := reply (w.clear path ops)
    w.disk.KeepsBut ([path].filterMap w.disk.place?) answer.2.disk ∧
      answer.2.disk.file? path =
        if answer.1.failure = none then none else w.disk.file? path := by
  obtain ⟨v, names, hresult, hset⟩ | ⟨d, hremove, hresult, hkeeps⟩ | ⟨f, v, hresult, hkeeps⟩ :=
    clear_cases hops hproper path
  · rw [hresult]
    exact ⟨by simpa [reply, hset.place] using hset.keeps, hset.file?⟩
  · rw [hresult]
    exact ⟨hkeeps.mono (List.nil_subset _),
      (hkeeps.file? fun _ _ => List.not_mem_nil).trans (habsent d hremove)⟩
  · rw [hresult]
    exact ⟨hkeeps.mono (List.nil_subset _), hkeeps.file? fun _ _ => List.not_mem_nil⟩

/-- The permalink is written into a file, or there is none; otherwise the file may hold anything. -/
theorem writeAll_keeps (hops : ops.Reliable) (hproper : w.disk.Proper) (file : Option String)
    (text : String) : w.disk.KeepsBut (file.toList.filterMap w.disk.place?)
      (reply (steps (file.toList.map fun path w => w.write path text ops) w)).2.disk := by
  cases file with
  | none => exact .refl hproper _
  | some path =>
    rw [show (some path).toList.filterMap w.disk.place? = (w.disk.place? path).toList from by
      cases h : w.disk.place? path <;> simp [h]]
    cases hwrite : ops.writeText path text w.disk with
    | ok d =>
      obtain ⟨names, hset⟩ := hops.writeText_ok _ _ _ _ hproper hwrite
      simpa [steps, write, hwrite, changed, reply, hset.place] using hset.keeps
    | error e =>
      have hkeeps := hops.writeText_failed _ _ _ e.1 e.2 hproper hwrite
      simpa [steps, write, hwrite, changed, reply] using hkeeps

end DiskWorld

/-! ### The folder -/

/-- The text that an errand brings into the pane. -/
def Errand.text? : Errand → Option String
  | setPane text => some text
  | _ => none

/-- What an errand makes of the sandbox: it gets another document, or none. -/
def Errand.document? : Errand → Option (Option String)
  | load document => some (some document)
  | clear => some none
  | _ => none

/-- What a pane and a sandbox hold. -/
structure Shown where
  pane : Option ByteArray
  document : Option ByteArray

/-- What they hold after an errand that succeeded. -/
def Shown.after (s : Shown) (e : Errand) : Shown where
  pane := (e.text?.map String.toUTF8).or s.pane
  document := (e.document?.map (·.map String.toUTF8)).getD s.document

/-- What is held is told by the pane and by the sandbox, each for itself. -/
theorem Shown.eq_ite {s : Shown} {e : Errand} {taken : Prop} [Decidable taken]
    {pane document : Option ByteArray}
    (hpane : pane = if taken then (s.after e).pane else s.pane)
    (hdocument : document = if taken then (s.after e).document else s.document) :
    (⟨pane, document⟩ : Shown) = if taken then s.after e else s := by
  rw [hpane, hdocument]
  split <;> rfl

/-- What the last errands to a pane and a sandbox brought is what these hold. -/
theorem Shown.after_all (s : Shown) (errands : List Errand) :
    (errands.foldl after s).pane =
      ((errands.filterMap Errand.text?).getLast?.map String.toUTF8).or s.pane ∧
    (errands.foldl after s).document =
      ((errands.filterMap Errand.document?).getLast?.map (·.map String.toUTF8)).getD
        s.document := by
  induction errands generalizing s with
  | nil => exact ⟨rfl, rfl⟩
  | cons e errands ih =>
    obtain ⟨hpane, hdocument⟩ := ih (s.after e)
    -- what the first errand brings counts if no later one brings anything
    refine ⟨hpane.trans ?_, hdocument.trans ?_⟩
    · cases htext : e.text? with
      | none => simp [after, htext, List.filterMap_cons_none htext]
      | some text =>
        rw [List.filterMap_cons_some htext, List.getLast?_cons]
        cases (errands.filterMap Errand.text?).getLast? <;> simp [after, htext]
    · cases hdoc : e.document? with
      | none => simp [after, hdoc, List.filterMap_cons_none hdoc]
      | some document =>
        rw [List.filterMap_cons_some hdoc, List.getLast?_cons]
        cases (errands.filterMap Errand.document?).getLast? <;> simp [after, hdoc]

namespace FileLayout

variable (l : FileLayout)

/-- What the files of the pane and of the sandbox hold. -/
def shown (disk : Disk) : Shown := ⟨disk.file? l.pane, disk.file? l.sandbox⟩

/-- The paths of the files that errands to a part may change. -/
def touched : Part → List String
  | .editor => [l.source]
  | .pane => [draft l.pane, l.pane]
  | .sandbox => [draft l.sandbox, l.sandbox]
  | .location => l.permalinkFile.toList

/-- The permalink is written into the output folder, if anywhere. -/
def Mirrored : Prop := ∀ path, l.permalinkFile = some path → path = join l.out "permalink.txt"

/-- The names in the output folder that errands to a part may change. -/
def names : Part → List String
  | .editor => []
  | .pane => ["output.tmp", "output.js"]
  | .sandbox => ["index.tmp", "index.html"]
  | .location => ["permalink.txt"]

variable {l}

theorem plain_of_mem_names : ∀ part, ∀ name ∈ names part, PlainName name
  | .editor => by decide
  | .pane => by decide
  | .sandbox => by decide
  | .location => by decide

/-- No two parts have a name in common. -/
theorem names_apart (part other : Part) :
    part ≠ other → ∀ name ∈ names part, name ∉ names other := by
  cases part <;> cases other <;> decide

/-- Errands change files in the output folder, unless they go to the editor. -/
theorem exists_name (hmirror : l.Mirrored) {part : Part} (hpart : part ≠ .editor) {path : String}
    (hpath : path ∈ l.touched part) : ∃ name ∈ names part, path = join l.out name := by
  have hdraft {name : String} (hplain : PlainName name)
      (hnew : PlainName (withEnding "tmp" name)) :
      draft (join l.out name) = join l.out (withEnding "tmp" name) :=
    withEnding_join "tmp" l.out hplain hnew
  cases part with
  | editor => exact absurd rfl hpart
  | pane =>
    rw [touched, pane, hdraft (by decide) (by decide)] at hpath
    obtain rfl | rfl : path = _ ∨ path = _ := by simpa using hpath
    · exact ⟨_, List.mem_cons_self, rfl⟩
    · exact ⟨_, List.mem_cons_of_mem _ List.mem_cons_self, rfl⟩
  | sandbox =>
    rw [touched, sandbox, hdraft (by decide) (by decide)] at hpath
    obtain rfl | rfl : path = _ ∨ path = _ := by simpa using hpath
    · exact ⟨_, List.mem_cons_self, rfl⟩
    · exact ⟨_, List.mem_cons_of_mem _ List.mem_cons_self, rfl⟩
  | location => exact ⟨_, List.mem_cons_self, hmirror path (Option.mem_toList.1 hpath)⟩

/-- The files of the pane and of the sandbox are not the drafts they are written from. -/
theorem draft_apart {disk : Disk} {path : String} (hpath : path = l.pane ∨ path = l.sandbox)
    {place : List String} (h : disk.place? (draft path) = some place) :
    disk.place? path ≠ some place := by
  have happart {name : String} (hplain : PlainName name)
      (hnew : PlainName (withEnding "tmp" name)) (hne : withEnding "tmp" name ≠ name)
      (h : disk.place? (draft (join l.out name)) = some place) :
      disk.place? (join l.out name) ≠ some place := by
    rw [draft, withEnding_join "tmp" l.out hplain hnew] at h
    exact Disk.place?_join_ne hnew hplain hne h
  obtain rfl | rfl := hpath
  · exact happart (by decide) (by decide) (by decide) h
  · exact happart (by decide) (by decide) (by decide) h

/-- What errands to one part change is no file of another part. -/
theorem file?_of_keeps (hmirror : l.Mirrored) {part : Part} (other : Part) (hpart : part ≠ .editor)
    (hother : other ≠ .editor) (hne : part ≠ other) {disk d : Disk}
    (h : disk.KeepsBut ((l.touched part).filterMap disk.place?) d) {path : String}
    (hpath : path ∈ l.touched other) : d.file? path = disk.file? path := by
  refine h.file? fun place hplace hmem => ?_
  obtain ⟨changed, hchanged, hsame⟩ := List.mem_filterMap.1 hmem
  obtain ⟨name, hname, rfl⟩ := exists_name hmirror hother hpath
  obtain ⟨name', hname', rfl⟩ := exists_name hmirror hpart hchanged
  refine Disk.place?_join_ne (plain_of_mem_names _ _ hname) (plain_of_mem_names _ _ hname') ?_
    hplace hsame
  rintro rfl
  exact names_apart part other hne name hname' hname

/-- Whatever becomes of an errand, the disk stays proper. -/
theorem request_proper (l : FileLayout) {ops : FileOps} (hops : ops.Reliable) (e : Errand)
    {w : DiskWorld} (h : w.disk.Proper) : (e.request (l.surroundings ops) w).2.disk.Proper := by
  cases e with
  | setEditor text =>
    show (reply (DiskWorld.steps
      [(·.makeParent l.source ops), (·.write l.source text ops)] w)).2.disk.Proper
    have hparent := (makeParent_keeps hops h l.source).proper
    unfold DiskWorld.steps
    dsimp only
    cases hmade : w.makeParent l.source ops with
    | error e =>
      rw [hmade] at hparent
      exact hparent
    | ok v =>
      rw [hmade] at hparent
      exact (writeAll_keeps hops hparent (some l.source) text).proper
  | setPane text =>
    exact (writeWhole_file hops h (fun _ => l.draft_apart (.inl rfl)) text).1.proper
  | load document =>
    exact (writeWhole_file hops h (fun _ => l.draft_apart (.inr rfl)) document).1.proper
  | clear =>
    show (reply (w.clear l.sandbox ops)).2.disk.Proper
    obtain ⟨v, names, hresult, hset⟩ | ⟨d, -, hresult, hkeeps⟩ | ⟨f, v, hresult, hkeeps⟩ :=
      clear_cases hops h l.sandbox
    · exact hresult ▸ hset.keeps.proper
    · exact hresult ▸ hkeeps.proper
    · exact hresult ▸ hkeeps.proper
  | setFragment fragment =>
    have hset : ({ w with fragment := some fragment } : DiskWorld).disk.Proper := h
    exact (writeAll_keeps hops hset l.permalinkFile _).proper

theorem after_proper (l : FileLayout) {ops : FileOps} (hops : ops.Reliable)
    (errands : List Errand) {w : DiskWorld} (h : w.disk.Proper) :
    ((l.surroundings ops).after errands w).disk.Proper := by
  induction errands generalizing w with
  | nil => exact h
  | cons e rest ih => exact ih (l.request_proper hops e h)

/-- The permalink stands in its file, unless the disk refuses to hold it there. -/
theorem mirror_holds (l : FileLayout) {path : String} (hpath : l.permalinkFile = some path)
    {w : DiskWorld} (h : w.disk.Proper) (fragment : String) :
    let written := (l.link fragment).text ++ "\n"
    let v := (l.surroundings.setFragment fragment w).2
    v.disk.content path = .ok written ∨ ∃ fault, v.disk.writeText path written = .error fault := by
  intro written v
  have hv : v =
      (reply (steps [(·.write path written)] { w with fragment := some fragment })).2 := by
    simp only [v, surroundings, hpath]
    rfl
  have hstep := changed_ofDisk { w with fragment := some fragment } ("failed to write " ++ path)
    (w.disk.writeText path written)
  cases hwrite : w.disk.writeText path written with
  | ok left =>
    have hleft : v.disk = left := by
      rw [hv, DiskWorld.steps, DiskWorld.write, FileOps.ofDisk, hstep, hwrite]
      rfl
    exact .inl (hleft ▸ Disk.content_writeText h hwrite)
  | error fault =>
    have hkept : v.disk = w.disk := by
      rw [hv, DiskWorld.steps, DiskWorld.write, FileOps.ofDisk, hstep, hwrite]
      rfl
    exact .inr ⟨fault, hkept ▸ hwrite⟩

theorem pane_mem_touched : l.pane ∈ l.touched .pane := List.mem_cons_of_mem _ List.mem_cons_self

theorem sandbox_mem_touched : l.sandbox ∈ l.touched .sandbox :=
  List.mem_cons_of_mem _ List.mem_cons_self

end FileLayout

/-! ### Attempts -/

/-- An errand, and what the system does on it. -/
structure Attempt where
  errand : Errand
  ops : FileOps

namespace Attempt

variable (l : FileLayout) (a : Attempt)

/-- What the parts of a layout make of an attempt. -/
def request : Request DiskWorld := a.errand.request (l.surroundings a.ops)

/-- An attempt at the pane, the sandbox or the location, on a system that keeps its promises and
does not say that the document is absent while it is there. -/
structure Lawful : Prop where
  part : a.errand.part ≠ .editor
  reliable : a.ops.Reliable
  absent : ∀ disk d, disk.Proper → a.ops.removeFile l.sandbox disk = .error (.notFound, d) →
    disk.file? l.sandbox = none

variable {l a} {w : DiskWorld}

/-- An attempt changes the files of its own part only. -/
theorem request_keeps (ha : a.Lawful l) (hproper : w.disk.Proper) :
    w.disk.KeepsBut ((l.touched a.errand.part).filterMap w.disk.place?)
      (a.request l w).2.disk := by
  obtain ⟨errand, ops⟩ := a
  obtain ⟨hpart, hops, habsent⟩ := ha
  cases errand with
  | setEditor text => exact absurd rfl hpart
  | setPane text =>
    exact (writeWhole_file hops hproper (fun _ => l.draft_apart (.inl rfl)) text).1
  | load document =>
    exact (writeWhole_file hops hproper (fun _ => l.draft_apart (.inr rfl)) document).1
  | clear =>
    refine (clear_file hops hproper (habsent _ · hproper)).1.mono fun place hplace => ?_
    exact List.mem_filterMap.2 ⟨l.sandbox, FileLayout.sandbox_mem_touched, by simpa using hplace⟩
  | setFragment fragment =>
    exact writeAll_keeps hops (w := { w with fragment := some fragment }) hproper _ _

/-- If an attempt succeeds, the pane and the sandbox hold what it says; if it fails, they hold what
they held before. -/
theorem request_shown (hmirror : l.Mirrored) (ha : a.Lawful l) (hproper : w.disk.Proper) :
    l.shown (a.request l w).2.disk =
      if (a.request l w).1.failure = none then (l.shown w.disk).after a.errand
      else l.shown w.disk := by
  have hkeeps := request_keeps ha hproper
  -- errands to one part leave the file of the other alone
  have hpane (hne : a.errand.part ≠ .pane) := FileLayout.file?_of_keeps hmirror .pane ha.part
    (by decide) hne hkeeps FileLayout.pane_mem_touched
  have hsandbox (hne : a.errand.part ≠ .sandbox) := FileLayout.file?_of_keeps hmirror .sandbox
    ha.part (by decide) hne hkeeps FileLayout.sandbox_mem_touched
  obtain ⟨errand, ops⟩ := a
  obtain ⟨hpart, hops, habsent⟩ := ha
  refine Shown.eq_ite ?_ ?_
  · cases errand with
    | setEditor text => exact absurd rfl hpart
    | setPane text =>
      exact (writeWhole_file hops hproper (fun _ => l.draft_apart (.inl rfl)) text).2
    | load document => exact (hpane Part.noConfusion).trans (ite_self _).symm
    | clear => exact (hpane Part.noConfusion).trans (ite_self _).symm
    | setFragment fragment => exact (hpane Part.noConfusion).trans (ite_self _).symm
  · cases errand with
    | setEditor text => exact absurd rfl hpart
    | setPane text => exact (hsandbox Part.noConfusion).trans (ite_self _).symm
    | load document =>
      exact (writeWhole_file hops hproper (fun _ => l.draft_apart (.inr rfl)) document).2
    | clear => exact (clear_file hops hproper (habsent _ · hproper)).2
    | setFragment fragment => exact (hsandbox Part.noConfusion).trans (ite_self _).symm

/-- A document that is said to be absent counts as taken out. -/
theorem clear_absent {d : Disk} (ha : a.errand = .clear)
    (h : a.ops.removeFile l.sandbox w.disk = .error (.notFound, d)) :
    (a.request l w).1.failure = none := by
  obtain ⟨errand, ops⟩ := a
  obtain rfl : errand = .clear := ha
  show (reply (w.clear l.sandbox ops)).1.failure = none
  rw [clear, show ops.removeFile l.sandbox w.disk = _ from h]
  rfl

end Attempt

/-! ### Runs -/

/-- The errands of some attempts that succeed, and the world that the attempts leave. -/
def FileLayout.run (l : FileLayout) : List Attempt → DiskWorld → List Errand × DiskWorld
  | [], w => ([], w)
  | a :: rest, w =>
    let (answer, v) := a.request l w
    let (taken, after) := run l rest v
    (if answer.failure = none then a.errand :: taken else taken, after)

/-- After any attempts, the pane and the sandbox hold what the errands that succeeded say. -/
theorem FileLayout.run_shown {l : FileLayout} (hmirror : l.Mirrored) {attempts : List Attempt}
    (hlawful : ∀ a ∈ attempts, a.Lawful l) {w : DiskWorld} (hproper : w.disk.Proper) :
    (l.run attempts w).2.disk.Proper ∧
      l.shown (l.run attempts w).2.disk =
        (l.run attempts w).1.foldl Shown.after (l.shown w.disk) := by
  induction attempts generalizing w with
  | nil => exact ⟨hproper, rfl⟩
  | cons a rest ih =>
    obtain ⟨ha, hrest⟩ := List.forall_mem_cons.1 hlawful
    have hkeeps := Attempt.request_keeps ha hproper
    obtain ⟨hafter, hshown⟩ := ih hrest hkeeps.proper
    refine ⟨hafter, hshown.trans ?_⟩
    rw [Attempt.request_shown hmirror ha hproper]
    simp only [run]
    split <;> rfl

/-- A script is shown by loading its page, and noted once the page is loaded. -/
theorem Renderer.render_loads {σ : Type} (r : Renderer) (around : Surroundings σ)
    {result : Compiler.CompileResult} (h : result.diagnostics = []) :
    r.render around result = do
      Act.request (around.setPane (result.emitted.getD ""))
      around.loadThen (r.document (result.emitted.getD ""))
        (Act.note [.detail "sandbox" "document loaded"])
      return .emitted := by
  simp [render, h]

/-- **The files of the pane and of the sandbox follow what succeeds.** After any attempts, on
systems that let any step fail at any time, the file of the pane holds the last text that the pane
said it shows, and the file of the sandbox the last document that was loaded, unless that was taken
out since: then there is none.  A further attempt leaves both as they are if it fails, and changes
no file but its own and the draft of it, so none of another part; taking out a document that is
said to be absent succeeds; and what waits for a document to be loaded goes on, once, if it is. -/
theorem files_show_taken (l : FileLayout) (attempts : List Attempt) (w : DiskWorld)
    (hmirror : l.Mirrored) (hproper : w.disk.Proper) (hlawful : ∀ a ∈ attempts, a.Lawful l) :
    let taken := (l.run attempts w).1
    let v := (l.run attempts w).2
    v.disk.file? l.pane = ((taken.filterMap Errand.text?).getLast?.map String.toUTF8).or
      (w.disk.file? l.pane) ∧
    v.disk.file? l.sandbox =
      ((taken.filterMap Errand.document?).getLast?.map (·.map String.toUTF8)).getD
        (w.disk.file? l.sandbox) ∧
    ∀ a : Attempt, a.Lawful l →
      let answer := a.request l v
      (answer.1.failure ≠ none → answer.2.disk.file? l.pane = v.disk.file? l.pane ∧
        answer.2.disk.file? l.sandbox = v.disk.file? l.sandbox) ∧
      (∀ path, (∀ changed ∈ l.touched a.errand.part,
        v.disk.place? changed ≠ v.disk.place? path) →
          answer.2.disk.file? path = v.disk.file? path) ∧
      (∀ other, other ≠ .editor → a.errand.part ≠ other → ∀ path ∈ l.touched other,
        answer.2.disk.file? path = v.disk.file? path) ∧
      (∀ d, a.errand = .clear → a.ops.removeFile l.sandbox v.disk = .error (.notFound, d) →
        answer.1.failure = none) ∧
      ∀ document (callback : Act DiskWorld Unit) (s : Scene DiskWorld),
        a.errand = .load document → s.world = v →
          ((l.surroundings a.ops).loadThen document callback).run s =
            match answer.1.failure with
            | none => callback.run (s.after (a.request l))
            | some f => (.error f, s.after (a.request l)) := by
  intro taken v
  obtain ⟨hafter, hshown⟩ := FileLayout.run_shown hmirror hlawful hproper
  obtain ⟨hpane, hdocument⟩ := (l.shown w.disk).after_all taken
  refine ⟨(congrArg Shown.pane hshown).trans hpane,
    (congrArg Shown.document hshown).trans hdocument, fun a ha => ?_⟩
  have hkeeps := Attempt.request_keeps ha hafter
  refine ⟨fun hfailed => ?_, fun path happart => ?_, fun other hother hne path hpath => ?_,
    fun d => Attempt.clear_absent, fun document callback s hload hworld => ?_⟩
  · have hsame := Attempt.request_shown hmirror ha hafter
    rw [if_neg hfailed] at hsame
    exact ⟨congrArg Shown.pane hsame, congrArg Shown.document hsame⟩
  · refine hkeeps.file? fun place hplace hmem => ?_
    obtain ⟨changed, hchanged, hsame⟩ := List.mem_filterMap.1 hmem
    exact happart changed hchanged (hsame.trans hplace.symm)
  · exact FileLayout.file?_of_keeps hmirror other ha.part hother hne hkeeps hpath
  · obtain ⟨errand, ops⟩ := a
    obtain rfl : errand = .load document := hload
    rw [Surroundings.loadThen, Act.run_request_bind, ← hworld]
    rfl

/-- A system on which every text breaks off before anything of it has arrived. -/
def FileOps.halting : FileOps :=
  { FileOps.ofDisk with
    writeText path _ disk := .error (.notText, (disk.writeText path "").toOption.getD disk) }

theorem FileOps.halting_reliable : FileOps.halting.Reliable :=
  { FileOps.ofDisk_reliable with
    writeText_ok _ _ _ _ _ h := by cases h
    writeText_failed path text disk fault d hproper h := by
      obtain ⟨-, rfl⟩ := Prod.mk.inj (Except.error.inj h)
      cases hwrite : disk.writeText path "" with
      | error fault => exact .refl hproper _
      | ok d =>
        obtain ⟨names, hset⟩ := Disk.write_ok hproper hwrite
        exact hset.place ▸ hset.keeps }

/-- On a disk, a document that is said to be absent is, if no part of its path leads upwards. -/
theorem Attempt.Lawful.of_removeFile {l : FileLayout} {a : Attempt}
    (hpart : a.errand.part ≠ .editor) (hops : a.ops.Reliable)
    (hremove : a.ops.removeFile = FileOps.ofDisk.removeFile)
    (hup : ".." ∉ components l.sandbox) : a.Lawful l where
  part := hpart
  reliable := hops
  absent disk d _ h := by
    rw [hremove] at h
    change (disk.removeFile l.sandbox).mapError _ = _ at h
    cases hresult : disk.removeFile l.sandbox with
    | ok d => rw [hresult] at h; cases h
    | error fault =>
      rw [hresult] at h
      obtain ⟨rfl, -⟩ := Prod.mk.inj (Except.error.inj h)
      exact Disk.removeFile_notFound (isEmpty_join l.out (by decide)) hup hresult

/-- Of two texts for the pane, the second breaks off; a document is shown and taken out again. -/
theorem files_show_taken_broken_off :
    let l : FileLayout :=
      ⟨"index.tsx", "out", ⟨"http", none, "/", none, none⟩, some "out/permalink.txt"⟩
    let disk : Disk := { home := "/home", tree := .folder [("out", .folder [
      ("index.html", .file "old".toUTF8)])] }
    let attempts : List Attempt := [⟨.setPane "a", .ofDisk⟩, ⟨.setPane "b", .halting⟩,
      ⟨.load "page", .ofDisk⟩, ⟨.clear, .ofDisk⟩]
    let v := (l.run attempts ⟨disk, none⟩).2
    v.disk.file? l.pane = some "a".toUTF8 ∧ v.disk.file? l.sandbox = none ∧
      v.disk.file? "out/output.tmp" = some "".toUTF8 := by
  intro l disk attempts v
  have hmirror : l.Mirrored := fun path hpath =>
    (Option.some.inj hpath).symm.trans (by decide)
  have hproper : disk.Proper := by
    refine ⟨rfl, .folder (by decide) ?_⟩
    simp only [List.forall_mem_singleton]
    refine .folder (by decide) ?_
    simp only [List.forall_mem_singleton]
    exact .file _
  have hlawful : ∀ a ∈ attempts, a.Lawful l := by
    have hup : ".." ∉ components l.sandbox := by decide +kernel
    have hdisk {e : Errand} (he : e.part ≠ .editor) : Attempt.Lawful l ⟨e, .ofDisk⟩ :=
      .of_removeFile he FileOps.ofDisk_reliable rfl hup
    have hhalting {e : Errand} (he : e.part ≠ .editor) : Attempt.Lawful l ⟨e, .halting⟩ :=
      .of_removeFile he FileOps.halting_reliable rfl hup
    simp only [attempts, List.forall_mem_cons]
    exact ⟨hdisk Part.noConfusion, hhalting Part.noConfusion, hdisk Part.noConfusion,
      hdisk Part.noConfusion, nofun⟩
  have htaken : ((l.run attempts ⟨disk, none⟩).1.filterMap Errand.text?) = ["a"] ∧
      ((l.run attempts ⟨disk, none⟩).1.filterMap Errand.document?) = [some "page", none] := by
    decide +kernel
  obtain ⟨hpane, hsandbox, -⟩ := files_show_taken l attempts ⟨disk, none⟩ hmirror hproper hlawful
  rw [htaken.1] at hpane
  rw [htaken.2] at hsandbox
  exact ⟨hpane, hsandbox, by decide +kernel⟩

end Playground.Session
