import Playground.Command.Run
import Playground.Proofs.Session.Beginning
import Playground.Proofs.Session.OnDisk

/-!
# What the commands leave behind

A command is a job at a desk, which goes on from step to step until a failure ends it.  What a job
did is told by the desk it leaves: by what it said, and by the files of the disk.

* `Job.bind_eq_ok` — a job that comes to a good end, step by step;
* `Restores` — a link from which a text is printed, or written into a file;
* `shareSource_run` — what is printed for a source;
* `Compiled` — what compiling a source leaves behind: the link of the text is said in the end, and
  stands in a file.
-/

namespace Playground.Command

open Config Files Link Session Share

/-! ### Steps of a job -/

@[simp] theorem Desk.noting_nil (d : Desk) : d.noting [] = d := by
  show { d with output := d.output ++ "" } = d
  rw [String.append_empty]

/-- A result with a value in it is a good end. -/
theorem exists_ok {ε α : Type} {result : Except ε α} (h : result.toOption.isSome) :
    ∃ a, result = .ok a := by
  cases result with
  | ok a => exact ⟨a, rfl⟩
  | error e => cases h

namespace Job

variable {α β : Type} {d d' : Desk}

/-- The second job goes on from where the first one succeeded. -/
theorem run_bind (first : Job α) (next : α → Job β) (d : Desk) :
    (first >>= next).run d = match first.run d with
      | (.ok a, between) => (next a).run between
      | (.error f, between) => (.error f, between) := by
  show ExceptT.bindCont next (first.run d).1 (first.run d).2 = _
  obtain ⟨result, between⟩ := first.run d
  cases result <;> rfl

/-- A job that comes to a good end went on from a first step that did. -/
theorem bind_eq_ok {first : Job α} {next : α → Job β} {b : β} :
    (first >>= next).run d = (.ok b, d') ↔
      ∃ a between, first.run d = (.ok a, between) ∧ (next a).run between = (.ok b, d') := by
  rw [run_bind]
  obtain ⟨result, between⟩ := first.run d
  cases result with
  | ok a => exact ⟨fun h => ⟨a, between, rfl, h⟩, fun ⟨_, _, hfirst, h⟩ => by cases hfirst; exact h⟩
  | error f => exact ⟨nofun, fun ⟨_, _, hfirst, _⟩ => nomatch hfirst⟩

/-- After a first step that is known, the second one goes on. -/
theorem goes_on {first : Job α} {next : α → Job β} {a : α} {between : Desk}
    {result : Except Failure β × Desk} (h : (first >>= next).run d = result)
    (hfirst : first.run d = (.ok a, between)) : (next a).run between = result := by
  rw [← h, run_bind, hfirst]

theorem pure_eq_ok {a b : α} : (pure a : Job α).run d = (.ok b, d') ↔ a = b ∧ d = d' := by
  show ((Except.ok a : Except Failure α), d) = (.ok b, d') ↔ _
  simp

theorem ofExcept_eq_ok {ε : Type} {failure : ε → Failure} {r : Except ε α} {a : α} :
    (ofExcept failure r).run d = (.ok a, d') ↔ r = .ok a ∧ d = d' := by
  cases r with
  | ok b => exact pure_eq_ok.trans (by simp)
  | error e => exact ⟨nofun, fun ⟨h, _⟩ => nomatch h⟩

/-- A step on the disk that succeeds leaves its disk behind, and says nothing. -/
theorem onDisk_reply_eq_ok {step : DiskWorld.Step} {u : Unit} :
    (onDisk fun w => DiskWorld.reply (step w)).run d = (.ok u, d') ↔
      ∃ v, step ⟨d.disk, none⟩ = .ok v ∧ { d with disk := v.disk } = d' := by
  have hget : (get : Job Desk).run d = (.ok d, d) := rfl
  unfold onDisk
  rw [run_bind, hget]
  dsimp only
  cases step ⟨d.disk, none⟩ with
  | ok v =>
    show (Except.ok (), { d.noting [] with disk := v.disk }) = _ ↔ _
    rw [Desk.noting_nil]
    simp
  | error e =>
    show (Except.error e.1, { d.noting [] with disk := e.2.disk }) = _ ↔ _
    simp

end Job

/-! ### Links that restore a text -/

/-- The disk on which a file is written: its folder is made first. -/
def withParent (disk : Disk) (path : String) : Except IoFault Disk :=
  match parent? path with
  | none => .ok disk
  | some folder => disk.makeFolder folder

theorem withParent_proper {disk made : Disk} {path : String} (hproper : disk.Proper)
    (h : withParent disk path = .ok made) : made.Proper := by
  unfold withParent at h
  split at h
  · exact Except.ok.inj h ▸ hproper
  · exact (Disk.makeFolder_ok hproper h).1.proper

/-- A file is written if its folder can be made, and it can be written there. -/
theorem steps_write_eq_ok {path text : String} {w v : DiskWorld} :
    DiskWorld.steps [(·.makeParent path), (·.write path text)] w = .ok v ↔
      ∃ made left, withParent w.disk path = .ok made ∧ made.writeText path text = .ok left ∧
        { w with disk := left } = v := by
  have hparent (u : DiskWorld) : w.makeParent path = .ok u ↔
      ∃ made, withParent w.disk path = .ok made ∧ { w with disk := made } = u := by
    unfold DiskWorld.makeParent withParent
    cases parent? path with
    | none => simp
    | some folder => exact DiskWorld.changed_eq_ok
  have hwrite (u : DiskWorld) : DiskWorld.steps [(·.write path text)] u = .ok v ↔
      ∃ left, u.disk.writeText path text = .ok left ∧ { u with disk := left } = v := by
    rw [DiskWorld.steps_eq_ok]
    simp only [DiskWorld.steps, Except.ok.injEq, exists_eq_right]
    exact DiskWorld.changed_eq_ok
  rw [DiskWorld.steps_eq_ok]
  constructor
  · rintro ⟨u, hu, h⟩
    obtain ⟨made, hmade, rfl⟩ := (hparent u).1 hu
    obtain ⟨left, hleft, rfl⟩ := (hwrite _).1 h
    exact ⟨made, left, hmade, hleft, rfl⟩
  · rintro ⟨made, left, hmade, hleft, rfl⟩
    exact ⟨_, (hparent _).2 ⟨made, hmade, rfl⟩, (hwrite _).2 ⟨left, hleft, rfl⟩⟩

/-- A link that restores a text: the text is printed exactly, or written into a file, which then
holds it. -/
structure Restores (link text : String) : Prop where
  carried : sourceOfLink link = .ok text
  printed : ∀ d : Desk, (restoreSource link none).run d = (.ok (), d.printing text)
  /-- nothing but the disk keeps the text from being written -/
  written : ∀ (path : String) (d : Desk) (made left : Disk),
    withParent d.disk path = .ok made → made.writeText path text = .ok left →
      (restoreSource link (some path)).run d =
        (.ok (), { d with disk := left }.noting [⟨"share", "restored " ++ path, false⟩])
  held : ∀ (path : String) (d d' : Desk), d.disk.Proper →
    (restoreSource link (some path)).run d = (.ok (), d') → d'.disk.content path = .ok text

/-- A link that carries a text restores it. -/
theorem Restores.of_carried {link text : String} (h : sourceOfLink link = .ok text) :
    Restores link text := by
  have hnone : restoreSource link none = Job.print text := by
    unfold restoreSource
    rw [h]
    rfl
  have hsome (path : String) : restoreSource link (some path) = (do
      Job.onDisk fun w => DiskWorld.reply
        (DiskWorld.steps [(·.makeParent path), (·.write path text)] w)
      Job.say "share" ("restored " ++ path)) := by
    unfold restoreSource
    rw [h]
    rfl
  refine ⟨h, fun d => by rw [hnone]; rfl, fun path d made left hmade hleft => ?_,
    fun path d d' hproper hrun => ?_⟩
  · rw [hsome, Job.bind_eq_ok]
    exact ⟨(), _, Job.onDisk_reply_eq_ok.2
      ⟨_, steps_write_eq_ok.2 ⟨made, left, hmade, hleft, rfl⟩, rfl⟩, rfl⟩
  · rw [hsome] at hrun
    obtain ⟨_, between, hwrite, hsay⟩ := Job.bind_eq_ok.1 hrun
    obtain ⟨v, hv, rfl⟩ := Job.onDisk_reply_eq_ok.1 hwrite
    obtain ⟨made, left, hmade, hleft, rfl⟩ := steps_write_eq_ok.1 hv
    cases hsay
    exact Disk.content_writeText (withParent_proper hproper hmade) hleft

/-! ### Sharing a source -/

/-- Sharing a source prints the link of its text. -/
theorem shareSource_run {p : Project} {file : Option String} {d : Desk} {text : String}
    {base : Url} (hbase : p.options.share.base = .ok base)
    (htext : d.disk.content (p.source file) = .ok text) :
    (shareSource p file).run d =
      (.ok (), d.printing ((permalink base (encode ⟨text⟩)).text ++ "\n")) := by
  unfold shareSource
  refine Job.bind_eq_ok.2 ⟨d, d, rfl, Job.bind_eq_ok.2 ⟨text, d, ?_, Job.bind_eq_ok.2
    ⟨base, d, Job.ofExcept_eq_ok.2 ⟨hbase, rfl⟩, rfl⟩⟩⟩
  exact Job.ofExcept_eq_ok.2 ⟨htext, rfl⟩

/-! ### Compiling a source -/

variable {p : Project} {file out : Option String} {d d' : Desk}

/-- Loading the library files changes no file. -/
theorem loadLibrary_disk {store : Snapshot.Store} (h : (loadLibrary p).run d = (.ok store, d')) :
    d'.disk = d.disk := by
  unfold loadLibrary at h
  replace h := Job.goes_on h rfl
  obtain ⟨roots, between, hroots, h⟩ := Job.bind_eq_ok.1 h
  have hbetween : between = d := by
    unfold libRoots at hroots
    split at hroots
    · exact (Job.pure_eq_ok.1 hroots).2.symm
    · cases hroots
  subst hbetween
  split at h
  · replace h := Job.goes_on h rfl
    obtain ⟨-, rfl⟩ := Job.pure_eq_ok.1 h
    rfl
  · replace h := Job.goes_on h rfl
    obtain ⟨-, rfl⟩ := Job.pure_eq_ok.1 h
    rfl

theorem linkBase_eq_ok {base : Url} :
    (linkBase p).run d = (.ok base, d') ↔ p.options.share.base = .ok base ∧ d = d' :=
  Job.ofExcept_eq_ok

/-- The files of a session are laid out once its output folder was made. -/
theorem layOut_eq_ok {source folder : String} {layout : FileLayout}
    (h : (layOut p source folder).run d = (.ok layout, d')) :
    ∃ base, p.options.share.base = .ok base ∧
      layout = ⟨source, folder, base, some (join folder "permalink.txt")⟩ ∧
      d.disk.makeFolder folder = .ok d'.disk := by
  unfold layOut at h
  obtain ⟨_, between, hmake, h⟩ := Job.bind_eq_ok.1 h
  obtain ⟨base, after, hlink, h⟩ := Job.bind_eq_ok.1 h
  obtain ⟨hbase, rfl⟩ := linkBase_eq_ok.1 hlink
  obtain ⟨rfl, rfl⟩ := Job.pure_eq_ok.1 h
  refine ⟨base, hbase, rfl, ?_⟩
  obtain ⟨v, hv, rfl⟩ := Job.onDisk_reply_eq_ok.1 hmake
  obtain ⟨made, hmade, rfl⟩ := DiskWorld.changed_eq_ok.1 hv
  exact hmade

/-- Compiling that comes to a good end is one start of a session on the disk with the output folder,
and says the link of its text in the end. -/
theorem compileOnce_eq_ok (h : (compileOnce p file out).run d = (.ok (), d')) :
    ∃ store base, ∃ between : Desk, p.options.share.base = .ok base ∧
      d.disk.makeFolder (p.outDir out) = .ok between.disk ∧
      let layout : FileLayout := ⟨p.source file, p.outDir out, base,
        some (join (p.outDir out) "permalink.txt")⟩
      let s := ((sessionOf p store between.disk none).start (setupOf p layout) 0).2
      d' = ((between.after s).noting
          [⟨"compile", p.source file ++ " -> " ++ p.outDir out, false⟩]).noting
        [⟨"share", (layout.link (encode ⟨s.buffer⟩)).text, false⟩] := by
  unfold compileOnce at h
  obtain ⟨store, loaded, hstore, h⟩ := Job.bind_eq_ok.1 h
  obtain ⟨layout, between, hlayout, h⟩ := Job.bind_eq_ok.1 h
  obtain ⟨base, hbase, rfl, hmade⟩ := layOut_eq_ok hlayout
  rw [loadLibrary_disk hstore] at hmade
  replace h := Job.goes_on h rfl
  refine ⟨store, base, between, hbase, hmade, ?_⟩
  have hsync := (sessionOf p store between.disk none).start_sync
    (setupOf p ⟨p.source file, p.outDir out, base, some (join (p.outDir out) "permalink.txt")⟩) 0
  dsimp only
  revert h hsync
  rcases (sessionOf p store between.disk none).start _ 0 with ⟨outcome, s⟩
  intro h hsync
  replace h := Job.goes_on h rfl
  replace h := Job.goes_on h rfl
  -- only a pass that emitted lets the command come to a good end
  cases outcome with
  | emitted =>
    replace h := Job.goes_on h rfl
    rw [hsync] at h
    cases h
    rfl
  | diagnostics count =>
    obtain ⟨_, _, hcomplain, h⟩ := Job.bind_eq_ok.1 h
    cases h
  | failed =>
    obtain ⟨_, _, hcomplain, h⟩ := Job.bind_eq_ok.1 h
    cases h

/-- What compiling a source leaves behind, if it comes to a good end, of the text that it ran over
and of its link. -/
structure Compiled (p : Project) (file out : Option String) (d d' : Desk) (text link : String) :
    Prop where
  /-- the text is that of the source, once the output folder is there, or else the default one -/
  source : ∃ made, d.disk.makeFolder (p.outDir out) = .ok made ∧
    StartsFrom none (made.content (p.source file)).toOption text
  /-- the link is said in the end -/
  said : ∃ before : Desk, d' = before.noting [⟨"share", link, false⟩]
  /-- the link stands in a file of the output folder, unless the disk refuses to hold it there -/
  mirrored : d.disk.Proper →
    let path := join (p.outDir out) "permalink.txt"
    d'.disk.content path = .ok (link ++ "\n") ∨
      ∃ fault, d'.disk.writeText path (link ++ "\n") = .error fault

/-- After the start of a session on a disk, the link of its text stands in its file, unless the disk
refuses to hold it there. -/
theorem start_mirrors {layout : FileLayout} {path : String} {setup : Setup DiskWorld}
    (haround : setup.around = layout.surroundings) (hpath : layout.permalinkFile = some path)
    {s : State DiskWorld} (hproper : s.scene.world.disk.Proper) (now : Nat) :
    let t := (s.start setup now).2
    let written := (layout.link (encode ⟨t.buffer⟩)).text ++ "\n"
    t.scene.world.disk.content path = .ok written ∨
      ∃ fault, t.scene.world.disk.writeText path written = .error fault := by
  intro t written
  -- the location is asked last, after the editor, the pane and the sandbox
  have hworld : t.scene.world = (layout.surroundings.setFragment (encode ⟨t.buffer⟩)
      ((s.opened setup).rendered setup).2.scene.world).2 := by
    rw [← haround, show t.buffer = (s.opened setup).buffer from
      (s.opened setup).compilePass_buffer setup]
    exact (s.opened setup).compilePass_world setup
  obtain ⟨first, -, hfirst⟩ := s.opened_leads setup
  obtain ⟨second, -, hsecond⟩ := (s.opened setup).rendered_onlyShows setup
  rw [haround] at hfirst hsecond
  have hrendered : ((s.opened setup).rendered setup).2.scene.world.disk.Proper := by
    rw [hsecond, hfirst]
    exact layout.after_proper FileOps.ofDisk_reliable second
      (layout.after_proper FileOps.ofDisk_reliable first hproper)
  rw [hworld]
  exact layout.mirror_holds hpath hrendered _

theorem compileOnce_compiled {base : Url} (hbase : p.options.share.base = .ok base)
    (h : (compileOnce p file out).run d = (.ok (), d')) :
    ∃ text, Compiled p file out d d' text (permalink base (encode ⟨text⟩)).text := by
  obtain ⟨store, base', between, hbase', hmade, rfl⟩ := compileOnce_eq_ok h
  obtain rfl : base' = base := Except.ok.inj (hbase'.symm.trans hbase)
  let layout : FileLayout :=
    ⟨p.source file, p.outDir out, base', some (join (p.outDir out) "permalink.txt")⟩
  let s := sessionOf p store between.disk none
  refine ⟨(s.start (setupOf p layout) 0).2.buffer, ⟨between.disk, hmade, ?_⟩, ⟨_, rfl⟩,
    fun hproper => ?_⟩
  · rw [State.start_buffer]
    exact State.chooseSource_startsFrom (setupOf p layout) (s := s) rfl
  · have hbetween : s.scene.world.disk.Proper := (Disk.makeFolder_ok hproper hmade).1.proper
    have haround : (setupOf p layout).around = layout.surroundings := rfl
    exact start_mirrors haround rfl hbetween 0

/-- A source that can be read and is not empty is the text that is compiled. -/
theorem Compiled.text_eq {text link source : String}
    (h : Compiled p file out d d' text link) (hproper : d.disk.Proper)
    (hsource : d.disk.content (p.source file) = .ok source) (hne : source ≠ "") :
    text = source := by
  obtain ⟨made, hmade, hstarts⟩ := h.source
  rw [Disk.content_makeFolder hproper hmade hsource] at hstarts
  exact hstarts.unique (.edited nofun rfl hne)

end Playground.Command
