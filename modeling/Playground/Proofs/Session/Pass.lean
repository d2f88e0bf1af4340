import Playground.Proofs.Compiler.Isolation
import Playground.Session.Basic

/-!
# What a pass changes

A pass reads the text being edited and leaves it alone; it never touches the scheduler, and ends
by publishing the text.  Which parts of a world it changes is said by the errands it may run:

* `Surroundings.Owns` — a view of the world that only the errands of one part change;
* `rendered_onlyShows` — until it publishes, a pass runs errands to the pane and to the sandbox only;
* `compilePass_buffer`, `compilePass_scheduler`, `compilePass_sync` — a pass within the session;
* `compilePass_fragment` — the location shows the text of the pass, unless it refused it;
* `compilePass_keeps_editor` — the editor is left alone.
-/

namespace Playground.Session

open Compiler Share Snapshot

variable {σ α β : Type}

/-! ### Errands and parts -/

/-- The parts of a world that a session changes. -/
inductive Part where
  | editor
  | pane
  | sandbox
  | location
deriving DecidableEq, Repr

/-- What a session may ask of a part. -/
inductive Errand where
  | setEditor (text : String)
  | setPane (text : String)
  | load (document : String)
  | clear
  | setFragment (fragment : String)

namespace Errand

/-- The part that an errand goes to. -/
def part : Errand → Part
  | setEditor _ => .editor
  | setPane _ => .pane
  | load _ | clear => .sandbox
  | setFragment _ => .location

/-- The request that an errand makes. -/
def request (around : Surroundings σ) : Errand → Request σ
  | setEditor text => around.setEditor text
  | setPane text => around.setPane text
  | load document => around.load document
  | clear => around.clear
  | setFragment fragment => around.setFragment fragment

end Errand

/-- Only the errands of one part change a view of the world. -/
def Surroundings.Owns (around : Surroundings σ) (part : Part) (view : σ → α) : Prop :=
  ∀ e : Errand, e.part ≠ part → ∀ w, view (e.request around w).2 = view w

/-- A location that holds the fragment it was last given, and that nothing else changes. -/
structure Surroundings.HoldsFragment (around : Surroundings σ) : Prop where
  owns : around.Owns .location around.fragment
  shows : ∀ f w, (around.setFragment f w).1.failure = none →
    around.fragment (around.setFragment f w).2 = some f

/-! ### Acts and the errands they run -/

/-- The world after some errands, one after another. -/
def Surroundings.after (around : Surroundings σ) (errands : List Errand) (w : σ) : σ :=
  errands.foldl (fun w e => (e.request around w).2) w

theorem Surroundings.after_append (around : Surroundings σ) (first second : List Errand) (w : σ) :
    around.after (first ++ second) w = around.after second (around.after first w) :=
  List.foldl_append

/-- Errands to other parts keep the view of a part. -/
theorem Surroundings.Owns.after {around : Surroundings σ} {part : Part} {view : σ → α}
    (h : around.Owns part view) {errands : List Errand} (he : ∀ e ∈ errands, e.part ≠ part)
    (w : σ) : view (around.after errands w) = view w := by
  induction errands generalizing w with
  | nil => rfl
  | cons e rest ih =>
    refine (ih (fun x hx => he x (List.mem_cons_of_mem _ hx)) _).trans ?_
    exact h e (he e List.mem_cons_self) w

/-- An errand by which something is shown. -/
def Errand.Shows (e : Errand) : Prop := e.part = .pane ∨ e.part = .sandbox

instance : DecidablePred Errand.Shows := fun e =>
  inferInstanceAs (Decidable (e.part = .pane ∨ e.part = .sandbox))

/-- What is shown belongs to no other part. -/
theorem Errand.Shows.part_ne {e : Errand} (h : e.Shows) {part : Part} (hp : part ≠ .pane)
    (hs : part ≠ .sandbox) : e.part ≠ part := by
  rcases h with h | h
  · rw [h]
    exact hp.symm
  · rw [h]
    exact hs.symm

/-- The scene after a request was answered. -/
def Scene.after (s : Scene σ) (r : Request σ) : Scene σ :=
  Scene.noting { s with world := (r s.world).2 } (r s.world).1.remarks

@[simp] theorem Scene.after_world (s : Scene σ) (r : Request σ) :
    (s.after r).world = (r s.world).2 := rfl

/-- The second act goes on from where the first one succeeded. -/
theorem Act.run_bind (act : Act σ α) (next : α → Act σ β) (s : Scene σ) :
    (act >>= next).run s = match act.run s with
      | (.ok a, after) => (next a).run after
      | (.error f, after) => (.error f, after) := by
  show ExceptT.bindCont next (act.run s).1 (act.run s).2 = _
  obtain ⟨result, after⟩ := act.run s
  cases result <;> rfl

/-- A request changes the world, and its reply decides whether the act succeeds. -/
theorem Act.run_request (r : Request σ) (s : Scene σ) : (Act.request r).run s =
    ((match (r s.world).1.failure with | none => .ok () | some f => .error f), s.after r) := by
  show (match (r s.world).1.failure with | none => _ | some f => _ : Except Failure Unit × _) = _
  split <;> rfl

/-- The reply to a request decides whether an act goes on. -/
theorem Act.run_request_bind (r : Request σ) (next : Unit → Act σ α) (s : Scene σ) :
    (Act.request r >>= next).run s = match (r s.world).1.failure with
      | none => (next ()).run (s.after r)
      | some f => (.error f, s.after r) := by
  rw [Act.run_bind, Act.run_request]
  cases (r s.world).1.failure <;> rfl

/-- What waits for a document goes on between the request for it and the rest of an act. -/
theorem Surroundings.loadThen_bind (around : Surroundings σ) (document : String)
    (callback : Act σ Unit) (next : Unit → Act σ α) :
    around.loadThen document callback >>= next =
      Act.request (around.load document) >>= fun _ => callback >>= next :=
  bind_assoc ..

/-- Whether an act succeeds or not, it runs errands by which something is shown, and no others. -/
def Act.OnlyShows (around : Surroundings σ) (act : Act σ β) : Prop :=
  ∀ s, ∃ errands : List Errand, (∀ e ∈ errands, e.Shows) ∧
    (act.run s).2.world = around.after errands s.world

namespace Act.OnlyShows

variable {γ : Type} {around : Surroundings σ}

theorem errand {e : Errand} (h : e.Shows) :
    Act.OnlyShows around (Act.request (e.request around)) := by
  intro s
  refine ⟨[e], List.forall_mem_singleton.2 h, ?_⟩
  rw [Act.run_request]
  rfl

theorem note (remarks : List Remark) : Act.OnlyShows around (Act.note remarks) :=
  fun _ => ⟨[], List.forall_mem_nil _, rfl⟩

theorem pure (b : β) : Act.OnlyShows around (Pure.pure b : Act σ β) :=
  fun _ => ⟨[], List.forall_mem_nil _, rfl⟩

theorem bind {act : Act σ β} {next : β → Act σ γ} (h : Act.OnlyShows around act)
    (hn : ∀ b, Act.OnlyShows around (next b)) : Act.OnlyShows around (act >>= next) := by
  intro s
  obtain ⟨first, hfirst, hs⟩ := h s
  rw [Act.run_bind]
  revert hs
  obtain ⟨result, after⟩ := act.run s
  intro hs
  cases result with
  | error f => exact ⟨first, hfirst, hs⟩
  | ok b =>
    obtain ⟨second, hsecond, hafter⟩ := hn b after
    refine ⟨first ++ second, List.forall_mem_append.2 ⟨hfirst, hsecond⟩, ?_⟩
    rw [around.after_append, ← hs]
    exact hafter

end Act.OnlyShows

section Rendering

variable (around : Surroundings σ)

/-- Rendering goes to the pane and to the sandbox only. -/
theorem Renderer.render_onlyShows (r : Renderer) (result : CompileResult) :
    Act.OnlyShows around (r.render around result) := by
  have hpane (text : String) : Act.OnlyShows around (Act.request (around.setPane text)) :=
    .errand (e := .setPane text) (.inl rfl)
  have hload (document : String) {callback : Act σ Unit} (h : Act.OnlyShows around callback) :
      Act.OnlyShows around (around.loadThen document callback) :=
    (Act.OnlyShows.errand (e := .load document) (.inr rfl)).bind fun _ => h
  have hclear : Act.OnlyShows around (Act.request around.clear) :=
    .errand (e := .clear) (.inr rfl)
  unfold Renderer.render
  split
  · exact (hpane _).bind fun _ => (hload _ (.note _)).bind fun _ => .pure _
  · exact (hpane _).bind fun _ => hclear.bind fun _ => .pure _

/-- Showing a failure goes to the pane and to the sandbox only. -/
theorem renderFailure_onlyShows (message : String) :
    Act.OnlyShows around (renderFailure around message) :=
  (Act.OnlyShows.errand (e := .setPane message) (.inl rfl)).bind fun _ =>
    (Act.OnlyShows.errand (e := .clear) (.inr rfl)).bind fun _ => .pure _

end Rendering

/-- An attempt changes the world as its request does. -/
theorem Scene.attempt_world (s : Scene σ) (words : String) (r : Request σ) :
    (s.attempt words r).world = (r s.world).2 := by
  show (match (r s.world).1.failure with
    | none => _
    | some f => _ : Scene σ).world = _
  split <;> rfl

/-! ### The steps of a pass -/

namespace State

variable (setup : Setup σ) (s : State σ)

/-- The session as a pass leaves it before the text is published. -/
def rendered : PassOutcome × State σ :=
  match s.attempt setup with
  | (.ok outcome, s) => (outcome, s)
  | (.error message, s) => (.failed, s.showFailure setup message)

/-- What the location replies when a pass publishes the text. -/
def published : Reply :=
  (setup.around.setFragment (encode ⟨s.buffer⟩) (s.rendered setup).2.scene.world).1

/-- A pass renders, is counted, and publishes the text. -/
theorem compilePass_eq : s.compilePass setup = ((s.rendered setup).1,
    State.publish setup { (s.rendered setup).2 with
      passes := (s.rendered setup).2.passes + 1, last := some (s.rendered setup).1 }) := by
  unfold compilePass rendered
  obtain ⟨result, after⟩ := s.attempt setup
  cases result <;> rfl

/-- Apart from what is noted and from the capture slot of its host, rendering changes only the
scene. -/
structure SameCore (s t : State σ) : Prop where
  store : t.host.store = s.host.store
  buffer : t.host.buffer = s.host.buffer
  scheduler : t.scheduler = s.scheduler
  sync : t.sync = s.sync
  passes : t.passes = s.passes

variable {setup s} in
theorem SameCore.trans {t u : State σ} (h : SameCore s t) (k : SameCore t u) : SameCore s u :=
  ⟨k.store.trans h.store, k.buffer.trans h.buffer, k.scheduler.trans h.scheduler,
    k.sync.trans h.sync, k.passes.trans h.passes⟩

theorem attempt_sameCore : SameCore s (s.attempt setup).2 := by
  obtain ⟨hstore, hbuffer⟩ := compile_files setup.service setup.options setup.pipeline s.host
  unfold attempt
  revert hstore hbuffer
  obtain ⟨result, host⟩ := compile setup.service setup.options setup.pipeline s.host
  intro hstore hbuffer
  cases result with
  | crashed message => exact ⟨hstore, hbuffer, rfl, rfl, rfl⟩
  | refused e => exact ⟨hstore, hbuffer, rfl, rfl, rfl⟩
  | compiled result =>
    dsimp only
    split <;> exact ⟨hstore, hbuffer, rfl, rfl, rfl⟩

theorem showFailure_sameCore (message : String) :
    SameCore s (s.showFailure setup message) := by
  unfold showFailure
  dsimp only
  split <;> exact ⟨rfl, rfl, rfl, rfl, rfl⟩

theorem rendered_sameCore : SameCore s (s.rendered setup).2 := by
  have hattempt := s.attempt_sameCore setup
  unfold rendered
  revert hattempt
  obtain ⟨result, after⟩ := s.attempt setup
  intro hattempt
  cases result with
  | ok outcome => exact hattempt
  | error message => exact hattempt.trans (after.showFailure_sameCore setup message)

/-! ### A pass within the session -/

@[simp] theorem compilePass_store : (s.compilePass setup).2.host.store = s.host.store := by
  rw [compilePass_eq]
  exact (s.rendered_sameCore setup).store

@[simp] theorem compilePass_buffer : (s.compilePass setup).2.buffer = s.buffer := by
  rw [compilePass_eq]
  exact (s.rendered_sameCore setup).buffer

@[simp] theorem compilePass_scheduler : (s.compilePass setup).2.scheduler = s.scheduler := by
  rw [compilePass_eq]
  exact (s.rendered_sameCore setup).scheduler

/-- After a pass the fragment that is remembered is that of the text. -/
@[simp] theorem compilePass_sync :
    (s.compilePass setup).2.sync = ⟨some (encode ⟨s.buffer⟩)⟩ := by
  rw [compilePass_eq]
  show FragmentSync.mk (some (encode ⟨(s.rendered setup).2.host.buffer⟩)) = _
  rw [(s.rendered_sameCore setup).buffer]
  rfl

@[simp] theorem compilePass_passes : (s.compilePass setup).2.passes = s.passes + 1 := by
  rw [compilePass_eq]
  show (s.rendered setup).2.passes + 1 = _
  rw [(s.rendered_sameCore setup).passes]

@[simp] theorem compilePass_last :
    (s.compilePass setup).2.last = some (s.compilePass setup).1 := by
  rw [compilePass_eq]
  rfl

/-! ### A pass within the world -/

/-- A pass ends with the request to the location. -/
theorem compilePass_world : (s.compilePass setup).2.scene.world =
    (setup.around.setFragment (encode ⟨s.buffer⟩) (s.rendered setup).2.scene.world).2 := by
  rw [compilePass_eq]
  show (Scene.attempt _ _ (setup.around.setFragment
    (encode ⟨(s.rendered setup).2.host.buffer⟩))).world = _
  rw [Scene.attempt_world, (s.rendered_sameCore setup).buffer]
  rfl

/-- Showing a failure changes the world as the act does by which it is shown. -/
theorem showFailure_run (message : String) : (s.showFailure setup message).scene.world =
    ((renderFailure setup.around message).run
      (s.scene.noting [⟨"error", "compilation failed: " ++ message, false⟩])).2.world := by
  unfold showFailure
  dsimp only
  obtain ⟨result, after⟩ := (renderFailure setup.around message).run _
  cases result <;> rfl

/-- Rendering runs errands to the pane and to the sandbox only. -/
theorem rendered_onlyShows : ∃ errands : List Errand, (∀ e ∈ errands, e.Shows) ∧
    (s.rendered setup).2.scene.world = setup.around.after errands s.scene.world := by
  have hattempt : ∃ errands : List Errand, (∀ e ∈ errands, e.Shows) ∧
      (s.attempt setup).2.scene.world = setup.around.after errands s.scene.world := by
    unfold attempt
    obtain ⟨result, host⟩ := compile setup.service setup.options setup.pipeline s.host
    cases result with
    | crashed message => exact ⟨[], List.forall_mem_nil _, rfl⟩
    | refused e => exact ⟨[], List.forall_mem_nil _, rfl⟩
    | compiled result =>
      have hrender := setup.renderer.render_onlyShows setup.around result
        (s.takingHostRemarks host).scene
      dsimp only
      revert hrender
      split <;> rename_i heq <;> rw [heq] <;> exact id
  -- a rendering that breaks off is followed by the errands that show the failure
  obtain ⟨first, hfirst, hworld⟩ := hattempt
  unfold rendered
  revert hworld
  obtain ⟨result, after⟩ := s.attempt setup
  intro hworld
  cases result with
  | ok outcome => exact ⟨first, hfirst, hworld⟩
  | error message =>
    obtain ⟨second, hsecond, hshown⟩ := renderFailure_onlyShows setup.around message
      (after.scene.noting [⟨"error", "compilation failed: " ++ message, false⟩])
    refine ⟨first ++ second, List.forall_mem_append.2 ⟨hfirst, hsecond⟩, ?_⟩
    rw [setup.around.after_append, ← hworld]
    exact (after.showFailure_run setup message).trans hshown

/-- Rendering changes the pane and the sandbox only. -/
theorem rendered_keeps {part : Part} {view : σ → α} (h : setup.around.Owns part view)
    (hp : part ≠ .pane) (hs : part ≠ .sandbox) :
    view (s.rendered setup).2.scene.world = view s.scene.world := by
  obtain ⟨errands, hshows, hworld⟩ := s.rendered_onlyShows setup
  rw [hworld]
  exact h.after (fun e he => (hshows e he).part_ne hp hs) s.scene.world

/-- Unless the location refused it, the location shows the text of the pass. -/
theorem compilePass_fragment (h : setup.around.HoldsFragment)
    (hok : (s.published setup).failure = none) :
    setup.around.fragment (s.compilePass setup).2.scene.world = some (encode ⟨s.buffer⟩) := by
  rw [compilePass_world]
  exact h.shows _ _ hok

/-- A pass leaves the editor alone. -/
theorem compilePass_keeps_editor {view : σ → α} (h : setup.around.Owns .editor view) :
    view (s.compilePass setup).2.scene.world = view s.scene.world := by
  rw [compilePass_world]
  refine (h (.setFragment _) Part.noConfusion _).trans ?_
  exact s.rendered_keeps setup h (by decide) (by decide)

end State

end Playground.Session
