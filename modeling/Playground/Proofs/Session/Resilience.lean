import Playground.Proofs.Session.Course

/-!
# A pass leaves the session intact

Whatever the service does and whichever parts refuse what they are given, a pass is counted and its
outcome is kept, the text is published once, and everything else in the session stays as it was.
Nor does it matter later how the pass went: what the session does on further steps depends on the
text, on the scheduler and on the fragment that is remembered, and on nothing else.

* `Surroundings.Leads` — errands lead from one world to another, some of which keep the text; in a
  world with a log, they are those that were logged;
* `compilePass_leads` — of the errands of a pass, only the last one keeps the text;
* `Alike`, `step_alike`, `run_alike` — sessions that go on alike, in whatever surroundings;
* `pass_leaves_session` — all of this about a pass.
-/

namespace Playground.Session

open Share

variable {σ τ α : Type}

/-! ### Errands that keep the text -/

/-- The errands by which the text is kept: those to the editor and to the location. -/
def Errand.keeping (errands : List Errand) : List Errand := errands.filter fun e => ¬ e.Shows

namespace Errand

variable {e : Errand} {errands rest : List Errand}

theorem keeping_cons_of_shows (h : e.Shows) : keeping (e :: rest) = keeping rest :=
  List.filter_cons_of_neg (by simpa using h)

theorem keeping_cons (h : ¬ e.Shows) : keeping (e :: rest) = e :: keeping rest :=
  List.filter_cons_of_pos (by simpa using h)

theorem keeping_eq_nil : keeping errands = [] ↔ ∀ e ∈ errands, e.Shows := by
  simp [keeping]

/-- Before the first errand that keeps the text, errands may be run by which something is shown. -/
theorem keeping_eq_cons {kept : List Errand} (h : keeping errands = e :: kept) :
    ∃ shown tail, errands = shown ++ e :: tail ∧ (∀ x ∈ shown, x.Shows) ∧ keeping tail = kept := by
  obtain ⟨shown, tail, rfl, hshown, -, htail⟩ := List.filter_eq_cons_iff.1 h
  exact ⟨shown, tail, rfl, fun x hx => by simpa using hshown x hx, htail⟩

/-- An errand to the location or to the editor shows nothing. -/
theorem not_shows_of_part (hp : e.part ≠ .pane) (hs : e.part ≠ .sandbox) : ¬ e.Shows :=
  fun h => h.elim hp hs

end Errand

/-- Errands lead from one world to another, and those of them that keep the text are the given
ones. -/
def Surroundings.Leads (around : Surroundings σ) (kept : List Errand) (v w : σ) : Prop :=
  ∃ errands, Errand.keeping errands = kept ∧ w = around.after errands v

namespace Surroundings.Leads

variable {around : Surroundings σ} {kept rest : List Errand} {v w x : σ}

theorem refl (around : Surroundings σ) (w : σ) : around.Leads [] w w := ⟨[], rfl, rfl⟩

theorem errand (around : Surroundings σ) {e : Errand} (h : ¬ e.Shows) (w : σ) :
    around.Leads [e] w (e.request around w).2 :=
  ⟨[e], Errand.keeping_cons h, rfl⟩

theorem shows {errands : List Errand} (h : ∀ e ∈ errands, e.Shows) :
    around.Leads [] w (around.after errands w) :=
  ⟨errands, Errand.keeping_eq_nil.2 h, rfl⟩

theorem trans (h : around.Leads kept v w) (k : around.Leads rest w x) :
    around.Leads (kept ++ rest) v x := by
  obtain ⟨first, rfl, rfl⟩ := h
  obtain ⟨second, rfl, rfl⟩ := k
  exact ⟨first ++ second, List.filter_append .., (around.after_append first second v).symm⟩

end Surroundings.Leads

/-- A world that keeps a list of the errands that were run in it, oldest first. -/
def Surroundings.Logs (around : Surroundings σ) (log : σ → List Errand) : Prop :=
  ∀ (e : Errand) w, log (e.request around w).2 = log w ++ [e]

/-- In such a world, the errands that lead from one state to another are those it was asked for. -/
theorem Surroundings.Leads.logged {around : Surroundings σ} {log : σ → List Errand}
    (hlog : around.Logs log) {kept : List Errand} {v w : σ} (h : around.Leads kept v w) :
    Errand.keeping (log w) = Errand.keeping (log v) ++ kept := by
  have hafter (errands : List Errand) (v : σ) :
      log (around.after errands v) = log v ++ errands := by
    induction errands generalizing v with
    | nil => exact (List.append_nil _).symm
    | cons e rest ih =>
      refine (ih _).trans ?_
      rw [hlog e v, List.append_assoc, List.singleton_append]
  obtain ⟨errands, rfl, rfl⟩ := h
  rw [hafter, Errand.keeping, List.filter_append]
  rfl

/-- Surroundings whose editors and locations go on alike in related worlds, whatever their panes and
their sandboxes do. -/
structure Surroundings.Agree (around : Surroundings σ) (other : Surroundings τ)
    (R : σ → τ → Prop) : Prop where
  editorText : ∀ v w, R v w → other.editorText w = around.editorText v
  fragment : ∀ v w, R v w → other.fragment w = around.fragment v
  both : ∀ e : Errand, ¬ e.Shows → ∀ v w, R v w →
    R (e.request around v).2 (e.request other w).2
  left : ∀ e : Errand, e.Shows → ∀ v w, R v w → R (e.request around v).2 w
  right : ∀ e : Errand, e.Shows → ∀ v w, R v w → R v (e.request other w).2

namespace Surroundings.Agree

variable {around : Surroundings σ} {other : Surroundings τ} {R : σ → τ → Prop}

/-- What is shown on the right does not matter. -/
theorem right_after (h : around.Agree other R) {errands : List Errand}
    (hshows : ∀ e ∈ errands, e.Shows) {v : σ} {w : τ} (hR : R v w) :
    R v (other.after errands w) := by
  induction errands generalizing w with
  | nil => exact hR
  | cons e rest ih =>
    exact ih (fun x hx => hshows x (List.mem_cons_of_mem _ hx))
      (h.right e (hshows e List.mem_cons_self) v w hR)

/-- Worlds are related again after errands by which the text is kept alike. -/
theorem leads (h : around.Agree other R) {kept : List Errand} {v v' : σ} {w w' : τ}
    (hv : around.Leads kept v v') (hw : other.Leads kept w w') (hR : R v w) : R v' w' := by
  obtain ⟨first, hfirst, rfl⟩ := hv
  obtain ⟨second, hsecond, rfl⟩ := hw
  have hkept : Errand.keeping second = Errand.keeping first := hsecond.trans hfirst.symm
  clear hfirst hsecond
  -- along the errands on the left, those on the right follow as far as they keep the text
  induction first generalizing v w second with
  | nil => exact h.right_after (Errand.keeping_eq_nil.1 hkept) hR
  | cons e rest ih =>
    by_cases he : e.Shows
    · rw [Errand.keeping_cons_of_shows he] at hkept
      exact ih (h.left e he v w hR) second hkept
    · rw [Errand.keeping_cons he] at hkept
      -- on the right, something may be shown before the same errand is run
      obtain ⟨shown, tail, rfl, hshown, htail⟩ := Errand.keeping_eq_cons hkept
      rw [other.after_append]
      exact ih (h.both e he v _ (h.right_after hshown hR)) tail htail

end Surroundings.Agree

/-! ### Sessions that go on alike -/

/-- Two sessions with the same text, the same scheduler and the same fragment remembered. -/
structure State.Alike (s : State σ) (t : State τ) : Prop where
  buffer : t.buffer = s.buffer
  scheduler : t.scheduler = s.scheduler
  sync : t.sync = s.sync

/-- Two sessions go on alike from where they were, and ask for the same errands by which the text
is kept. -/
def State.GoOnAlike (setup : Setup σ) (other : Setup τ) (s s' : State σ) (t t' : State τ) : Prop :=
  s'.Alike t' ∧ ∃ kept, setup.around.Leads kept s.scene.world s'.scene.world ∧
    other.around.Leads kept t.scene.world t'.scene.world

namespace State

/-- Of the errands of a pass only the last one keeps the text: the one that publishes it. -/
theorem compilePass_leads (setup : Setup σ) (s : State σ) :
    setup.around.Leads [.setFragment (encode ⟨s.buffer⟩)] s.scene.world
      (s.compilePass setup).2.scene.world := by
  obtain ⟨errands, hshows, hworld⟩ := s.rendered_onlyShows setup
  rw [compilePass_world, hworld]
  exact (Surroundings.Leads.shows hshows).trans
    (.errand setup.around (Errand.not_shows_of_part Part.noConfusion Part.noConfusion) _)

variable (setup : Setup σ) (other : Setup τ)

variable {setup other} in
theorem GoOnAlike.trans {s s' s'' : State σ} {t t' t'' : State τ}
    (h : GoOnAlike setup other s s' t t') (k : GoOnAlike setup other s' s'' t' t'') :
    GoOnAlike setup other s s'' t t'' := by
  obtain ⟨-, kept, hs, ht⟩ := h
  obtain ⟨halike, rest, hs', ht'⟩ := k
  exact ⟨halike, kept ++ rest, hs.trans hs', ht.trans ht'⟩

variable {s : State σ} {t : State τ}

/-- After passes over the same text, whatever came of them, two sessions are alike. -/
theorem compilePass_alike (hbuffer : t.buffer = s.buffer) (hscheduler : t.scheduler = s.scheduler) :
    GoOnAlike setup other s (s.compilePass setup).2 t (t.compilePass other).2 := by
  refine ⟨⟨?_, ?_, ?_⟩, [.setFragment (encode ⟨s.buffer⟩)], s.compilePass_leads setup, ?_⟩
  · rw [compilePass_buffer, compilePass_buffer, hbuffer]
  · rw [compilePass_scheduler, compilePass_scheduler, hscheduler]
  · rw [compilePass_sync, compilePass_sync, hbuffer]
  · rw [← hbuffer]
    exact t.compilePass_leads other

/-- An activity is noted alike. -/
theorem record_alike (h : s.Alike t) (activity : Activity) (now : Nat) :
    GoOnAlike setup other s (s.record activity now) t (t.record activity now) :=
  ⟨⟨h.buffer, congrArg (Scheduler.record · activity now) h.scheduler, h.sync⟩,
    [], .refl setup.around _, .refl other.around _⟩

/-- An event is taken in alike. -/
theorem event_alike (h : s.Alike t) (e : EditorEvent) (now : Nat) :
    GoOnAlike setup other s (s.event setup e now) t (t.event other e now) := by
  cases e with
  | contentChanged text =>
    simp only [event, h.buffer]
    split
    · exact record_alike setup other h .cursorMoved now
    · exact record_alike setup other (s := s.edit text) (t := t.edit text)
        ⟨rfl, h.scheduler, h.sync⟩ .contentChanged now
  | cursorMoved => exact record_alike setup other h .cursorMoved now
  | selectionChanged => exact record_alike setup other h .selectionChanged now
  | fragmentChanged fragment =>
    -- what arrives is told by the fragment that is remembered, not by what was shown
    have harrive : (t.arrive fragment).1 = (s.arrive fragment).1 := by simp only [arrive, h.sync]
    have hsync : (t.arrive fragment).2.sync = (s.arrive fragment).2.sync := by
      simp only [arrive, h.sync]
    cases hs : (s.arrive fragment).1 with
    | none =>
      rw [event_ignored setup hs, event_ignored other (harrive.trans hs)]
      exact ⟨⟨h.buffer, h.scheduler, hsync⟩, [], .refl setup.around _, .refl other.around _⟩
    | some state =>
      refine ⟨?_, [.setEditor state.source], ?_, ?_⟩
      · rw [event_accepted setup hs, event_accepted other (harrive.trans hs)]
        exact ⟨rfl, congrArg (Scheduler.record · .contentChanged now) h.scheduler, hsync⟩
      · rw [event_accepted_world setup hs]
        exact .errand setup.around (Errand.not_shows_of_part Part.noConfusion Part.noConfusion) _
      · rw [event_accepted_world other (harrive.trans hs)]
        exact .errand other.around (Errand.not_shows_of_part Part.noConfusion Part.noConfusion) _

/-- A tick finds the same passes due. -/
theorem tick_alike (h : s.Alike t) (now : Nat) :
    GoOnAlike setup other s (s.tick setup now).2 t (t.tick other now).2 := by
  rw [tick_eq, tick_eq, h.scheduler]
  -- a pass is due in both sessions, or in neither
  split
  · exact compilePass_alike setup other (s := s.polled now) (t := t.polled now) h.buffer
      (congrArg (fun scheduler => (scheduler.poll now).2) h.scheduler)
  · exact ⟨h, [], .refl setup.around _, .refl other.around _⟩

/-- Sessions that are alike take every step alike. -/
theorem step_alike (h : s.Alike t) (x : Step) :
    GoOnAlike setup other s (s.step setup x) t (t.step other x) := by
  cases x with
  | event e now => exact event_alike setup other h e now
  | tick now => exact tick_alike setup other h now
  | pass => exact compilePass_alike setup other h.buffer h.scheduler

/-- The session after some steps. -/
def run (s : State σ) (steps : List Step) : State σ := steps.foldl (step setup) s

/-- Sessions that are alike go on alike. -/
theorem run_alike (h : s.Alike t) (steps : List Step) :
    GoOnAlike setup other s (s.run setup steps) t (t.run other steps) := by
  induction steps generalizing s t with
  | nil => exact ⟨h, [], .refl setup.around _, .refl other.around _⟩
  | cons x rest ih =>
    have hstep := step_alike setup other h x
    exact hstep.trans (ih hstep.1)

end State

/-! ### What a pass leaves as it was -/

/-- **A pass leaves the session intact.** Whatever the service does and whichever parts refuse what
they are given, a pass is counted and its outcome is kept; the text, the files and the scheduler
stay as they are, and so does an editor that only its own errands change.  The location is asked
once, to show the text, and the editor is asked for nothing.

From there the session goes on as after any other pass over the same text, be it with another
service and among other parts: the same texts are put into the editor and the same fragments are
published, and if editors and locations of two worlds go on alike, then they do here. -/
theorem pass_leaves_session (setup : Setup σ) (s : State σ) :
    let t := (s.compilePass setup).2
    t.passes = s.passes + 1 ∧ t.last = some (s.compilePass setup).1 ∧
    t.buffer = s.buffer ∧ t.scheduler = s.scheduler ∧ t.host.store = s.host.store ∧
    t.sync.current = some (encode ⟨s.buffer⟩) ∧
    (setup.around.Owns .editor setup.around.editorText →
      setup.around.editorText t.scene.world = setup.around.editorText s.scene.world) ∧
    setup.around.Leads [.setFragment (encode ⟨s.buffer⟩)] s.scene.world t.scene.world ∧
    ∀ (τ : Type) (other : Setup τ) (u : State τ), u.buffer = s.buffer → u.scheduler = s.scheduler →
      ∀ steps : List Step,
        let x := t.run setup steps
        let y := (u.compilePass other).2.run other steps
        State.GoOnAlike setup other s x u y ∧
        ∀ R, setup.around.Agree other.around R → R s.scene.world u.scene.world →
          other.around.editorText y.scene.world = setup.around.editorText x.scene.world ∧
          other.around.fragment y.scene.world = setup.around.fragment x.scene.world := by
  intro t
  refine ⟨s.compilePass_passes setup, s.compilePass_last setup, s.compilePass_buffer setup,
    s.compilePass_scheduler setup, s.compilePass_store setup,
    congrArg FragmentSync.current (s.compilePass_sync setup), s.compilePass_keeps_editor setup,
    s.compilePass_leads setup, ?_⟩
  intro τ other u hbuffer hscheduler steps x y
  -- the two passes make the sessions alike, and from there every step does
  have hpass := State.compilePass_alike setup other hbuffer hscheduler
  have hgo : State.GoOnAlike setup other s x u y :=
    hpass.trans (State.run_alike setup other hpass.1 steps)
  refine ⟨hgo, fun R hagree hR => ?_⟩
  obtain ⟨-, kept, hs, hu⟩ := hgo
  have hR' := hagree.leads hs hu hR
  exact ⟨hagree.editorText _ _ hR', hagree.fragment _ _ hR'⟩

/-! ### Worlds with a log -/

/-- An errand in a world with a log. -/
def Errand.logged (around : Surroundings σ) (e : Errand) : Request (σ × List Errand) := fun w =>
  ((e.request around w.1).1, (e.request around w.1).2, w.2 ++ [e])

namespace Surroundings

/-- The same surroundings, in a world with a log. -/
def logged (around : Surroundings σ) : Surroundings (σ × List Errand) where
  editorText w := around.editorText w.1
  setEditor text := Errand.logged around (.setEditor text)
  setPane text := Errand.logged around (.setPane text)
  load document := Errand.logged around (.load document)
  clear := Errand.logged around .clear
  fragment w := around.fragment w.1
  setFragment fragment := Errand.logged around (.setFragment fragment)

theorem logged_request (around : Surroundings σ) (e : Errand) :
    e.request around.logged = e.logged around := by
  cases e <;> rfl

theorem logged_logs (around : Surroundings σ) : around.logged.Logs Prod.snd := by
  intro e w
  rw [logged_request]
  rfl

/-- Logs do not matter to what the editors and the locations do. -/
theorem Agree.logged {around : Surroundings σ} {other : Surroundings τ} {R : σ → τ → Prop}
    (h : around.Agree other R) : around.logged.Agree other.logged fun v w => R v.1 w.1 where
  editorText v w := h.editorText v.1 w.1
  fragment v w := h.fragment v.1 w.1
  both e he v w hR := by
    rw [logged_request, logged_request]
    exact h.both e he v.1 w.1 hR
  left e he v w hR := by
    rw [logged_request]
    exact h.left e he v.1 w.1 hR
  right e he v w hR := by
    rw [logged_request]
    exact h.right e he v.1 w.1 hR

end Surroundings

/-- What is shown on a board changes neither its text nor its fragment. -/
theorem Board.refusing_shows (refuses : Errand → Bool) {e : Errand} (h : e.Shows) (b : Board) :
    (e.request (Board.refusing refuses) b).2.editor = b.editor ∧
      (e.request (Board.refusing refuses) b).2.fragment = b.fragment :=
  ⟨Board.refusing_owns refuses .editor e (h.part_ne Part.noConfusion Part.noConfusion) b,
    Board.refusing_owns refuses .location e (h.part_ne Part.noConfusion Part.noConfusion) b⟩

/-- Boards that refuse at most to show something have editors and locations that go on alike. -/
theorem Board.refusing_agree (refuses others : Errand → Bool)
    (h : ∀ e, refuses e = true → e.Shows) (k : ∀ e, others e = true → e.Shows) :
    (Board.refusing refuses).Agree (Board.refusing others)
      fun b c => c.editor = b.editor ∧ c.fragment = b.fragment where
  editorText b c hR := hR.1
  fragment b c hR := hR.2
  both e he b c hR := by
    simp only [Board.refusing_request, Board.answer, if_neg fun hr => he (h e hr),
      if_neg fun hr => he (k e hr)]
    cases e <;> simp_all [Board.after]
  left e he b c hR := by
    rw [(Board.refusing_shows refuses he b).1, (Board.refusing_shows refuses he b).2]
    exact hR
  right e he b c hR := by
    rw [(Board.refusing_shows others he c).1, (Board.refusing_shows others he c).2]
    exact hR

/-- After a crash that could not be shown, a board goes on as one on which the script was shown: the
same errands are run by which the text is kept, and the same permalinks are published. -/
theorem pass_leaves_session_on_board :
    let mute : Errand → Bool := fun e => e.Shows
    let failing : Setup (Board × List Errand) :=
      { Board.setup with service := Board.crashing, around := (Board.refusing mute).logged }
    let working : Setup (Board × List Errand) :=
      { Board.setup with around := (Board.refusing fun _ => false).logged }
    let s := (State.initial .empty 1500 (({ document := some "old" } : Board), [])).edit "a"
    let steps := [.event (.contentChanged "b") 10, .event .cursorMoved 20, .tick 1520]
    let x := (s.compilePass failing).2.run failing steps
    let y := (s.compilePass working).2.run working steps
    (s.compilePass failing).1 = .failed ∧ (s.compilePass working).1 = .emitted ∧
      Errand.keeping (s.compilePass failing).2.scene.world.2 = [.setFragment (encode ⟨"a"⟩)] ∧
      Errand.keeping x.scene.world.2 = Errand.keeping y.scene.world.2 ∧
      y.scene.world.1.fragment = x.scene.world.1.fragment := by
  intro mute failing working s steps x y
  have hagree := (Board.refusing_agree mute (fun _ => false) (fun _ => of_decide_eq_true)
    fun _ h => Bool.noConfusion h).logged
  obtain ⟨-, -, -, -, -, -, -, hleads, hlater⟩ := pass_leaves_session failing s
  obtain ⟨⟨-, kept, hx, hy⟩, hR⟩ := hlater _ working s rfl rfl steps
  refine ⟨rfl, rfl, hleads.logged (Surroundings.logged_logs _), ?_, (hR _ hagree ⟨rfl, rfl⟩).2⟩
  rw [hx.logged (Surroundings.logged_logs _), hy.logged (Surroundings.logged_logs _)]

end Playground.Session
