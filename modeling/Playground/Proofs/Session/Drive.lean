import Playground.Proofs.Session.Pass
import Playground.Proofs.Share.FragmentSync

/-!
# What an event, a tick and the start change

Events come in two kinds: those that replace the text, and those that leave it alone.  The first
kind always opens a window of the scheduler; the second kind changes nothing but a window that is
open already.  Ticks and the start are passes over a session that is prepared for them.

* `replacement?` — the text that an event puts in place of the one being edited;
* `event_replaces`, `event_quiet` — the two kinds;
* `tick_eq`, `start_eq` — the session that a tick or the start runs its pass over.
-/

namespace Playground.Session

open Share

variable {σ α : Type}

/-! ### The scheduler -/

namespace Scheduler

variable (s : Scheduler) (now : Nat)

/-- A change of the content opens a window, whatever was before. -/
@[simp] theorem record_contentChanged :
    (s.record .contentChanged now).state = .pending (now + s.quiescence) := by
  simp [record, opens, arm]

/-- A move of the cursor neither opens the first window nor closes one. -/
theorem record_idle_iff {activity : Activity} (h : activity ≠ .contentChanged) :
    (s.record activity now).state = .idle ↔ s.state = .idle := by
  unfold record
  split
  · rename_i hopens
    -- only a window that is open is extended
    have hpending : s.state ≠ .idle := by
      intro hidle
      cases activity <;> simp_all [opens]
    simp [arm, hpending]
  · exact Iff.rfl

/-- A window that has elapsed is closed by looking at it. -/
theorem poll_eq : s.poll now = match s.state with
    | .pending d => if d ≤ now then (true, s.cancel) else (false, s)
    | .idle => (false, s) := rfl

/-- A pass is due only if a window is open, which is closed then. -/
theorem poll_due (h : (s.poll now).1 = true) :
    (∃ d, s.state = .pending d ∧ d ≤ now) ∧ (s.poll now).2 = s.cancel := by
  rw [poll_eq] at h ⊢
  cases hs : s.state with
  | idle => simp [hs] at h
  | pending d =>
    simp only [hs] at h ⊢
    split at h
    · rename_i hd
      simp [hd]
    · cases h

end Scheduler

namespace State

variable (setup : Setup σ) (s : State σ)

/-! ### Events -/

/-- The text that an event puts in place of the one being edited: another text of the editor, or
the source of a fragment that is accepted. -/
def replacement? : EditorEvent → Option String
  | .contentChanged text => if s.buffer = text then none else some text
  | .fragmentChanged fragment => (s.arrive fragment).1.map (·.source)
  | .cursorMoved | .selectionChanged => none

/-- A session that goes on with the same text, in the same world, with a window open exactly if
one was open before. -/
structure Quiet (s t : State σ) : Prop where
  host : t.host = s.host
  sync : t.sync = s.sync
  world : t.scene.world = s.scene.world
  passes : t.passes = s.passes
  last : t.last = s.last
  idle : t.scheduler.state = .idle ↔ s.scheduler.state = .idle

theorem Quiet.buffer {s t : State σ} (h : Quiet s t) : t.buffer = s.buffer :=
  congrArg Compiler.VirtualHost.buffer h.host

/-- A session that goes on with another text, and with a window open. -/
structure Replaced (s t : State σ) (text : String) : Prop where
  store : t.host.store = s.host.store
  buffer : t.buffer = text
  passes : t.passes = s.passes
  last : t.last = s.last
  pending : ∃ d, t.scheduler.state = .pending d

variable {setup s}

/-- Noting a move of the cursor leaves the text alone. -/
theorem record_quiet {activity : Activity} (h : activity ≠ .contentChanged) (now : Nat) :
    Quiet s (s.record activity now) :=
  ⟨rfl, rfl, rfl, rfl, rfl, s.scheduler.record_idle_iff now h⟩

/-- The fragment that is remembered is taken for an echo. -/
theorem arrive_echo {fragment : String} (h : s.sync.current = some (withoutHash fragment)) :
    s.arrive fragment = (none, s.noting Arrival.echo.remarks) := by
  simp only [arrive, FragmentSync.arrive_echo h]
  rfl

/-- Any other fragment is accepted if it can be read. -/
theorem arrive_accepted {fragment : String} {state : ShareState}
    (h : s.sync.current ≠ some (withoutHash fragment))
    (hdecode : tryDecode (withoutHash fragment) = .ok state) :
    (s.arrive fragment).1 = some state := by
  simp only [arrive, FragmentSync.arrive_accepted h hdecode]
  rfl

/-- A fragment that is not accepted leaves the fragment that is remembered alone. -/
theorem arrive_none {fragment : String} (h : (s.arrive fragment).1 = none) :
    Quiet s (s.arrive fragment).2 := by
  have hsync : (s.sync.arrive fragment).2 = s.sync := FragmentSync.arrive_of_state?_eq_none h
  exact ⟨rfl, hsync, rfl, rfl, rfl, Iff.rfl⟩

variable (setup) in
/-- A fragment that is not accepted changes nothing else. -/
theorem event_ignored {fragment : String} (h : (s.arrive fragment).1 = none) (now : Nat) :
    s.event setup (.fragmentChanged fragment) now = (s.arrive fragment).2 := by
  have heq : s.arrive fragment = (none, (s.arrive fragment).2) := by rw [← h]
  simp only [event]
  rw [heq]

/-- An event that is no replacement leaves the text alone. -/
theorem event_quiet {e : EditorEvent} (h : s.replacement? e = none) (now : Nat) :
    Quiet s (s.event setup e now) := by
  cases e with
  | contentChanged text =>
    have hsame : s.buffer = text := by simpa [replacement?] using h
    simp only [event, if_pos hsame]
    exact record_quiet Activity.noConfusion now
  | cursorMoved => exact record_quiet Activity.noConfusion now
  | selectionChanged => exact record_quiet Activity.noConfusion now
  | fragmentChanged fragment =>
    have harrive : (s.arrive fragment).1 = none := Option.map_eq_none_iff.1 h
    rw [event_ignored setup harrive]
    exact arrive_none harrive

variable (setup) in
/-- A fragment that is accepted is put into the editor and into the session. -/
theorem event_accepted {fragment : String} {state : ShareState}
    (h : (s.arrive fragment).1 = some state) (now : Nat) :
    s.event setup (.fragmentChanged fragment) now =
      (((s.arrive fragment).2.noting [⟨"share", "navigated to a shared source", false⟩]).setEditor
        setup state.source |>.edit state.source).record .contentChanged now := by
  have heq : s.arrive fragment = (some state, (s.arrive fragment).2) := by rw [← h]
  simp only [event]
  rw [heq]

variable (setup) in
/-- A fragment that is accepted has its source put into the editor. -/
theorem event_accepted_world {fragment : String} {state : ShareState}
    (h : (s.arrive fragment).1 = some state) (now : Nat) :
    (s.event setup (.fragmentChanged fragment) now).scene.world =
      (setup.around.setEditor state.source s.scene.world).2 := by
  rw [event_accepted setup h]
  exact Scene.attempt_world ..

/-- A replacement opens a window. -/
theorem event_replaces {e : EditorEvent} {text : String} (h : s.replacement? e = some text)
    (now : Nat) : Replaced s (s.event setup e now) text := by
  cases e with
  | contentChanged other =>
    obtain ⟨hne, rfl⟩ : s.buffer ≠ other ∧ other = text := by simpa [replacement?] using h
    simp only [event, if_neg hne]
    exact ⟨rfl, rfl, rfl, rfl, _, Scheduler.record_contentChanged _ now⟩
  | cursorMoved => cases h
  | selectionChanged => cases h
  | fragmentChanged fragment =>
    obtain ⟨state, harrive, rfl⟩ := Option.map_eq_some_iff.1 h
    rw [event_accepted setup harrive]
    exact ⟨rfl, rfl, rfl, rfl, _, Scheduler.record_contentChanged _ now⟩

/-- An event asks at most for the text of the editor to be changed. -/
theorem event_keeps {part : Part} {view : σ → α} (h : setup.around.Owns part view)
    (hp : part ≠ .editor) (e : EditorEvent) (now : Nat) :
    view (s.event setup e now).scene.world = view s.scene.world := by
  cases hr : s.replacement? e with
  | none => rw [(event_quiet hr now).world]
  | some text =>
    cases e with
    | contentChanged other =>
      simp only [event]
      split <;> rfl
    | cursorMoved => rfl
    | selectionChanged => rfl
    | fragmentChanged fragment =>
      obtain ⟨state, harrive, rfl⟩ := Option.map_eq_some_iff.1 hr
      rw [event_accepted_world setup harrive]
      exact h (.setEditor state.source) hp.symm _

/-! ### Ticks and the start -/

variable (setup s)

/-- The session that a tick runs its pass over. -/
def polled (now : Nat) : State σ := { s with scheduler := (s.scheduler.poll now).2 }

/-- A tick runs a pass exactly if one is due. -/
theorem tick_eq (now : Nat) : s.tick setup now =
    if (s.scheduler.poll now).1 then
      (some ((s.polled now).compilePass setup).1, ((s.polled now).compilePass setup).2)
    else (none, s) := by
  unfold tick polled
  obtain ⟨due, scheduler⟩ := s.scheduler.poll now
  cases due <;> rfl

/-- The session that the start runs its pass over. -/
def opened : State σ :=
  let (source, s) := s.chooseSource setup
  let s := if setup.around.editorText s.scene.world = some source then s
    else s.setEditor setup source
  State.noting { s.edit source with scheduler := s.scheduler.cancel }
    [.detail "session" "started at Instant"]

/-- The start runs a pass over the text that was chosen. -/
theorem start_eq (now : Nat) : s.start setup now = (s.opened setup).compilePass setup := rfl

/-- The start closes a window that is open. -/
theorem opened_idle : (s.opened setup).scheduler.state = .idle := rfl

/-- Choosing a text is no pass, and changes no file. -/
theorem chooseSource_keeps : (s.chooseSource setup).2.passes = s.passes ∧
    (s.chooseSource setup).2.host = s.host := by
  unfold chooseSource
  cases setup.around.fragment s.scene.world with
  | none => exact ⟨rfl, rfl⟩
  | some fragment =>
    dsimp only
    split <;> exact ⟨rfl, rfl⟩

/-- The session that the start runs its pass over is made from the text that was chosen. -/
theorem opened_keeps : (s.opened setup).passes = s.passes ∧
    (s.opened setup).host = s.host.edit (s.chooseSource setup).1 := by
  obtain ⟨hpasses, hhost⟩ := s.chooseSource_keeps setup
  unfold opened
  revert hpasses hhost
  obtain ⟨source, after⟩ := s.chooseSource setup
  intro hpasses hhost
  have hedit : (after.edit source).host = s.host.edit source :=
    congrArg (Compiler.VirtualHost.edit · source) hhost
  dsimp only
  split <;> exact ⟨hpasses, hedit⟩

/-- The session goes on with the text that was chosen. -/
theorem start_buffer (now : Nat) : (s.start setup now).2.buffer = (s.chooseSource setup).1 := by
  rw [start_eq, compilePass_buffer]
  exact congrArg Compiler.VirtualHost.buffer (s.opened_keeps setup).2

/-- The fragment that is remembered is that of the text. -/
theorem start_sync (now : Nat) : (s.start setup now).2.sync =
    ⟨some (encode ⟨(s.start setup now).2.buffer⟩)⟩ := by
  rw [start_eq, compilePass_sync, compilePass_buffer]

/-- Choosing a text changes nothing in the world. -/
theorem chooseSource_world : (s.chooseSource setup).2.scene.world = s.scene.world := by
  unfold chooseSource
  cases setup.around.fragment s.scene.world with
  | none => rfl
  | some fragment =>
    dsimp only
    split <;> rfl

/-- The world in which the pass of the start runs: the editor was given the text that was chosen,
unless it held it. -/
theorem opened_world : (s.opened setup).scene.world =
    if setup.around.editorText s.scene.world = some (s.chooseSource setup).1 then s.scene.world
    else (setup.around.setEditor (s.chooseSource setup).1 s.scene.world).2 := by
  have hworld := s.chooseSource_world setup
  unfold opened
  revert hworld
  obtain ⟨source, after⟩ := s.chooseSource setup
  intro hworld
  dsimp only at hworld ⊢
  rw [hworld]
  split
  · exact hworld
  · rw [← hworld]
    exact Scene.attempt_world ..

/-- Before its pass, the start asks at most for the text of the editor to be changed. -/
theorem opened_view {part : Part} {view : σ → α} (h : setup.around.Owns part view)
    (hp : part ≠ .editor) : view (s.opened setup).scene.world = view s.scene.world := by
  rw [opened_world]
  split
  · rfl
  · exact h (.setEditor _) hp.symm _

/-- The text that was chosen is in the editor, if the editor takes it. -/
theorem opened_editor
    (h : ∀ text w, setup.around.editorText (setup.around.setEditor text w).2 = some text) :
    setup.around.editorText (s.opened setup).scene.world = some (s.chooseSource setup).1 := by
  rw [opened_world]
  split
  · next hsame => exact hsame
  · exact h _ _

end State

end Playground.Session
