import Playground.Proofs.Session.Board
import Playground.Proofs.Session.Drive

/-!
# No edit is lost, and no permalink is stale

`Course` follows a session from its start through any events, ticks and passes, and keeps a
history of its passes and of the texts that replaced one another.  The history is a ghost: no
function of the session reads it.  The invariant `Course.Sound` ties it to the session:

* while no window is open, the last pass ran over the present text and the remembered fragment is
  that of the text;
* while a window is open, the present text has been put in place since the last pass that was due;
* the location shows the text of the last pass, unless it refused it.

`course_idle_published` is what follows for every session that can be reached.
-/

namespace Playground.Session

open Share Snapshot

variable {σ : Type}

/-! ### Histories -/

/-- What drives a session that has been started. -/
inductive Step where
  | event (e : EditorEvent) (now : Nat)
  | tick (now : Nat)
  | pass

/-- Why a pass was run. -/
inductive PassCause where
  | start
  | tick
  | request
deriving DecidableEq

/-- What is remembered about a step. -/
inductive Moment (σ : Type) where
  /-- a pass was run over the session as it was then -/
  | passed (cause : PassCause) (before : State σ)
  /-- an event put this text in place of the one being edited -/
  | replaced (text : String)

/-- A session, and what happened in it, latest first. -/
structure Course (σ : Type) where
  state : State σ
  moments : List (Moment σ)

namespace Moment

/-- Whether a moment is a pass. -/
def isPass : Moment σ → Bool
  | passed .. => true
  | replaced _ => false

/-- The session over which the last pass was run. -/
def lastPass? : List (Moment σ) → Option (State σ)
  | [] => none
  | passed _ before :: _ => some before
  | replaced _ :: earlier => lastPass? earlier

/-- The text that was put in place last. -/
def lastText? : List (Moment σ) → Option String
  | [] => none
  | replaced text :: _ => some text
  | passed .. :: earlier => lastText? earlier

/-- The text that was put in place last, if that was after the last pass that was due and after
the start. -/
def newText? : List (Moment σ) → Option String
  | [] => none
  | replaced text :: _ => some text
  | passed .request _ :: earlier => newText? earlier
  | passed _ _ :: _ => none

/-- A text that is new is the one that was put in place last. -/
theorem lastText?_of_newText? {moments : List (Moment σ)} {text : String}
    (h : newText? moments = some text) : lastText? moments = some text := by
  induction moments with
  | nil => exact h
  | cons m earlier ih =>
    cases m with
    | replaced other => exact h
    | passed cause before =>
      cases cause with
      | start => cases h
      | tick => cases h
      | request => exact ih h

/-- A text that is new was put in place after the last pass that was due. -/
theorem replaced_mem_of_newText? {before : State σ} {earlier between : List (Moment σ)}
    {text : String} (h : newText? (between ++ passed .tick before :: earlier) = some text) :
    replaced text ∈ between := by
  induction between with
  | nil => cases h
  | cons m rest ih =>
    cases m with
    | replaced other =>
      cases h
      exact List.mem_cons_self
    | passed cause b =>
      cases cause with
      | start => cases h
      | tick => cases h
      | request => exact List.mem_cons_of_mem _ (ih h)

end Moment

open Moment

/-! ### Courses -/

namespace State

variable (setup : Setup σ) (s : State σ)

/-- The session after a step. -/
def step : Step → State σ
  | .event e now => s.event setup e now
  | .tick now => (s.tick setup now).2
  | .pass => (s.compilePass setup).2

/-- What is remembered about a step. -/
def moment? : Step → Option (Moment σ)
  | .event e _ => (s.replacement? e).map .replaced
  | .tick now => if (s.tick setup now).1.isSome then some (.passed .tick (s.polled now)) else none
  | .pass => some (.passed .request s)

end State

namespace Course

variable (setup : Setup σ)

/-- The course of a session that is started. -/
def start (s : State σ) (now : Nat) : Course σ :=
  ⟨(s.start setup now).2, [.passed .start (s.opened setup)]⟩

/-- The course after one more step. -/
def step (c : Course σ) (x : Step) : Course σ :=
  ⟨c.state.step setup x, (c.state.moment? setup x).toList ++ c.moments⟩

/-- The course after some steps. -/
def run (c : Course σ) (steps : List Step) : Course σ := steps.foldl (step setup) c

/-! ### The invariant -/

/-- Every pass that was due ran over a text that was new. -/
def TicksRunNewTexts (moments : List (Moment σ)) : Prop :=
  ∀ later before earlier, moments = later ++ .passed .tick before :: earlier →
    newText? earlier = some before.buffer

/-- How the session and the history of a course belong together. -/
structure Sound (c : Course σ) : Prop where
  /-- the history misses no pass -/
  passes : c.state.passes = c.moments.countP isPass
  /-- with no window open, the last pass ran over the present text, which is published -/
  idle : c.state.scheduler.state = .idle →
    (lastPass? c.moments).map State.buffer = some c.state.buffer ∧
      c.state.sync.current = some (encode ⟨c.state.buffer⟩)
  /-- with a window open, the present text is new -/
  pending : ∀ d, c.state.scheduler.state = .pending d →
    newText? c.moments = some c.state.buffer
  /-- the location shows the text of the last pass, unless it refused it -/
  location : setup.around.HoldsFragment → ∀ before, lastPass? c.moments = some before →
    (before.published setup).failure = none →
      setup.around.fragment c.state.scene.world = some (encode ⟨before.buffer⟩)
  ticks : TicksRunNewTexts c.moments

variable {setup}

/-- A pass makes a course sound.  If it was due, the text was new; and if a window is still open
then the text has been new ever since. -/
theorem sound_of_pass (cause : PassCause) {before : State σ} {moments : List (Moment σ)}
    (hpasses : before.passes = moments.countP isPass) (hticks : TicksRunNewTexts moments)
    (hnew : cause = .tick → newText? moments = some before.buffer)
    (hopen : ∀ d, before.scheduler.state = .pending d →
      newText? (.passed cause before :: moments) = some before.buffer) :
    Sound setup ⟨(before.compilePass setup).2, .passed cause before :: moments⟩ where
  passes := by
    rw [State.compilePass_passes, hpasses, List.countP_cons_of_pos rfl]
  idle _ := by simp [lastPass?]
  pending d hd := by simpa using hopen d (by simpa using hd)
  location hheld b hb hok := by
    cases hb
    exact before.compilePass_fragment setup hheld hok
  ticks := by
    intro later b earlier heq
    -- the pass is the latest moment, and the earlier ones are as they were
    cases later with
    | nil =>
      obtain ⟨⟨rfl, rfl⟩, rfl⟩ : (cause = .tick ∧ before = b) ∧ moments = earlier := by
        simpa using heq
      exact hnew rfl
    | cons m later => exact hticks later b earlier (List.cons.inj heq).2

/-- The start is a pass over the text that it chose, with no window open. -/
theorem start_sound {s : State σ} (h : s.passes = 0) (now : Nat) :
    Sound setup (start setup s now) := by
  refine sound_of_pass .start ((s.opened_keeps setup).1.trans h) ?_ PassCause.noConfusion ?_
  · intro later b earlier heq
    simp at heq
  · intro d hd
    exact SchedulerState.noConfusion ((s.opened_idle setup).symm.trans hd)

/-- An event that leaves the text alone leaves a course sound. -/
theorem Sound.quiet {c : Course σ} (hc : Sound setup c) {t : State σ}
    (h : c.state.Quiet t) : Sound setup ⟨t, c.moments⟩ where
  passes := h.passes.trans hc.passes
  idle hidle := by
    rw [h.buffer, h.sync]
    exact hc.idle (h.idle.1 hidle)
  pending d hd := by
    cases hs : c.state.scheduler.state with
    | idle => simp [h.idle.2 hs] at hd
    | pending d' =>
      rw [h.buffer]
      exact hc.pending d' hs
  location hheld before hb hok := by
    rw [h.world]
    exact hc.location hheld before hb hok
  ticks := hc.ticks

/-- An event that replaces the text opens a window over a new text. -/
theorem Sound.replaced {c : Course σ} (hc : Sound setup c) {t : State σ} {text : String}
    (h : c.state.Replaced t text)
    (hkeeps : setup.around.HoldsFragment →
      setup.around.fragment t.scene.world = setup.around.fragment c.state.scene.world) :
    Sound setup ⟨t, .replaced text :: c.moments⟩ where
  passes := by
    rw [h.passes, hc.passes, List.countP_cons_of_neg Bool.noConfusion]
  idle hidle := by
    obtain ⟨d, hd⟩ := h.pending
    rw [hd] at hidle
    cases hidle
  pending d hd := by
    rw [h.buffer]
    rfl
  location hheld before hb hok := by
    rw [hkeeps hheld]
    exact hc.location hheld before hb hok
  ticks := by
    intro later before earlier heq
    cases later with
    | nil => cases heq
    | cons m later => exact hc.ticks later before earlier (List.cons.inj heq).2

/-- Every step leaves a course sound. -/
theorem Sound.step {c : Course σ} (hc : Sound setup c) (x : Step) :
    Sound setup (c.step setup x) := by
  cases x with
  | event e now =>
    show Sound setup ⟨c.state.event setup e now,
      ((c.state.replacement? e).map Moment.replaced).toList ++ c.moments⟩
    cases hr : c.state.replacement? e with
    | none => exact hc.quiet (State.event_quiet hr now)
    | some text =>
      exact hc.replaced (State.event_replaces hr now) fun hheld =>
        State.event_keeps hheld.owns Part.noConfusion e now
  | tick now =>
    show Sound setup ⟨(c.state.tick setup now).2,
      (if (c.state.tick setup now).1.isSome then _ else none : Option (Moment σ)).toList
        ++ c.moments⟩
    rw [State.tick_eq]
    split
    · rename_i hdue
      obtain ⟨⟨d, hd, -⟩, hclosed⟩ := c.state.scheduler.poll_due now hdue
      refine sound_of_pass .tick hc.passes hc.ticks (fun _ => hc.pending d hd) ?_
      intro d' hd'
      -- the window was closed by looking at it
      simp [State.polled, hclosed, Scheduler.cancel] at hd'
    · exact hc
  | pass =>
    refine sound_of_pass .request hc.passes hc.ticks PassCause.noConfusion ?_
    intro d hd
    exact hc.pending d hd

/-- Every course is sound. -/
theorem Sound.run {c : Course σ} (hc : Sound setup c) (steps : List Step) :
    Sound setup (c.run setup steps) := by
  induction steps generalizing c with
  | nil => exact hc
  | cons x steps ih => exact ih (hc.step x)

end Course

/-! ### What a reachable session shows -/

/-- **No lost edit, no stale permalink.** While no window is open, the last pass ran over the
present text, and the text is published; a text that no pass has seen has a window open.  Every
pass that was due ran over the text that was put in place last, and between two of them a text was
put in place. -/
theorem course_idle_published (setup : Setup σ) (store : Store) (quiescence now : Nat) (world : σ)
    (steps : List Step) :
    let c := (Course.start setup (State.initial store quiescence world) now).run setup steps
    c.state.passes = c.moments.countP isPass ∧
    (c.state.scheduler.state = .idle → ∃ before, lastPass? c.moments = some before ∧
      before.buffer = c.state.buffer ∧
      c.state.sync.current = some (encode ⟨c.state.buffer⟩) ∧
      (setup.around.HoldsFragment → (before.published setup).failure = none →
        setup.around.fragment c.state.scene.world = some (encode ⟨c.state.buffer⟩))) ∧
    (∀ before, lastPass? c.moments = some before → c.state.buffer ≠ before.buffer →
      ∃ deadline, c.state.scheduler.state = .pending deadline) ∧
    (∀ later before earlier, c.moments = later ++ .passed .tick before :: earlier →
      lastText? earlier = some before.buffer) ∧
    (∀ later second between first earlier, c.moments =
      later ++ .passed .tick second :: (between ++ .passed .tick first :: earlier) →
      ∃ text, Moment.replaced text ∈ between) := by
  intro c
  have hc : Course.Sound setup c := (Course.start_sound rfl now).run steps
  refine ⟨hc.passes, ?_, ?_, ?_, ?_⟩
  · intro hidle
    obtain ⟨hlast, hsync⟩ := hc.idle hidle
    obtain ⟨before, hbefore, hbuffer⟩ := Option.map_eq_some_iff.1 hlast
    refine ⟨before, hbefore, hbuffer, hsync, fun hheld hok => ?_⟩
    rw [← hbuffer]
    exact hc.location hheld before hbefore hok
  · intro before hbefore hne
    cases hs : c.state.scheduler.state with
    | pending deadline => exact ⟨deadline, rfl⟩
    | idle =>
      -- with no window open, the last pass ran over the present text
      have hlast := (hc.idle hs).1
      rw [hbefore] at hlast
      exact absurd (Option.some.inj hlast).symm hne
  · intro later before earlier heq
    exact lastText?_of_newText? (hc.ticks later before earlier heq)
  · intro later second between first earlier heq
    exact ⟨_, replaced_mem_of_newText? (hc.ticks later second _ heq)⟩

/-- An edit on a board is published by the tick at the end of its window. -/
theorem course_idle_published_on_board :
    let c := (Course.start Board.setup (State.initial .empty 1500 { editor := some "a" }) 0).run
      Board.setup [.event (.contentChanged "b") 10, .event .cursorMoved 20, .tick 1520]
    c.state.sync.current = some (encode ⟨"b"⟩) ∧
      c.state.scene.world.fragment = some (encode ⟨"b"⟩) := by
  intro c
  obtain ⟨-, hidle, -⟩ := course_idle_published Board.setup .empty 1500 0 { editor := some "a" }
    [.event (.contentChanged "b") 10, .event .cursorMoved 20, .tick 1520]
  obtain ⟨before, hbefore, -, hsync, hlocation⟩ := hidle rfl
  exact ⟨hsync, hlocation Board.holdsFragment rfl⟩

end Playground.Session
