import Playground.Proofs.Session.Board
import Playground.Proofs.Session.Debounce
import Playground.Session.Actor

/-!
# The loop of an actor

An actor takes turns: it takes in the message that arrived first, or it wakes up because a pass is
due.  How long a turn takes, and when messages arrive, is left open; only two things are given.  A
message that has arrived is taken before the actor may wake up, and the actor wakes up no earlier
than the deadline that stood when it began to wait.

* `Loop.Step` — what the actor may do next, and when;
* `Loop.Run` — the turns that an actor may have taken since its start;
* `Loop.Sound` — what every run keeps: the windows that are open end one quiescence or more after
  every message that replaced the text;
* `Actor.run_allowed` — the actor that wastes no time takes turns that the loop allows;
* `loop_safe` — what follows for the order of the messages, for the reports and for the passes.
-/

namespace Playground.Session

variable {σ : Type} (setup : Setup σ)

/-! ### Turns -/

namespace Actor

/-- Takes in an event. -/
def take (a : Actor σ) (e : EditorEvent) (time : Nat) : Actor σ :=
  { a with session := a.session.event setup e time }

/-- Wakes up, and reports the pass that was due, if one was. -/
def wake (a : Actor σ) (time : Nat) : Actor σ :=
  match a.session.tick setup time with
  | (some outcome, session) => a.report time outcome session
  | (none, session) => { a with session }

@[simp] theorem take_session (a : Actor σ) (e : EditorEvent) (time : Nat) :
    (a.take setup e time).session = a.session.event setup e time := rfl

@[simp] theorem take_reports (a : Actor σ) (e : EditorEvent) (time : Nat) :
    (a.take setup e time).reports = a.reports := rfl

end Actor

/-- What an actor does at some time. -/
inductive Turn where
  /-- it takes in an event -/
  | event (e : EditorEvent) (time : Nat)
  /-- it wakes up -/
  | wake (time : Nat)
  /-- it takes the message that ends it -/
  | shutdown (time : Nat)
  /-- it finds that nobody is left to send a message -/
  | hungUp (time : Nat)

namespace Turn

/-- The event that is taken in by a turn, if one is. -/
def event? : Turn → Option EditorEvent
  | event e _ => some e
  | _ => none

theorem events_concat (turns : List Turn) (turn : Turn) :
    (turns ++ [turn]).filterMap event? = turns.filterMap event? ++ turn.event?.toList := by
  rw [List.filterMap_append]
  cases h : turn.event? <;> simp [h]

/-- Whether a turn ends the actor. -/
def ends : Turn → Bool
  | shutdown _ | hungUp _ => true
  | event .. | wake _ => false

end Turn

/-- A session after a turn. -/
def State.turn (s : State σ) : Turn → State σ
  | .event e time => s.event setup e time
  | .wake time => (s.tick setup time).2
  | .shutdown _ | .hungUp _ => s

/-- A session after some turns. -/
def State.turns (s : State σ) (turns : List Turn) : State σ := turns.foldl (State.turn setup) s

/-- The report of the pass of a turn, if there is one: its outcome, and the session as it left
it. -/
def State.report? (s : State σ) : Turn → Option (Report σ)
  | .wake time =>
    (s.tick setup time).1.map fun outcome => ⟨time, outcome, (s.tick setup time).2⟩
  | _ => none

/-- The reports of the passes of some turns, in order. -/
def State.reports (s : State σ) : List Turn → List (Report σ)
  | [] => []
  | turn :: turns => (s.report? setup turn).toList ++ (s.turn setup turn).reports turns

@[simp] theorem State.turns_nil (s : State σ) : s.turns setup [] = s := rfl

@[simp] theorem State.turns_concat (s : State σ) (turns : List Turn) (turn : Turn) :
    s.turns setup (turns ++ [turn]) = (s.turns setup turns).turn setup turn := by
  simp [State.turns]

@[simp] theorem State.reports_concat (s : State σ) (turns : List Turn) (turn : Turn) :
    s.reports setup (turns ++ [turn]) =
      s.reports setup turns ++ ((s.turns setup turns).report? setup turn).toList := by
  induction turns generalizing s with
  | nil => exact List.append_nil _
  | cons t turns ih =>
    rw [List.cons_append, State.reports, ih, State.reports, List.append_assoc]
    rfl

/-! ### Runs -/

/-- An actor, and the messages that it has not taken yet. -/
structure Loop (σ : Type) where
  actor : Actor σ
  /-- since when the actor waits for its next turn -/
  free : Nat
  /-- the messages in the order in which they arrive, with the times of their arrival -/
  queue : List (Nat × Message)
  stopped : Bool := false

namespace Loop

/-- An actor that starts a session, and waits for its first turn once that is done. -/
def start (s : State σ) (messages : List (Nat × Message)) (begin free : Nat) : Loop σ :=
  ⟨Actor.start setup s begin, free, messages, false⟩

/-- Whether there is nothing to take at a time: no message has arrived, and somebody is left to
send one. -/
def Quiet (l : Loop σ) (closed time : Nat) : Prop :=
  match l.queue with
  | [] => time < closed
  | (arrival, _) :: _ => time < arrival

/-- What an actor may do next, if the last sender leaves at a given time. -/
inductive Step (closed : Nat) : Loop σ → Turn → Loop σ → Prop where
  | event {l : Loop σ} {arrival time free : Nat} {e : EditorEvent} {rest : List (Nat × Message)}
      (running : l.stopped = false) (first : l.queue = (arrival, .editor e) :: rest)
      (arrived : arrival ≤ time) (waits : l.free ≤ time) (lasts : time ≤ free) :
      Step closed l (.event e time) ⟨l.actor.take setup e time, free, rest, false⟩
  | shutdown {l : Loop σ} {arrival time : Nat} {rest : List (Nat × Message)}
      (running : l.stopped = false) (first : l.queue = (arrival, .shutdown) :: rest)
      (arrived : arrival ≤ time) (waits : l.free ≤ time) :
      Step closed l (.shutdown time) ⟨l.actor, time, rest, true⟩
  | hungUp {l : Loop σ} {time : Nat}
      (running : l.stopped = false) (drained : l.queue = [])
      (left : closed ≤ time) (waits : l.free ≤ time) :
      Step closed l (.hungUp time) ⟨l.actor, time, [], true⟩
  | wake {l : Loop σ} {deadline time free : Nat}
      (running : l.stopped = false) (quiet : l.Quiet closed time)
      (deadline_eq : l.actor.session.scheduler.deadline? = some deadline)
      (elapsed : deadline ≤ time) (waits : l.free ≤ time) (lasts : time ≤ free) :
      Step closed l (.wake time) ⟨l.actor.wake setup time, free, l.queue, false⟩

/-- The turns that an actor may have taken. -/
inductive Run (closed : Nat) (first : Loop σ) : List Turn → Loop σ → Prop where
  | nil : Run closed first [] first
  | concat {turns : List Turn} {turn : Turn} {l l' : Loop σ} (before : Run closed first turns l)
      (step : Step setup closed l turn l') : Run closed first (turns ++ [turn]) l'

/-- Where there is nothing to take, every message arrives later. -/
theorem quiet_queue (l : Loop σ) {closed time : Nat} (h : l.Quiet closed time)
    (hsorted : l.queue.Pairwise (·.1 ≤ ·.1)) : ∀ m ∈ l.queue, time < m.1 := by
  unfold Quiet at h
  revert hsorted h
  cases l.queue with
  | nil => simp
  | cons first rest =>
    intro h hsorted m hm
    obtain rfl | hm := List.mem_cons.1 hm
    · exact h
    · exact h.trans_le ((List.pairwise_cons.1 hsorted).1 m hm)

variable {setup}

/-- An actor that was stopped takes no more turns. -/
theorem Step.running {closed : Nat} {l l' : Loop σ} {turn : Turn}
    (h : Step setup closed l turn l') : l.stopped = false := by
  cases h <;> assumption

/-- A turn stops the actor exactly if it is one that ends it. -/
theorem Step.stopped {closed : Nat} {l l' : Loop σ} {turn : Turn}
    (h : Step setup closed l turn l') : l'.stopped = turn.ends := by
  cases h <;> rfl

/-- Every turn of a run was allowed where it was taken. -/
theorem Run.step_of_eq {closed : Nat} {first l : Loop σ} {turns earlier later : List Turn}
    {turn : Turn} (h : Run setup closed first turns l) (heq : turns = earlier ++ turn :: later) :
    ∃ before after, Run setup closed first earlier before ∧
      Step setup closed before turn after := by
  induction h generalizing later with
  | nil => simp at heq
  | concat hbefore hstep ih =>
    obtain ⟨-, rfl, rfl⟩ | ⟨front, -, hfront⟩ := concat_eq_cut heq
    · exact ⟨_, _, hbefore, hstep⟩
    · exact ih hfront

/-- An actor that was not stopped took no turn that ends it. -/
theorem Run.running {closed : Nat} {first l : Loop σ} {turns : List Turn}
    (h : Run setup closed first turns l) (hl : l.stopped = false) :
    ∀ turn ∈ turns, turn.ends = false := by
  induction h with
  | nil => simp
  | concat hbefore hstep ih =>
    intro turn hturn
    obtain hturn | hturn := List.mem_append.1 hturn
    · exact ih hstep.running turn hturn
    · rw [List.mem_singleton.1 hturn, ← hstep.stopped, hl]

/-- Nothing comes behind a turn that ends the actor. -/
theorem Run.ends_last {closed : Nat} {first l : Loop σ} {turns earlier later : List Turn}
    {turn : Turn} (h : Run setup closed first turns l) (heq : turns = earlier ++ turn :: later)
    (hends : turn.ends = true) : later = [] := by
  cases h with
  | nil => simp at heq
  | concat hbefore hstep =>
    obtain ⟨hnil, -, -⟩ | ⟨front, -, rfl⟩ := concat_eq_cut heq
    · exact hnil
    · have hrunning := hbefore.running hstep.running turn (by simp)
      rw [hends] at hrunning
      cases hrunning

end Loop

/-! ### What a turn does to the windows -/

/-- A deadline is that of a window that is open. -/
theorem Scheduler.state_of_deadline? (s : Scheduler) {deadline : Nat}
    (h : s.deadline? = some deadline) : s.state = .pending deadline := by
  unfold deadline? at h
  split at h
  · cases h
  · rename_i hs
    rw [hs, Option.some.inj h]

namespace State

variable (s : State σ)

variable {s} in
/-- An event that replaces the text is recorded as a change of the content. -/
theorem event_scheduler_replaced {e : EditorEvent} {text : String}
    (h : s.replacement? e = some text) (now : Nat) :
    (s.event setup e now).scheduler = s.scheduler.record .contentChanged now := by
  cases e with
  | contentChanged other =>
    have hne : s.buffer ≠ other := by
      intro hsame
      simp [replacement?, hsame] at h
    simp only [event, if_neg hne]
    rfl
  | cursorMoved => cases h
  | selectionChanged => cases h
  | fragmentChanged fragment =>
    obtain ⟨state, harrive, -⟩ := Option.map_eq_some_iff.1 h
    rw [event_accepted setup harrive]
    rfl

variable {s} in
/-- Any other event is recorded as a move, if at all. -/
theorem event_scheduler_quiet {e : EditorEvent} (h : s.replacement? e = none) (now : Nat) :
    (s.event setup e now).scheduler = s.scheduler ∨ ∃ activity, activity ≠ .contentChanged ∧
      (s.event setup e now).scheduler = s.scheduler.record activity now := by
  cases e with
  | contentChanged text =>
    have hsame : s.buffer = text := by simpa [replacement?] using h
    simp only [event, if_pos hsame]
    exact .inr ⟨.cursorMoved, Activity.noConfusion, rfl⟩
  | cursorMoved => exact .inr ⟨.cursorMoved, Activity.noConfusion, rfl⟩
  | selectionChanged => exact .inr ⟨.selectionChanged, Activity.noConfusion, rfl⟩
  | fragmentChanged fragment =>
    rw [event_ignored setup (Option.map_eq_none_iff.1 h)]
    exact .inl rfl

theorem event_quiescence (e : EditorEvent) (now : Nat) :
    (s.event setup e now).scheduler.quiescence = s.scheduler.quiescence := by
  have hrecord (activity : Activity) :
      (s.scheduler.record activity now).quiescence = s.scheduler.quiescence :=
    s.scheduler.answer_quiescence (.record activity now)
  cases hr : s.replacement? e with
  | some text => rw [event_scheduler_replaced setup hr, hrecord]
  | none =>
    obtain hsame | ⟨activity, -, hmove⟩ := event_scheduler_quiet setup hr now
    · rw [hsame]
    · rw [hmove, hrecord]

variable {s} in
/-- An event that leaves the text alone leaves the deadline alone too, or moves it to one
quiescence after the event. -/
theorem event_deadline_quiet {e : EditorEvent} (h : s.replacement? e = none) {now d : Nat}
    (hd : (s.event setup e now).scheduler.state = .pending d) :
    ∃ before, s.scheduler.state = .pending before ∧
      (d = before ∨ d = now + s.scheduler.quiescence) := by
  obtain hsame | ⟨activity, hact, hmove⟩ := event_scheduler_quiet setup h now
  · exact ⟨d, hsame ▸ hd, .inl rfl⟩
  · rw [hmove] at hd
    cases hs : s.scheduler.state with
    | idle =>
      rw [(s.scheduler.record_idle_iff now hact).2 hs] at hd
      cases hd
    | pending before =>
      rw [s.scheduler.record_move hact hs] at hd
      refine ⟨before, rfl, ?_⟩
      have hd := SchedulerState.pending.inj hd
      split at hd
      · exact .inr hd.symm
      · exact .inl hd.symm

theorem event_passes (e : EditorEvent) (now : Nat) :
    (s.event setup e now).passes = s.passes := by
  cases hr : s.replacement? e with
  | none => exact (event_quiet hr now).passes
  | some text => exact (event_replaces hr now).passes

/-- A tick at a deadline or after it runs a pass. -/
theorem tick_of_deadline {deadline now : Nat} (h : s.scheduler.deadline? = some deadline)
    (hle : deadline ≤ now) :
    s.tick setup now =
      (some ((s.polled now).compilePass setup).1, ((s.polled now).compilePass setup).2) := by
  have hstate := s.scheduler.state_of_deadline? h
  rw [tick_eq, if_pos ((s.scheduler.poll_due_iff now).2 ⟨deadline, hstate, hle⟩)]

variable {s} in
/-- A poll at a deadline or after it closes the window. -/
theorem polled_idle {deadline now : Nat} (h : s.scheduler.deadline? = some deadline)
    (hle : deadline ≤ now) : (s.polled now).scheduler.state = .idle := by
  have hdue := (s.scheduler.poll_due now ((s.scheduler.poll_due_iff now).2
    ⟨deadline, s.scheduler.state_of_deadline? h, hle⟩)).2
  simp [polled, hdue, Scheduler.cancel]

/-- The start is a pass, and leaves the length of a window alone. -/
theorem start_passes (now : Nat) : (s.start setup now).2.passes = s.passes + 1 := by
  rw [start_eq, compilePass_passes, (s.opened_keeps setup).1]

theorem start_quiescence (now : Nat) :
    (s.start setup now).2.scheduler.quiescence = s.scheduler.quiescence := by
  have hchosen : (s.chooseSource setup).2.scheduler = s.scheduler := by
    unfold chooseSource
    cases setup.around.fragment s.scene.world with
    | none => rfl
    | some fragment =>
      dsimp only
      split <;> rfl
  rw [start_eq, compilePass_scheduler, ← hchosen]
  unfold opened
  obtain ⟨source, after⟩ := s.chooseSource setup
  dsimp only
  split <;> rfl

end State

/-! ### What every run keeps -/

/-- Some event of the turns was handled at a time, and replaced the text. -/
def ReplacedAt (s : State σ) (turns : List Turn) (time : Nat) : Prop :=
  ∃ earlier e later, turns = earlier ++ .event e time :: later ∧
    ∃ text, (s.turns setup earlier).replacement? e = some text

variable {setup} in
/-- The texts that were replaced after one more turn. -/
theorem replacedAt_concat {s : State σ} {turns : List Turn} {turn : Turn} {time : Nat} :
    ReplacedAt setup s (turns ++ [turn]) time ↔ ReplacedAt setup s turns time ∨
      ∃ e text, turn = .event e time ∧ (s.turns setup turns).replacement? e = some text := by
  constructor
  · rintro ⟨earlier, e, later, heq, text, htext⟩
    obtain ⟨-, rfl, rfl⟩ | ⟨front, -, hfront⟩ := concat_eq_cut heq
    · exact .inr ⟨e, text, rfl, htext⟩
    · exact .inl ⟨earlier, e, front, hfront, text, htext⟩
  · rintro (⟨earlier, e, later, rfl, htext⟩ | ⟨e, text, rfl, htext⟩)
    · exact ⟨earlier, e, later ++ [turn], by simp, htext⟩
    · exact ⟨turns, e, [], rfl, text, htext⟩

/-- Waking up at a deadline or after it reports a pass. -/
theorem Actor.wake_due (a : Actor σ) {deadline time : Nat}
    (h : a.session.scheduler.deadline? = some deadline) (hle : deadline ≤ time) :
    a.wake setup time = a.report time ((a.session.polled time).compilePass setup).1
      ((a.session.polled time).compilePass setup).2 := by
  rw [Actor.wake, a.session.tick_of_deadline setup h hle]

namespace Loop

/-- How an actor stands after the turns that it took since it had a session started. -/
structure Sound (messages : List (Nat × Message)) (closed : Nat) (begun : Actor σ)
    (turns : List Turn) (l : Loop σ) : Prop where
  session : l.actor.session = begun.session.turns setup turns
  reports : l.actor.reports.reverse = begun.reports.reverse ++ begun.session.reports setup turns
  /-- every pass is reported -/
  passes : l.actor.session.passes + begun.reports.length =
    begun.session.passes + l.actor.reports.length
  lasts : ∀ r ∈ l.actor.reports, r ∈ begun.reports ∨ r.session.last = some r.outcome
  quiescence : l.actor.session.scheduler.quiescence = begun.session.scheduler.quiescence
  /-- no message was handled later than now -/
  handled : ∀ time, ReplacedAt setup begun.session turns time → time ≤ l.free
  /-- a window is open only after a text was replaced, and ends one quiescence after it or later -/
  pending : ∀ d, l.actor.session.scheduler.state = .pending d →
    (∃ time, ReplacedAt setup begun.session turns time) ∧
      ∀ time, ReplacedAt setup begun.session turns time →
        time + begun.session.scheduler.quiescence ≤ d
  /-- what was taken while the actor runs are the events at the front -/
  taken : l.stopped = false → ∃ front, messages = front ++ l.queue ∧
    front.map Prod.snd = (turns.filterMap Turn.event?).map .editor
  /-- what was taken when the actor stopped are the events up to the message that ended it, or all
  messages, and then nobody was left to send more -/
  ended : l.stopped = true → ∃ front,
    front.map Prod.snd = (turns.filterMap Turn.event?).map .editor ∧
    ((∃ arrival, messages = front ++ (arrival, .shutdown) :: l.queue) ∨
      messages = front ∧ l.queue = [] ∧ closed ≤ l.free)

variable {setup}

/-- An actor that took no turn stands as it began. -/
theorem Sound.begin {messages : List (Nat × Message)} {closed free : Nat} {begun : Actor σ}
    (hidle : begun.session.scheduler.state = .idle) :
    Sound setup messages closed begun [] ⟨begun, free, messages, false⟩ where
  session := rfl
  reports := (List.append_nil _).symm
  passes := rfl
  lasts r hr := .inl hr
  quiescence := rfl
  handled time h := by
    obtain ⟨earlier, e, later, heq, -⟩ := h
    simp at heq
  pending d hd := by
    rw [hidle] at hd
    cases hd
  taken _ := ⟨[], rfl, rfl⟩
  ended h := by cases h

/-- A window that is open behind an event was opened by a text that was replaced, and the event
moves its end no nearer. -/
theorem Sound.pending_event {messages : List (Nat × Message)} {closed time d : Nat}
    {begun : Actor σ} {turns : List Turn} {l : Loop σ} {e : EditorEvent}
    (h : Sound setup messages closed begun turns l) (waits : l.free ≤ time)
    (hd : (l.actor.session.event setup e time).scheduler.state = .pending d) :
    (∃ t, ReplacedAt setup begun.session (turns ++ [.event e time]) t) ∧
      ∀ t, ReplacedAt setup begun.session (turns ++ [.event e time]) t →
        t + begun.session.scheduler.quiescence ≤ d := by
  have hbefore (t : Nat) (ht : ReplacedAt setup begun.session turns t) :
      t + begun.session.scheduler.quiescence ≤ time + begun.session.scheduler.quiescence :=
    Nat.add_le_add_right ((h.handled t ht).trans waits) _
  rw [← h.quiescence] at hbefore ⊢
  cases hr : l.actor.session.replacement? e with
  | some text =>
    -- the window was opened by this event
    rw [State.event_scheduler_replaced setup hr, Scheduler.record_contentChanged] at hd
    have hd := SchedulerState.pending.inj hd
    refine ⟨⟨time, replacedAt_concat.2 (.inr ⟨e, text, rfl, h.session ▸ hr⟩)⟩, fun t ht => ?_⟩
    obtain hearlier | ⟨e', text', heq, -⟩ := replacedAt_concat.1 ht
    · exact hd ▸ hbefore t hearlier
    · cases heq
      exact hd.le
  | none =>
    -- it was open before, and its end stays or moves to one quiescence from now
    obtain ⟨before, hpending, hd⟩ := State.event_deadline_quiet setup hr hd
    obtain ⟨⟨t, ht⟩, hall⟩ := h.pending before hpending
    refine ⟨⟨t, replacedAt_concat.2 (.inl ht)⟩, fun t ht => ?_⟩
    obtain hearlier | ⟨e', text', heq, hr'⟩ := replacedAt_concat.1 ht
    · obtain rfl | rfl := hd
      · exact h.quiescence ▸ hall t hearlier
      · exact hbefore t hearlier
    · cases heq
      rw [← h.session, hr] at hr'
      cases hr'

/-- Taking in an event keeps the windows in order. -/
theorem Sound.event {messages rest : List (Nat × Message)} {closed arrival time free : Nat}
    {begun : Actor σ} {turns : List Turn} {l : Loop σ} {e : EditorEvent}
    (h : Sound setup messages closed begun turns l)
    (running : l.stopped = false) (first : l.queue = (arrival, .editor e) :: rest)
    (waits : l.free ≤ time) (lasts : time ≤ free) :
    Sound setup messages closed begun (turns ++ [.event e time])
      ⟨l.actor.take setup e time, free, rest, false⟩ where
  session := by
    rw [State.turns_concat, ← h.session]
    rfl
  reports := by
    rw [State.reports_concat]
    simpa [State.report?] using h.reports
  passes := by
    have hpasses := l.actor.session.event_passes setup e time
    rw [Actor.take_session, hpasses]
    exact h.passes
  lasts := h.lasts
  quiescence := (l.actor.session.event_quiescence setup e time).trans h.quiescence
  handled t ht := by
    obtain hearlier | ⟨e', text, heq, -⟩ := replacedAt_concat.1 ht
    · exact (h.handled t hearlier).trans (waits.trans lasts)
    · cases heq
      exact lasts
  pending d hd := h.pending_event waits hd
  taken _ := by
    obtain ⟨front, hfront, htaken⟩ := h.taken running
    refine ⟨front ++ [(arrival, .editor e)], by simp [hfront, first], ?_⟩
    rw [Turn.events_concat, List.map_append, List.map_append, htaken]
    rfl
  ended h := by cases h

/-- Waking up for a pass reports it, and leaves no window open. -/
theorem Sound.wake {messages : List (Nat × Message)} {closed deadline time free : Nat}
    {begun : Actor σ} {turns : List Turn} {l : Loop σ}
    (h : Sound setup messages closed begun turns l)
    (running : l.stopped = false)
    (deadline_eq : l.actor.session.scheduler.deadline? = some deadline)
    (elapsed : deadline ≤ time) (waits : l.free ≤ time) (lasts : time ≤ free) :
    Sound setup messages closed begun (turns ++ [.wake time])
      ⟨l.actor.wake setup time, free, l.queue, false⟩ := by
  have htick := l.actor.session.tick_of_deadline setup deadline_eq elapsed
  have hreplaced (t : Nat) :
      ReplacedAt setup begun.session (turns ++ [.wake time]) t →
        ReplacedAt setup begun.session turns t := by
    intro ht
    obtain hearlier | ⟨e, text, heq, -⟩ := replacedAt_concat.1 ht
    · exact hearlier
    · cases heq
  rw [l.actor.wake_due setup deadline_eq elapsed]
  exact {
    session := by
      rw [State.turns_concat, ← h.session]
      show _ = (l.actor.session.tick setup time).2
      rw [htick]
      rfl
    reports := by
      rw [State.reports_concat, ← h.session]
      show (_ :: l.actor.reports).reverse = _
      rw [List.reverse_cons, h.reports, State.report?, htick, List.append_assoc]
      rfl
    passes := by
      show ((l.actor.session.polled time).compilePass setup).2.passes + _ =
        _ + (l.actor.reports.length + 1)
      rw [State.compilePass_passes, ← Nat.add_assoc, ← h.passes]
      exact Nat.add_right_comm ..
    lasts := by
      intro r hr
      obtain rfl | hr := List.mem_cons.1 hr
      · exact .inr (State.compilePass_last ..)
      · exact h.lasts r hr
    quiescence := by
      show ((l.actor.session.polled time).compilePass setup).2.scheduler.quiescence = _
      rw [State.compilePass_scheduler]
      exact (l.actor.session.scheduler.answer_quiescence (.poll time)).trans h.quiescence
    handled := fun t ht => (h.handled t (hreplaced t ht)).trans (waits.trans lasts)
    pending := by
      intro d hd
      have hopen : ((l.actor.session.polled time).compilePass setup).2.scheduler.state =
          .pending d := hd
      rw [State.compilePass_scheduler, State.polled_idle deadline_eq elapsed] at hopen
      cases hopen
    taken := fun _ => by
      have hevent : (Turn.wake time).event? = none := rfl
      rw [Turn.events_concat, hevent, Option.toList_none, List.append_nil]
      exact h.taken running
    ended := fun h => by cases h }

/-- A turn that ends the actor leaves its session alone. -/
theorem Sound.ends {messages rest : List (Nat × Message)} {closed time : Nat} {begun : Actor σ}
    {turns : List Turn} {turn : Turn} {l : Loop σ} (h : Sound setup messages closed begun turns l)
    (hturn : turn = .shutdown time ∨ turn = .hungUp time) (waits : l.free ≤ time)
    (hended : ∃ front, front.map Prod.snd = (turns.filterMap Turn.event?).map .editor ∧
      ((∃ arrival, messages = front ++ (arrival, .shutdown) :: rest) ∨
        messages = front ∧ rest = [] ∧ closed ≤ time)) :
    Sound setup messages closed begun (turns ++ [turn]) ⟨l.actor, time, rest, true⟩ := by
  have hsame : (begun.session.turns setup turns).turn setup turn =
      begun.session.turns setup turns := by
    obtain rfl | rfl := hturn <;> rfl
  have hreport : (begun.session.turns setup turns).report? setup turn = none := by
    obtain rfl | rfl := hturn <;> rfl
  have hevent : (turns ++ [turn]).filterMap Turn.event? = turns.filterMap Turn.event? := by
    rw [Turn.events_concat]
    obtain rfl | rfl := hturn <;> exact List.append_nil _
  have hreplaced (t : Nat) :
      ReplacedAt setup begun.session (turns ++ [turn]) t ↔
        ReplacedAt setup begun.session turns t := by
    rw [replacedAt_concat]
    obtain rfl | rfl := hturn <;> simp
  exact {
    session := by rw [State.turns_concat, hsame, ← h.session]
    reports := by simpa [hreport] using h.reports
    passes := h.passes
    lasts := h.lasts
    quiescence := h.quiescence
    handled := fun t ht => (h.handled t ((hreplaced t).1 ht)).trans waits
    pending := by
      intro d hd
      obtain ⟨⟨t, ht⟩, hall⟩ := h.pending d hd
      exact ⟨⟨t, (hreplaced t).2 ht⟩, fun t ht => hall t ((hreplaced t).1 ht)⟩
    taken := fun h => by cases h
    ended := fun _ => hevent.symm ▸ hended }

/-- Every turn keeps the actor sound. -/
theorem Sound.step {messages : List (Nat × Message)} {closed : Nat} {begun : Actor σ}
    {turns : List Turn} {turn : Turn} {l l' : Loop σ}
    (h : Sound setup messages closed begun turns l) (hstep : Step setup closed l turn l') :
    Sound setup messages closed begun (turns ++ [turn]) l' := by
  cases hstep with
  | event running first arrived waits lasts => exact h.event running first waits lasts
  | wake running quiet deadline_eq elapsed waits lasts =>
    exact h.wake running deadline_eq elapsed waits lasts
  | shutdown running first arrived waits =>
    obtain ⟨front, hfront, htaken⟩ := h.taken running
    exact h.ends (.inl rfl) waits ⟨front, htaken, .inl ⟨_, first ▸ hfront⟩⟩
  | hungUp running drained left waits =>
    obtain ⟨front, hfront, htaken⟩ := h.taken running
    exact h.ends (.inr rfl) waits ⟨front, htaken, .inr ⟨by simpa [drained] using hfront, rfl, left⟩⟩

/-- Every run keeps the actor sound. -/
theorem Run.sound {s : State σ} {messages : List (Nat × Message)} {closed begin free : Nat}
    {turns : List Turn} {l : Loop σ}
    (h : Run setup closed (start setup s messages begin free) turns l) :
    Sound setup messages closed (Actor.start setup s begin) turns l := by
  induction h with
  | nil => exact .begin (by simp [Actor.start, Actor.report, State.start_eq, State.opened_idle])
  | concat hbefore hstep ih => exact ih.step hstep

end Loop

/-! ### The actor that wastes no time -/

namespace Actor

variable {setup}

/-- A pass leaves no deadline. -/
theorem wake_deadline? (a : Actor σ) {deadline time : Nat}
    (h : a.session.scheduler.deadline? = some deadline) (hle : deadline ≤ time) :
    (a.wake setup time).session.scheduler.deadline? = none := by
  rw [a.wake_due setup h hle]
  show ((a.session.polled time).compilePass setup).2.scheduler.deadline? = none
  rw [State.compilePass_scheduler, Scheduler.deadline?, State.polled_idle h hle]

theorem wait_idle (setup : Setup σ) {a : Actor σ} (now next : Nat)
    (h : a.session.scheduler.deadline? = none) : a.wait setup now next = a := by
  unfold Actor.wait
  rw [h]

theorem wait_due (setup : Setup σ) {a : Actor σ} (now next : Nat) {deadline : Nat}
    (h : a.session.scheduler.deadline? = some deadline) :
    a.wait setup now next =
      if deadline < next then a.wake setup (max now deadline) else a := by
  rcases htick : a.session.tick setup (max now deadline) with ⟨_ | outcome, session⟩ <;>
    simp only [Actor.wait, Actor.wake, h, htick]

/-- Waiting up to a time is waking up at the deadline, if that comes before; afterwards none comes
before. -/
theorem wait_allowed {closed now next : Nat} {first : Loop σ} {turns : List Turn} {a : Actor σ}
    {queue : List (Nat × Message)} (h : Loop.Run setup closed first turns ⟨a, now, queue, false⟩)
    (hquiet : ∀ time < next, Loop.Quiet ⟨a, now, queue, false⟩ closed time) (hnow : now ≤ next)
    (hdeadline : ∀ d, a.session.scheduler.deadline? = some d → now ≤ d) :
    ∃ turns' now', Loop.Run setup closed first turns' ⟨a.wait setup now next, now', queue, false⟩ ∧
      now' ≤ next ∧
      ∀ d, (a.wait setup now next).session.scheduler.deadline? = some d → next ≤ d := by
  cases hd : a.session.scheduler.deadline? with
  | none =>
    have hwait := wait_idle setup now next hd
    rw [hwait]
    exact ⟨turns, now, h, hnow, by simp [hd]⟩
  | some deadline =>
    have hwait := wait_due setup now next hd
    -- the actor wakes up at a deadline that comes before, and then there is none
    by_cases hlt : deadline < next
    · simp only [if_pos hlt, max_eq_right (hdeadline deadline hd)] at hwait
      rw [hwait]
      refine ⟨_, deadline, h.concat (.wake rfl (hquiet deadline hlt) hd le_rfl
        (hdeadline deadline hd) le_rfl), hlt.le, ?_⟩
      simp [wake_deadline? a hd le_rfl]
    · simp only [if_neg hlt] at hwait
      rw [hwait]
      refine ⟨turns, now, h, hnow, fun d hd' => ?_⟩
      rw [hd] at hd'
      exact Option.some.inj hd' ▸ Nat.not_lt.1 hlt

/-- An event leaves no deadline before it, if there was none. -/
theorem take_deadline? (a : Actor σ) (e : EditorEvent) {time : Nat}
    (h : ∀ d, a.session.scheduler.deadline? = some d → time ≤ d) :
    ∀ d, (a.take setup e time).session.scheduler.deadline? = some d → time ≤ d := by
  intro d hd
  have hd := Scheduler.state_of_deadline? _ hd
  rw [take_session] at hd
  cases hr : a.session.replacement? e with
  | some text =>
    rw [State.event_scheduler_replaced setup hr, Scheduler.record_contentChanged] at hd
    exact SchedulerState.pending.inj hd ▸ Nat.le_add_right ..
  | none =>
    obtain ⟨before, hbefore, rfl | rfl⟩ := State.event_deadline_quiet setup hr hd
    · exact h d (by rw [Scheduler.deadline?, hbefore])
    · exact Nat.le_add_right ..

/-- What an actor does that takes in every message as it arrives, wakes up at every deadline and
is done with everything at once, is a run of the loop up to its end. -/
theorem run_allowed_from {closed now : Nat} {first : Loop σ} {turns : List Turn} {a : Actor σ}
    {queue : List (Nat × Message)} (h : Loop.Run setup closed first turns ⟨a, now, queue, false⟩)
    (hsorted : ((now, Message.shutdown) :: queue).Pairwise (·.1 ≤ ·.1))
    (hclosed : now ≤ closed ∧ ∀ m ∈ queue, m.1 ≤ closed)
    (hdeadline : ∀ d, a.session.scheduler.deadline? = some d → now ≤ d) :
    ∃ turns' l, Loop.Run setup closed first turns' l ∧ l.stopped = true ∧
      l.actor = a.run setup closed queue now := by
  induction queue generalizing a now turns with
  | nil =>
    obtain ⟨turns', now', hrun, hle, -⟩ := wait_allowed h (fun time ht => ht) hclosed.1 hdeadline
    exact ⟨_, _, hrun.concat (.hungUp rfl rfl le_rfl hle), rfl, rfl⟩
  | cons m rest ih =>
    obtain ⟨time, message⟩ := m
    obtain ⟨hnow, hrest⟩ := List.pairwise_cons.1 hsorted
    have hlater : ∀ m ∈ rest, m.1 ≤ closed := fun m hm => hclosed.2 m (List.mem_cons_of_mem _ hm)
    -- up to the arrival of the first message there is nothing to take
    obtain ⟨turns', now', hrun, hle, hafter⟩ := wait_allowed h (fun t (ht : t < time) => ht)
      (hnow _ List.mem_cons_self) hdeadline
    cases message with
    | shutdown => exact ⟨_, _, hrun.concat (.shutdown rfl rfl le_rfl hle), rfl, rfl⟩
    | editor e =>
      exact ih (hrun.concat (.event rfl rfl le_rfl hle le_rfl))
        (List.pairwise_cons.2 ⟨(List.pairwise_cons.1 hrest).1, (List.pairwise_cons.1 hrest).2⟩)
        ⟨hclosed.2 _ List.mem_cons_self, hlater⟩ (take_deadline? _ e hafter)

/-- The actor that wastes no time takes turns that the loop allows, until it is stopped. -/
theorem run_allowed (setup : Setup σ) (s : State σ) {messages : List (Nat × Message)}
    {closed begin : Nat} (hsorted : messages.Pairwise (·.1 ≤ ·.1))
    (hbegin : begin ≤ closed ∧ ∀ m ∈ messages, begin ≤ m.1 ∧ m.1 ≤ closed) :
    ∃ turns l, Loop.Run setup closed (Loop.start setup s messages begin begin) turns l ∧
      l.stopped = true ∧
      l.actor = (Actor.start setup s begin).run setup closed messages begin := by
  refine run_allowed_from .nil (List.pairwise_cons.2 ⟨fun m hm => (hbegin.2 m hm).1, hsorted⟩)
    ⟨hbegin.1, fun m hm => (hbegin.2 m hm).2⟩ (fun d hd => ?_)
  have hidle : (Actor.start setup s begin).session.scheduler.deadline? = none := by
    simp [Actor.start, Actor.report, State.start_eq, Scheduler.deadline?, State.opened_idle]
  rw [hidle] at hd
  cases hd

end Actor

/-! ### What every run of an actor shows -/

/-- **Safety of the loop.** The events that were taken in are the messages in the order of their
arrival, each once, up to the first that ends the actor; and nothing is done behind that.  The
session is the one that was started, after these turns.  The start and every time the actor woke
up are a pass, and these passes are what was reported, in order, each with its outcome and with the
session as it left it.  The actor wakes up only when every message that has arrived is taken, and a
whole quiescence or more after each message that replaced the text, of which there is one.

The actor that wastes no time, on messages that arrive while it runs, is one of these: it takes some
such turns, until it is stopped. -/
theorem loop_safe (setup : Setup σ) (s : State σ) {messages : List (Nat × Message)}
    {closed begin free : Nat} {turns : List Turn} {l : Loop σ}
    (hsorted : messages.Pairwise (·.1 ≤ ·.1))
    (hrun : Loop.Run setup closed (Loop.start setup s messages begin free) turns l) :
    let started := (s.start setup begin).2
    let events := turns.filterMap Turn.event?
    (l.stopped = false → (∀ turn ∈ turns, turn.ends = false) ∧
      messages.map Prod.snd = events.map .editor ++ l.queue.map Prod.snd) ∧
    (l.stopped = true → (∀ turn l', ¬ Loop.Step setup closed l turn l') ∧
      (messages.map Prod.snd = events.map .editor ++ .shutdown :: l.queue.map Prod.snd ∨
        messages.map Prod.snd = events.map .editor ∧ closed ≤ l.free)) ∧
    (∀ earlier turn later, turns = earlier ++ turn :: later → turn.ends = true → later = []) ∧
    l.actor.session = started.turns setup turns ∧
    l.actor.reports.reverse =
      ⟨begin, (s.start setup begin).1, started⟩ :: started.reports setup turns ∧
    l.actor.session.passes = s.passes + l.actor.reports.length ∧
    (∀ r ∈ l.actor.reports, r.session.last = some r.outcome) ∧
    (∀ earlier time later, turns = earlier ++ .wake time :: later →
      (∃ outcome, ((started.turns setup earlier).tick setup time).1 = some outcome) ∧
      (∀ m ∈ messages.drop (earlier.filterMap Turn.event?).length, time < m.1) ∧
      (∃ handled, ReplacedAt setup started earlier handled) ∧
      ∀ handled, ReplacedAt setup started earlier handled →
        handled + s.scheduler.quiescence ≤ time) ∧
    (begin ≤ closed → (∀ m ∈ messages, begin ≤ m.1 ∧ m.1 ≤ closed) → ∃ taken stop,
      Loop.Run setup closed (Loop.start setup s messages begin begin) taken stop ∧
        stop.stopped = true ∧
        stop.actor = (Actor.start setup s begin).run setup closed messages begin) := by
  intro started events
  have hsound {turns : List Turn} {l : Loop σ}
      (hrun : Loop.Run setup closed (Loop.start setup s messages begin free) turns l) :
      Loop.Sound setup messages closed ⟨started, [⟨begin, (s.start setup begin).1, started⟩]⟩
        turns l := hrun.sound
  have hl := hsound hrun
  refine ⟨fun hrunning => ⟨hrun.running hrunning, ?_⟩,
    fun hstopped => ⟨fun turn l' hstep => ?_, ?_⟩,
    fun earlier turn later heq => hrun.ends_last heq, hl.session, hl.reports, ?_, ?_, ?_,
    fun hbegin htimes => Actor.run_allowed setup s hsorted ⟨hbegin, htimes⟩⟩
  · obtain ⟨front, hfront, htaken⟩ := hl.taken hrunning
    rw [hfront, List.map_append, htaken]
  · have hrunning := hstep.running
    rw [hstopped] at hrunning
    cases hrunning
  · obtain ⟨front, htaken, ⟨arrival, hfront⟩ | ⟨hfront, -, hleft⟩⟩ := hl.ended hstopped
    · exact .inl (by rw [hfront, List.map_append, htaken]; rfl)
    · exact .inr ⟨hfront ▸ htaken, hleft⟩
  · have hpasses := hl.passes
    have hstarted : started.passes = s.passes + 1 := s.start_passes setup begin
    dsimp only [List.length_singleton] at hpasses
    omega
  · intro r hr
    obtain hfirst | hlast := hl.lasts r hr
    · obtain rfl := List.mem_singleton.1 hfirst
      exact State.compilePass_last ..
    · exact hlast
  · intro earlier time later heq
    -- the loop as it was when the actor woke up
    obtain ⟨before, after, hbefore, hstep⟩ := hrun.step_of_eq heq
    have hsound := hsound hbefore
    cases hstep with
    | wake running quiet deadline_eq elapsed waits lasts =>
      obtain ⟨hexists, hall⟩ :=
        hsound.pending _ (Scheduler.state_of_deadline? _ deadline_eq)
      refine ⟨?_, ?_, hexists, fun handled hhandled => ?_⟩
      · rw [hsound.session] at deadline_eq
        exact ⟨_, congrArg Prod.fst (State.tick_of_deadline setup _ deadline_eq elapsed)⟩
      · obtain ⟨front, rfl, htaken⟩ := hsound.taken running
        have hlength : (earlier.filterMap Turn.event?).length = front.length := by
          rw [← List.length_map (f := Message.editor), ← htaken, List.length_map]
        rw [hlength, List.drop_left]
        exact before.quiet_queue quiet (List.pairwise_append.1 hsorted).2.1
      · have hle := hall handled hhandled
        dsimp only at hle
        rw [s.start_quiescence setup begin] at hle
        exact hle.trans elapsed

/-- On a board an edit is compiled one quiescence after it was taken in, and an edit behind the
message that ends the actor is not taken in.  The actor that wastes no time does the same. -/
theorem loop_safe_on_board :
    let messages := [(10, Message.editor (.contentChanged "b")), (2000, .shutdown),
      (2000, .editor (.contentChanged "c"))]
    let s := State.initial .empty 1500 { editor := some "a" }
    let turns := [Turn.event (.contentChanged "b") 10, .wake 1510, .shutdown 2000]
    messages.Pairwise (·.1 ≤ ·.1) ∧
    ∃ l, Loop.Run Board.setup 3000 (Loop.start Board.setup s messages 0 0) turns l ∧
      l.actor.session = (s.start Board.setup 0).2.turns Board.setup turns ∧
      l.actor.session.passes = l.actor.reports.length ∧
      l.actor.reports.map (·.time) = [1510, 0] ∧
      ∃ taken stop, Loop.Run Board.setup 3000 (Loop.start Board.setup s messages 0 0) taken stop ∧
        stop.stopped = true ∧
        stop.actor = (Actor.start Board.setup s 0).run Board.setup 3000 messages 0 ∧
        stop.actor.reports.map (fun r => (r.time, r.session.buffer)) = [(1510, "b"), (0, "a")] := by
  intro messages s turns
  have hsorted : messages.Pairwise (·.1 ≤ ·.1) := by decide
  let first := Loop.start Board.setup s messages 0 0
  let edited : Loop Board :=
    ⟨first.actor.take Board.setup (.contentChanged "b") 10, 10, messages.tail, false⟩
  let compiled : Loop Board := ⟨edited.actor.wake Board.setup 1510, 1600, messages.tail, false⟩
  have hedit : Loop.Step Board.setup 3000 first (.event (.contentChanged "b") 10) edited :=
    .event rfl rfl le_rfl (by decide) le_rfl
  have hwake : Loop.Step Board.setup 3000 edited (.wake 1510) compiled :=
    .wake rfl (show 1510 < 2000 by decide) rfl le_rfl (by decide) (by decide)
  have hstop : Loop.Step Board.setup 3000 compiled (.shutdown 2000)
      ⟨compiled.actor, 2000, messages.drop 2, true⟩ :=
    .shutdown rfl rfl le_rfl (by decide)
  have hrun : Loop.Run Board.setup 3000 first turns _ :=
    ((Loop.Run.nil.concat hedit).concat hwake).concat hstop
  obtain ⟨-, -, -, hsession, -, hpasses, -, -, hallowed⟩ := loop_safe Board.setup s hsorted hrun
  obtain ⟨taken, stop, htaken, hstopped, hstop⟩ := hallowed (by decide) (by decide)
  exact ⟨hsorted, _, hrun, hsession, hpasses.trans (Nat.zero_add _), rfl, taken, stop, htaken,
    hstopped, hstop, by rw [hstop]; rfl⟩

end Playground.Session
