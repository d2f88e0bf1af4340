import Mathlib.Data.List.DropRight
import Playground.Proofs.Session.Drive

/-!
# What a history of calls makes of a scheduler

A scheduler keeps one deadline and forgets the rest.  Here it is told from the whole history of the
calls: a window is open exactly if the content changed since the last pass that was due and the
last cancellation, and it ends one quiescence after the last member of a chain of activities.

* `Scheduler.after` and `Scheduler.entries` — the scheduler after some calls, and the calls with
  their answers;
* `chainEnd` — the last of the moves that each come within the quiescence of the one before;
* `sinceClosed` — the part of a history in which no window was closed;
* `debounced` — the state in closed form, and what follows for the passes that are due.
-/

namespace Playground.Session

/-- A history that is cut at one of its entries is cut at the last one or before it. -/
theorem concat_eq_cut {α : Type} {history before later : List α} {x e : α}
    (h : history ++ [x] = before ++ e :: later) :
    (later = [] ∧ x = e ∧ history = before) ∨
      ∃ front, later = front ++ [x] ∧ history = before ++ e :: front := by
  rcases List.eq_nil_or_concat later with rfl | ⟨front, y, rfl⟩
  · obtain ⟨hbefore, hx⟩ := List.append_inj' h rfl
    exact .inl ⟨rfl, List.singleton_inj.1 hx, hbefore⟩
  · rw [List.concat_eq_append, ← List.cons_append, ← List.append_assoc] at h
    obtain ⟨hfront, hx⟩ := List.append_inj' h rfl
    cases hx
    exact .inr ⟨front, List.concat_eq_append, hfront⟩

namespace Scheduler

/-! ### Histories -/

/-- What is asked of a scheduler. -/
inductive Call where
  | record (activity : Activity) (now : Nat)
  | poll (now : Nat)
  | cancel
deriving DecidableEq

namespace Call

/-- When a call is made; a cancellation does not say. -/
def time? : Call → Option Nat
  | record _ now | poll now => some now
  | cancel => none

/-- When the content changed, if that is what a call records. -/
def edit? : Call → Option Nat
  | record .contentChanged now => some now
  | _ => none

/-- When the cursor or the selection moved, if that is what a call records. -/
def move? : Call → Option Nat
  | record .cursorMoved now | record .selectionChanged now => some now
  | _ => none

/-- A move is timed like any call. -/
theorem time?_of_move? {c : Call} {now : Nat} (h : c.move? = some now) : c.time? = some now := by
  match c with
  | record .cursorMoved _ | record .selectionChanged _ => exact h

end Call

/-- A call, and whether it was answered that a pass is due. -/
structure Entry where
  call : Call
  due : Bool
deriving DecidableEq

/-- Whether a window that was open is closed by a call. -/
def Entry.closes (e : Entry) : Bool := e.due || e.call = .cancel

/-- The times of the calls do not go backwards. -/
def Timely (calls : List Call) : Prop :=
  calls.Pairwise fun c later => ∀ t ∈ c.time?, ∀ u ∈ later.time?, t ≤ u

/-- The part of a history in which no window was closed. -/
def sinceClosed (history : List Entry) : List Entry := history.rtakeWhile fun e => !e.closes

/-- The last member of a chain of moves: each comes less than the quiescence after the one before,
and the first that does not ends the chain for good. -/
def chainEnd (quiescence : Nat) : Nat → List Nat → Nat
  | last, [] => last
  | last, move :: moves =>
    if move < last + quiescence then chainEnd quiescence move moves else last

variable (s : Scheduler)

/-- The answer to a call, which is `true` if a pass is due, and the scheduler after it. -/
def answer : Call → Bool × Scheduler
  | .record activity now => (false, s.record activity now)
  | .poll now => s.poll now
  | .cancel => (false, s.cancel)

/-- The scheduler after some calls. -/
def after (calls : List Call) : Scheduler := calls.foldl (fun s c => (s.answer c).2) s

/-- Some calls with their answers. -/
def entries : Scheduler → List Call → List Entry
  | _, [] => []
  | s, c :: calls => ⟨c, (s.answer c).1⟩ :: entries (s.answer c).2 calls

@[simp] theorem after_nil : s.after [] = s := rfl

@[simp] theorem after_cons (c : Call) (calls : List Call) :
    s.after (c :: calls) = (s.answer c).2.after calls := rfl

@[simp] theorem entries_nil : s.entries [] = [] := rfl

@[simp] theorem entries_cons (c : Call) (calls : List Call) :
    s.entries (c :: calls) = ⟨c, (s.answer c).1⟩ :: (s.answer c).2.entries calls := rfl

@[simp] theorem after_append (calls more : List Call) :
    s.after (calls ++ more) = (s.after calls).after more := List.foldl_append ..

@[simp] theorem entries_append (calls more : List Call) :
    s.entries (calls ++ more) = s.entries calls ++ (s.after calls).entries more := by
  induction calls generalizing s with
  | nil => rfl
  | cons c calls ih => exact congrArg (_ :: ·) (ih (s.answer c).2)

theorem sinceClosed_concat (history : List Entry) (e : Entry) :
    sinceClosed (history ++ [e]) = if e.closes then [] else sinceClosed history ++ [e] := by
  unfold sinceClosed
  rw [List.rtakeWhile_concat]
  cases e.closes <;> rfl

/-! ### One call -/

/-- A call leaves the length of a window alone. -/
@[simp] theorem answer_quiescence (c : Call) : (s.answer c).2.quiescence = s.quiescence := by
  cases c with
  | record activity now =>
    show (s.record activity now).quiescence = _
    unfold record
    split <;> rfl
  | poll now =>
    show (s.poll now).2.quiescence = _
    rw [poll_eq]
    cases s.state with
    | idle => rfl
    | pending d =>
      dsimp only
      split <;> rfl
  | cancel => rfl

@[simp] theorem after_quiescence (calls : List Call) :
    (s.after calls).quiescence = s.quiescence := by
  induction calls generalizing s with
  | nil => rfl
  | cons c calls ih => rw [after_cons, ih, answer_quiescence]

/-- A pass is due exactly if a window has elapsed. -/
theorem poll_due_iff (now : Nat) :
    (s.poll now).1 = true ↔ ∃ d, s.state = .pending d ∧ d ≤ now := by
  refine ⟨fun h => (s.poll_due now h).1, fun ⟨d, hd, hle⟩ => ?_⟩
  simp [poll_eq, hd, hle]

/-- If no pass is due, asking changes nothing. -/
theorem poll_not_due {now : Nat} (h : (s.poll now).1 = false) : (s.poll now).2 = s := by
  rw [poll_eq] at h ⊢
  cases hs : s.state with
  | idle => rfl
  | pending d =>
    simp only [hs] at h ⊢
    split at h
    · cases h
    · rename_i hd
      rw [if_neg hd]

/-- A move within a window extends it; one that comes too late does not. -/
theorem record_move {activity : Activity} (h : activity ≠ .contentChanged) {d : Nat}
    (hs : s.state = .pending d) (now : Nat) :
    (s.record activity now).state = .pending (if now < d then now + s.quiescence else d) := by
  have hopens : s.opens activity now = decide (now < d) := by
    cases activity with
    | contentChanged => exact absurd rfl h
    | cursorMoved => simp [opens, hs]
    | selectionChanged => simp [opens, hs]
  unfold record
  rw [hopens]
  by_cases hnow : now < d
  · simp [hnow, arm]
  · simp [hnow, hs]

/-! ### Chains -/

/-- A move that comes no earlier than those of a chain goes on with it, or finds it ended. -/
theorem chainEnd_concat {quiescence edited now : Nat} {moves : List Nat}
    (h : (moves ++ [now]).Pairwise (· ≤ ·)) :
    chainEnd quiescence edited (moves ++ [now]) =
      if now < chainEnd quiescence edited moves + quiescence then now
      else chainEnd quiescence edited moves := by
  induction moves generalizing edited with
  | nil => rfl
  | cons move moves ih =>
    obtain ⟨hmove, hmoves⟩ := List.pairwise_cons.1 h
    have hle : move ≤ now := hmove now (by simp)
    by_cases hchain : move < edited + quiescence
    · have hcons (ms : List Nat) :
          chainEnd quiescence edited (move :: ms) = chainEnd quiescence move ms := if_pos hchain
      rw [List.cons_append, hcons, hcons, ih hmoves]
    · -- the chain ended at this move, and the new one is later still
      have hcons (ms : List Nat) :
          chainEnd quiescence edited (move :: ms) = edited := if_neg hchain
      rw [List.cons_append, hcons, hcons, if_neg (by omega)]

/-! ### The state in closed form -/

/-- How a history tells the state of a scheduler. -/
structure ToldBy (quiescence : Nat) (history : List Entry) (state : SchedulerState) : Prop where
  /-- no window is open exactly if the content has not changed since the last one was closed -/
  idle : state = .idle ↔ ∀ e ∈ sinceClosed history, e.call.edit? = none
  /-- the window that is open ends one quiescence after the chain that the last change started -/
  pending : ∀ before e later edited, sinceClosed history = before ++ e :: later →
    e.call.edit? = some edited → (∀ x ∈ later, x.call.edit? = none) →
      state = .pending (quiescence + chainEnd quiescence edited (later.filterMap (·.call.move?)))

/-- The moves of a part of a history are timed in order. -/
theorem Timely.moves {history part : List Entry} (h : Timely (history.map (·.call)))
    (hpart : part.Sublist history) : (part.filterMap (·.call.move?)).Pairwise (· ≤ ·) := by
  rw [List.pairwise_filterMap]
  refine List.Pairwise.imp ?_ ((List.pairwise_map.1 h).sublist hpart)
  intro a b hab t ht u hu
  exact hab t (Call.time?_of_move? ht) u (Call.time?_of_move? hu)

variable {s}

namespace ToldBy

/-- A call that closes the window leaves none open. -/
theorem closed {quiescence : Nat} {history : List Entry} {e : Entry} {state : SchedulerState}
    (h : e.closes = true) (hstate : state = .idle) :
    ToldBy quiescence (history ++ [e]) state where
  idle := by simp [sinceClosed_concat, h, hstate]
  pending before e' later edited heq := by simp [sinceClosed_concat, h] at heq

/-- A change of the content starts a chain. -/
theorem edit {history : List Entry} (now : Nat) :
    ToldBy s.quiescence (history ++ [⟨.record .contentChanged now, false⟩])
      (s.record .contentChanged now).state where
  idle := by simp [sinceClosed_concat, Entry.closes, Call.edit?]
  pending before e later edited heq hedit hlater := by
    have hopen : Entry.closes ⟨.record .contentChanged now, false⟩ = false := rfl
    rw [sinceClosed_concat, hopen] at heq
    obtain ⟨rfl, rfl, -⟩ | ⟨front, rfl, -⟩ := concat_eq_cut heq
    · cases hedit
      simp [chainEnd, Nat.add_comm]
    · simpa [Call.edit?] using hlater _ (List.mem_append_right _ (List.mem_singleton_self _))

/-- A call that neither closes a window nor changes the content goes on with the chain. -/
theorem quiet {history : List Entry} {e : Entry} {state : SchedulerState}
    (h : ToldBy s.quiescence history s.state) (hopen : e.closes = false)
    (hedit : e.call.edit? = none) (hidle : state = .idle ↔ s.state = .idle)
    (hpending : ∀ edited later, (later ++ [e]).Sublist (history ++ [e]) →
      s.state = .pending (s.quiescence +
        chainEnd s.quiescence edited (later.filterMap (·.call.move?))) →
      state = .pending (s.quiescence +
        chainEnd s.quiescence edited ((later ++ [e]).filterMap (·.call.move?)))) :
    ToldBy s.quiescence (history ++ [e]) state where
  idle := by
    rw [hidle, h.idle, sinceClosed_concat, hopen]
    simp only [Bool.false_eq_true, if_false, List.mem_append, List.mem_singleton]
    constructor
    · rintro hall x (hx | rfl)
      · exact hall x hx
      · exact hedit
    · exact fun hall x hx => hall x (.inl hx)
  pending before e' later edited heq hedit' hlater := by
    rw [sinceClosed_concat, hopen] at heq
    -- the call itself is no edit, so the last edit stands in the history before it
    obtain ⟨rfl, rfl, -⟩ | ⟨front, rfl, hfront⟩ := concat_eq_cut heq
    · rw [hedit] at hedit'
      cases hedit'
    · have hsuffix : (e' :: front).Sublist history :=
        (List.sublist_append_right before _).trans
          (hfront ▸ (List.rtakeWhile_suffix _ history).sublist)
      have hpart : front.Sublist history := (List.sublist_cons_self e' front).trans hsuffix
      refine hpending edited front (hpart.append_right _)
        (h.pending before e' front edited hfront hedit' fun x hx => hlater x ?_)
      exact List.mem_append_left _ hx

/-- A move goes on with the chain unless it comes too late. -/
theorem move {history : List Entry} {e : Entry} {activity : Activity} {now : Nat}
    (h : ToldBy s.quiescence history s.state) (hact : activity ≠ .contentChanged)
    (he : e = ⟨.record activity now, false⟩) (hedit : e.call.edit? = none)
    (hmove : e.call.move? = some now) (htimely : Timely ((history ++ [e]).map (·.call))) :
    ToldBy s.quiescence (history ++ [e]) (s.record activity now).state := by
  have hopen : e.closes = false := by rw [he]; rfl
  refine h.quiet hopen hedit (s.record_idle_iff now hact) ?_
  intro edited later hlater hstate
  have hconcat : (later ++ [e]).filterMap (·.call.move?) =
      later.filterMap (·.call.move?) ++ [now] := by simp [hmove]
  have hmoves : (later.filterMap (·.call.move?) ++ [now]).Pairwise (· ≤ ·) :=
    hconcat ▸ htimely.moves hlater
  rw [hconcat, chainEnd_concat hmoves, record_move s hact hstate now]
  -- within the window, that is less than the quiescence after the last member of the chain
  split
  · rw [if_pos (by omega), Nat.add_comm]
  · rw [if_neg (by omega)]

end ToldBy

@[simp] theorem entries_map_call (calls : List Call) :
    (s.entries calls).map (·.call) = calls := by
  induction calls generalizing s with
  | nil => rfl
  | cons c calls ih => exact congrArg (c :: ·) ih

/-- One more call is told by one more entry. -/
theorem ToldBy.step {history : List Entry} (h : ToldBy s.quiescence history s.state) (c : Call)
    (htimely : Timely ((history ++ [(⟨c, (s.answer c).1⟩ : Entry)]).map (·.call))) :
    ToldBy s.quiescence (history ++ [⟨c, (s.answer c).1⟩]) (s.answer c).2.state := by
  match c, htimely with
  | .record .contentChanged now, _ => exact .edit now
  | .record .cursorMoved now, htimely => exact h.move Activity.noConfusion rfl rfl rfl htimely
  | .record .selectionChanged now, htimely => exact h.move Activity.noConfusion rfl rfl rfl htimely
  | .poll now, _ =>
    cases hdue : (s.poll now).1 with
    | true =>
      have hclosed := (s.poll_due now hdue).2
      exact .closed (by simp [Entry.closes, answer, hdue]) (by simp [answer, hclosed, cancel])
    | false =>
      have hsame := s.poll_not_due hdue
      refine h.quiet (by simp [Entry.closes, answer, hdue]) rfl (by simp [answer, hsame]) ?_
      intro edited later _ hstate
      simpa [answer, hsame, Call.move?] using hstate
  | .cancel, _ => exact .closed rfl rfl

/-- The state after any calls is told by their history. -/
theorem toldBy_entries (quiescence : Nat) {calls : List Call} (h : Timely calls) :
    ToldBy quiescence (({ quiescence } : Scheduler).entries calls)
      (({ quiescence } : Scheduler).after calls).state := by
  induction calls using List.reverseRecOn with
  | nil => exact ⟨by simp [sinceClosed], by simp [sinceClosed]⟩
  | append_singleton calls c ih =>
    have hcalls : Timely calls := h.sublist (List.sublist_append_left calls [c])
    have hstep := ToldBy.step (s := ({ quiescence } : Scheduler).after calls)
      (by simpa using ih hcalls) c (by simpa using h)
    simpa using hstep

/-! ### Passes that are due -/

/-- What a call does to the state: it closes the window, leaves it alone, or opens one that ends
one quiescence after the call. -/
theorem answer_state (c : Call) :
    (Entry.closes ⟨c, (s.answer c).1⟩ = true ∧ (s.answer c).2.state = .idle) ∨
    (s.answer c).2.state = s.state ∨
    ∃ now ∈ c.time?, (s.answer c).2.state = .pending (now + s.quiescence) := by
  cases c with
  | record activity now =>
    show _ ∨ (s.record activity now).state = _ ∨ ∃ t ∈ some now, (s.record activity now).state = _
    unfold record
    split
    · exact .inr (.inr ⟨now, rfl, rfl⟩)
    · exact .inr (.inl rfl)
  | poll now =>
    cases hdue : (s.poll now).1 with
    | true => exact .inl ⟨by simp [Entry.closes, answer, hdue],
        by simp [answer, (s.poll_due now hdue).2, cancel]⟩
    | false => exact .inr (.inl (congrArg state (s.poll_not_due hdue)))
  | cancel => exact .inl ⟨rfl, rfl⟩

/-- Only a change of the content opens a window where there is none. -/
theorem answer_idle (hs : s.state = .idle) {c : Call} (hc : c.edit? = none) :
    (s.answer c).2.state = .idle := by
  match c with
  | .record .cursorMoved now => exact (s.record_idle_iff now Activity.noConfusion).2 hs
  | .record .selectionChanged now => exact (s.record_idle_iff now Activity.noConfusion).2 hs
  | .poll now => simp [answer, poll_eq, hs]
  | .cancel => rfl

theorem after_idle (hs : s.state = .idle) {calls : List Call} (h : ∀ c ∈ calls, c.edit? = none) :
    (s.after calls).state = .idle := by
  induction calls generalizing s with
  | nil => exact hs
  | cons c calls ih =>
    exact ih (answer_idle hs (h c (by simp))) fun c hc => h c (List.mem_cons_of_mem _ hc)

/-- A pass is due where a window was open, and leaves none open. -/
theorem answer_due {c : Call} (h : (s.answer c).1 = true) :
    s.state ≠ .idle ∧ (s.answer c).2.state = .idle ∧ c.edit? = none := by
  match c with
  | .poll now =>
    obtain ⟨⟨d, hd, -⟩, hclosed⟩ := s.poll_due now h
    exact ⟨by simp [hd], by simp [answer, hclosed, cancel], rfl⟩

/-- The deadline of an open window is that of a call before. -/
theorem after_deadline {calls : List Call} {d : Nat} (hs : s.state = .idle)
    (h : (s.after calls).state = .pending d) :
    ∃ c ∈ calls, ∃ now ∈ c.time?, d = now + s.quiescence := by
  induction calls using List.reverseRecOn generalizing d with
  | nil => simp [hs] at h
  | append_singleton calls c ih =>
    rw [after_append, after_cons, after_nil] at h
    obtain ⟨-, hidle⟩ | hsame | ⟨now, hnow, hopen⟩ := answer_state (s := s.after calls) c
    · simp [hidle] at h
    · obtain ⟨c', hc', hd⟩ := ih (hsame ▸ h)
      exact ⟨c', List.mem_append_left _ hc', hd⟩
    · rw [hopen, after_quiescence] at h
      exact ⟨c, by simp, now, hnow, (SchedulerState.pending.inj h).symm⟩

/-- While a window stays open its deadline never moves to an earlier time. -/
theorem after_mono {calls : List Call} {d d' : Nat} (hd : s.state = .pending d)
    (htimes : ∀ c ∈ calls, ∀ now ∈ c.time?, d ≤ now + s.quiescence) (h : Timely calls)
    (hopen : ∀ e ∈ s.entries calls, e.closes = false)
    (hd' : (s.after calls).state = .pending d') : d ≤ d' := by
  induction calls generalizing s d with
  | nil => exact (SchedulerState.pending.inj (hd.symm.trans hd')).le
  | cons c calls ih =>
    obtain ⟨hc, hcalls⟩ := List.pairwise_cons.1 h
    have hrest : ∀ e ∈ (s.answer c).2.entries calls, e.closes = false :=
      fun e he => hopen e (List.mem_cons_of_mem _ he)
    obtain ⟨hcloses, -⟩ | hsame | ⟨now, hnow, hstate⟩ := answer_state (s := s) c
    · exact absurd hcloses (by simp [hopen ⟨c, (s.answer c).1⟩ List.mem_cons_self])
    · refine ih (hsame.trans hd) (fun c' hc' t ht => ?_) hcalls hrest hd'
      rw [answer_quiescence]
      exact htimes c' (List.mem_cons_of_mem _ hc') t ht
    · -- the window was opened anew, for the calls behind at a time that is not later than theirs
      refine (htimes c List.mem_cons_self now hnow).trans
        (ih hstate (fun c' hc' t ht => ?_) hcalls hrest hd')
      rw [answer_quiescence]
      exact Nat.add_le_add_right (hc c' hc' now hnow t ht) _

/-- Every pass that is due takes up a change of the content, or the window that was open. -/
theorem countP_due (calls : List Call) :
    (s.entries calls).countP (·.due) ≤
      calls.countP (·.edit?.isSome) + if s.state = .idle then 0 else 1 := by
  induction calls generalizing s with
  | nil => simp
  | cons c calls ih =>
    have hrest := ih (s := (s.answer c).2)
    rw [entries_cons, List.countP_cons, List.countP_cons]
    -- a pass that is due closes the window, which an edit has to open again
    cases hdue : (s.answer c).1 with
    | true =>
      obtain ⟨hopen, hclosed, hedit⟩ := answer_due hdue
      rw [if_pos hclosed] at hrest
      simpa [hopen, hedit] using hrest
    | false =>
      by_cases hidle : s.state = .idle
      · cases hedit : c.edit? with
        | none =>
          rw [if_pos (answer_idle hidle hedit)] at hrest
          simpa [hidle] using hrest
        | some now =>
          have hle : (if (s.answer c).2.state = .idle then 0 else 1) ≤ 1 := by split <;> omega
          simp only [hidle, Option.isSome_some, if_true, Bool.false_eq_true, if_false]
          omega
      · have hle : (if (s.answer c).2.state = .idle then 0 else 1) ≤ 1 := by split <;> omega
        simp only [hidle, Bool.false_eq_true, if_false]
        omega

/-- **Debouncing.** No window is open exactly if the content has not changed since the last pass
that was due and the last cancellation.  Otherwise the window ends one quiescence after the chain
of moves that the last change started.  A pass is due exactly when it has ended; so its deadline
never moves to an earlier time, between two passes that are due the content changes, and there are
no more of them than changes. -/
theorem debounced (quiescence : Nat) {calls : List Call} (h : Timely calls) :
    let start : Scheduler := { quiescence }
    let history := start.entries calls
    let s := start.after calls
    (s.state = .idle ↔ ∀ e ∈ sinceClosed history, e.call.edit? = none) ∧
    (∀ before e later edited, sinceClosed history = before ++ e :: later →
      e.call.edit? = some edited → (∀ x ∈ later, x.call.edit? = none) →
        s.state =
          .pending (quiescence + chainEnd quiescence edited (later.filterMap (·.call.move?)))) ∧
    (∀ now, (s.answer (.poll now)).1 = true ↔ ∃ d, s.state = .pending d ∧ d ≤ now) ∧
    (∀ more d d', Timely (calls ++ more) → (∀ e ∈ s.entries more, e.closes = false) →
      s.state = .pending d → (s.after more).state = .pending d' → d ≤ d') ∧
    (∀ earlier between later t u, calls = earlier ++ .poll t :: (between ++ .poll u :: later) →
      ((start.after earlier).answer (.poll t)).1 = true →
      ((start.after (earlier ++ .poll t :: between)).answer (.poll u)).1 = true →
        ∃ c ∈ between, ∃ now, c.edit? = some now) ∧
    history.countP (·.due) ≤ calls.countP (·.edit?.isSome) := by
  intro start history s
  have htold : ToldBy quiescence history s.state := toldBy_entries quiescence h
  refine ⟨htold.idle, htold.pending, s.poll_due_iff, ?_, ?_, countP_due calls⟩
  · intro more d d' htimely hopen hd hd'
    obtain ⟨hcalls, hmore, hacross⟩ := List.pairwise_append.1 htimely
    obtain ⟨c, hc, now, hnow, rfl⟩ := after_deadline (s := start) rfl hd
    refine after_mono hd (fun c' hc' t ht => ?_) hmore hopen hd'
    rw [after_quiescence]
    exact Nat.add_le_add_right (hacross c hc c' hc' now hnow t ht) _
  · intro earlier between later t u _ hfirst hsecond
    by_contra hnone
    have hquiet : ∀ c ∈ between, c.edit? = none := by
      intro c hc
      by_contra hedit
      exact hnone ⟨c, hc, Option.ne_none_iff_exists'.1 hedit⟩
    have hidle := after_idle (answer_due hfirst).2.1 hquiet
    rw [after_append, after_cons] at hsecond
    exact (answer_due hsecond).1 hidle

/-- A move at the deadline comes too late: the window that the change opened still ends. -/
theorem debounced_at_deadline :
    let calls := [Call.record .contentChanged 0, .record .cursorMoved 20, .record .cursorMoved 70]
    Timely calls ∧ (({ quiescence := 50 } : Scheduler).after calls).state = .pending 70 := by
  intro calls
  have htimely : Timely calls := by simp [Timely, calls, Call.time?]
  exact ⟨htimely, (debounced 50 htimely).2.1 [] _ _ 0 rfl rfl (by decide)⟩

end Scheduler

end Playground.Session
