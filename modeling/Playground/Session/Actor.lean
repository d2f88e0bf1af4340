import Playground.Session.Basic

/-!
# Running sessions

An actor owns a session.  It takes messages one after another, and runs a pass when one is due and
no message is waiting.  `run` follows it through messages that arrive at given times.
-/

namespace Playground.Session

/-- What an actor is told. -/
inductive Message where
  | editor (event : EditorEvent)
  | shutdown
deriving DecidableEq, Inhabited, Repr

/-- A pass that was reported, with the session as the pass left it. -/
structure Report (σ : Type) where
  time : Nat
  outcome : PassOutcome
  session : State σ

/-- A session with the reports of its passes, latest first. -/
structure Actor (σ : Type) where
  session : State σ
  reports : List (Report σ) := []

namespace Actor

variable {σ : Type} (setup : Setup σ)

/-- Reports a pass. -/
def report (a : Actor σ) (time : Nat) (outcome : PassOutcome) (session : State σ) : Actor σ :=
  ⟨session, ⟨time, outcome, session⟩ :: a.reports⟩

/-- Starts a session. -/
def start (s : State σ) (now : Nat) : Actor σ :=
  let (outcome, session) := s.start setup now
  (⟨s, []⟩ : Actor σ).report now outcome session

/-- Runs the pass that is due before a time, if there is one; `now` is the time of the last
step. -/
def wait (a : Actor σ) (now next : Nat) : Actor σ :=
  match a.session.scheduler.deadline? with
  | none => a
  | some deadline =>
    if deadline < next then
      -- a deadline that passed while something else ran is met late
      let time := max now deadline
      match a.session.tick setup time with
      | (some outcome, session) => a.report time outcome session
      | (none, session) => { a with session }
    else a

/-- Takes in messages with the times at which they arrive, until the one that ends it, or until
the channel is closed at the given time. -/
def run (closed : Nat) : List (Nat × Message) → Nat → Actor σ → Actor σ
  | [], now, a => a.wait setup now closed
  | (time, message) :: rest, now, a =>
    let a := a.wait setup now time
    match message with
    -- what was sent behind this message is never taken
    | .shutdown => a
    | .editor e => run closed rest time { a with session := a.session.event setup e time }

end Actor

end Playground.Session
