import Playground.Log

/-!
# The scheduler

A burst of edits is compiled once, when it has been quiet for a while.  The scheduler holds at most
one deadline.  An edit always opens a window of its full length; a move of the cursor extends a
window that is still open, and does nothing else.  Times are in milliseconds.
-/

namespace Playground.Session

/-- What happens in the editor. -/
inductive Activity where
  | contentChanged
  | cursorMoved
  | selectionChanged
deriving DecidableEq, Inhabited, Repr

/-- Whether a pass is due some time. -/
inductive SchedulerState where
  | idle
  | pending (deadline : Nat)
deriving DecidableEq, Inhabited, Repr

/-- The length of a window, and the window that is open. -/
structure Scheduler where
  quiescence : Nat
  state : SchedulerState := .idle
deriving DecidableEq, Inhabited, Repr

namespace Scheduler

variable (s : Scheduler)

/-- When a pass is due, if one is. -/
def deadline? : Option Nat :=
  match s.state with
  | .idle => none
  | .pending d => some d

/-- Whether a pass is due some time. -/
def isPending : Bool := s.deadline?.isSome

/-- Opens a window. -/
def arm (now : Nat) : Scheduler := { s with state := .pending (now + s.quiescence) }

/-- Whether an activity opens a window. -/
def opens (activity : Activity) (now : Nat) : Bool :=
  match activity, s.state with
  | .contentChanged, _ => true
  -- at its deadline a window is no longer open
  | _, .pending d => now < d
  | _, .idle => false

/-- Takes note of an activity. -/
def record (activity : Activity) (now : Nat) : Scheduler :=
  if s.opens activity now then s.arm now else s

/-- Whether a pass is due, in which case the window is closed. -/
def poll (now : Nat) : Bool × Scheduler :=
  match s.state with
  | .pending d => if d ≤ now then (true, { s with state := .idle }) else (false, s)
  | .idle => (false, s)

/-- Closes the window without a pass. -/
def cancel : Scheduler := { s with state := .idle }

/-- A length of time, in seconds if it is one at least. -/
def lengthText (ms : Nat) : String :=
  if ms = 0 then "0ns"
  else if ms < 1000 then toString ms ++ "ms"
  else
    let rest := toString (1000 + ms % 1000)
    let digits := (rest.toList.drop 1).reverse.dropWhile (· = '0')
    let fraction := if digits.isEmpty then "" else "." ++ String.ofList digits.reverse
    toString (ms / 1000) ++ fraction ++ "s"

/-- What is noted about an activity. -/
def remarks (activity : Activity) (now : Nat) : List Remark :=
  if s.opens activity now then [.detail "scheduler" ("armed for " ++ lengthText s.quiescence)]
  else []

end Scheduler

end Playground.Session
