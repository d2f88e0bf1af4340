import Playground.Session.Render

/-!
# The status of a watch

While a session is watched the terminal shows the outcome of its latest pass.  Every outcome is
written over the one before; `WatchStatus.lines` says how many lines there are to go back.  A
terminal is told to go back by a number of sixteen bits, so that of a larger one the rest is lost.
-/

namespace Playground.Session

open Remark (dimmed escape inColour)

/-- A status that can be shown. -/
inductive Status where
  | success (message : String)
  | failure (summary detail : String)
deriving DecidableEq, Inhabited, Repr

namespace Status

/-- The words of a status. -/
def message : Status → String
  | success message => message
  | failure summary detail => if detail.isEmpty then summary else summary ++ "\n" ++ detail

/-- The mark in front of a status. -/
def mark : Status → String
  | success _ => inColour "32" "✓"
  | failure .. => inColour "31" "✗"

/-- The number of lines of a status. -/
def lines (s : Status) : Nat := (s.message.toList.filter (· = '\n')).length + 1

/-- The status of a pass. -/
def ofOutcome : PassOutcome → Status
  | .emitted => success "compiled"
  | .diagnostics count => failure (toString count ++ " diagnostic(s)") "see output.js"
  | .failed => failure "compilation failed" "see output.js"

/-- The text in which a status is shown at a time of the day. -/
def block (s : Status) (time : String) : String :=
  dimmed ("[" ++ time ++ "]") ++ " " ++ s.mark ++ " " ++ s.message ++ "\n"

end Status

/-! ### Times of the day -/

/-- A number, with two digits at least. -/
def twoDigits (n : Nat) : String := if n < 10 then "0" ++ toString n else toString n

/-- The time of the day, so many seconds after some midnight. -/
def timeOfDay (seconds : Nat) : String :=
  twoDigits (seconds / 3600 % 24) ++ ":" ++ twoDigits (seconds / 60 % 60) ++ ":" ++
    twoDigits (seconds % 60)

/-! ### What a terminal is told -/

/-- An order to a terminal. -/
inductive TerminalOrder where
  | up (lines : UInt16)
  /-- clears what is behind the cursor, and all lines below -/
  | clearDown
  | print (text : String)
deriving DecidableEq, Inhabited, Repr

/-- The text that gives an order. -/
def TerminalOrder.code : TerminalOrder → String
  | .up lines => escape ++ "[" ++ toString lines.toNat ++ "A"
  | .clearDown => escape ++ "[J"
  | .print text => text

/-- How many lines the status takes that is shown now. -/
structure WatchStatus where
  lines : Nat := 0
deriving DecidableEq, Inhabited, Repr

namespace WatchStatus

/-- The orders to go back over some lines, and to clear them. -/
def erase (lines : Nat) : List TerminalOrder :=
  if lines = 0 then [] else [.up lines.toUInt16, .clearDown]

/-- The orders to show a status at a time of the day, in place of the one before. -/
def orders (w : WatchStatus) (time : String) (s : Status) : List TerminalOrder :=
  erase w.lines ++ [.print (s.block time)]

/-- What is printed to show a status at a time of the day, in place of the one before. -/
def display (w : WatchStatus) (time : String) (s : Status) : String × WatchStatus :=
  (String.join ((w.orders time s).map TerminalOrder.code), ⟨s.lines⟩)

/-- Leaves the status that is shown alone from now on. -/
def detach (_ : WatchStatus) : WatchStatus := {}

end WatchStatus

end Playground.Session
