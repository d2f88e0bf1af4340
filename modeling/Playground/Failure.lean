import Playground.Text.Chars

/-!
# Failures

A failure has reasons, of which each one was caused by the next.
-/

namespace Playground

/-- Why something failed: the outermost reason, and what it was caused by. -/
structure Failure where
  reason : String
  causes : List String := []
deriving DecidableEq, Inhabited, Repr

namespace Failure

/-- A failure that caused another one. -/
def within (reason : String) (f : Failure) : Failure := ⟨reason, f.reason :: f.causes⟩

/-- All reasons on one line. -/
def text (f : Failure) : String := ": ".intercalate (f.reason :: f.causes)

/-- A text under a mark, its further lines below the first one. -/
def indented (mark : String) (text : String) : String :=
  let margin := String.ofList (List.replicate mark.length ' ')
  mark ++ ("\n" ++ margin).intercalate ((Text.pieces '\n' text.toList).map String.ofList)

/-- The causes of a failure, numbered if there are several. -/
def causeLines (causes : List String) : List String :=
  match causes with
  | [c] => [indented "    " c]
  | _ =>
    causes.zipIdx.map fun (c, n) =>
      let number := toString n
      let blanks := String.ofList (List.replicate (5 - number.length) ' ')
      indented (blanks ++ number ++ ": ") c

/-- The report of a failure: the reason, and the causes in lines of their own. -/
def report (f : Failure) : String :=
  if f.causes.isEmpty then f.reason
  else f.reason ++ "\n\nCaused by:\n" ++ "\n".intercalate (causeLines f.causes)

end Failure

end Playground
