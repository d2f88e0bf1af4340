import Playground.Proofs.Session.Pass

/-!
# A board

The plainest surroundings of a session: each part holds what it was last given.  Nothing fails on a
board, unless it refuses some errands, which then change nothing.
-/

namespace Playground.Session

/-- What the parts hold. -/
structure Board where
  editor : Option String := none
  pane : String := ""
  document : Option String := none
  fragment : Option String := none
deriving DecidableEq, Inhabited, Repr

namespace Board

/-- A board as the surroundings of a session. -/
def surroundings : Surroundings Board where
  editorText b := b.editor
  setEditor text b := ({}, { b with editor := some text })
  setPane text b := ({}, { b with pane := text })
  load document b := ({}, { b with document := some document })
  clear b := ({}, { b with document := none })
  fragment b := b.fragment
  setFragment fragment b := ({}, { b with fragment := some fragment })

/-- A service that emits the text being edited as it is. -/
def copying : Compiler.Service := fun _ _ =>
  .readFile Compiler.sourcePath fun text =>
    .writeFile Compiler.outputPath (text.getD "") (.done (.finished {}))

/-- A service that breaks down after it has written something. -/
def crashing : Compiler.Service := fun _ _ =>
  .writeFile Compiler.outputPath "half" (.done (.crashed (some "gone")))

/-- A service that answers at once. -/
def answering (answer : Compiler.EmitAnswer) : Compiler.Service := fun _ _ => .done answer

/-- A session on a board that copies the text. -/
def setup : Setup Board where
  service := copying
  options := {}
  pipeline := {}
  renderer := ⟨"playground", [], true⟩
  around := surroundings

/-! ### Parts that refuse -/

/-- A board after an errand. -/
def after (b : Board) : Errand → Board
  | .setEditor text => { b with editor := some text }
  | .setPane text => { b with pane := text }
  | .load document => { b with document := some document }
  | .clear => { b with document := none }
  | .setFragment fragment => { b with fragment := some fragment }

/-- What a part of a board holds. -/
def view : Part → Board → Option String
  | .editor, b => b.editor
  | .pane, b => some b.pane
  | .sandbox, b => b.document
  | .location, b => b.fragment

/-- An errand to a board that refuses some of them, and stays as it is then. -/
def answer (refuses : Errand → Bool) (e : Errand) : Request Board := fun b =>
  if refuses e then (.failed ⟨"refused", []⟩, b) else ({}, b.after e)

/-- A board that refuses some errands. -/
def refusing (refuses : Errand → Bool) : Surroundings Board where
  editorText b := b.editor
  setEditor text := answer refuses (.setEditor text)
  setPane text := answer refuses (.setPane text)
  load document := answer refuses (.load document)
  clear := answer refuses .clear
  fragment b := b.fragment
  setFragment fragment := answer refuses (.setFragment fragment)

/-- A session on a board that refuses some errands. -/
def setupRefusing (refuses : Errand → Bool) : Setup Board :=
  { setup with around := refusing refuses }

/-- A session with some service, on a board that refuses some errands. -/
def setupServed (service : Compiler.Service) (refuses : Errand → Bool) : Setup Board :=
  { setupRefusing refuses with service }

section Refusing

variable (refuses : Errand → Bool) (e : Errand) (b : Board)

/-- An errand that is not refused is run. -/
theorem answer_taken (h : (answer refuses e b).1.failure = none) :
    (answer refuses e b).2 = b.after e := by
  unfold answer at h ⊢
  by_cases hrefuses : refuses e = true
  · rw [if_pos hrefuses] at h
    cases h
  · rw [if_neg hrefuses]

/-- An errand that is refused changes nothing. -/
theorem answer_refused (h : (answer refuses e b).1.failure ≠ none) :
    (answer refuses e b).2 = b := by
  unfold answer at h ⊢
  by_cases hrefuses : refuses e = true
  · rw [if_pos hrefuses]
  · rw [if_neg hrefuses] at h
    exact absurd rfl h

theorem refusing_request : e.request (refusing refuses) = answer refuses e := by
  cases e <;> rfl

/-- Errands to other parts leave a part of a board alone. -/
theorem after_view {part : Part} (h : e.part ≠ part) : (b.after e).view part = b.view part := by
  cases e <;> cases part <;> first | rfl | exact absurd rfl h

/-- Whatever is refused, the parts of a board are changed by their own errands only. -/
theorem refusing_owns (part : Part) : (refusing refuses).Owns part (view part) := by
  intro e he b
  rw [refusing_request, answer]
  split
  · rfl
  · exact after_view e b he

theorem refusing_owns_pane : (refusing refuses).Owns .pane pane :=
  fun e he b => Option.some.inj (refusing_owns refuses .pane e he b)

end Refusing

/-- A board on which nothing fails is one that refuses nothing. -/
theorem surroundings_eq : surroundings = refusing fun _ => false := rfl

/-- The text of a board is a part of its own. -/
theorem owns_editor : surroundings.Owns .editor surroundings.editorText := by
  rw [surroundings_eq]
  exact refusing_owns _ .editor

/-- The fragment of a board is a part of its own. -/
theorem holdsFragment : surroundings.HoldsFragment where
  owns := by
    rw [surroundings_eq]
    exact refusing_owns _ .location
  shows _ _ _ := rfl

end Board

end Playground.Session
