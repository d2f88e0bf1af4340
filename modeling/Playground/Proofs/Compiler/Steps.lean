import Playground.Compiler.Service

/-!
# The steps of a dialog

A dialog is followed step by step: what is asked and answered, what is written and what is noted.

* `Dialog.steps` — the steps of a dialog with a host, in order;
* `Dialog.Only` — what holds of every step of a dialog, whatever a host answers;
* `Dialog.run_bind`, `Dialog.steps_bind`, `Dialog.Only.bind` — dialogs one after another;
* `Toolchain.check_inquires` — checking a program only asks.
-/

namespace Playground.Compiler

open Playground.Script

variable {σ α β : Type}

/-- A step of a dialog, with the answer of the host. -/
inductive Step where
  | fileExists (path : String) (answer : Bool)
  | readFile (path : String) (answer : Option String)
  | sourceFile (path : String) (answer : Option SourceFile)
  | libraryFile (options : CompilerOptions) (answer : String)
  | writeFile (path data : String)
  | debug (topic message : String)

namespace Dialog

/-- The steps of a dialog with a host. -/
def steps (h : Host σ) : Dialog α → σ → List Step
  | .done _, _ => []
  | .fileExists path next, s =>
    .fileExists path (h.fileExists path s).1 ::
      (next (h.fileExists path s).1).steps h (h.fileExists path s).2
  | .readFile path next, s =>
    .readFile path (h.readFile path s).1 ::
      (next (h.readFile path s).1).steps h (h.readFile path s).2
  | .sourceFile path next, s =>
    .sourceFile path (h.sourceFile path s).1 ::
      (next (h.sourceFile path s).1).steps h (h.sourceFile path s).2
  | .libraryFile options next, s =>
    .libraryFile options (h.libraryFile options s).1 ::
      (next (h.libraryFile options s).1).steps h (h.libraryFile options s).2
  | .writeFile path data next, s => .writeFile path data :: next.steps h (h.writeFile path data s)
  | .debug topic message next, s =>
    .debug topic message :: next.steps h (h.debug topic message s)

/-- Every step of a dialog has a property, whatever a host answers. -/
inductive Only (P : Step → Prop) : Dialog α → Prop
  | done (a : α) : Only P (.done a)
  | fileExists {path next} : (∀ b, P (.fileExists path b)) → (∀ b, Only P (next b)) →
    Only P (.fileExists path next)
  | readFile {path next} : (∀ t, P (.readFile path t)) → (∀ t, Only P (next t)) →
    Only P (.readFile path next)
  | sourceFile {path next} : (∀ f, P (.sourceFile path f)) → (∀ f, Only P (next f)) →
    Only P (.sourceFile path next)
  | libraryFile {options next} : (∀ p, P (.libraryFile options p)) → (∀ p, Only P (next p)) →
    Only P (.libraryFile options next)
  | writeFile {path data next} : P (.writeFile path data) → Only P next →
    Only P (.writeFile path data next)
  | debug {topic message next} : P (.debug topic message) → Only P next →
    Only P (.debug topic message next)

variable {h : Host σ} {s : σ} {P : Step → Prop}

/-! ### Dialogs one after another -/

@[simp]
theorem run_pure (a : α) : (pure a : Dialog α).run h s = (a, s) := rfl

@[simp]
theorem steps_pure (a : α) : (pure a : Dialog α).steps h s = [] := rfl

/-- A dialog that goes on runs from where the first one ended. -/
@[simp]
theorem run_bind (d : Dialog α) (f : α → Dialog β) :
    (d >>= f).run h s = (f (d.run h s).1).run h (d.run h s).2 := by
  show (d.bind f).run h s = _
  induction d generalizing s with
  | done a => rfl
  | fileExists path next ih => exact ih _
  | readFile path next ih => exact ih _
  | sourceFile path next ih => exact ih _
  | libraryFile options next ih => exact ih _
  | writeFile path data next ih => exact ih
  | debug topic message next ih => exact ih

/-- Its steps are those of the first one and then those of the second. -/
@[simp]
theorem steps_bind (d : Dialog α) (f : α → Dialog β) :
    (d >>= f).steps h s = d.steps h s ++ (f (d.run h s).1).steps h (d.run h s).2 := by
  show (d.bind f).steps h s = _
  induction d generalizing s with
  | done a => rfl
  | fileExists path next ih => exact congrArg _ (ih _)
  | readFile path next ih => exact congrArg _ (ih _)
  | sourceFile path next ih => exact congrArg _ (ih _)
  | libraryFile options next ih => exact congrArg _ (ih _)
  | writeFile path data next ih => exact congrArg _ ih
  | debug topic message next ih => exact congrArg _ ih

/-- What holds of the steps of two dialogs holds of both one after the other. -/
theorem Only.bind {d : Dialog α} {f : α → Dialog β} (hd : d.Only P) (hf : ∀ a, (f a).Only P) :
    (d >>= f).Only P := by
  show (d.bind f).Only P
  induction hd with
  | done a => exact hf a
  | fileExists hstep _ ih => exact .fileExists hstep ih
  | readFile hstep _ ih => exact .readFile hstep ih
  | sourceFile hstep _ ih => exact .sourceFile hstep ih
  | libraryFile hstep _ ih => exact .libraryFile hstep ih
  | writeFile hstep _ ih => exact .writeFile hstep ih
  | debug hstep _ ih => exact .debug hstep ih

/-- What holds whatever a host answers holds of the steps with a host. -/
theorem Only.steps {d : Dialog α} (hd : d.Only P) : ∀ x ∈ d.steps h s, P x := by
  induction hd generalizing s with
  | done a => simp [Dialog.steps]
  | fileExists hstep _ ih => exact List.forall_mem_cons.2 ⟨hstep _, ih _⟩
  | readFile hstep _ ih => exact List.forall_mem_cons.2 ⟨hstep _, ih _⟩
  | sourceFile hstep _ ih => exact List.forall_mem_cons.2 ⟨hstep _, ih _⟩
  | libraryFile hstep _ ih => exact List.forall_mem_cons.2 ⟨hstep _, ih _⟩
  | writeFile hstep _ ih => exact List.forall_mem_cons.2 ⟨hstep, ih⟩
  | debug hstep _ ih => exact List.forall_mem_cons.2 ⟨hstep, ih⟩

theorem only_pure (a : α) : (pure a : Dialog α).Only P := .done a

theorem only_askExists (path : String) (h : ∀ b, P (.fileExists path b)) :
    (askExists path).Only P := .fileExists h .done

theorem only_askText (path : String) (h : ∀ t, P (.readFile path t)) :
    (askText path).Only P := .readFile h .done

theorem only_askSource (path : String) (h : ∀ f, P (.sourceFile path f)) :
    (askSource path).Only P := .sourceFile h .done

theorem only_askLibrary (options : CompilerOptions) (h : ∀ p, P (.libraryFile options p)) :
    (askLibrary options).Only P := .libraryFile h .done

theorem only_note (topic message : String) (h : P (.debug topic message)) :
    (note topic message).Only P := .debug h (.done ())

end Dialog

/-! ### Asking -/

/-- Whether a step asks the host, or notes what the answer was. -/
def Step.Inquires : Step → Prop
  | .writeFile .. => False
  | .debug topic _ => topic = "compiler"
  | _ => True

open Dialog

theorem firstExisting_inquires (paths : List String) : (firstExisting paths).Only Step.Inquires := by
  induction paths with
  | nil => exact only_pure none
  | cons p rest ih =>
    rw [firstExisting]
    refine (only_askExists p fun _ => trivial).bind fun found => ?_
    split
    · exact only_pure _
    · exact ih

theorem probe_inquires (base : String) : (probe base).Only Step.Inquires := by
  unfold probe
  refine (firstExisting_inquires _).bind fun found => ?_
  split
  · exact only_pure _
  · refine (only_askText _ fun _ => trivial).bind fun manifest => ?_
    dsimp only
    split
    · refine (firstExisting_inquires _).bind fun entry => ?_
      split
      · exact only_pure _
      · exact firstExisting_inquires _
    · refine (only_pure none).bind fun entry => ?_
      split
      · exact only_pure _
      · exact firstExisting_inquires _

theorem probeAll_inquires (bases : List String) : (probeAll bases).Only Step.Inquires := by
  induction bases with
  | nil => exact only_pure none
  | cons b rest ih =>
    rw [probeAll]
    refine (probe_inquires b).bind fun found => ?_
    split
    · exact only_pure _
    · exact ih

namespace Toolchain

variable (tools : Toolchain) (options : CompilerOptions) (root : SourceFile)

theorem checkLibrary_inquires : (checkLibrary options).Only Step.Inquires := by
  unfold checkLibrary
  split
  · exact only_pure _
  · refine (only_askLibrary options fun _ => trivial).bind fun library => ?_
    refine (only_askExists _ fun _ => trivial).bind fun found => ?_
    split <;> exact only_pure _

theorem checkSpecifiers_inquires (paths : List (String × List String)) (specifiers : List Specifier)
    (visited : List String) :
    (checkSpecifiers paths root specifiers visited).Only Step.Inquires := by
  induction specifiers generalizing visited with
  | nil => exact only_pure _
  | cons s rest ih =>
    rw [checkSpecifiers]
    refine (probeAll_inquires _).bind fun found => ?_
    split
    · exact (ih visited).bind fun _ => only_pure _
    · next path =>
      refine (only_note _ _ (show Step.Inquires _ from rfl)).bind fun _ => ?_
      split
      · exact ih visited
      · refine (only_askSource _ fun _ => trivial).bind fun file => ?_
        exact (ih (path :: visited)).bind fun _ => only_pure _

/-- Checking a program writes nothing and runs no transform. -/
theorem check_inquires : (tools.check options root).Only Step.Inquires := by
  unfold check
  refine (checkLibrary_inquires options).bind fun library => ?_
  exact (checkSpecifiers_inquires root _ _ _).bind fun _ => only_pure _

end Toolchain

end Playground.Compiler
