import Playground.Proofs.Session.Board
import Playground.Proofs.Session.Drive
import Playground.Proofs.Session.Outcome

/-!
# Passes with parts that refuse

An outcome says what the pane and the sandbox hold, whichever of the parts refuse what they are
given, and whatever the service does:

* `outcome_shown` — a script that was emitted is shown and runs, diagnostics are shown in front of
  an empty sandbox, and of the failures of a pass the first one is shown, word for word;
* `document_cleared` — a pass that emits nothing empties the sandbox, unless the pane refuses to
  show why the pass failed: then the sandbox is not reached, and keeps its document.
-/

namespace Playground.Session

open Compiler Snapshot

variable {σ α : Type}

/-- A board is faithful, whatever it refuses. -/
theorem Board.refusing_faithful (refuses : Errand → Bool) :
    (Board.refusing refuses).Faithful { pane := Board.pane, document := Board.document } where
  owns_pane := Board.refusing_owns_pane refuses
  owns_sandbox := Board.refusing_owns refuses .sandbox
  pane text b h := congrArg Board.pane (Board.answer_taken refuses (.setPane text) b h)
  load document b h := congrArg Board.document (Board.answer_taken refuses (.load document) b h)
  clear b h := congrArg Board.document (Board.answer_taken refuses .clear b h)
  refused e b h := by
    rw [Board.refusing_request] at h ⊢
    rw [Board.answer_refused refuses e b h]
    exact ⟨rfl, rfl⟩

/-! ### What an outcome says -/

/-- **Outcomes are honest.** A script that was emitted is what the service wrote last to the output
file in this very call; it is shown, and the sandbox runs it.  Diagnostics are those of the pass;
they are shown, and the sandbox is empty.  A pass fails if something in it failed, and only then,
and a pane that takes texts shows the text of the failure that came first. -/
theorem outcome_shown {setup : Setup σ} {views : Views σ} (h : setup.around.Faithful views)
    (s : State σ) :
    let call := s.emission setup
    let outcome := (s.compilePass setup).1
    let world := (s.compilePass setup).2.scene.world
    (outcome = .emitted → ∃ report script, call.answer = .finished report ∧
      report.diagnostics = [] ∧
      script = (if report.skipped then "" else (lastScript? call.writes).getD "") ∧
      views.pane world = script ∧
      views.document world = some (setup.renderer.document script)) ∧
    (∀ n, outcome = .diagnostics n → ∃ report, call.answer = .finished report ∧
      1 ≤ n ∧ n = report.diagnostics.length ∧
      views.pane world = "\n".intercalate (report.diagnostics.map Diagnostic.text) ∧
      views.document world = none) ∧
    (outcome = .failed ↔ ∃ text, s.firstFailure? setup = some text) ∧
    ∀ text, s.firstFailure? setup = some text →
      (∀ w, (setup.around.setPane text w).1.failure = none) → views.pane world = text := by
  intro call outcome world
  cases hf : s.firstFailure? setup with
  | some text =>
    obtain ⟨after, -, -, houtcome, hpane, -⟩ := State.compilePass_failed h hf
    have hfailed : outcome = .failed := houtcome
    simp only [hfailed, reduceCtorEq, false_implies, implies_true, true_and, Option.some.injEq,
      exists_eq', forall_eq']
    exact fun htaken => hpane.trans (State.showFailure_pane h (htaken _))
  | none =>
    -- the result of the service is on display, and says what it is
    obtain ⟨result, hending, houtcome, hpane, hdocument⟩ := State.compilePass_shown h hf
    obtain ⟨report, hanswer, hdiagnostics, hemitted⟩ := Emission.of_compiled hending
    have hdisplay : outcome = (Display.ofEnd setup.renderer (.compiled result)).outcome := houtcome
    unfold Display.ofEnd at hdisplay hpane hdocument
    by_cases hempty : result.diagnostics.isEmpty
    · simp only [if_pos hempty] at hdisplay hpane hdocument
      simp only [hdisplay, reduceCtorEq, false_implies, implies_true, and_true, exists_false,
        forall_const]
      have hnone : report.diagnostics = [] := by
        rw [← hdiagnostics]
        exact List.isEmpty_iff.1 hempty
      refine ⟨report, result.emitted.getD "", hanswer, hnone, ?_, hpane, hdocument⟩
      rw [hemitted, hnone]
      cases report.skipped <;> rfl
    · simp only [if_neg hempty] at hdisplay hpane hdocument
      simp only [hdisplay, reduceCtorEq, false_implies, implies_true, true_and, and_true,
        exists_false, PassOutcome.diagnostics.injEq]
      rintro n rfl
      refine ⟨report, hanswer, ?_, congrArg List.length hdiagnostics, ?_, hdocument⟩
      · exact List.length_pos_iff.2 fun hnil => hempty (List.isEmpty_iff.2 hnil)
      · rw [← hdiagnostics]
        exact hpane

/-- What a board shows of a session that copies its text, of one whose document is refused, of
services that break down with a message and without one, of one that refuses the target, and of one
that finds two things to say. -/
theorem outcome_shown_on_board :
    let s := (State.initial .empty 1500 ({ document := some "old" } : Board)).edit "a"
    let shown (service : Service) (refuses : Errand → Bool) : PassOutcome × String :=
      let (outcome, t) := s.compilePass (Board.setupServed service refuses)
      (outcome, t.scene.world.pane)
    let nothing : Errand → Bool := fun _ => false
    let diagnostics : List Diagnostic :=
      [⟨"index.tsx", "Unexpected token", some ⟨1, 7⟩, .error⟩, ⟨"a.ts", "unused", none, .warning⟩]
    shown Board.copying nothing = (.emitted, "a") ∧
      shown Board.copying (fun e => e matches .load _) = (.failed, "refused") ∧
      shown Board.crashing nothing = (.failed, "gone") ∧
      shown (Board.answering (.crashed none)) nothing = (.failed, "compiler panicked") ∧
      shown (Board.answering (.refused (.target "es5"))) nothing =
        (.failed, "unsupported target: es5") ∧
      shown (Board.answering (.finished { diagnostics })) nothing =
        (.diagnostics 2, "index.tsx(1,7): error: Unexpected token\na.ts: warning: unused") := by
  intro s shown nothing diagnostics
  have hfaithful (service : Service) (refuses : Errand → Bool) :
      (Board.setupServed service refuses).around.Faithful ⟨Board.pane, Board.document⟩ :=
    Board.refusing_faithful refuses
  have hfailed (service : Service) (refuses : Errand → Bool) (text : String)
      (hfirst : s.firstFailure? (Board.setupServed service refuses) = some text)
      (htaken : refuses (.setPane text) = false) : shown service refuses = (.failed, text) := by
    obtain ⟨-, -, houtcome, hpane⟩ := outcome_shown (hfaithful service refuses) s
    refine Prod.ext (houtcome.2 ⟨text, hfirst⟩) (hpane text hfirst fun w => ?_)
    show (Board.answer refuses (.setPane text) w).1.failure = none
    rw [Board.answer, htaken]
    rfl
  refine ⟨?_, ?_, ?_, ?_, ?_, ?_⟩
  · have houtcome : (shown Board.copying nothing).1 = .emitted := rfl
    obtain ⟨report, script, hanswer, -, hscript, hpane, -⟩ :=
      (outcome_shown (hfaithful Board.copying nothing) s).1 houtcome
    obtain rfl : ({} : EmitReport) = report := EmitAnswer.finished.inj hanswer
    exact Prod.ext houtcome (hpane.trans hscript)
  · exact hfailed Board.copying (fun e => e matches .load _) "refused" rfl rfl
  · exact hfailed Board.crashing nothing "gone" rfl rfl
  · exact hfailed (Board.answering (.crashed none)) nothing "compiler panicked" rfl rfl
  · exact hfailed (Board.answering (.refused (.target "es5"))) nothing
      "unsupported target: es5" rfl rfl
  · have houtcome : (shown (Board.answering (.finished { diagnostics })) nothing).1 =
        .diagnostics 2 := rfl
    obtain ⟨report, hanswer, -, -, hpane, -⟩ := (outcome_shown
      (hfaithful (Board.answering (.finished { diagnostics })) nothing) s).2.1 2 houtcome
    obtain rfl : ({ diagnostics } : EmitReport) = report := EmitAnswer.finished.inj hanswer
    exact Prod.ext houtcome (hpane.trans (by decide +kernel))

/-! ### Documents that outlive a pass -/

/-- A session runs a pass, over the session that was prepared for it, and goes on from there. -/
inductive State.RunsPass (setup : Setup σ) (s : State σ) :
    State σ → PassOutcome → State σ → Prop
  | request : RunsPass setup s s (s.compilePass setup).1 (s.compilePass setup).2
  | start (now : Nat) :
    RunsPass setup s (s.opened setup) (s.start setup now).1 (s.start setup now).2
  | tick (now : Nat) (outcome : PassOutcome) (h : (s.tick setup now).1 = some outcome) :
    RunsPass setup s (s.polled now) outcome (s.tick setup now).2

namespace State.RunsPass

variable {setup : Setup σ} {s before t : State σ} {outcome : PassOutcome}

/-- Whoever asks for it, a pass is one over the session prepared for it. -/
theorem pass_eq (h : s.RunsPass setup before outcome t) : before.compilePass setup = (outcome, t) := by
  cases h with
  | request => rfl
  | start now => rfl
  | tick now _ h =>
    rw [tick_eq] at h ⊢
    by_cases hdue : (s.scheduler.poll now).1 = true
    · rw [if_pos hdue] at h ⊢
      rw [← Option.some.inj h]
    · rw [if_neg hdue] at h
      cases h

/-- Nothing but the editor was changed to prepare for a pass. -/
theorem before_view {part : Part} {view : σ → α} (h : s.RunsPass setup before outcome t)
    (ho : setup.around.Owns part view) (hp : part ≠ .editor) :
    view before.scene.world = view s.scene.world := by
  cases h with
  | request => rfl
  | start now => exact s.opened_view setup ho hp
  | tick now => rfl

end State.RunsPass

/-- **No stale document behind a pane that shows failures.** If a pass emits nothing and the sandbox
can be cleared, then it holds no document afterwards, as long as the pane takes the text of the
failure that there may have been.  A pane that refuses this text keeps the sandbox from being
cleared: then the sandbox is as it was before the pass. -/
theorem document_cleared {setup : Setup σ} {views : Views σ} (h : setup.around.Faithful views)
    (hclear : ∀ w, (setup.around.clear w).1.failure = none) {s before t : State σ}
    {outcome : PassOutcome} (hrun : s.RunsPass setup before outcome t) (hne : outcome ≠ .emitted) :
    ((∀ text after, before.attempt setup = (.error text, after) →
        (setup.around.setPane text after.scene.world).1.failure = none) →
      views.document t.scene.world = none) ∧
    ∀ text after, before.attempt setup = (.error text, after) →
      (setup.around.setPane text after.scene.world).1.failure ≠ none →
        outcome = .failed ∧ views.document t.scene.world = views.document s.scene.world := by
  have hpass := hrun.pass_eq
  have hbefore := hrun.before_view h.owns_sandbox Part.noConfusion
  cases hf : before.firstFailure? setup with
  | none =>
    obtain ⟨_, _, -, hattempt, -⟩ := State.attempt_shown h hf
    obtain ⟨result, -, houtcome, -, hdocument⟩ := State.compilePass_shown h hf
    rw [hpass] at houtcome hdocument
    refine ⟨fun _ => ?_, fun text after herror => ?_⟩
    · -- what is shown without a failure is a script or diagnostics
      unfold Display.ofEnd at houtcome hdocument
      by_cases hempty : result.diagnostics.isEmpty
      · simp only [if_pos hempty] at houtcome
        exact absurd houtcome hne
      · simpa only [if_neg hempty] using hdocument
    · rw [hattempt] at herror
      cases herror
  | some text =>
    obtain ⟨after, hattempt, hkept, houtcome, -, hdocument⟩ := State.compilePass_failed h hf
    rw [hpass] at houtcome hdocument
    constructor
    · intro htaken
      exact hdocument.trans (State.showFailure_document h (htaken text after hattempt) hclear)
    · -- the pass had but this one failure to show
      intro text' after' herror hrefused
      obtain ⟨rfl, rfl⟩ : text = text' ∧ after = after' := by
        simpa using hattempt.symm.trans herror
      refine ⟨houtcome, ?_⟩
      rw [hdocument, State.showFailure_refused h hrefused, hkept, hbefore]

/-- A board that clears its sandbox after a crash, and one that does not, because its pane refuses
the text of the crash. -/
theorem document_cleared_on_board :
    let s := State.initial .empty 1500 ({ document := some "old" } : Board)
    let taking := { Board.setupRefusing fun e => e matches .load _ with service := Board.crashing }
    let refusing :=
      { Board.setupRefusing fun e => e.part = .pane with service := Board.crashing }
    (s.start taking 0).2.scene.world.document = none ∧
      (s.start refusing 0).2.scene.world.document = some "old" := by
  intro s taking refusing
  have htaking : s.RunsPass taking (s.opened taking) (s.start taking 0).1 (s.start taking 0).2 :=
    .start 0
  have hrefusing :
      s.RunsPass refusing (s.opened refusing) (s.start refusing 0).1 (s.start refusing 0).2 :=
    .start 0
  have htaken := (document_cleared (Board.refusing_faithful _) (fun w => rfl) htaking
    PassOutcome.noConfusion).1
  have hrefused := (document_cleared (Board.refusing_faithful _) (fun w => rfl) hrefusing
    PassOutcome.noConfusion).2 "gone" ((s.opened refusing).attempt refusing).2 rfl
  exact ⟨htaken fun text _ _ => rfl, (hrefused (Option.some_ne_none _)).2⟩

/-- A document outlives a pass that failed, with a sandbox that could be cleared, if the pane
refuses everything. -/
theorem document_outlives_failure :
    let setup := Board.setupRefusing fun e => e.part = .pane
    let s := State.initial .empty 1500 ({ document := some "old" } : Board)
    setup.around.Faithful { pane := Board.pane, document := Board.document } ∧
      (∀ w, (setup.around.clear w).1.failure = none) ∧
      (s.compilePass setup).1 = .failed ∧
      (s.compilePass setup).2.scene.world.document = some "old" :=
  ⟨Board.refusing_faithful _, fun _ => rfl, rfl, rfl⟩

end Playground.Session
