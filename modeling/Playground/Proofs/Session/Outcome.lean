import Playground.Proofs.Compiler.Emission
import Playground.Proofs.Session.Pass

/-!
# What a pass shows

The pane and the sandbox may refuse what they are given.  A pass then fails, and shows why, as far
as they let it.

* `Surroundings.Faithful` — parts that may refuse a request, and then keep what they held;
* `Display` — what is shown of the end of a pass, if nothing is refused;
* `firstFailure?` — the text of the failure that comes first in a pass, if one comes, word for word;
* `firstFailure?_eq` — these are the words that a pass has for its failure;
* `compilePass_shown`, `compilePass_failed` — the two ways in which a pass ends.
-/

namespace Playground.Session

open Compiler Snapshot

variable {σ α : Type}

/-! ### Parts that may refuse -/

/-- What the pane and the sandbox of a world hold. -/
structure Views (σ : Type) where
  pane : σ → String
  document : σ → Option String

/-- Parts that may refuse a request.  The pane and the sandbox hold what they took, and keep what
they held if they refuse. -/
structure Surroundings.Faithful (around : Surroundings σ) (views : Views σ) : Prop where
  owns_pane : around.Owns .pane views.pane
  owns_sandbox : around.Owns .sandbox views.document
  pane : ∀ text w, (around.setPane text w).1.failure = none →
    views.pane (around.setPane text w).2 = text
  load : ∀ document w, (around.load document w).1.failure = none →
    views.document (around.load document w).2 = some document
  clear : ∀ w, (around.clear w).1.failure = none → views.document (around.clear w).2 = none
  refused : ∀ (e : Errand) w, (e.request around w).1.failure ≠ none →
    views.pane (e.request around w).2 = views.pane w ∧
      views.document (e.request around w).2 = views.document w

/-- The outcome of a pass, and what the pane and the sandbox hold after it. -/
structure Display where
  outcome : PassOutcome
  pane : String
  document : Option String

/-- What is shown of the end of a pass. -/
def Display.ofEnd (r : Renderer) : PassEnd → Display
  | .compiled result =>
    if result.diagnostics.isEmpty then
      ⟨.emitted, result.emitted.getD "", some (r.document (result.emitted.getD ""))⟩
    else ⟨.diagnostics result.diagnostics.length, result.messages, none⟩
  | .refused e => ⟨.failed, e.text, none⟩
  | .crashed message => ⟨.failed, State.crashText message, none⟩

/-- What the pane and the sandbox hold is on display. -/
structure Views.On (views : Views σ) (w : σ) (d : Display) : Prop where
  pane : views.pane w = d.pane
  document : views.document w = d.document

/-! ### A text for the pane, and an errand to the sandbox -/

/-- The first refusal of two requests that are made one after the other. -/
def refusal? (first second : Request σ) (w : σ) : Option Failure :=
  (first w).1.failure.or (second (first w).2).1.failure

section Faithful

variable {around : Surroundings σ} {views : Views σ} {text : String} {e : Errand}

/-- Unless one of them is refused, a text is shown in the pane and an errand to the sandbox is
run. -/
theorem Act.run_shown (h : around.Faithful views) (he : e.part = .sandbox) (next : Act σ α)
    (s : Scene σ) (hf : refusal? (around.setPane text) (e.request around) s.world = none) :
    ∃ after, (Act.request (around.setPane text) >>= fun _ =>
        Act.request (e.request around) >>= fun _ => next).run s = next.run after ∧
      views.pane after.world = text ∧
      ∃ w, (e.request around w).1.failure = none ∧ after.world = (e.request around w).2 := by
  obtain ⟨hpane, hsandbox⟩ := Option.or_eq_none_iff.1 hf
  refine ⟨(s.after (around.setPane text)).after (e.request around), ?_, ?_, _, hsandbox, rfl⟩
  · rw [Act.run_request_bind, hpane]
    dsimp only
    rw [Act.run_request_bind, Scene.after_world, hsandbox]
  · exact (h.owns_pane e (by rw [he]; decide) _).trans (h.pane text s.world hpane)

/-- If one of them is refused, the act ends there, and the sandbox keeps what it held. -/
theorem Act.run_refused (h : around.Faithful views) (next : Act σ α) (s : Scene σ) {f : Failure}
    (hf : refusal? (around.setPane text) (e.request around) s.world = some f) :
    ∃ after, (Act.request (around.setPane text) >>= fun _ =>
        Act.request (e.request around) >>= fun _ => next).run s = (.error f, after) ∧
      views.document after.world = views.document s.world := by
  have hkept : views.document (around.setPane text s.world).2 = views.document s.world :=
    h.owns_sandbox (.setPane text) Part.noConfusion s.world
  rw [Act.run_request_bind]
  unfold refusal? at hf
  -- the errand to the sandbox is not reached if the pane refuses
  cases hpane : (around.setPane text s.world).1.failure with
  | some g =>
    rw [hpane] at hf
    obtain rfl : g = f := Option.some.inj hf
    exact ⟨_, rfl, hkept⟩
  | none =>
    rw [hpane, Option.none_or] at hf
    refine ⟨(s.after (around.setPane text)).after (e.request around), ?_, ?_⟩
    · dsimp only
      rw [Act.run_request_bind, Scene.after_world, hf]
    · have hrefused : (e.request around (around.setPane text s.world).2).1.failure ≠ none := by
        rw [hf]
        exact Option.some_ne_none f
      exact (h.refused e _ hrefused).2.trans hkept

end Faithful

/-! ### Rendering -/

/-- Why the result of a pass cannot be shown, if it cannot: the pane or, after it, the sandbox
refuses what it is given. -/
def Renderer.refusal? (r : Renderer) (around : Surroundings σ) (result : CompileResult) (w : σ) :
    Option Failure :=
  if result.diagnostics.isEmpty then
    let script := result.emitted.getD ""
    Session.refusal? (around.setPane script) (around.load (r.document script)) w
  else
    let messages := "\n".intercalate (result.diagnostics.map Diagnostic.text)
    Session.refusal? (around.setPane messages) around.clear w

section Rendering

variable {around : Surroundings σ} {views : Views σ} {r : Renderer} {result : CompileResult}

/-- A result that is not refused is shown. -/
theorem Renderer.render_shown (h : around.Faithful views) (s : Scene σ)
    (hf : r.refusal? around result s.world = none) : ∃ after,
      (r.render around result).run s = (.ok (Display.ofEnd r (.compiled result)).outcome, after) ∧
        views.On after.world (Display.ofEnd r (.compiled result)) := by
  unfold Renderer.refusal? at hf
  unfold Renderer.render
  by_cases hempty : result.diagnostics.isEmpty
  · simp only [if_pos hempty, Display.ofEnd, Surroundings.loadThen_bind] at hf ⊢
    obtain ⟨after, hrun, hpane, w, hload, hworld⟩ :=
      Act.run_shown (e := .load _) h rfl (Act.note [.detail "sandbox" "document loaded"] >>=
        fun _ => pure PassOutcome.emitted) s hf
    refine ⟨after.noting [.detail "sandbox" "document loaded"], hrun, hpane, ?_⟩
    exact (congrArg views.document hworld).trans (h.load _ w hload)
  · simp only [if_neg hempty, Display.ofEnd] at hf ⊢
    obtain ⟨after, hrun, hpane, w, hclear, hworld⟩ :=
      Act.run_shown (e := .clear) h rfl
        (pure (PassOutcome.diagnostics result.diagnostics.length)) s hf
    refine ⟨after, hrun, hpane, ?_⟩
    exact (congrArg views.document hworld).trans (h.clear w hclear)

/-- A result that is refused leaves the sandbox as it was. -/
theorem Renderer.render_refused (h : around.Faithful views) (s : Scene σ) {f : Failure}
    (hf : r.refusal? around result s.world = some f) : ∃ after,
      (r.render around result).run s = (.error f, after) ∧
        views.document after.world = views.document s.world := by
  unfold Renderer.refusal? at hf
  unfold Renderer.render
  by_cases hempty : result.diagnostics.isEmpty
  · simp only [if_pos hempty, Surroundings.loadThen_bind] at hf ⊢
    exact Act.run_refused (e := .load _) h _ s hf
  · simp only [if_neg hempty] at hf ⊢
    exact Act.run_refused (e := .clear) h _ s hf

end Rendering

/-! ### An attempt -/

namespace State

variable (setup : Setup σ) {views : Views σ} (s : State σ)

/-- The call of the service in a pass. -/
def emission : Emission := Compiler.emission setup.service setup.options setup.pipeline s.host

/-- The text of the failure that comes first in a pass, if one comes.  A service that breaks down
leaves a message, or none; one that refuses says why; and if it is the result that cannot be shown,
all reasons for that are told, from the outermost one on. -/
def firstFailure? : Option String :=
  match (s.emission setup).ending with
  | .crashed (some message) => some message
  | .crashed none => some "compiler panicked"
  | .refused (.sourceNotFound path) =>
    some ("source file \x60" ++ path ++ "\x60 could not be resolved")
  | .refused (.target reason) => some ("unsupported target: " ++ reason)
  | .refused (.transform e) =>
    some ("transform \x60" ++ e.transform ++ "\x60 failed: " ++ e.message)
  | .compiled result =>
    (setup.renderer.refusal? setup.around result s.scene.world).map fun f =>
      ": ".intercalate (f.reason :: f.causes)

/-- The text is the one that a pass has for the failure. -/
theorem firstFailure?_eq : s.firstFailure? setup = match (s.emission setup).ending with
    | .crashed message => some (crashText message)
    | .refused e => some e.text
    | .compiled result =>
      (setup.renderer.refusal? setup.around result s.scene.world).map Failure.text := by
  unfold firstFailure?
  cases (s.emission setup).ending with
  | crashed message => cases message <;> rfl
  | refused e => cases e <;> rfl
  | compiled result => rfl

/-- The session after the call of the service. -/
def called : State σ :=
  s.takingHostRemarks (compile setup.service setup.options setup.pipeline s.host).2

/-- An attempt shows the result of the service, if there is one. -/
theorem attempt_eq : s.attempt setup = match (s.emission setup).ending with
    | .crashed message => (.error (crashText message), s.called setup)
    | .refused e => (.error e.text, s.called setup)
    | .compiled result =>
      match (setup.renderer.render setup.around result).run (s.called setup).scene with
      | (.ok outcome, scene) => (.ok outcome, { s.called setup with scene })
      | (.error f, scene) => (.error f.text, { s.called setup with scene }) := by
  rw [emission, ← compile_ending]
  unfold attempt called
  obtain ⟨ending, host⟩ := compile setup.service setup.options setup.pipeline s.host
  cases ending <;> rfl

variable {setup s}

/-- Without a failure, the result of the service is shown. -/
theorem attempt_shown (h : setup.around.Faithful views) (hf : s.firstFailure? setup = none) :
    ∃ result after, (s.emission setup).ending = .compiled result ∧
      s.attempt setup =
        (.ok (Display.ofEnd setup.renderer (.compiled result)).outcome, after) ∧
      views.On after.scene.world (Display.ofEnd setup.renderer (.compiled result)) := by
  rw [attempt_eq]
  rw [firstFailure?_eq] at hf
  cases hending : (s.emission setup).ending with
  | crashed message => simp [hending] at hf
  | refused e => simp [hending] at hf
  | compiled result =>
    simp only [hending, Option.map_eq_none_iff] at hf
    obtain ⟨scene, hrun, hon⟩ := Renderer.render_shown h (s.called setup).scene hf
    refine ⟨result, { s.called setup with scene }, rfl, ?_, hon⟩
    simp only [hrun]

/-- The first failure ends the attempt, and leaves the sandbox as it was. -/
theorem attempt_failed (h : setup.around.Faithful views) {text : String}
    (hf : s.firstFailure? setup = some text) : ∃ after, s.attempt setup = (.error text, after) ∧
      views.document after.scene.world = views.document s.scene.world := by
  rw [attempt_eq]
  rw [firstFailure?_eq] at hf
  cases hending : (s.emission setup).ending with
  | crashed message =>
    simp only [hending, Option.some.injEq] at hf
    subst hf
    exact ⟨s.called setup, rfl, rfl⟩
  | refused e =>
    simp only [hending, Option.some.injEq] at hf
    subst hf
    exact ⟨s.called setup, rfl, rfl⟩
  | compiled result =>
    simp only [hending, Option.map_eq_some_iff] at hf
    obtain ⟨f, hrefusal, rfl⟩ := hf
    obtain ⟨scene, hrun, hkept⟩ := Renderer.render_refused h (s.called setup).scene hrefusal
    refine ⟨{ s.called setup with scene }, ?_, hkept⟩
    simp only [hrun]

/-! ### Showing a failure -/

variable (setup s)

/-- The text of a failure goes to the pane, and if the pane takes it, the sandbox is cleared. -/
theorem showFailure_world (message : String) : (s.showFailure setup message).scene.world =
    if (setup.around.setPane message s.scene.world).1.failure = none
    then (setup.around.clear (setup.around.setPane message s.scene.world).2).2
    else (setup.around.setPane message s.scene.world).2 := by
  rw [showFailure_run, renderFailure, Act.run_request_bind]
  dsimp only [Scene.noting]
  cases (setup.around.setPane message s.scene.world).1.failure with
  | some f => rfl
  | none =>
    dsimp only
    rw [Act.run_request_bind, if_pos rfl]
    split <;> rfl

variable {setup s}

/-- A pane that takes the text of a failure shows it, whether or not the sandbox is cleared. -/
theorem showFailure_pane (h : setup.around.Faithful views) {message : String}
    (hpane : (setup.around.setPane message s.scene.world).1.failure = none) :
    views.pane (s.showFailure setup message).scene.world = message := by
  rw [showFailure_world, if_pos hpane]
  exact (h.owns_pane .clear Part.noConfusion _).trans (h.pane message s.scene.world hpane)

/-- Behind a pane that takes the text of a failure, the sandbox is cleared. -/
theorem showFailure_document (h : setup.around.Faithful views) {message : String}
    (hpane : (setup.around.setPane message s.scene.world).1.failure = none)
    (hclear : ∀ w, (setup.around.clear w).1.failure = none) :
    views.document (s.showFailure setup message).scene.world = none := by
  rw [showFailure_world, if_pos hpane]
  exact h.clear _ (hclear _)

/-- Behind a pane that refuses the text of a failure, the sandbox is left as it was. -/
theorem showFailure_refused (h : setup.around.Faithful views) {message : String}
    (hpane : (setup.around.setPane message s.scene.world).1.failure ≠ none) :
    views.document (s.showFailure setup message).scene.world = views.document s.scene.world := by
  rw [showFailure_world, if_neg hpane]
  exact h.owns_sandbox (.setPane message) Part.noConfusion s.scene.world

/-! ### The two ways in which a pass ends -/

/-- Without a failure, a pass leaves the result of the service on display. -/
theorem compilePass_shown (h : setup.around.Faithful views) (hf : s.firstFailure? setup = none) :
    ∃ result, (s.emission setup).ending = .compiled result ∧
      (s.compilePass setup).1 = (Display.ofEnd setup.renderer (.compiled result)).outcome ∧
      views.On (s.compilePass setup).2.scene.world
        (Display.ofEnd setup.renderer (.compiled result)) := by
  obtain ⟨result, after, hending, hattempt, hon⟩ := attempt_shown h hf
  have hrendered : s.rendered setup =
      ((Display.ofEnd setup.renderer (.compiled result)).outcome, after) := by
    rw [rendered, hattempt]
  refine ⟨result, hending, ?_, ?_, ?_⟩
  · rw [compilePass_eq, hrendered]
  · rw [compilePass_world, hrendered]
    exact (h.owns_pane (.setFragment _) Part.noConfusion _).trans hon.pane
  · rw [compilePass_world, hrendered]
    exact (h.owns_sandbox (.setFragment _) Part.noConfusion _).trans hon.document

/-- After a failure, a pass leaves the pane and the sandbox as showing the failure does. -/
theorem compilePass_failed (h : setup.around.Faithful views) {text : String}
    (hf : s.firstFailure? setup = some text) : ∃ after,
      s.attempt setup = (.error text, after) ∧
      views.document after.scene.world = views.document s.scene.world ∧
      (s.compilePass setup).1 = .failed ∧
      views.pane (s.compilePass setup).2.scene.world =
        views.pane (after.showFailure setup text).scene.world ∧
      views.document (s.compilePass setup).2.scene.world =
        views.document (after.showFailure setup text).scene.world := by
  obtain ⟨after, hattempt, hkept⟩ := attempt_failed h hf
  have hrendered : s.rendered setup = (.failed, after.showFailure setup text) := by
    rw [rendered, hattempt]
  refine ⟨after, hattempt, hkept, ?_, ?_, ?_⟩
  · rw [compilePass_eq, hrendered]
  · rw [compilePass_world, hrendered]
    exact h.owns_pane (.setFragment _) Part.noConfusion _
  · rw [compilePass_world, hrendered]
    exact h.owns_sandbox (.setFragment _) Part.noConfusion _

end State

end Playground.Session
