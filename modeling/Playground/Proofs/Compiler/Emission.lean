import Mathlib.Data.List.Forall2
import Playground.Proofs.Compiler.Isolation

/-!
# What a service emits

The virtual host keeps the last write to the output file.  `Dialog.writes` lists what a dialog
writes, so that the end of a pass can be told from the call of the service alone:

* `isOutput_iff` — the two paths of the output file;
* `run_output` — what a dialog leaves in the capture slot is what it wrote last to the output file;
* `compile_ending` — a pass ends as the answer of the service and its writes say.

Passes that are run one after another share a host, and with it the slot that captures the output.
Still, each of them ends as its own call of the service says:

* `Order`, `passEnds` — passes over one host, between which the text may be replaced;
* `calls` — the calls of the service in these passes, each on a host of its own;
* `Captures` — how a pass ends after a call;
* `passEnds_eq` — passes end as their calls say, and the slot has no part in it;
* `passes_capture_own_output` — what the passes emit is what each of them wrote.
-/

namespace Playground.Compiler

open Snapshot

variable {σ τ α : Type}

/-! ### Writes -/

/-- What a dialog writes with a host, in order: paths and texts. -/
def Dialog.writes (h : Host σ) : Dialog α → σ → List (String × String)
  | .done _, _ => []
  | .fileExists path next, s => (next (h.fileExists path s).1).writes h (h.fileExists path s).2
  | .readFile path next, s => (next (h.readFile path s).1).writes h (h.readFile path s).2
  | .sourceFile path next, s => (next (h.sourceFile path s).1).writes h (h.sourceFile path s).2
  | .libraryFile options next, s =>
    (next (h.libraryFile options s).1).writes h (h.libraryFile options s).2
  | .writeFile path data next, s => (path, data) :: next.writes h (h.writeFile path data s)
  | .debug topic message next, s => next.writes h (h.debug topic message s)

/-- Whether a path is one of the output file. -/
def isOutput (path : String) : Bool := path = outputPath || path = "/" ++ outputPath

/-- The text that was written last to the output file. -/
def lastScript? (writes : List (String × String)) : Option String :=
  (writes.filter fun w => isOutput w.1).getLast?.map (·.2)

/-- The output file has one path besides its own: the one with a leading slash. -/
theorem isOutput_iff (path : String) : isOutput path = true ↔ hostPath path = outputPath := by
  have hslash : ("/" ++ outputPath).toList = '/' :: outputPath.toList := rfl
  have hplain : outputPath.toList.head? = some 'i' := rfl
  simp only [isOutput, Bool.or_eq_true, decide_eq_true_eq]
  unfold hostPath
  split
  · rename_i rest hpath
    constructor
    · rintro (rfl | rfl)
      · -- the output file itself has no leading slash
        rw [hpath] at hplain
        cases hplain
      · rw [hslash] at hpath
        rw [← (List.cons.inj hpath).2, String.ofList_toList]
    · intro hrest
      right
      apply String.toList_inj.1
      rw [hpath, hslash, ← hrest, String.toList_ofList]
  · rename_i hpath
    refine ⟨?_, .inl⟩
    rintro (rfl | rfl)
    · rfl
    · exact absurd hslash (hpath _)

/-- A later write to the output file replaces an earlier one. -/
theorem lastScript?_cons (path data : String) (rest : List (String × String)) :
    lastScript? ((path, data) :: rest) =
      (lastScript? rest).or (if hostPath path = outputPath then some data else none) := by
  unfold lastScript?
  rw [List.filter_cons]
  by_cases hpath : hostPath path = outputPath
  · rw [if_pos ((isOutput_iff path).2 hpath), if_pos hpath, List.getLast?_cons]
    cases (rest.filter fun w => isOutput w.1).getLast? <;> rfl
  · rw [if_neg (fun h => hpath ((isOutput_iff path).1 h)), if_neg hpath, Option.or_none]

/-- What a dialog leaves in the capture slot is what it wrote last to the output file, or else what
was there before. -/
theorem Dialog.run_output (d : Dialog α) (h : VirtualHost) :
    (d.run VirtualHost.host h).2.output =
      (lastScript? (d.writes VirtualHost.host h)).or h.output := by
  induction d generalizing h with
  | done a => rfl
  | fileExists path next ih => exact ih _ _
  | readFile path next ih => exact ih _ _
  | sourceFile path next ih => exact ih _ _
  | libraryFile options next ih => exact ih _ _
  | debug topic message next ih => exact ih _
  | writeFile path data next ih =>
    -- the only answer of the host that reaches the capture slot
    have hwrite : (VirtualHost.host.writeFile path data h).output =
        (if hostPath path = outputPath then some data else none).or h.output := by
      show (VirtualHost.write _ path data).output = _
      unfold VirtualHost.write
      split <;> rfl
    show (next.run VirtualHost.host _).2.output =
      (lastScript? ((path, data) :: next.writes VirtualHost.host _)).or h.output
    rw [ih, hwrite, lastScript?_cons, Option.or_assoc]

/-! ### Emissions -/

/-- What a service answers in a call, and what it writes on the way. -/
structure Emission where
  answer : EmitAnswer
  writes : List (String × String)

/-- The call of a service in a pass: the capture slot of the host was emptied before. -/
def emission (service : Service) (options : CompilerOptions) (pipeline : Pipeline)
    (h : VirtualHost) : Emission where
  answer := (answerOver service options pipeline h).1
  writes := (service options pipeline).writes VirtualHost.host h.takeOutput.2

/-- How a pass ends after a call of the service. -/
def Emission.ending (e : Emission) : PassEnd :=
  match e.answer with
  | .crashed message => .crashed message
  | .refused error => .refused error
  | .finished report =>
    .compiled ⟨report.diagnostics,
      if report.skipped || !report.diagnostics.isEmpty then none else lastScript? e.writes⟩

/-- A pass has a result if the service finished. -/
theorem Emission.of_compiled {e : Emission} {result : CompileResult}
    (h : e.ending = .compiled result) : ∃ report, e.answer = .finished report ∧
      result.diagnostics = report.diagnostics ∧ result.emitted =
        if report.skipped || !report.diagnostics.isEmpty then none else lastScript? e.writes := by
  unfold ending at h
  cases hanswer : e.answer with
  | crashed message => simp [hanswer] at h
  | refused error => simp [hanswer] at h
  | finished report =>
    simp only [hanswer, PassEnd.compiled.injEq] at h
    exact ⟨report, rfl, by rw [← h], by rw [← h]⟩

/-- A pass ends as the call of the service says. -/
theorem compile_ending (service : Service) (options : CompilerOptions) (pipeline : Pipeline)
    (h : VirtualHost) : (compile service options pipeline h).1 =
      (emission service options pipeline h).ending := by
  have houtput : (answerOver service options pipeline h).2.output =
      lastScript? (emission service options pipeline h).writes := by
    refine ((service options pipeline).run_output h.takeOutput.2).trans ?_
    exact Option.or_none
  rw [compile_eq]
  show (PassEnd.ofAnswer (emission service options pipeline h).answer _).1 = _
  unfold Emission.ending PassEnd.ofAnswer
  cases (emission service options pipeline h).answer with
  | crashed message => rfl
  | refused error => rfl
  | finished report =>
    dsimp only
    rw [houtput]
    split <;> rfl

/-! ### The last write -/

/-- The text that was written last to the output file is that of a write behind which no other goes
to the output file. -/
theorem lastScript?_eq_some {writes : List (String × String)} {text : String} :
    lastScript? writes = some text ↔ ∃ before path behind,
      writes = before ++ (path, text) :: behind ∧ hostPath path = outputPath ∧
        ∀ w ∈ behind, hostPath w.1 ≠ outputPath := by
  have hnone (rest : List (String × String)) :
      lastScript? rest = none ↔ ∀ w ∈ rest, hostPath w.1 ≠ outputPath := by
    simp [lastScript?, ← isOutput_iff]
  induction writes with
  | nil => simp [lastScript?]
  | cons w rest ih =>
    obtain ⟨path, data⟩ := w
    rw [lastScript?_cons]
    constructor
    · intro h
      obtain hrest | ⟨hrest, hpath⟩ := Option.or_eq_some_iff.1 h
      · obtain ⟨before, p, behind, rfl, hp, hbehind⟩ := ih.1 hrest
        exact ⟨(path, data) :: before, p, behind, rfl, hp, hbehind⟩
      · split at hpath
        · next hout =>
          cases hpath
          exact ⟨[], path, rest, rfl, hout, (hnone rest).1 hrest⟩
        · cases hpath
    · rintro ⟨before, p, behind, hwrites, hp, hbehind⟩
      cases before with
      | nil =>
        obtain ⟨⟨rfl, rfl⟩, rfl⟩ := by simpa using hwrites
        rw [(hnone rest).2 hbehind, Option.none_or, if_pos hp]
      | cons w before =>
        obtain ⟨rfl, rfl⟩ := List.cons.inj hwrites
        rw [ih.2 ⟨before, p, behind, rfl, hp, hbehind⟩, Option.some_or]

/-! ### Calls that are told alike -/

/-- A dialog with hosts that answer alike writes the same. -/
theorem Dialog.writes_agree {h : Host σ} {k : Host τ} {R : σ → τ → Prop} (ha : h.Agree k R)
    (d : Dialog α) (s : σ) (t : τ) (hst : R s t) : d.writes h s = d.writes k t := by
  induction d generalizing s t with
  | done a => rfl
  | fileExists path next ih =>
    obtain ⟨hanswer, hafter⟩ := ha.fileExists path s t hst
    rw [Dialog.writes, Dialog.writes, hanswer]
    exact ih _ _ _ hafter
  | readFile path next ih =>
    obtain ⟨hanswer, hafter⟩ := ha.readFile path s t hst
    rw [Dialog.writes, Dialog.writes, hanswer]
    exact ih _ _ _ hafter
  | sourceFile path next ih =>
    obtain ⟨hanswer, hafter⟩ := ha.sourceFile path s t hst
    rw [Dialog.writes, Dialog.writes, hanswer]
    exact ih _ _ _ hafter
  | libraryFile options next ih =>
    obtain ⟨hanswer, hafter⟩ := ha.libraryFile options s t hst
    rw [Dialog.writes, Dialog.writes, hanswer]
    exact ih _ _ _ hafter
  | writeFile path data next ih =>
    rw [Dialog.writes, Dialog.writes, ih _ _ (ha.writeFile path data s t hst)]
  | debug topic message next ih => exact ih _ _ (ha.debug topic message s t hst)

/-- What a service answers and writes depends on the files alone. -/
theorem emission_eq (service : Service) (options : CompilerOptions) (pipeline : Pipeline)
    (h : VirtualHost) : emission service options pipeline h =
      emission service options pipeline { store := h.store, buffer := h.buffer } := by
  have hstart : h.takeOutput.2.Alike
      (VirtualHost.takeOutput { store := h.store, buffer := h.buffer }).2 := ⟨rfl, rfl, rfl⟩
  unfold emission answerOver
  rw [(Dialog.run_agree VirtualHost.host_agree (service options pipeline) _ _ hstart).1,
    Dialog.writes_agree VirtualHost.host_agree (service options pipeline) _ _ hstart]

/-! ### Passes -/

/-- What a pass is run with: the text, if it is a new one, and the service. -/
structure Order where
  text : Option String
  service : Service
  options : CompilerOptions
  pipeline : Pipeline

/-- The text that a pass is run over, if no new one comes with it the one from before. -/
def Order.textOver (o : Order) (text : String) : String := o.text.getD text

/-- How passes over a host end, one after another. -/
def passEnds (h : VirtualHost) : List Order → List PassEnd
  | [] => []
  | o :: rest =>
    let (ending, after) :=
      compile o.service o.options o.pipeline (h.edit (o.textOver h.buffer))
    ending :: passEnds after rest

/-- The calls of the service in passes, each on a host of which nothing is known but its files. -/
def calls (store : Store) (text : String) : List Order → List Emission
  | [] => []
  | o :: rest =>
    emission o.service o.options o.pipeline { store, buffer := o.textOver text } ::
      calls store (o.textOver text) rest

/-- Passes end as their calls say. -/
theorem passEnds_eq (h : VirtualHost) (orders : List Order) :
    passEnds h orders = (calls h.store h.buffer orders).map Emission.ending := by
  induction orders generalizing h with
  | nil => rfl
  | cons o rest ih =>
    let before := h.edit (o.textOver h.buffer)
    obtain ⟨hstore, hbuffer⟩ := compile_files o.service o.options o.pipeline before
    show (compile o.service o.options o.pipeline before).1 ::
      passEnds (compile o.service o.options o.pipeline before).2 rest = _
    rw [ih, hstore, hbuffer, compile_ending, emission_eq, calls, List.map_cons]
    rfl

/-! ### What is captured -/

/-- How a pass ends after a call of the service.  What is refused or breaks down is passed on, and
so are the diagnostics.  A text is emitted if nothing stood against it and it is what the call wrote
last to the output file. -/
structure Captures (call : Emission) (ending : PassEnd) : Prop where
  refused : ∀ e, ending = .refused e ↔ call.answer = .refused e
  crashed : ∀ message, ending = .crashed message ↔ call.answer = .crashed message
  compiled : (∃ result, ending = .compiled result) ↔ ∃ report, call.answer = .finished report
  diagnostics : ∀ result report, ending = .compiled result → call.answer = .finished report →
    result.diagnostics = report.diagnostics
  emitted : ∀ result report, ending = .compiled result → call.answer = .finished report →
    ∀ text, result.emitted = some text ↔
      report.skipped = false ∧ report.diagnostics = [] ∧ ∃ before path behind,
        call.writes = before ++ (path, text) :: behind ∧ hostPath path = outputPath ∧
          ∀ w ∈ behind, hostPath w.1 ≠ outputPath

/-- A call is captured by the end of its pass. -/
theorem Emission.captures (call : Emission) : Captures call call.ending := by
  obtain ⟨answer, writes⟩ := call
  cases answer with
  | refused e => exact ⟨by simp [ending], by simp [ending], by simp [ending], nofun, nofun⟩
  | crashed m => exact ⟨by simp [ending], by simp [ending], by simp [ending], nofun, nofun⟩
  | finished report =>
    refine ⟨by simp [ending], by simp [ending], by simp [ending], ?_, ?_⟩
    · rintro result _ hresult ⟨⟩
      cases hresult
      rfl
    · rintro result _ hresult ⟨⟩ text
      cases hresult
      rw [← lastScript?_eq_some]
      by_cases hblocked : report.skipped || !report.diagnostics.isEmpty
      · -- an emit that is skipped or has diagnostics emits nothing
        rw [if_pos hblocked]
        simp only [Bool.or_eq_true, Bool.not_eq_true', List.isEmpty_eq_false_iff] at hblocked
        simp only [reduceCtorEq, false_iff, not_and]
        rintro hskipped hempty
        exact absurd hblocked (by simp [hskipped, hempty])
      · rw [if_neg hblocked]
        simp only [Bool.or_eq_true, Bool.not_eq_true', List.isEmpty_eq_false_iff, not_or,
          Bool.not_eq_true, ne_eq, not_not] at hblocked
        simp [hblocked]

/-- Passes over one host capture what each of them wrote, whatever the host held before. -/
theorem passes_capture_own_output (h : VirtualHost) (orders : List Order) (slot : Option String) :
    List.Forall₂ Captures (calls h.store h.buffer orders) (passEnds h orders) ∧
      passEnds { h with output := slot } orders = passEnds h orders := by
  constructor
  · rw [passEnds_eq, List.forall₂_map_right_iff, List.forall₂_same]
    exact fun call _ => call.captures
  · rw [passEnds_eq, passEnds_eq]

end Playground.Compiler
