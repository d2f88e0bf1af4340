import Playground.Compiler.Service

/-!
# What a pass depends on

A dialog learns about its host through the answers alone.  Two hosts that answer alike are
therefore told alike, whatever else they hold:

* `Dialog.run_keeps` — what every step of a host keeps, a whole dialog keeps;
* `Dialog.run_agree` — a dialog with two hosts that answer alike has one result, and leaves them
  in states that still answer alike;
* `compile_verdict` — the end of a pass is a function of the store and of the text being edited:
  the output that an earlier pass left behind, and what was noted, have no part in it.
-/

namespace Playground.Compiler

variable {σ τ α : Type}

/-! ### Steps and dialogs -/

/-- Every step of a host keeps a property of its state. -/
structure Host.Keeps (h : Host σ) (P : σ → Prop) : Prop where
  fileExists : ∀ path s, P s → P (h.fileExists path s).2
  readFile : ∀ path s, P s → P (h.readFile path s).2
  sourceFile : ∀ path s, P s → P (h.sourceFile path s).2
  libraryFile : ∀ options s, P s → P (h.libraryFile options s).2
  writeFile : ∀ path data s, P s → P (h.writeFile path data s)
  debug : ∀ topic message s, P s → P (h.debug topic message s)

/-- Two hosts answer alike in related states, and every step leaves them in related states. -/
structure Host.Agree (h : Host σ) (k : Host τ) (R : σ → τ → Prop) : Prop where
  fileExists : ∀ path s t, R s t → (h.fileExists path s).1 = (k.fileExists path t).1 ∧
    R (h.fileExists path s).2 (k.fileExists path t).2
  readFile : ∀ path s t, R s t → (h.readFile path s).1 = (k.readFile path t).1 ∧
    R (h.readFile path s).2 (k.readFile path t).2
  sourceFile : ∀ path s t, R s t → (h.sourceFile path s).1 = (k.sourceFile path t).1 ∧
    R (h.sourceFile path s).2 (k.sourceFile path t).2
  libraryFile : ∀ options s t, R s t → (h.libraryFile options s).1 = (k.libraryFile options t).1 ∧
    R (h.libraryFile options s).2 (k.libraryFile options t).2
  writeFile : ∀ path data s t, R s t → R (h.writeFile path data s) (k.writeFile path data t)
  debug : ∀ topic message s t, R s t → R (h.debug topic message s) (k.debug topic message t)

/-- What every step keeps, a dialog keeps. -/
theorem Dialog.run_keeps {h : Host σ} {P : σ → Prop} (hk : h.Keeps P) (d : Dialog α) (s : σ)
    (hs : P s) : P (d.run h s).2 := by
  induction d generalizing s with
  | done a => exact hs
  | fileExists path next ih => exact ih _ _ (hk.fileExists path s hs)
  | readFile path next ih => exact ih _ _ (hk.readFile path s hs)
  | sourceFile path next ih => exact ih _ _ (hk.sourceFile path s hs)
  | libraryFile options next ih => exact ih _ _ (hk.libraryFile options s hs)
  | writeFile path data next ih => exact ih _ (hk.writeFile path data s hs)
  | debug topic message next ih => exact ih _ (hk.debug topic message s hs)

/-- A dialog with hosts that answer alike has one result. -/
theorem Dialog.run_agree {h : Host σ} {k : Host τ} {R : σ → τ → Prop} (ha : h.Agree k R)
    (d : Dialog α) (s : σ) (t : τ) (hst : R s t) :
    (d.run h s).1 = (d.run k t).1 ∧ R (d.run h s).2 (d.run k t).2 := by
  -- a dialog goes on alike after answers that are alike
  induction d generalizing s t with
  | done a => exact ⟨rfl, hst⟩
  | fileExists path next ih =>
    obtain ⟨hanswer, hafter⟩ := ha.fileExists path s t hst
    simp only [Dialog.run, hanswer]
    exact ih _ _ _ hafter
  | readFile path next ih =>
    obtain ⟨hanswer, hafter⟩ := ha.readFile path s t hst
    simp only [Dialog.run, hanswer]
    exact ih _ _ _ hafter
  | sourceFile path next ih =>
    obtain ⟨hanswer, hafter⟩ := ha.sourceFile path s t hst
    simp only [Dialog.run, hanswer]
    exact ih _ _ _ hafter
  | libraryFile options next ih =>
    obtain ⟨hanswer, hafter⟩ := ha.libraryFile options s t hst
    simp only [Dialog.run, hanswer]
    exact ih _ _ _ hafter
  | writeFile path data next ih => exact ih _ _ (ha.writeFile path data s t hst)
  | debug topic message next ih => exact ih _ _ (ha.debug topic message s t hst)

/-! ### The virtual host -/

/-- A path is that of its file, behind a slash or without one. -/
theorem hostPath_cases (p : String) :
    p = "/" ++ hostPath p ∨ hostPath p = p ∧ p.toList.head? ≠ some '/' := by
  unfold hostPath
  split
  · next rest hrest =>
    refine .inl (String.toList_injective ?_)
    rw [hrest, String.toList_append, String.toList_ofList, String.toList_ofList]
    rfl
  · next hrest =>
    refine .inr ⟨rfl, fun hslash => ?_⟩
    obtain ⟨rest, heq⟩ := List.head?_eq_some_iff.1 hslash
    exact hrest rest heq

namespace VirtualHost

/-- A file exists if it has a content. -/
theorem exists?_iff {h : VirtualHost} {path : String} :
    h.exists? path = true ↔ ∃ text, h.content? path = some text := by
  unfold exists? content? Snapshot.Store.contains
  rw [Snapshot.Store.shared?_eq]
  cases h.store.get? (hostPath path) with
  | some text => simp
  | none => simp

/-- The files that two hosts have are the same, and so is what was written. -/
structure Alike (h k : VirtualHost) : Prop where
  store : h.store = k.store
  buffer : h.buffer = k.buffer
  output : h.output = k.output

/-- Noting something changes no file. -/
theorem Alike.remark {h k : VirtualHost} (ha : h.Alike k) (t m t' m' : String) :
    (h.remark t m).Alike (k.remark t' m') := ⟨ha.store, ha.buffer, ha.output⟩

/-- Hosts with the same files find the same text. -/
theorem Alike.content? {h k : VirtualHost} (ha : h.Alike k) (path : String) :
    h.content? path = k.content? path := by
  rw [VirtualHost.content?, VirtualHost.content?, ha.store, ha.buffer]

/-- A write is kept by both or by none. -/
theorem Alike.write {h k : VirtualHost} (ha : h.Alike k) (path data : String) :
    (h.write path data).Alike (k.write path data) := by
  unfold VirtualHost.write
  split
  · exact ⟨ha.store, ha.buffer, rfl⟩
  · exact ha

/-- Virtual hosts with the same files answer alike. -/
theorem host_agree : host.Agree host Alike where
  fileExists path s t hst := by
    refine ⟨?_, hst.remark ..⟩
    show s.exists? path = t.exists? path
    rw [exists?, exists?, hst.store]
  readFile path s t hst := ⟨hst.content? path, hst.remark ..⟩
  sourceFile path s t hst := by
    refine ⟨?_, hst.remark ..⟩
    show s.sourceFile? path = t.sourceFile? path
    rw [sourceFile?, sourceFile?, hst.content? path]
  libraryFile _ _ _ hst := ⟨rfl, hst⟩
  writeFile path data s t hst := (hst.remark ..).write path data
  debug topic message s t hst := hst.remark ..

/-- No step changes the store or the text being edited. -/
theorem host_keeps (store : Snapshot.Store) (buffer : String) :
    host.Keeps fun h => h.store = store ∧ h.buffer = buffer where
  fileExists _ _ hs := hs
  readFile _ _ hs := hs
  sourceFile _ _ hs := hs
  libraryFile _ _ hs := hs
  writeFile path data s hs := by
    show (VirtualHost.write _ path data).store = store ∧ (VirtualHost.write _ path data).buffer = _
    unfold VirtualHost.write
    split <;> exact hs
  debug _ _ _ hs := hs

end VirtualHost

/-! ### Passes -/

/-- What a pass makes of the answer of a service, and of the host that the answer leaves. -/
def PassEnd.ofAnswer : EmitAnswer → VirtualHost → PassEnd × VirtualHost
  | .crashed message, host => (.crashed message, host)
  | .refused error, host => (.refused error, host)
  | .finished report, host =>
    if report.skipped || !report.diagnostics.isEmpty then
      (.compiled ⟨report.diagnostics, none⟩, host)
    else (.compiled ⟨report.diagnostics, host.output⟩, host.takeOutput.2)

/-- Hosts that answer alike give the same end. -/
theorem PassEnd.ofAnswer_alike (answer : EmitAnswer) {h k : VirtualHost} (ha : h.Alike k) :
    (ofAnswer answer h).1 = (ofAnswer answer k).1 := by
  cases answer with
  | finished report =>
    rw [ofAnswer, ofAnswer, ha.output]
    split <;> rfl
  | refused error => rfl
  | crashed message => rfl

/-- Ending a pass changes no file. -/
theorem PassEnd.ofAnswer_files (answer : EmitAnswer) (h : VirtualHost) :
    (ofAnswer answer h).2.store = h.store ∧ (ofAnswer answer h).2.buffer = h.buffer := by
  cases answer with
  | finished report =>
    rw [ofAnswer]
    split <;> exact ⟨rfl, rfl⟩
  | refused error => exact ⟨rfl, rfl⟩
  | crashed message => exact ⟨rfl, rfl⟩

variable (service : Service) (options : CompilerOptions) (pipeline : Pipeline)

/-- The answer of a service over a host whose capture slot was emptied. -/
def answerOver (h : VirtualHost) : EmitAnswer × VirtualHost :=
  (service options pipeline).run VirtualHost.host h.takeOutput.2

/-- A pass empties the capture slot, asks the service, and makes something of the answer. -/
theorem compile_eq (h : VirtualHost) : compile service options pipeline h =
    PassEnd.ofAnswer (answerOver service options pipeline h).1
      (answerOver service options pipeline h).2 := by
  unfold compile answerOver
  dsimp only
  obtain ⟨answer, after⟩ := (service options pipeline).run VirtualHost.host h.takeOutput.2
  cases answer <;> rfl

/-- A pass leaves the files alone. -/
theorem compile_files (h : VirtualHost) :
    (compile service options pipeline h).2.store = h.store ∧
      (compile service options pipeline h).2.buffer = h.buffer := by
  obtain ⟨hstore, hbuffer⟩ := Dialog.run_keeps (VirtualHost.host_keeps h.store h.buffer)
    (service options pipeline) h.takeOutput.2 ⟨rfl, rfl⟩
  rw [compile_eq]
  obtain ⟨hs, hb⟩ := PassEnd.ofAnswer_files (answerOver service options pipeline h).1
    (answerOver service options pipeline h).2
  exact ⟨hs.trans hstore, hb.trans hbuffer⟩

/-- How a pass over a text ends, in a host in which nothing was written or noted before. -/
def verdict (store : Snapshot.Store) (text : String) : PassEnd :=
  (compile service options pipeline { store, buffer := text }).1

/-- How a pass ends depends on the files alone. -/
theorem compile_verdict (h : VirtualHost) :
    (compile service options pipeline h).1 =
      verdict service options pipeline h.store h.buffer := by
  -- both passes empty the capture slot first, and so start from hosts that answer alike
  have hstart : h.takeOutput.2.Alike
      (VirtualHost.takeOutput { store := h.store, buffer := h.buffer }).2 := ⟨rfl, rfl, rfl⟩
  obtain ⟨hanswer, hafter⟩ := Dialog.run_agree VirtualHost.host_agree
    (service options pipeline) _ _ hstart
  rw [verdict, compile_eq, compile_eq, answerOver, hanswer]
  exact PassEnd.ofAnswer_alike _ hafter

end Playground.Compiler
