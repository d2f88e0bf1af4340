import Playground.Config.Decode
import Playground.Proofs.Snapshot.Store

/-!
# What decoding yields

A configuration is decoded section by section, and each section key by key.  `Yields` is what holds
of everything that a decoding may come to, so that what every key keeps, a section has:

* `Yields.bind`, `yields_foldlM` — decodings one after another;
* `record_yields` — a section has what each of its keys keeps;
* `mapping_yields` — values by name come in the order of the names;
* `ofToml_paths` — the paths of a configuration are in the order of their keys.
-/

namespace Playground.Config

open Playground.Compiler Playground.Toml

variable {α β : Type} {P : α → Prop} {Q : β → Prop}

/-- Everything that a decoding comes to has a property. -/
def Yields (d : Decoding α) (P : α → Prop) : Prop :=
  ∀ ignored a after, d.run ignored = .ok (a, after) → P a

theorem yields_pure {a : α} (ha : P a) : Yields (pure a) P := by
  rintro ignored b after h
  cases h
  exact ha

theorem Yields.bind {d : Decoding β} {f : β → Decoding α} (hd : Yields d Q)
    (hf : ∀ b, Q b → Yields (f b) P) : Yields (d >>= f) P := by
  intro ignored a after h
  rw [StateT.run_bind] at h
  cases hrun : d.run ignored with
  | error e =>
    rw [hrun] at h
    cases h
  | ok r =>
    rw [hrun] at h
    exact hf r.1 (hd ignored r.1 r.2 hrun) r.2 a after h

theorem yields_throw (f : Fault) : Yields (throw f) P := by
  intro ignored a after h
  cases h

theorem Yields.placedAt {d : Decoding α} (hd : Yields d P) (span : Span) :
    Yields (placedAt span d) P := by
  intro ignored a after h
  cases hrun : d.run ignored with
  | error e =>
    have hfail : (Config.placedAt span d).run ignored =
        .error { e with span := e.span <|> some span } := by
      show tryCatch (d.run ignored) _ = _
      rw [hrun]
      rfl
    cases hfail.symm.trans h
  | ok r =>
    have hdone : (Config.placedAt span d).run ignored = .ok r := by
      show tryCatch (d.run ignored) _ = _
      rw [hrun]
      rfl
    obtain rfl := Except.ok.inj (hdone.symm.trans h)
    exact hd ignored a after hrun

theorem Yields.placedAtItem {d : Decoding α} (hd : Yields d P) (item : Item) :
    Yields (placedAtItem item d) P := by
  unfold Config.placedAtItem
  split
  · exact hd.placedAt _
  · exact hd

theorem yields_modify (f : List String → List String) :
    Yields (modify f) fun _ : PUnit => True := fun _ _ _ _ => trivial

theorem yields_foldlM {f : α → β → Decoding α} {xs : List β} {a : α}
    (hf : ∀ x ∈ xs, ∀ a, P a → Yields (f a x) P) (ha : P a) : Yields (xs.foldlM f a) P := by
  induction xs generalizing a with
  | nil => exact yields_pure ha
  | cons x xs ih =>
    obtain ⟨hx, hxs⟩ := List.forall_mem_cons.1 hf
    rw [List.foldlM_cons]
    exact (hx a ha).bind fun b hb => ih hxs hb

/-! ### Sections -/

/-- A key keeps a property of the section. -/
def Field.Keeps (f : Field α) (P : α → Prop) : Prop :=
  ∀ at_ item a, P a → Yields (f.read at_ item a) P

/-- A key keeps what putting a decoded value keeps. -/
theorem field_keeps {name : String} {d : Decoder β} {put : β → α → α}
    (hd : ∀ at_ item, Yields (d at_ item) Q) (hput : ∀ b a, Q b → P a → P (put b a)) :
    (field name d put).Keeps P := by
  intro at_ item a ha
  exact (hd at_ item).bind fun b hb => yields_pure (hput b a hb ha)

/-- A key keeps what does not depend on its value. -/
theorem field_keeps_always {name : String} {d : Decoder β} {put : β → α → α}
    (hput : ∀ b a, P a → P (put b a)) : (field name d put).Keeps P :=
  field_keeps (fun _ _ _ _ _ _ => trivial) fun b a (_ : True) => hput b a

/-- A section has what it starts with and each of its keys keeps. -/
theorem record_yields {name : String} {start : α} {fields : List (Field α)} (hstart : P start)
    (hfields : ∀ f ∈ fields, f.Keeps P) (at_ : List String) (item : Item) :
    Yields (record name start fields at_ item) P := by
  unfold record
  split
  · refine yields_foldlM (fun entry _ a ha => ?_) hstart
    dsimp only
    split
    · next f hf =>
      exact ((hfields f (List.mem_of_find?_eq_some hf) _ _ a ha).placedAtItem _).placedAt _
    · exact (yields_modify _).bind fun _ _ => yields_pure ha
  · refine yields_foldlM (fun entry hentry a ha => ?_) hstart
    have hfield : entry.1.1 ∈ fields := (List.of_mem_zip (List.fst_mem_of_mem_zipIdx hentry)).1
    exact (hfields _ hfield _ _ a ha).placedAtItem _
  · exact yields_throw _

/-! ### Values by name -/

/-- Values by name come in the order of their names. -/
theorem mapping_yields (element : Decoder β) (at_ : List String) (item : Item) :
    Yields (mapping element at_ item) (List.Pairwise fun a b => a.1 ≤ b.1) := by
  unfold mapping
  split
  · -- nothing has to be known of the values: they are sorted at the end
    refine Yields.bind (fun _ _ _ _ => trivial) fun values (_ : True) =>
      yields_pure (Snapshot.Store.pairwise_mergeSort_before values)
  · exact yields_throw _

/-! ### Configurations -/

/-- The paths of some options are in the order of their keys. -/
def KeyOrdered (options : CompilerOptions) : Prop :=
  options.paths.Pairwise fun a b => a.1 ≤ b.1

theorem keyOrdered_default : KeyOrdered {} := by
  have hkeys : "reactive-tsx" ≤ "reactive-tsx/lib/mono" := by decide
  simp [KeyOrdered, hkeys]

theorem compilerOptions_yields (at_ : List String) (item : Item) :
    Yields (compilerOptions at_ item) KeyOrdered := by
  refine record_yields keyOrdered_default ?_ at_ item
  simp only [List.forall_mem_cons]
  -- all keys but the last leave the paths alone
  refine ⟨field_keeps_always fun _ _ h => h, field_keeps_always fun _ _ h => h,
    field_keeps_always fun _ _ h => h, field_keeps_always fun _ _ h => h,
    field_keeps_always fun _ _ h => h, field_keeps_always fun _ _ h => h,
    field_keeps_always fun _ _ h => h, field_keeps_always fun _ _ h => h,
    field_keeps_always fun _ _ h => h, field_keeps_always fun _ _ h => h,
    field_keeps (mapping_yields _) fun _ _ h _ => h, by simp⟩

theorem playgroundOptions_yields (at_ : List String) (item : Item) :
    Yields (playgroundOptions at_ item) fun o => KeyOrdered o.compiler := by
  refine record_yields (P := fun o : PlaygroundOptions => KeyOrdered o.compiler)
    keyOrdered_default ?_ at_ item
  simp only [List.forall_mem_cons]
  exact ⟨field_keeps compilerOptions_yields fun _ _ h _ => h, field_keeps_always fun _ _ h => h,
    field_keeps_always fun _ _ h => h, field_keeps_always fun _ _ h => h,
    field_keeps_always fun _ _ h => h, by simp⟩

/-- Every configuration has its paths in the order of their keys. -/
theorem ofToml_paths {source : String} {options : PlaygroundOptions} {ignored : List String}
    (h : PlaygroundOptions.ofToml source = .ok (options, ignored)) :
    KeyOrdered options.compiler := by
  unfold PlaygroundOptions.ofToml at h
  cases htable : parse source with
  | error e =>
    rw [htable] at h
    cases h
  | ok table =>
    rw [htable] at h
    cases hrun : (playgroundOptions [] (.table table)).run [] with
    | error e =>
      simp only [bind, Except.bind, hrun] at h
      cases h
    | ok r =>
      simp only [bind, Except.bind, hrun] at h
      cases h
      exact playgroundOptions_yields [] (.table table) [] r.1 r.2 hrun

end Playground.Config
