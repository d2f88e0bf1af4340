import Mathlib.Data.List.Forall2
import Playground.Config.Load

/-!
# What validation finds

Validation looks at the filters of all roots, at the window and at the page, whatever is wrong with
the ones before.  What it lets pass can be used: its filters are patterns and its page is a link.

* `Violation` — what can be wrong with a configuration;
* `Violation.Reported` — the problem that a violation is reported as;
* `exists_places` — what a search through a list keeps, told by the places in the list;
* `exists_violations` — the problems are those of all violations, each once and in order;
* `patterns_eq_ok` — roots can be used exactly if their filters are patterns;
* `validation_complete` — validation passes what can be used, and reports the rest as a whole.
-/

namespace Playground.Config

open Playground.Pattern

/-- Whether a text is a pattern. -/
def IsPattern (text : String) : Prop := ∃ node, Node.ofText text = .ok node

/-- Whether a text is a link. -/
def IsLink (text : String) : Prop := ∃ url, Link.Url.parse text = .ok url

/-- What can be wrong with a configuration. -/
inductive Violation where
  /-- the root at a place of the list has a filter that is no pattern -/
  | filter (place : Nat)
  /-- the window is empty -/
  | window
  /-- the page is no link -/
  | page

namespace Violation

/-- Whether something is wrong with a configuration. -/
def In (o : PlaygroundOptions) : Violation → Prop
  | filter place => ∃ r text, o.libs.roots[place]? = some r ∧ r.filter = some text ∧
      ¬ IsPattern text
  | window => o.scheduler.quiescence = 0
  | page => ¬ IsLink o.share.baseUrl

/-- Whether a violation is reported in front of another: the filters in the order of the roots, then
the window, then the page. -/
def Precedes : Violation → Violation → Prop
  | filter i, filter j => i < j
  | filter _, window | filter _, page | window, page => True
  | _, _ => False

/-- Whether a problem is what a violation is reported as. -/
def Reported (o : PlaygroundOptions) : Violation → Problem → Prop
  | filter place, p => ∃ r text e, o.libs.roots[place]? = some r ∧ r.filter = some text ∧
      Node.ofText text = .error e ∧ p =
        { field := "libs.roots.filter"
          message := "invalid filter for \x60" ++ r.dir ++ "\x60: " ++ e.report text }
  | window, p => p =
      { field := "scheduler.quiescence_ms"
        message := "must be greater than zero"
        hint := some "use 2000 for the default two second window" }
  | page, p => ∃ e, Link.Url.parse o.share.baseUrl = .error e ∧ p =
      { field := "share.base_url"
        message := "\x60" ++ o.share.baseUrl ++ "\x60 is not a valid URL: " ++ e.message
        hint := some "use an absolute URL such as https://example.com/playground/" }

end Violation

open Violation (filter window page In Precedes Reported)

/-! ### Problems of the parts -/

/-- What cannot be had is refused with an error. -/
theorem not_exists_ok {ε α : Type} {x : Except ε α} :
    (¬ ∃ a, x = .ok a) ↔ ∃ e, x = .error e := by
  cases x <;> simp

theorem RootOptions.problem?_eq_some {r : RootOptions} {p : Problem} :
    r.problem? = some p ↔ ∃ text e, r.filter = some text ∧ Node.ofText text = .error e ∧ p =
      { field := "libs.roots.filter"
        message := "invalid filter for \x60" ++ r.dir ++ "\x60: " ++ e.report text } := by
  unfold RootOptions.problem?
  cases r.filter with
  | none => simp
  | some text =>
    cases htext : Node.ofText text with
    | ok node => simp [htext]
    | error e => simp [htext, eq_comm]

theorem SchedulerOptions.problem?_eq_some {o : PlaygroundOptions} {p : Problem} :
    o.scheduler.problem? = some p ↔ window.In o ∧ Reported o window p := by
  unfold SchedulerOptions.problem? In Reported
  split <;> simp_all [eq_comm]

theorem ShareOptions.problem?_eq_some {o : PlaygroundOptions} {p : Problem} :
    o.share.problem? = some p ↔ Reported o page p := by
  unfold ShareOptions.problem? Reported
  cases Link.Url.parse o.share.baseUrl <;> simp [eq_comm]

/-! ### Violations in order -/

/-- What a search through a list keeps stands at rising places of the list, which are those where it
finds something. -/
theorem exists_places {α β : Type} (f : α → Option β) (as : List α) :
    ∃ places : List Nat, places.Pairwise (· < ·) ∧
      (∀ i, i ∈ places ↔ ∃ a b, as[i]? = some a ∧ f a = some b) ∧
      List.Forall₂ (fun i b => ∃ a, as[i]? = some a ∧ f a = some b) places (as.filterMap f) := by
  induction as with
  | nil => exact ⟨[], .nil, by simp, .nil⟩
  | cons a as ih =>
    obtain ⟨places, hrising, hmem, hkept⟩ := ih
    -- the places in the rest of the list are one further on in the whole
    have hrising : (places.map (· + 1)).Pairwise (· < ·) :=
      List.pairwise_map.2 (hrising.imp Nat.succ_lt_succ)
    have hkept : List.Forall₂ (fun i b => ∃ a', (a :: as)[i]? = some a' ∧ f a' = some b)
        (places.map (· + 1)) (as.filterMap f) := by
      rw [List.forall₂_map_left_iff]
      simpa only [List.getElem?_cons_succ] using hkept
    cases ha : f a with
    | none =>
      rw [List.filterMap_cons_none ha]
      refine ⟨_, hrising, fun i => ?_, hkept⟩
      cases i with
      | zero => simp [ha]
      | succ i => simp [hmem]
    | some b =>
      rw [List.filterMap_cons_some ha]
      refine ⟨0 :: places.map (· + 1), List.pairwise_cons.2 ⟨by simp, hrising⟩, fun i => ?_,
        .cons ⟨a, rfl, ha⟩ hkept⟩
      cases i with
      | zero => simp [ha]
      | succ i => simp [hmem]

/-- The violations that are reported where a part of a configuration has a problem. -/
def Violation.onProblem (v : Violation) (p? : Option Problem) : List Violation :=
  (p?.map fun _ => v).toList

theorem mem_onProblem {v w : Violation} {p? : Option Problem} :
    w ∈ v.onProblem p? ↔ w = v ∧ ∃ p, p? = some p := by
  cases p? <;> simp [Violation.onProblem, eq_comm]

theorem onProblem_pairwise (v : Violation) (p? : Option Problem) :
    (v.onProblem p?).Pairwise Precedes := by
  cases p? <;> simp [Violation.onProblem]

theorem onProblem_reported {o : PlaygroundOptions} {v : Violation} {p? : Option Problem}
    (h : ∀ p, p? = some p → Reported o v p) :
    List.Forall₂ (Reported o) (v.onProblem p?) p?.toList := by
  cases p? with
  | none => exact .nil
  | some p => exact .cons (h p rfl) .nil

/-- The problems of a configuration are those of all its violations, each once and in order. -/
theorem exists_violations (o : PlaygroundOptions) :
    ∃ violations : List Violation, violations.Pairwise Precedes ∧
      (∀ v, v ∈ violations ↔ v.In o) ∧ List.Forall₂ (Reported o) violations o.problems := by
  obtain ⟨places, hrising, hmem, hkept⟩ := exists_places RootOptions.problem? o.libs.roots
  have hwindow := fun p => SchedulerOptions.problem?_eq_some (o := o) (p := p)
  have hpage := fun p => ShareOptions.problem?_eq_some (o := o) (p := p)
  refine ⟨places.map filter ++ window.onProblem o.scheduler.problem? ++
    page.onProblem o.share.problem?, ?_, fun v => ?_, ?_⟩
  · refine List.pairwise_append.2 ⟨List.pairwise_append.2 ⟨List.pairwise_map.2 hrising,
      onProblem_pairwise _ _, fun v hv w hw => ?_⟩, onProblem_pairwise _ _, fun v hv w hw => ?_⟩
    · obtain ⟨place, -, rfl⟩ := List.mem_map.1 hv
      obtain ⟨rfl, -⟩ := mem_onProblem.1 hw
      trivial
    · obtain ⟨rfl, -⟩ := mem_onProblem.1 hw
      obtain hv | hv := List.mem_append.1 hv
      · obtain ⟨place, -, rfl⟩ := List.mem_map.1 hv
        trivial
      · obtain ⟨rfl, -⟩ := mem_onProblem.1 hv
        trivial
  · simp only [List.mem_append, List.mem_map, mem_onProblem, hwindow, hpage]
    cases v with
    | filter place =>
      simp only [filter.injEq, exists_eq_right, reduceCtorEq, false_and, or_false, hmem]
      constructor
      · rintro ⟨r, p, hr, hp⟩
        obtain ⟨text, e, htext, he, -⟩ := RootOptions.problem?_eq_some.1 hp
        exact ⟨r, text, hr, htext, not_exists_ok.2 ⟨e, he⟩⟩
      · rintro ⟨r, text, hr, htext, hbad⟩
        obtain ⟨e, he⟩ := not_exists_ok.1 hbad
        exact ⟨r, _, hr, RootOptions.problem?_eq_some.2 ⟨text, e, htext, he, rfl⟩⟩
    | window => simp [Reported]
    | page =>
      simp only [In, IsLink, not_exists_ok]
      simp [Reported]
  · refine List.rel_append (List.rel_append ?_ ?_) ?_
    · rw [List.forall₂_map_left_iff]
      refine hkept.imp fun place p ⟨r, hr, hp⟩ => ?_
      obtain ⟨text, e, htext⟩ := RootOptions.problem?_eq_some.1 hp
      exact ⟨r, text, e, hr, htext⟩
    · exact onProblem_reported fun p hp => ((hwindow p).1 hp).2
    · exact onProblem_reported fun p hp => (hpage p).1 hp

/-- A configuration without problems is one without violations. -/
theorem problems_eq_nil {o : PlaygroundOptions} : o.problems = [] ↔
    (∀ r ∈ o.libs.roots, ∀ text, r.filter = some text → IsPattern text) ∧
      0 < o.scheduler.quiescence ∧ IsLink o.share.baseUrl := by
  obtain ⟨violations, -, hmem, hreported⟩ := exists_violations o
  have hnil : o.problems = [] ↔ ∀ v : Violation, ¬ v.In o := by
    rw [← List.length_eq_zero_iff, ← hreported.length_eq, List.length_eq_zero_iff,
      List.eq_nil_iff_forall_not_mem]
    exact forall_congr' fun v => not_congr (hmem v)
  rw [hnil]
  constructor
  · intro h
    refine ⟨fun r hr text htext => ?_, Nat.pos_of_ne_zero (h window), not_not.1 (h page)⟩
    obtain ⟨place, hplace⟩ := List.getElem?_of_mem hr
    exact not_not.1 fun hbad => h (filter place) ⟨r, text, hplace, htext, hbad⟩
  · rintro ⟨hfilters, hwindow, hpage⟩ v hv
    cases v with
    | filter place =>
      obtain ⟨r, text, hr, htext, hbad⟩ := hv
      exact hbad (hfilters r (List.mem_of_getElem? hr) text htext)
    | window => exact absurd hv (Nat.ne_of_gt hwindow)
    | page => exact hv hpage

/-! ### Use -/

/-- Whether a root is ready for use: with its directory, and with the pattern that its filter is. -/
def Ready (r : RootOptions) (ready : String × Option Node) : Prop :=
  ready.1 = r.dir ∧ match r.filter with
    | none => ready.2 = none
    | some text => ∃ node, Node.ofText text = .ok node ∧ ready.2 = some node

theorem pattern_eq_ok (r : RootOptions) (ready : String × Option Node) :
    r.pattern = .ok ready ↔ Ready r ready := by
  obtain ⟨dir, node?⟩ := ready
  unfold RootOptions.pattern Ready
  cases r.filter with
  | none => simp [eq_comm]
  | some text =>
    cases htext : Node.ofText text with
    | ok node =>
      simp only [htext, Except.map, Except.ok.injEq, Prod.mk.injEq, exists_eq_left', eq_comm]
    | error e => simp [htext, Except.map]

/-- Something can be had of all elements exactly if it can be had of each. -/
theorem mapM_eq_ok {ε α β : Type} {f : α → Except ε β} {as : List α} {bs : List β} :
    as.mapM f = .ok bs ↔ List.Forall₂ (fun a b => f a = .ok b) as bs := by
  induction as generalizing bs with
  | nil => cases bs <;> simp [pure, Except.pure]
  | cons a as ih =>
    rw [List.mapM_cons]
    cases ha : f a with
    | error e => cases bs <;> simp [bind, Except.bind, ha]
    | ok b =>
      cases has : as.mapM f with
      | error e => cases bs <;> simp [bind, Except.bind, ← ih, has]
      | ok rest => cases bs <;> simp [bind, Except.bind, pure, Except.pure, ← ih, has, ha]

/-- Roots can be used exactly if their filters are patterns. -/
theorem patterns_eq_ok {o : LibsOptions} {ready : List (String × Option Node)} :
    o.patterns = .ok ready ↔ List.Forall₂ Ready o.roots ready := by
  rw [LibsOptions.patterns, mapM_eq_ok]
  simp only [pattern_eq_ok]

theorem exists_ready {rs : List RootOptions}
    (h : ∀ r ∈ rs, ∀ text, r.filter = some text → IsPattern text) :
    ∃ ready, List.Forall₂ Ready rs ready := by
  induction rs with
  | nil => exact ⟨[], .nil⟩
  | cons r rs ih =>
    obtain ⟨hr, hrs⟩ := List.forall_mem_cons.1 h
    obtain ⟨rest, hrest⟩ := ih hrs
    cases hfilter : r.filter with
    | none => exact ⟨(r.dir, none) :: rest, .cons ⟨rfl, by rw [hfilter]⟩ hrest⟩
    | some text =>
      obtain ⟨node, hnode⟩ := hr text hfilter
      have hready : Ready r (r.dir, some node) := by
        unfold Ready
        rw [hfilter]
        exact ⟨rfl, node, hnode, rfl⟩
      exact ⟨_, .cons hready hrest⟩

/-- Validation passes a configuration, as it is, exactly if its filters are patterns, its window is
not empty and its page is a link, so that roots and page can be used; and it reports any other by
all its violations, each once, the filters in the order of the roots, then the window, then the
page. -/
theorem validation_complete (o : PlaygroundOptions) :
    (∀ o', validated o = .ok o' ↔ o' = o ∧
      (∀ r ∈ o.libs.roots, ∀ text, r.filter = some text → IsPattern text) ∧
        0 < o.scheduler.quiescence ∧ IsLink o.share.baseUrl) ∧
    (∀ o', validated o = .ok o' →
      (∃ ready, o.libs.patterns = .ok ready ∧ List.Forall₂ Ready o.libs.roots ready) ∧
        ∃ url, o.share.base = .ok url) ∧
    ∀ e, validated o = .error e → ∃ problems, e = .invalid problems ∧ problems ≠ [] ∧
      ∃ violations : List Violation, violations.Pairwise Precedes ∧
        (∀ v, v ∈ violations ↔ v.In o) ∧ List.Forall₂ (Reported o) violations problems := by
  have hpassed (o' : PlaygroundOptions) : validated o = .ok o' ↔ o' = o ∧ o.problems = [] := by
    unfold validated
    cases o.problems <;> simp [eq_comm]
  refine ⟨fun o' => (hpassed o').trans (and_congr_right fun _ => problems_eq_nil),
    fun o' h => ?_, fun e h => ?_⟩
  · obtain ⟨hfilters, -, hpage⟩ := problems_eq_nil.1 ((hpassed o').1 h).2
    obtain ⟨ready, hready⟩ := exists_ready hfilters
    exact ⟨⟨ready, patterns_eq_ok.2 hready, hready⟩, hpage⟩
  · obtain ⟨violations, hviolations⟩ := exists_violations o
    unfold validated at h
    split at h
    · cases h
    · next hproblems =>
      cases h
      exact ⟨o.problems, rfl, by simpa using hproblems, violations, hviolations⟩

/-- No problem hides another. -/
example : (PlaygroundOptions.problems
    { libs := { roots := [⟨"a", some "("⟩, ⟨"b", none⟩, ⟨"c", some ")"⟩] }
      scheduler := { quiescence := 0 }
      share := { baseUrl := "page" } }).map (·.field) =
    ["libs.roots.filter", "libs.roots.filter", "scheduler.quiescence_ms", "share.base_url"] := by
  decide +kernel

end Playground.Config
