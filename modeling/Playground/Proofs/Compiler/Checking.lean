import Mathlib.Data.List.Infix
import Playground.Proofs.Compiler.AllOrNothing
import Playground.Proofs.Compiler.Resolution
import Playground.Proofs.Script.Program
import Playground.Proofs.Text.Boundary

/-!
# What checking reports of modules

Checking a program takes the specifiers of its statements in turn.  What is reported of each follows
from what it is resolved to and from which files were read before.

* `MissesModule` — a diagnostic that says that a module cannot be found;
* `Turns` — what came of some specifiers, one after another;
* `checkSpecifiers_turns`, `check_turns` — what checking comes to, told by turns;
* `Turns.misses` — of the turns, those in which nothing was found report a missing module;
* `missing_modules_reported` — the missing modules that are reported are those that the statements
  name and that nothing was found for, in order and at their literals.
-/

namespace Playground.Compiler

open Playground.Script Playground.Script.Parse Playground.Text

variable {σ : Type}

/-! ### Missing modules -/

/-- How the message of a missing module starts. -/
def missingStart : String := "Cannot find module '"

/-- How the message of a missing module ends. -/
def missingEnd : String := "' or its corresponding type declarations."

/-- How a module is said to be missing. -/
def missingModule (specifier : String) : String := missingStart ++ specifier ++ missingEnd

/-- Whether a diagnostic says that a module is missing. -/
def MissesModule (d : Diagnostic) : Prop := ∃ specifier, d.message = missingModule specifier

theorem missingModule_toList (specifier : String) : (missingModule specifier).toList =
    missingStart.toList ++ (specifier.toList ++ missingEnd.toList) := by
  rw [missingModule, String.toList_append, String.toList_append, List.append_assoc]

instance : DecidablePred MissesModule := fun d =>
  decidable_of_iff (((afterStart? missingStart.toList d.message.toList).bind
      (beforeEnd? missingEnd.toList)).isSome) <| by
    simp only [Option.isSome_iff_exists, Option.bind_eq_some_iff, afterStart?_eq_some,
      beforeEnd?_eq_some, MissesModule, ← String.toList_inj, missingModule_toList]
    constructor
    · rintro ⟨specifier, behind, hmessage, rfl⟩
      exact ⟨String.ofList specifier, by rw [hmessage, String.toList_ofList]⟩
    · rintro ⟨specifier, hmessage⟩
      exact ⟨specifier.toList, _, hmessage, rfl⟩

/-- The characters with which the message of a missing module starts. -/
def missingOpening : List Char :=
  ['C', 'a', 'n', 'n', 'o', 't', ' ', 'f', 'i', 'n', 'd', ' ', 'm', 'o', 'd', 'u', 'l', 'e', ' ',
    '\x27']

theorem missingStart_toList : missingStart.toList = missingOpening := String.toList_ofList

/-- A text with another start does not say that a module is missing. -/
theorem append_ne_missingModule {start : List Char}
    (h : (start.isPrefixOf missingOpening || missingOpening.isPrefixOf start) = false)
    (rest specifier : String) : String.ofList start ++ rest ≠ missingModule specifier := by
  intro heq
  have hlist := congrArg String.toList heq
  rw [missingModule_toList, missingStart_toList, String.toList_append,
    String.toList_ofList] at hlist
  have hprefix := List.prefix_or_prefix_of_prefix (List.prefix_append start rest.toList)
    (hlist ▸ List.prefix_append missingOpening _)
  rw [← List.isPrefixOf_iff_prefix, ← List.isPrefixOf_iff_prefix, ← Bool.or_eq_true, h] at hprefix
  cases hprefix

theorem ne_missingModule {start : List Char}
    (h : (start.isPrefixOf missingOpening || missingOpening.isPrefixOf start) = false)
    (specifier : String) : String.ofList start ≠ missingModule specifier := by
  have happend := append_ne_missingModule h "" specifier
  rwa [String.append_empty] at happend

/-- A text with another end does not say that a module is missing. -/
theorem append_ne_missingModule_of_end {stop : List Char} (h : stop.getLast? ≠ some '.')
    (hstop : stop ≠ []) (front specifier : String) :
    front ++ String.ofList stop ≠ missingModule specifier := by
  intro heq
  have hend : missingEnd.toList.getLast? = some '.' := by decide +kernel
  have hlast := congrArg (·.toList.getLast?) heq
  simp only [missingModule_toList, String.toList_append, String.toList_ofList,
    List.getLast?_append, hend, Option.some_or, List.getLast?_eq_some_getLast hstop] at hlast
  exact h ((List.getLast?_eq_some_getLast hstop).trans hlast)

/-- No fault of a program is worded like a missing module. -/
theorem message_ne_missingModule (cause : Cause) (specifier : String) :
    cause.message ≠ missingModule specifier := by
  cases cause
  -- these two start with what a program says
  case forInitializer => exact append_ne_missingModule_of_end (by decide) (by decide) _ _
  case typeNameReserved => exact append_ne_missingModule_of_end (by decide) (by decide) _ _
  all_goals
    dsimp only [Cause.message]
    first
      | exact ne_missingModule rfl _
      | exact append_ne_missingModule rfl _ _
      | simp only [String.append_assoc]
        exact append_ne_missingModule rfl _ _

theorem ofFaults_misses (file source : String) (faults : List Fault) :
    ∀ d ∈ Diagnostic.ofFaults file source faults, ¬ MissesModule d := by
  rintro d hd ⟨specifier, hmessage⟩
  obtain ⟨fault, -, rfl⟩ := List.mem_map.1 hd
  rw [Diagnostic.labelled_message] at hmessage
  exact message_ne_missingModule fault.cause specifier hmessage

theorem diagnostics_misses (file : SourceFile) : ∀ d ∈ file.diagnostics, ¬ MissesModule d :=
  ofFaults_misses file.path file.text file.parsed.faults

theorem ownFaults_misses (tools : Toolchain) (root : SourceFile) :
    ∀ d ∈ tools.ownFaults root, ¬ MissesModule d := by
  intro d hd
  rcases List.mem_append.1 hd with hd | hd
  · exact diagnostics_misses root d hd
  · split at hd
    · exact ofFaults_misses _ _ _ d hd
    · cases hd

theorem checkLibrary_misses (options : CompilerOptions) (h : Host σ) (s : σ) :
    ∀ d ∈ ((Toolchain.checkLibrary options).run h s).1, ¬ MissesModule d := by
  unfold Toolchain.checkLibrary
  split
  · nofun
  · rw [Dialog.run_bind, Dialog.run_bind]
    split
    · nofun
    · rintro d hd ⟨specifier, hmessage⟩
      rw [List.mem_singleton.1 hd, String.append_assoc] at hmessage
      exact append_ne_missingModule rfl _ _ hmessage

theorem unresolved_misses (root : SourceFile) (s : Specifier) :
    MissesModule (Toolchain.unresolved root s) := ⟨s.value, rfl⟩

/-! ### Turns -/

/-- What came of a specifier. -/
structure Turn where
  specifier : Specifier
  /-- the file that it was resolved to -/
  found : Option String
  reports : List Diagnostic
  /-- the steps in which it was resolved -/
  asked : List Step
  /-- the steps behind these -/
  behind : List Step

variable (h : Host σ) (P : σ → Prop) (paths : List (String × List String)) (root : SourceFile)

/-- Whether a specifier was resolved in a state with a property. -/
def Turn.Resolved (t : Turn) : Prop :=
  ∃ s, P s ∧ (resolve paths t.specifier.value).told h s = (t.found, t.asked)

/-- What came of some specifiers, one after another, where some files were read before. -/
inductive Turns : List String → List Turn → Prop
  | nil {visited} : Turns visited []
  | missing {visited t ts} : t.Resolved h P paths → t.found = none →
    t.reports = [Toolchain.unresolved root t.specifier] → Turns visited ts →
    Turns visited (t :: ts)
  | again {visited t ts path} : t.Resolved h P paths → t.found = some path → path ∈ visited →
    t.reports = [] → Turns visited ts → Turns visited (t :: ts)
  /-- a file that was not read yet is read now -/
  | first {visited t ts path s} : t.Resolved h P paths → t.found = some path → path ∉ visited →
    P s → t.reports = ((h.sourceFile path s).1).elim [] (·.diagnostics) →
    Turns (path :: visited) ts → Turns visited (t :: ts)

/-- Checking specifiers comes to one turn for each. -/
theorem checkSpecifiers_turns (hk : h.Keeps P) (specifiers : List Specifier) (visited : List String)
    {s : σ} (hs : P s) : ∃ ts, Turns h P paths root visited ts ∧
      ts.map Turn.specifier = specifiers ∧
      (Toolchain.checkSpecifiers paths root specifiers visited).told h s =
        (ts.flatMap Turn.reports, ts.flatMap fun t => t.asked ++ t.behind) := by
  induction specifiers generalizing visited s with
  | nil => exact ⟨[], .nil, rfl, rfl⟩
  | cons specifier rest ih =>
    have hresolved := Dialog.run_keeps hk (resolve paths specifier.value) s hs
    rw [Toolchain.checkSpecifiers, Dialog.told, Dialog.run_bind, Dialog.steps_bind]
    cases hfound : ((resolve paths specifier.value).run h s).1 with
    | none =>
      obtain ⟨ts, hts, hmap, htold⟩ := ih visited hresolved
      obtain ⟨hrun, hsteps⟩ := Prod.mk.inj htold
      refine ⟨⟨specifier, none, [Toolchain.unresolved root specifier],
        (resolve paths specifier.value).steps h s, []⟩ :: ts,
        .missing ⟨s, hs, Prod.ext hfound rfl⟩ rfl rfl hts, congrArg _ hmap, ?_⟩
      simp [hrun, hsteps]
    | some path =>
      let message := "resolved \x60" ++ specifier.value ++ "\x60 to " ++ path
      have hnoted := hk.debug "compiler" message _ hresolved
      by_cases hvisited : path ∈ visited
      · obtain ⟨ts, hts, hmap, htold⟩ := ih visited hnoted
        obtain ⟨hrun, hsteps⟩ := Prod.mk.inj htold
        refine ⟨⟨specifier, some path, [], (resolve paths specifier.value).steps h s,
          [.debug "compiler" message]⟩ :: ts,
          .again ⟨s, hs, Prod.ext hfound rfl⟩ rfl hvisited rfl hts, congrArg _ hmap, ?_⟩
        simp [Dialog.note, Dialog.run, Dialog.steps, hvisited, hrun, hsteps, message]
      · obtain ⟨ts, hts, hmap, htold⟩ := ih (path :: visited) (hk.sourceFile path _ hnoted)
        obtain ⟨hrun, hsteps⟩ := Prod.mk.inj htold
        let file := (h.sourceFile path
          (h.debug "compiler" message ((resolve paths specifier.value).run h s).2)).1
        refine ⟨⟨specifier, some path, file.elim [] (·.diagnostics),
          (resolve paths specifier.value).steps h s,
          [.debug "compiler" message, .sourceFile path file]⟩ :: ts,
          .first ⟨s, hs, Prod.ext hfound rfl⟩ rfl hvisited hnoted rfl hts, congrArg _ hmap, ?_⟩
        simp [Dialog.note, Dialog.askSource, Dialog.run, Dialog.steps, hvisited, hrun, hsteps,
          message, file]

variable {h P paths root}

theorem Turns.resolved {visited : List String} {ts : List Turn}
    (hts : Turns h P paths root visited ts) : ∀ t ∈ ts, t.Resolved h P paths := by
  induction hts with
  | nil => nofun
  | missing ht _ _ _ ih => exact List.forall_mem_cons.2 ⟨ht, ih⟩
  | again ht _ _ _ _ ih => exact List.forall_mem_cons.2 ⟨ht, ih⟩
  | first ht _ _ _ _ _ ih => exact List.forall_mem_cons.2 ⟨ht, ih⟩

/-- Over a virtual host every turn finds what the specifier is resolved to at first. -/
theorem Turns.found_eq {h : VirtualHost} {visited : List String} {ts : List Turn}
    (hts : Turns VirtualHost.host h.Shows paths root visited ts) : ∀ t ∈ ts,
      t.found = ((resolve paths t.specifier.value).run VirtualHost.host h).1 := by
  intro t ht
  obtain ⟨k, hk, htold⟩ := hts.resolved t ht
  obtain ⟨hanswer, -⟩ := Prod.mk.inj htold
  rw [← hanswer, run_resolve hk, run_resolve ⟨rfl, rfl⟩]

/-- Of the turns, those in which nothing was found report a missing module. -/
theorem Turns.misses {visited : List String} {ts : List Turn}
    (hts : Turns h P paths root visited ts) :
    (ts.flatMap Turn.reports).filter MissesModule =
      (ts.filter (·.found.isNone)).map fun t => Toolchain.unresolved root t.specifier := by
  induction hts with
  | nil => rfl
  | missing _ hfound hreports _ ih =>
    simp [hfound, hreports, ih, unresolved_misses]
  | again _ hfound _ hreports _ ih => simp [hfound, hreports, ih]
  | @first visited t ts path s _ hfound _ _ hreports _ ih =>
    have hnone : t.reports.filter MissesModule = [] := by
      rw [hreports, List.filter_eq_nil_iff]
      cases (h.sourceFile path s).1 with
      | none => nofun
      | some file => simpa using diagnostics_misses file
    simp [hfound, hnone, ih]

/-- Checking a program comes to what is wrong with it by itself and with the library, and to one
turn for each of its specifiers. -/
theorem check_turns (tools : Toolchain) (hk : h.Keeps P) (options : CompilerOptions)
    (root : SourceFile) {s : σ} (hs : P s) : ∃ ts, Turns h P options.paths root [] ts ∧
      ts.map Turn.specifier = specifiers root.parsed.program ∧
      (tools.check options root).told h s =
        (tools.ownFaults root ++ ((Toolchain.checkLibrary options).run h s).1 ++
            ts.flatMap Turn.reports,
          (Toolchain.checkLibrary options).steps h s ++
            ts.flatMap fun t => t.asked ++ t.behind) := by
  have hlibrary := Dialog.run_keeps hk (Toolchain.checkLibrary options) s hs
  obtain ⟨ts, hts, hmap, htold⟩ := checkSpecifiers_turns h P options.paths root hk
    (specifiers root.parsed.program) [] hlibrary
  obtain ⟨hrun, hsteps⟩ := Prod.mk.inj htold
  refine ⟨ts, hts, hmap, ?_⟩
  simp [Dialog.told, Toolchain.check, hrun, hsteps]

/-- Of what a check reports, only the turns tell of missing modules. -/
theorem filter_misses (tools : Toolchain) (options : CompilerOptions) (root : SourceFile) (s : σ)
    (reports : List Diagnostic) :
    (tools.ownFaults root ++ ((Toolchain.checkLibrary options).run h s).1 ++ reports).filter
      MissesModule = reports.filter MissesModule := by
  have hown : (tools.ownFaults root).filter MissesModule = [] := by
    simpa [List.filter_eq_nil_iff] using ownFaults_misses tools root
  have hlibrary : ((Toolchain.checkLibrary options).run h s).1.filter MissesModule = [] := by
    simpa [List.filter_eq_nil_iff] using checkLibrary_misses options h s
  rw [List.filter_append, List.filter_append, hown, hlibrary]
  rfl

/-! ### What statements name -/

/-- Whether a statement names a module. -/
def namesModule (n : Node) : Bool := (source? n.shape).isSome

/-- A specifier as it stands in a text, with what came of resolving it. -/
structure Occurrence where
  value : String
  /-- the line and the column of its literal -/
  position : Position
  found : Option String
  /-- the steps in which it was resolved -/
  asked : List Step
  /-- the steps behind these -/
  behind : List Step

/-- Whether a statement names a module by a literal that occurs in a text, where lines are counted
by the line breaks in front of the quote, and columns by the characters behind the last of these.
-/
def Occurrence.In (text : String) (n : Node) (o : Occurrence) : Prop :=
  ∃ source raw front quote rest, source? n.shape = some source ∧
    source.shape = .stringLit o.value raw ∧ source.span.start = width front ∧
    text.toList = front ++ quote :: rest ∧ (quote = '\x22' ∨ quote = '\x27') ∧
    o.position = ⟨front.count '\n' + 1, (lastLine front).length + 1⟩

/-- Whether a specifier is resolved to a file, or to none, in some steps. -/
def Occurrence.Resolved (h : Host σ) (paths : List (String × List String)) (o : Occurrence) :
    Prop :=
  ∃ s, (resolve paths o.value).told h s = (o.found, o.asked)

/-- The diagnostic of a missing module. -/
def Occurrence.report (file : String) (o : Occurrence) : Diagnostic :=
  { file
    message :=
      "Cannot find module '" ++ o.value ++ "' or its corresponding type declarations."
    position := some o.position
    severity := .error }

/-- What the turn of a specifier comes to, as an occurrence in a text. -/
def Turn.occurrence (text : String) (t : Turn) : Occurrence :=
  ⟨t.specifier.value, Position.ofOffset text t.specifier.offset, t.found, t.asked, t.behind⟩

theorem ofStatement?_eq (n : Node) :
    Specifier.ofStatement? n = (source? n.shape).bind Specifier.ofLiteral? := by
  unfold Specifier.ofStatement?
  cases n.shape with
  | exportNamed _ _ _ source _ => cases source <;> rfl
  | _ => rfl

/-- A statement that names a module has a specifier, which occurs in the text. -/
theorem Turn.occurrence_in {text : String} {n : Node} (hn : Names text n)
    (hsize : text.utf8ByteSize ≤ Parsed.sizeLimit) (hmodule : namesModule n = true) :
    ∃ specifier, Specifier.ofStatement? n = some specifier ∧
      ∀ t : Turn, t.specifier = specifier → (t.occurrence text).In text n := by
  obtain ⟨source, hsource⟩ := Option.isSome_iff_exists.1 hmodule
  obtain ⟨value, raw, hshape, front, quote, rest, htext, hstart, hquote⟩ := hn source hsource
  refine ⟨⟨value, source.span.start⟩, ?_, ?_⟩
  · rw [ofStatement?_eq, hsource, Option.bind_some, Specifier.ofLiteral?, hshape]
  · rintro ⟨_, found, reports, asked, behind⟩ rfl
    refine ⟨source, raw, front, quote, rest, hsource, hshape, hstart, htext, hquote, ?_⟩
    -- the quote takes a byte more than what is in front of it
    have hfits : width front < Position.limit := by
      rw [← width_toList, htext, width_append, width_cons] at hsize
      have hpos := quote.utf8Size_pos
      exact Nat.lt_of_lt_of_le (by omega) hsize
    rw [Turn.occurrence, hstart]
    exact (Position.ofOffset_width htext).trans (Position.behind_eq_counted hfits)

/-- The specifiers of a program occur in the statements that name modules. -/
theorem specifiers_occur {text : String} {ns : List Node}
    (hns : ∀ n ∈ ns, Names text n ∧ text.utf8ByteSize ≤ Parsed.sizeLimit)
    {ts : List Turn} (hts : ts.map Turn.specifier = ns.filterMap Specifier.ofStatement?) :
    List.Forall₂ (Occurrence.In text) (ns.filter namesModule) (ts.map (Turn.occurrence text)) := by
  induction ns generalizing ts with
  | nil =>
    rw [List.map_eq_nil_iff.1 hts]
    exact .nil
  | cons n ns ih =>
    obtain ⟨⟨hn, hsize⟩, hns⟩ := List.forall_mem_cons.1 hns
    -- statements that name no module have no turn
    by_cases hmodule : namesModule n
    · obtain ⟨specifier, hspecifier, hoccurs⟩ := Turn.occurrence_in hn hsize hmodule
      rw [List.filterMap_cons_some hspecifier] at hts
      obtain ⟨t, ts, rfl, ht, hts⟩ := List.map_eq_cons_iff.1 hts
      rw [List.filter_cons_of_pos hmodule]
      exact .cons (hoccurs t ht) (ih hns hts)
    · have hnone : source? n.shape = none := by simpa [namesModule] using hmodule
      rw [List.filterMap_cons_none (by rw [ofStatement?_eq, hnone]; rfl)] at hts
      rw [List.filter_cons_of_neg hmodule]
      exact ih hns hts

/-- The statements that reading a text yields name modules by literals, and the text is not too
long. -/
theorem programBody_names (dialect : Dialect) (text : String) :
    ∀ n ∈ programBody (Parsed.ofText dialect text).program,
      Names text n ∧ text.utf8ByteSize ≤ Parsed.sizeLimit := by
  by_cases hsize : Parsed.sizeLimit < text.utf8ByteSize
  · rw [programBody, ofText_overlong dialect hsize]
    nofun
  · obtain ⟨mark, directives, ns, bound, hshape, hstacked⟩ := ofText_stacked dialect text
    rw [programBody, hshape]
    exact fun n hn => ⟨hstacked.names n (List.mem_reverse.1 hn), Nat.le_of_not_lt hsize⟩

/-! ### Reports of missing modules -/

/-- Where a check reports anything, nothing is emitted and nothing is written. -/
theorem Toolchain.service_of_found (tools : Toolchain) {h : Host σ} {options : CompilerOptions}
    {s : σ} {root : SourceFile} (pipeline : Pipeline)
    (hroot : (h.sourceFile sourcePath s).1 = some root)
    (hfound : tools.found options h s root ≠ []) :
    ((tools.service options pipeline).run h s).1 =
        .finished ⟨tools.found options h s root, true⟩ ∧
      ∀ path data, .writeFile path data ∉ (tools.service options pipeline).steps h s := by
  have htold := tools.told_of_blocked pipeline hroot hfound
  obtain ⟨hrun, hsteps⟩ := Prod.mk.inj htold
  refine ⟨hrun, fun path data hwrite => ?_⟩
  rw [hsteps] at hwrite
  rcases List.mem_append.1 hwrite with hasked | hnote
  · exact tools.asked_inquires _ hasked
  · cases List.mem_singleton.1 hnote

/-- The missing modules that checking a program reports are those that its statements name and that
resolving finds no file for: in order, each as often as it is named, and at its literals.  Where one
is reported, nothing is emitted. -/
theorem missing_modules_reported (tools : Toolchain) (h : Host σ) (options : CompilerOptions)
    (path text : String) (dialect : Dialect) :
    let root : SourceFile := ⟨path, text, Parsed.ofText dialect text⟩
    (∀ s, ∃ occurrences : List Occurrence,
      List.Forall₂ (Occurrence.In text) ((programBody root.parsed.program).filter namesModule)
        occurrences ∧
      (∀ o ∈ occurrences, o.Resolved h options.paths) ∧
      (∃ before, (tools.check options root).steps h s =
        before ++ occurrences.flatMap fun o => o.asked ++ o.behind) ∧
      ((tools.check options root).run h s).1.filter MissesModule =
        (occurrences.filter (·.found.isNone)).map (Occurrence.report path)) ∧
    ∀ pipeline s, (h.sourceFile sourcePath s).1 = some root →
      (∃ d ∈ tools.found options h s root, MissesModule d) →
      ((tools.service options pipeline).run h s).1 =
          .finished ⟨tools.found options h s root, true⟩ ∧
        ∀ path data, .writeFile path data ∉ (tools.service options pipeline).steps h s := by
  intro root
  constructor
  · intro s
    have hk : h.Keeps fun _ => True := ⟨by simp, by simp, by simp, by simp, by simp, by simp⟩
    obtain ⟨ts, hts, hmap, htold⟩ := check_turns tools hk options root (s := s) trivial
    obtain ⟨hrun, hsteps⟩ := Prod.mk.inj htold
    refine ⟨ts.map (Turn.occurrence text),
      specifiers_occur (programBody_names dialect text) hmap, ?_,
      ⟨(Toolchain.checkLibrary options).steps h s, ?_⟩, ?_⟩
    · rw [List.forall_mem_map]
      intro t ht
      obtain ⟨s, -, hresolved⟩ := hts.resolved t ht
      exact ⟨s, hresolved⟩
    · rw [hsteps, List.flatMap_map]
      rfl
    · rw [hrun, filter_misses, hts.misses, List.filter_map, List.map_map]
      rfl
  · rintro pipeline s hroot ⟨d, hd, -⟩
    exact tools.service_of_found pipeline hroot (List.ne_nil_of_mem hd)

/-- A module that is named twice is missing twice. -/
example : (compile Emit.standardTools.service { noLib := true } {}
      { store := ⟨[]⟩
        buffer := "import \x22a\x22;\n/* é */ export * from \x22a\x22;" }).1 =
    .compiled ⟨[Occurrence.report "index.tsx" ⟨"a", ⟨1, 8⟩, none, [], []⟩,
      Occurrence.report "index.tsx" ⟨"a", ⟨2, 23⟩, none, [], []⟩], none⟩ := by
  decide +kernel

end Playground.Compiler
