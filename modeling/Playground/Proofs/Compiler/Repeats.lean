import Playground.Proofs.Compiler.Checking

/-!
# Files that are reported again

Checking a program remembers the paths of the files it has read, so a file is read again where it
is found under another path, and so is the program itself where one of its specifiers leads back.

* `Answer` — a specifier with the file that it was resolved to;
* `reportsAt`, `reportsBy` — what is reported of answers where every file counts once, whatever it
  is told by;
* `Repeated` — the path is new, and the file was read before;
* `FoundIn` — the paths that checking has visited are those that were found in front;
* `Turns.reports_eq` — checking tells files by their paths as they are spelled;
* `files_reported` — what a check reports, and when this is more than every file once;
* `root_reported_again` — a program that imports itself.
-/

namespace Playground.Compiler

open Playground.Emit Playground.Script Playground.Text

/-! ### Every file once -/

/-- A specifier with the file that it was resolved to. -/
abbrev Answer := Specifier × Option String

/-- Some specifiers with the files that a host resolves them to. -/
def answers (h : VirtualHost) (paths : List (String × List String)) (ss : List Specifier) :
    List Answer :=
  ss.map fun s => (s, ((resolve paths s.value).run VirtualHost.host h).1)

/-- The syntax errors of the file at a path. -/
def syntaxErrors (h : VirtualHost) (path : String) : List Diagnostic :=
  (h.sourceFile? path).elim [] (·.diagnostics)

section Reports

variable (key : String → String) (read : List String) (h : VirtualHost) (root : SourceFile)

/-- What is reported of an answer, where files are told by a key: the syntax errors of the file,
unless it is among the keys that were read at first, or an answer in front has the same key. -/
def reportsAt (front : List Answer) : Answer → List Diagnostic
  | (s, none) => [Toolchain.unresolved root s]
  | (_, some path) =>
    if key path ∈ read ++ front.filterMap (·.2.map key) then [] else syntaxErrors h path

/-- What is reported of answers behind others. -/
def reportsBy : List Answer → List Answer → List Diagnostic
  | _, [] => []
  | front, a :: rest => reportsAt key read h root front a ++ reportsBy (front ++ [a]) rest

end Reports

/-- Whether a path is found that was not found yet, while its file is the program itself or was
found under another path. -/
def Repeated (root : SourceFile) (front : List Answer) (path : String) : Prop :=
  (∀ a ∈ front, a.2 ≠ some path) ∧
    (hostPath path = root.path ∨ ∃ a ∈ front, a.2.map hostPath = some (hostPath path))

/-! ### What checking reports -/

variable {h : VirtualHost} {paths : List (String × List String)} {root : SourceFile}

theorem VirtualHost.Shows.sourceFile? {k : VirtualHost} (hk : h.Shows k) (path : String) :
    k.sourceFile? path = h.sourceFile? path := by
  rw [VirtualHost.sourceFile?, VirtualHost.sourceFile?, hk.content?]

/-- The answer of a turn. -/
def Turn.answer (t : Turn) : Answer := (t.specifier, t.found)

theorem reportsAt_found {key : String → String} {read : List String} {front : List Answer}
    {s : Specifier} {path : String} : reportsAt key read h root front (s, some path) =
      if key path ∈ read ∨ ∃ a ∈ front, a.2.map key = some (key path) then []
      else syntaxErrors h path := by
  simp only [reportsAt, List.mem_append, List.mem_filterMap]

/-- Whether the paths that were visited are those that were found in front. -/
def FoundIn (front : List Answer) (visited : List String) : Prop :=
  ∀ path, path ∈ visited ↔ ∃ a ∈ front, a.2 = some path

namespace FoundIn

variable {front : List Answer} {visited : List String} {t : Turn} {path : String}

/-- The paths among the answers after one more turn. -/
theorem exists_concat : (∃ a ∈ front ++ [t.answer], a.2 = some path) ↔
    (∃ a ∈ front, a.2 = some path) ∨ t.found = some path := by
  simp only [List.mem_append, List.mem_singleton, or_and_right, exists_or, exists_eq_left]
  rfl

theorem missing (hfront : FoundIn front visited) (hfound : t.found = none) :
    FoundIn (front ++ [t.answer]) visited := fun path => by
  rw [exists_concat, hfound, hfront]
  exact (or_iff_left nofun).symm

theorem again (hfront : FoundIn front visited) (hfound : t.found = some path)
    (hmem : path ∈ visited) : FoundIn (front ++ [t.answer]) visited := fun q => by
  rw [exists_concat, hfound, ← hfront]
  exact ⟨.inl, fun hq => hq.elim id fun heq => Option.some.inj heq ▸ hmem⟩

theorem first (hfront : FoundIn front visited) (hfound : t.found = some path) :
    FoundIn (front ++ [t.answer]) (path :: visited) := fun q => by
  rw [exists_concat, hfound, ← hfront, List.mem_cons, or_comm, Option.some.injEq, eq_comm]

/-- Of a file that was found in front nothing is reported. -/
theorem reportsAt_answer (hfront : FoundIn front visited) (hfound : t.found = some path) :
    reportsAt id [] h root front t.answer =
      if path ∈ visited then [] else syntaxErrors h path := by
  simp only [Turn.answer, hfound, reportsAt_found, hfront path, List.not_mem_nil, false_or,
    Option.map_id, id_eq]

end FoundIn

/-- Checking tells files by their paths as they are spelled. -/
theorem Turns.reports_eq {visited : List String} {ts : List Turn}
    (hts : Turns VirtualHost.host h.Shows paths root visited ts) {front : List Answer}
    (hfront : FoundIn front visited) :
    ts.flatMap Turn.reports = reportsBy id [] h root front (ts.map Turn.answer) := by
  induction hts generalizing front with
  | nil => rfl
  | missing _ hfound hreports _ ih =>
    rw [List.flatMap_cons, List.map_cons, reportsBy, ih (hfront.missing hfound), hreports,
      Turn.answer, hfound]
    rfl
  | again _ hfound hmem hreports _ ih =>
    rw [List.flatMap_cons, List.map_cons, reportsBy, ih (hfront.again hfound hmem), hreports,
      hfront.reportsAt_answer hfound, if_pos hmem]
  | @first visited t ts path k _ hfound hmem hk hreports _ ih =>
    have hfile : t.reports = syntaxErrors h path := by
      rw [hreports, syntaxErrors, ← hk.sourceFile? path]
      rfl
    rw [List.flatMap_cons, List.map_cons, reportsBy, ih (hfront.first hfound), hfile,
      hfront.reportsAt_answer hfound, if_neg hmem]

/-! ### Every file once, and again -/

/-- Where an answer repeats a file, its syntax errors are reported again; any other answer is
reported as it should be. -/
theorem reportsAt_eq_ite (h : VirtualHost) (root : SourceFile) (front : List Answer) (s : Specifier)
    (path : String) :
    (Repeated root front path ∧
        reportsAt hostPath [root.path] h root front (s, some path) = [] ∧
        reportsAt id [] h root front (s, some path) = syntaxErrors h path) ∨
      (¬ Repeated root front path ∧
        reportsAt id [] h root front (s, some path) =
          reportsAt hostPath [root.path] h root front (s, some path)) := by
  simp only [reportsAt_found, List.mem_singleton, List.not_mem_nil, false_or, id_eq, Option.map_id]
  by_cases hpath : ∃ a ∈ front, a.2 = some path
  · -- the path was found before, and so was the file
    obtain ⟨a, ha, hfound⟩ := hpath
    refine .inr ⟨fun hrepeated => hrepeated.1 a ha hfound, ?_⟩
    rw [if_pos ⟨a, ha, hfound⟩, if_pos (.inr ⟨a, ha, by rw [hfound]; rfl⟩)]
  · have hnew : ∀ a ∈ front, a.2 ≠ some path := fun a ha hfound => hpath ⟨a, ha, hfound⟩
    rw [if_neg hpath]
    by_cases hfile : hostPath path = root.path ∨
        ∃ a ∈ front, a.2.map hostPath = some (hostPath path)
    · exact .inl ⟨⟨hnew, hfile⟩, if_pos hfile, rfl⟩
    · exact .inr ⟨fun hrepeated => hfile hrepeated.2, (if_neg hfile).symm⟩

theorem reportsAt_sublist (front : List Answer) (a : Answer) :
    List.Sublist (reportsAt hostPath [root.path] h root front a)
      (reportsAt id [] h root front a) := by
  obtain ⟨s, _ | path⟩ := a
  · exact List.Sublist.refl _
  · obtain ⟨-, hnone, -⟩ | ⟨-, hsame⟩ := reportsAt_eq_ite h root front s path
    · rw [hnone]
      exact List.nil_sublist _
    · rw [hsame]

/-- Of an answer nothing is reported again unless it repeats a file with syntax errors. -/
theorem reportsAt_eq_iff (front : List Answer) (a : Answer) :
    reportsAt id [] h root front a = reportsAt hostPath [root.path] h root front a ↔
      ∀ path, a.2 = some path → Repeated root front path → syntaxErrors h path = [] := by
  obtain ⟨s, _ | path⟩ := a
  · exact iff_of_true rfl nofun
  · simp only [Option.some.injEq, forall_eq']
    obtain ⟨hrepeated, hnone, hagain⟩ | ⟨hnew, hsame⟩ :=
      reportsAt_eq_ite h root front s path
    · rw [hnone, hagain]
      exact ⟨fun herrors _ => herrors, fun herrors => herrors hrepeated⟩
    · exact iff_of_true hsame fun hrepeated => absurd hrepeated hnew

theorem reportsBy_sublist (front rest : List Answer) :
    List.Sublist (reportsBy hostPath [root.path] h root front rest)
      (reportsBy id [] h root front rest) := by
  induction rest generalizing front with
  | nil => exact .slnil
  | cons a rest ih => exact (reportsAt_sublist front a).append (ih _)

/-- Lists that hold others one by one are made up of the same reports only if each holds no more
than the other. -/
theorem append_eq_append_iff_of_sublist {α : Type} {as bs cs ds : List α} (hac : cs.Sublist as)
    (hbd : ds.Sublist bs) : as ++ bs = cs ++ ds ↔ as = cs ∧ bs = ds := by
  refine ⟨fun heq => ?_, fun ⟨has, hbs⟩ => by rw [has, hbs]⟩
  have hlength := congrArg List.length heq
  rw [List.length_append, List.length_append] at hlength
  have hcs := hac.length_le
  have hds := hbd.length_le
  exact ⟨(hac.eq_of_length (by omega)).symm, (hbd.eq_of_length (by omega)).symm⟩

/-- Nothing is reported again unless a file with syntax errors is repeated. -/
theorem reportsBy_eq_iff (front rest : List Answer) :
    reportsBy id [] h root front rest = reportsBy hostPath [root.path] h root front rest ↔
      ∀ between s path behind, rest = between ++ (s, some path) :: behind →
        Repeated root (front ++ between) path → syntaxErrors h path = [] := by
  induction rest generalizing front with
  | nil => simp [reportsBy]
  | cons a rest ih =>
    -- one list is a part of the other piece by piece, so they agree only if all pieces do
    rw [reportsBy, reportsBy, append_eq_append_iff_of_sublist (reportsAt_sublist front a)
      (reportsBy_sublist _ rest), reportsAt_eq_iff, ih]
    constructor
    · rintro ⟨hfirst, hrest⟩ (_ | ⟨b, between⟩) s path behind hsplit hrepeated
      · obtain ⟨rfl, -⟩ := List.cons.inj hsplit
        exact hfirst path rfl (by rwa [List.append_nil] at hrepeated)
      · obtain ⟨rfl, htail⟩ := List.cons.inj hsplit
        refine hrest between s path behind htail ?_
        rwa [List.append_assoc]
    · intro hall
      constructor
      · intro path hpath hrepeated
        refine hall [] a.1 path rest ?_ (by rwa [List.append_nil])
        rw [← hpath]
        rfl
      · intro between s path behind hsplit hrepeated
        refine hall (a :: between) s path behind (by rw [hsplit]; rfl) ?_
        rwa [List.append_assoc] at hrepeated

/-- Two paths of one file differ by a slash in front. -/
theorem slash_of_hostPath_eq {p q : String} (hfile : hostPath p = hostPath q) (hne : p ≠ q) :
    p = "/" ++ q ∨ q = "/" ++ p := by
  obtain hp | ⟨hp, -⟩ := hostPath_cases p <;> obtain hq | ⟨hq, -⟩ := hostPath_cases q
  · exact absurd (by rw [hp, hq, hfile]) hne
  · exact .inl (by rw [← hq, ← hfile]; exact hp)
  · exact .inr (by rw [← hp, hfile]; exact hq)
  · exact absurd (hp.symm.trans (hfile.trans hq)) hne

/-- What checking the program reports: its own faults, those of the library, and what its
specifiers come to when files are told by their paths as they are spelled, without the program
itself among them. Every file once is contained in this, and it is all unless a file with syntax
errors is repeated. -/
theorem files_reported (tools : Toolchain) (h : VirtualHost) (options : CompilerOptions) :
    ∃ root, h.sourceFile? sourcePath = some root ∧
      let found := answers h options.paths (specifiers root.parsed.program)
      let reports (key : String → String) (read : List String) : List Diagnostic :=
        tools.ownFaults root ++ ((Toolchain.checkLibrary options).run VirtualHost.host h).1 ++
          reportsBy key read h root [] found
      ((tools.check options root).run VirtualHost.host h).1 = reports id [] ∧
        (reports hostPath [root.path]).Sublist (reports id []) ∧
        (reports id [] = reports hostPath [root.path] ↔
          ∀ front s path behind, found = front ++ (s, some path) :: behind →
            Repeated root front path → syntaxErrors h path = []) ∧
        ∀ p q, hostPath p = hostPath q → p ≠ q → p = "/" ++ q ∨ q = "/" ++ p := by
  obtain ⟨text, htext⟩ : ∃ text, h.content? sourcePath = some text :=
    VirtualHost.exists?_iff.1 (by
      unfold VirtualHost.exists?
      rw [show (hostPath sourcePath == sourcePath) = true from by decide +kernel, Bool.or_true])
  let root : SourceFile :=
    ⟨hostPath sourcePath, text, Parsed.ofText (dialectOf (hostPath sourcePath)) text⟩
  refine ⟨root, by rw [VirtualHost.sourceFile?, htext]; rfl, ?_⟩
  obtain ⟨ts, hts, hmap, htold⟩ := check_turns tools
    (VirtualHost.host_keeps h.store h.buffer) options root ⟨rfl, rfl⟩
  obtain ⟨hrun, -⟩ := Prod.mk.inj htold
  have hanswers : ts.map Turn.answer =
      answers h options.paths (specifiers root.parsed.program) := by
    rw [answers, ← hmap, List.map_map]
    exact List.map_congr_left fun t ht => Prod.ext rfl (hts.found_eq t ht)
  dsimp only
  refine ⟨?_, (reportsBy_sublist _ _).append_left _, ?_, fun p q => slash_of_hostPath_eq⟩
  · have hnone : FoundIn [] [] := fun path => by simp
    rw [hrun, hts.reports_eq hnone, hanswers]
  · rw [List.append_cancel_left_eq, reportsBy_eq_iff]
    rfl

/-- The syntax error of a program that imports itself. -/
def selfImportError : Diagnostic :=
  { file := "index.tsx", message := "Missing initializer in const declaration"
    position := some ⟨2, 7⟩ }

/-- A program that imports itself, and has one syntax error. -/
def selfImport : VirtualHost :=
  { store := ⟨[]⟩, buffer := "import \x22./index\x22;\nconst a;\n" }

/-- A program that imports itself has its syntax error reported twice. -/
theorem root_reported_again :
    syntaxErrors selfImport sourcePath = [selfImportError] ∧
      (compile standardTools.service { noLib := true } (standardPipeline { noLib := true })
          selfImport).1 =
        .compiled ⟨[selfImportError, selfImportError], none⟩ := by
  decide +kernel

/-- A file that is found by its directory and by its name has its syntax error reported twice. -/
example : (compile standardTools.service { noLib := true } {}
      { store := ⟨[("index.ts", "const a;")]⟩
        buffer := "import \x22./\x22;\nimport \x22./index\x22;\n" }).1 =
    .compiled ⟨List.replicate 2
      { file := "index.ts", message := "Missing initializer in const declaration"
        position := some ⟨1, 7⟩ }, none⟩ := by
  decide +kernel

end Playground.Compiler
