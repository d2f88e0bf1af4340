import Mathlib.Data.List.Forall2
import Playground.Proofs.Compiler.Isolation
import Playground.Proofs.Compiler.RelativePaths
import Playground.Proofs.Compiler.Steps
import Playground.Proofs.Config.KeyOrder
import Playground.Proofs.Text.Cutting

/-!
# The candidates of a module specifier

A specifier is resolved to the first of its candidates that exists.  Which candidates these are, and
in which order, depends on the configured paths and on the manifests that the host can read.

* `BasesOf` — the places a specifier may stand for;
* `CandidatesOf` — the files a place may stand for;
* `Documented` — the candidates of a specifier, over all its places;
* `documented_iff` — a specifier has one list of candidates;
* `run_resolve` — resolving asks for these candidates, one after another;
* `resolve_first_existing` — what resolving finds is the first candidate that exists.
-/

namespace Playground.Compiler

open Playground.Text

/-- A relation that gives every element one value maps lists. -/
theorem forall₂_iff_map {α β : Type} {R : α → β → Prop} {f : α → β}
    (h : ∀ a b, R a b ↔ b = f a) {as : List α} {bs : List β} :
    List.Forall₂ R as bs ↔ bs = as.map f := by
  have hR : R = fun a b => f a = b := by
    funext a b
    exact propext ((h a b).trans eq_comm)
  rw [hR, ← List.forall₂_map_left_iff, List.forall₂_eq_eq_eq, eq_comm]

/-! ### Configured paths -/

/-- What a key that ends in a star leaves of a specifier. -/
def Leaves (key specifier rest : List Char) : Prop :=
  ∃ start, key = start ++ ['*'] ∧ specifier = start ++ rest

/-- What the entry of a key that is a pattern gives a specifier: its targets, with the first star
filled in, if the specifier matches. -/
inductive Given (specifier : String) : String × List String → List String → Prop
  | filled {key rest : String} {targets bases : List String} :
    Leaves key.toList specifier.toList rest.toList →
    List.Forall₂ (fun t b : String => FirstReplaced '*' rest.toList t.toList b.toList)
      targets bases →
    Given specifier (key, targets) bases
  | nothing {key : String} {targets : List String} :
    (∀ rest : String, ¬ Leaves key.toList specifier.toList rest.toList) →
    Given specifier (key, targets) []

/-- What the configured paths give a specifier: the targets of its own key, or else what all the
patterns give it, in the order of their keys. -/
inductive Mapped (paths : List (String × List String)) (specifier : String) : List String → Prop
  | exact {front behind : List (String × List String)} {targets : List String} :
    paths = front ++ (specifier, targets) :: behind → (∀ e ∈ front, e.1 ≠ specifier) →
    Mapped paths specifier targets
  | patterns {bases : List (List String)} :
    (∀ e ∈ paths, e.1 ≠ specifier) → List.Forall₂ (Given specifier) paths bases →
    Mapped paths specifier bases.flatten

/-- Matching a pattern finds what its key leaves. -/
theorem matchPattern?_eq_some {key specifier rest : String} :
    matchPattern? key specifier = some rest ↔
      Leaves key.toList specifier.toList rest.toList := by
  unfold matchPattern? Leaves
  constructor
  · intro h
    split at h
    · next start hstart =>
      obtain ⟨cs, hcs, rfl⟩ := Option.map_eq_some_iff.1 h
      rw [String.toList_ofList]
      exact ⟨start, beforeEnd?_eq_some.1 hstart, afterStart?_eq_some.1 hcs⟩
    · cases h
  · rintro ⟨start, hkey, hspecifier⟩
    rw [beforeEnd?_eq_some.2 hkey]
    dsimp only
    rw [afterStart?_eq_some.2 hspecifier, Option.map_some, String.ofList_toList]

/-- The bases that an entry gives a specifier, as they are computed. -/
def givenBases (specifier : String) (entry : String × List String) : List String :=
  match matchPattern? entry.1 specifier with
  | some rest => entry.2.map fun t => String.ofList (replaceFirst '*' rest.toList t.toList)
  | none => []

/-- The targets of a pattern have one way to be filled in. -/
theorem filled_iff {rest : String} {targets bases : List String} :
    List.Forall₂ (fun t b : String => FirstReplaced '*' rest.toList t.toList b.toList)
        targets bases ↔
      bases = targets.map fun t => String.ofList (replaceFirst '*' rest.toList t.toList) := by
  have hone (t b : String) : FirstReplaced '*' rest.toList t.toList b.toList ↔
      b = String.ofList (replaceFirst '*' rest.toList t.toList) := by
    rw [firstReplaced_iff, ← String.toList_inj, String.toList_ofList]
  exact forall₂_iff_map hone

theorem given_iff (specifier : String) (entry : String × List String) (bases : List String) :
    Given specifier entry bases ↔ bases = givenBases specifier entry := by
  constructor
  · rintro (⟨hleaves, hfilled⟩ | hnone)
    · rw [givenBases, matchPattern?_eq_some.2 hleaves]
      exact filled_iff.1 hfilled
    · unfold givenBases
      split
      · next rest hrest => exact absurd (matchPattern?_eq_some.1 hrest) (hnone rest)
      · rfl
  · rintro rfl
    unfold givenBases
    split
    · next rest hrest =>
      exact .filled (matchPattern?_eq_some.1 hrest) (filled_iff.2 rfl)
    · next hnone =>
      refine .nothing fun rest hleaves => ?_
      cases hnone.symm.trans (matchPattern?_eq_some.2 hleaves)

/-- The first entry of a key is the one that is looked up. -/
theorem lookup_eq_some {paths : List (String × List String)} {specifier : String}
    {targets : List String} : paths.lookup specifier = some targets ↔
      ∃ front behind, paths = front ++ (specifier, targets) :: behind ∧
        ∀ e ∈ front, e.1 ≠ specifier := by
  simp only [List.lookup_eq_some_iff, bne_iff_ne, ne_eq, eq_comm (a := specifier)]

theorem lookup_eq_none {paths : List (String × List String)} {specifier : String} :
    paths.lookup specifier = none ↔ ∀ e ∈ paths, e.1 ≠ specifier := by
  simp only [List.lookup_eq_none_iff, bne_iff_ne, ne_eq, eq_comm (a := specifier)]

theorem mapped_iff {paths : List (String × List String)} {specifier : String}
    {bases : List String} :
    Mapped paths specifier bases ↔ bases = mappedBases paths specifier := by
  constructor
  · rintro (⟨hpaths, hfront⟩ | ⟨hkeys, hgiven⟩)
    · rw [mappedBases, lookup_eq_some.2 ⟨_, _, hpaths, hfront⟩]
    · -- without a key of its own, a specifier is given what every entry gives it
      rw [mappedBases, lookup_eq_none.2 hkeys, (forall₂_iff_map (given_iff specifier)).1 hgiven]
      exact List.flatMap_def.symm
  · rintro rfl
    unfold mappedBases
    split
    · next targets htargets =>
      obtain ⟨front, behind, hpaths, hfront⟩ := lookup_eq_some.1 htargets
      exact .exact hpaths hfront
    · next hnone =>
      have hgiven : List.Forall₂ (Given specifier) paths (paths.map (givenBases specifier)) :=
        (forall₂_iff_map (given_iff specifier)).2 rfl
      exact .patterns (lookup_eq_none.1 hnone) hgiven

/-! ### Bases -/

/-- The name that declarations of a package are published by. -/
inductive Published : List Char → List Char → Prop
  | scoped {scope name : List Char} :
    '/' ∉ scope → Published ('@' :: scope ++ '/' :: name) (scope ++ ['_', '_'] ++ name)
  | unnamed {scope : List Char} : '/' ∉ scope → Published ('@' :: scope) scope
  | plain {specifier : List Char} : specifier.head? ≠ some '@' → Published specifier specifier

/-- The places a specifier may stand for, in the order they are tried. -/
inductive BasesOf (paths : List (String × List String)) (specifier : String) : List String → Prop
  | path {base : String} :
    Relative specifier.toList → NormalForm specifier.toList base.toList →
    BasesOf paths specifier [base]
  | package {mapped : List String} {name : String} :
    ¬ Relative specifier.toList → Mapped paths specifier mapped →
    Published specifier.toList name.toList →
    BasesOf paths specifier
      (mapped ++ ["node_modules/" ++ specifier, "node_modules/@types/" ++ name])

/-- The name that declarations of a package are published by, as it is computed. -/
def publishedName : List Char → List Char
  | '@' :: name => replaceFirst '/' ['_', '_'] name
  | cs => cs

theorem typesName_toList (specifier : String) :
    (typesName specifier).toList = publishedName specifier.toList := by
  unfold typesName
  split
  · next name hname => rw [hname, String.toList_ofList, publishedName]
  · next hother =>
    unfold publishedName
    split
    · next name hname => exact (hother name hname).elim
    · rfl

theorem published_iff {specifier name : String} :
    Published specifier.toList name.toList ↔ name = typesName specifier := by
  rw [← String.toList_inj, typesName_toList]
  -- only the characters of the names matter from here on
  generalize specifier.toList = cs, name.toList = published
  constructor
  · rintro (hscope | hscope | hplain)
    · exact (replaceFirst_append hscope).symm
    · exact (replaceFirst_of_not_mem hscope).symm
    · unfold publishedName
      split
      · exact absurd rfl hplain
      · rfl
  · rintro rfl
    unfold publishedName
    split
    · next rest =>
      by_cases hslash : '/' ∈ rest
      · obtain ⟨scope, name, rfl, hscope⟩ := List.eq_append_cons_of_mem hslash
        rw [replaceFirst_append hscope]
        exact .scoped hscope
      · rw [replaceFirst_of_not_mem hslash]
        exact .unnamed hslash
    · next hother =>
      refine .plain fun hhead => ?_
      obtain ⟨rest, rfl⟩ := List.head?_eq_some_iff.1 hhead
      exact hother rest rfl

theorem basesOf_iff {paths : List (String × List String)} {specifier : String}
    {bs : List String} : BasesOf paths specifier bs ↔ bs = bases paths specifier := by
  unfold bases relativeBase?
  constructor
  · rintro (⟨hrelative, hnormal⟩ | ⟨hrelative, hmapped, hpublished⟩)
    · rw [if_pos (isRelative_iff.2 hrelative), ← normalForm_iff.1 hnormal, String.ofList_toList]
    · rw [if_neg (fun h => hrelative (isRelative_iff.1 h)), ← mapped_iff.1 hmapped,
        ← published_iff.1 hpublished]
  · rintro rfl
    by_cases hrelative : Relative specifier.toList
    · rw [if_pos (isRelative_iff.2 hrelative)]
      exact .path hrelative (normalForm_iff.2 (String.toList_ofList ..))
    · rw [if_neg (fun h => hrelative (isRelative_iff.1 h))]
      exact .package hrelative (mapped_iff.2 rfl) (published_iff.2 rfl)

/-! ### Candidates -/

/-- What a manifest declares to be the entry of its package: the field `types` if it has one, or
else the field `typings`. -/
def Declares (manifest types : String) : Prop :=
  ∃ v, Json.Value.parse? manifest = some v ∧
    (v.field? "types" = some (.string types) ∨
      v.field? "types" = none ∧ v.field? "typings" = some (.string types))

/-- The files that the manifest of a base may declare. -/
inductive EntriesOf (base : String) : Option String → List String → Prop
  | declared {manifest types rest stem : String} :
    Declares manifest types → TrimmedStart ['.', '/'] types.toList rest.toList →
    TrimmedEnd ['.', 'j', 's'] (base ++ "/" ++ rest).toList stem.toList →
    EntriesOf base (some manifest)
      ((base ++ "/" ++ rest) :: [".ts", ".tsx", ".d.ts"].map (stem ++ ·))
  | undeclared {manifest? : Option String} :
    (∀ manifest types, manifest? = some manifest → ¬ Declares manifest types) →
    EntriesOf base manifest? []

/-- The file that a base is itself. -/
inductive SelfOf (base : String) : List String → Prop
  | declaring {ending : String} :
    ending ∈ [".ts", ".tsx", ".d.ts"] → ending.toList <:+ base.toList → SelfOf base [base]
  | other : (∀ ending ∈ [".ts", ".tsx", ".d.ts"], ¬ ending.toList <:+ base.toList) → SelfOf base []

/-- The files a base may stand for, in the order they are tried. -/
inductive CandidatesOf (content? : String → Option String) (base : String) : List String → Prop
  | mk {inner trimmed : String} {self entries : List String} :
    TrimmedStart ['/'] base.toList inner.toList → TrimmedEnd ['/'] inner.toList trimmed.toList →
    SelfOf trimmed self → EntriesOf trimmed (content? (trimmed ++ "/package.json")) entries →
    CandidatesOf content? base
      (self ++ [".ts", ".tsx", ".d.ts"].map (trimmed ++ ·) ++ entries ++
        [".ts", ".tsx", ".d.ts"].map (trimmed ++ "/index" ++ ·))

theorem declares_iff {manifest types : String} :
    Declares manifest types ↔ typesField? manifest = some types := by
  have hstring (v : Json.Value) : v.string? = some types ↔ v = .string types := by
    cases v <;> simp [Json.Value.string?]
  unfold Declares typesField?
  cases Json.Value.parse? manifest with
  | none => simp
  | some v =>
    cases htypes : v.field? "types" with
    | none => simp [htypes, Option.bind_eq_some_iff, hstring]
    | some field => simp [htypes, hstring]

/-- The files that the manifest of a base may declare, as they are computed. -/
def declaredCandidates (base : String) (manifest? : Option String) : List String :=
  ((manifest?.bind typesField?).map (entryCandidates base)).getD []

/-- The file that a base is itself, as it is computed. -/
def ownCandidates (base : String) : List String :=
  if extensions.any fun e => endsWith e.toList base.toList then [base] else []

theorem entriesOf_iff {base : String} {manifest? : Option String} {entries : List String} :
    EntriesOf base manifest? entries ↔ entries = declaredCandidates base manifest? := by
  unfold declaredCandidates
  constructor
  · rintro (⟨hdeclares, hrest, hstem⟩ | hnone)
    · rw [Option.bind_some, declares_iff.1 hdeclares, Option.map_some, Option.getD_some,
        entryCandidates]
      -- the parts that the relation speaks of are those that trimming leaves
      rw [trimmedStart_iff (by simp)] at hrest
      rw [trimmedEnd_iff (by simp)] at hstem
      simp only [extensions, ← hrest, ← hstem, String.ofList_toList]
    · have hbind : manifest?.bind typesField? = none := by
        cases manifest? with
        | none => rfl
        | some manifest =>
          refine Option.eq_none_iff_forall_ne_some.2 fun types h => ?_
          exact hnone manifest types rfl (declares_iff.2 h)
      rw [hbind, Option.map_none, Option.getD_none]
  · rintro rfl
    cases hbind : manifest?.bind typesField? with
    | none =>
      refine .undeclared ?_
      rintro manifest types rfl hdeclares
      cases hbind.symm.trans (declares_iff.1 hdeclares)
    | some types =>
      obtain ⟨manifest, rfl, htypes⟩ := Option.bind_eq_some_iff.1 hbind
      let rest := String.ofList (trimStarts ['.', '/'] (types.toList.length + 1) types.toList)
      let stem := String.ofList (trimEnds ['.', 'j', 's'] (base ++ "/" ++ rest).toList)
      have hrest : TrimmedStart ['.', '/'] types.toList rest.toList :=
        (trimmedStart_iff (by simp)).2 String.toList_ofList
      have hstem : TrimmedEnd ['.', 'j', 's'] (base ++ "/" ++ rest).toList stem.toList :=
        (trimmedEnd_iff (by simp)).2 String.toList_ofList
      exact .declared (declares_iff.2 htypes) hrest hstem

theorem selfOf_iff {base : String} {self : List String} :
    SelfOf base self ↔ self = ownCandidates base := by
  have hany : (extensions.any fun e => endsWith e.toList base.toList) = true ↔
      ∃ ending ∈ [".ts", ".tsx", ".d.ts"], ending.toList <:+ base.toList := by
    simp only [List.any_eq_true, endsWith_iff, extensions]
  unfold ownCandidates
  constructor
  · rintro (⟨hending, hbase⟩ | hnone)
    · rw [if_pos (hany.2 ⟨_, hending, hbase⟩)]
    · rw [if_neg fun h => ?_]
      obtain ⟨ending, hending, hbase⟩ := hany.1 h
      exact hnone ending hending hbase
  · rintro rfl
    split
    · next h =>
      obtain ⟨ending, hending, hbase⟩ := hany.1 h
      exact .declaring hending hbase
    · next h => exact .other fun ending hending hbase => h (hany.2 ⟨ending, hending, hbase⟩)

/-- The files a base may stand for, as they are computed. -/
def baseCandidates (content? : String → Option String) (base : String) : List String :=
  fileCandidates (trimmedBase base) ++
    declaredCandidates (trimmedBase base) (content? (trimmedBase base ++ "/package.json")) ++
    indexCandidates (trimmedBase base)

theorem trimmedBase_iff {base trimmed : String} : trimmed = trimmedBase base ↔
    ∃ inner : String, TrimmedStart ['/'] base.toList inner.toList ∧
      TrimmedEnd ['/'] inner.toList trimmed.toList := by
  simp only [trimmedStart_iff (List.cons_ne_nil '/' []), trimmedEnd_iff (List.cons_ne_nil '/' [])]
  constructor
  · rintro rfl
    refine ⟨String.ofList (trimStarts ['/'] (base.toList.length + 1) base.toList), ?_, ?_⟩
    · exact String.toList_ofList
    · rw [String.toList_ofList, trimmedBase, String.toList_ofList]
  · rintro ⟨inner, hinner, htrimmed⟩
    rw [trimmedBase, ← hinner, ← htrimmed, String.ofList_toList]

theorem candidatesOf_iff (content? : String → Option String) (base : String)
    (candidates : List String) :
    CandidatesOf content? base candidates ↔ candidates = baseCandidates content? base := by
  constructor
  · rintro ⟨hinner, htrimmed, hself, hentries⟩
    obtain rfl := trimmedBase_iff.2 ⟨_, hinner, htrimmed⟩
    rw [selfOf_iff.1 hself, entriesOf_iff.1 hentries]
    simp only [baseCandidates, fileCandidates, ownCandidates, indexCandidates, extensions]
  · intro hcandidates
    rw [hcandidates]
    obtain ⟨inner, hinner, htrimmed⟩ := trimmedBase_iff.1 (Eq.refl (trimmedBase base))
    have hself := selfOf_iff.2 (Eq.refl (ownCandidates (trimmedBase base)))
    have hentries := entriesOf_iff.2
      (Eq.refl (declaredCandidates (trimmedBase base)
        (content? (trimmedBase base ++ "/package.json"))))
    have hdocumented := CandidatesOf.mk hinner htrimmed hself hentries
    simpa only [baseCandidates, fileCandidates, ownCandidates, indexCandidates, extensions]
      using hdocumented

/-- The candidates of a specifier over all its bases. -/
def Documented (content? : String → Option String) (paths : List (String × List String))
    (specifier : String) (candidates : List String) : Prop :=
  ∃ bs css, BasesOf paths specifier bs ∧ List.Forall₂ (CandidatesOf content?) bs css ∧
    candidates = css.flatten

theorem documented_iff {content? : String → Option String} {paths : List (String × List String)}
    {specifier : String} {candidates : List String} :
    Documented content? paths specifier candidates ↔
      candidates = (bases paths specifier).flatMap (baseCandidates content?) := by
  constructor
  · rintro ⟨bs, css, hbs, hcss, rfl⟩
    rw [basesOf_iff.1 hbs] at hcss
    rw [(forall₂_iff_map (candidatesOf_iff content?)).1 hcss]
    exact List.flatMap_def.symm
  · rintro rfl
    exact ⟨_, _, basesOf_iff.2 rfl, (forall₂_iff_map (candidatesOf_iff content?)).2 rfl,
      List.flatMap_def⟩

/-! ### Asking for the candidates -/

section Asking

open VirtualHost (host)

variable {h k : VirtualHost}

/-- A host shows the files of another. -/
def VirtualHost.Shows (h k : VirtualHost) : Prop := k.store = h.store ∧ k.buffer = h.buffer

theorem VirtualHost.Shows.exists? (hk : h.Shows k) (path : String) :
    k.exists? path = h.exists? path := by
  rw [VirtualHost.exists?, VirtualHost.exists?, hk.1]

theorem VirtualHost.Shows.content? (hk : h.Shows k) (path : String) :
    k.content? path = h.content? path := by
  rw [VirtualHost.content?, VirtualHost.content?, hk.1, hk.2]

/-- Whatever is asked, a host goes on to show its files. -/
theorem VirtualHost.Shows.run {α : Type} (hk : h.Shows k) (d : Dialog α) :
    h.Shows (d.run host k).2 :=
  Dialog.run_keeps (VirtualHost.host_keeps h.store h.buffer) d k hk

@[simp]
theorem run_askExists (path : String) :
    ((Dialog.askExists path).run host k).1 = k.exists? path := rfl

@[simp]
theorem run_askText (path : String) :
    ((Dialog.askText path).run host k).1 = k.content? path := rfl

theorem run_firstExisting (hk : h.Shows k) (paths : List String) :
    ((firstExisting paths).run host k).1 = paths.find? h.exists? := by
  induction paths generalizing k with
  | nil => rfl
  | cons p rest ih =>
    rw [firstExisting, Dialog.run_bind, run_askExists, hk.exists?, List.find?_cons]
    cases h.exists? p with
    | true => rfl
    | false => exact ih (hk.run _)

/-- Probing a base asks for its candidates one after another. -/
theorem run_probe (hk : h.Shows k) (base : String) :
    ((probe base).run host k).1 = (baseCandidates h.content? base).find? h.exists? := by
  unfold probe baseCandidates
  simp only [Dialog.run_bind, List.find?_append, run_firstExisting hk]
  generalize trimmedBase base = trimmed
  cases (fileCandidates trimmed).find? h.exists? with
  | some p => rfl
  | none =>
    -- the manifest is asked for only now, and the host goes on to show the same files
    have hfiles := hk.run (firstExisting (fileCandidates trimmed))
    have hmanifest := hfiles.run (Dialog.askText (trimmed ++ "/package.json"))
    dsimp only
    rw [Dialog.run_bind, run_askText, hfiles.content?, declaredCandidates, Option.none_or]
    cases (h.content? (trimmed ++ "/package.json")).bind typesField? with
    | none => exact run_firstExisting hmanifest (indexCandidates trimmed)
    | some types =>
      dsimp only [Option.map_some, Option.getD_some]
      rw [Dialog.run_bind, run_firstExisting hmanifest]
      cases (entryCandidates trimmed types).find? h.exists? with
      | some p => rfl
      | none => exact run_firstExisting (hmanifest.run _) (indexCandidates trimmed)

theorem run_probeAll (hk : h.Shows k) (bs : List String) :
    ((probeAll bs).run host k).1 = (bs.flatMap (baseCandidates h.content?)).find? h.exists? := by
  induction bs generalizing k with
  | nil => rfl
  | cons b rest ih =>
    rw [probeAll, Dialog.run_bind, run_probe hk, List.flatMap_cons, List.find?_append]
    cases (baseCandidates h.content? b).find? h.exists? with
    | some p => rfl
    | none => exact ih (hk.run _)

/-- Resolving a specifier asks for the candidates of its bases one after another. -/
theorem run_resolve (hk : h.Shows k) (paths : List (String × List String)) (specifier : String) :
    ((resolve paths specifier).run host k).1 =
      ((bases paths specifier).flatMap (baseCandidates h.content?)).find? h.exists? :=
  run_probeAll hk (bases paths specifier)

end Asking

/-! ### The first candidate that exists -/

/-- What a specifier is resolved to is the first of its candidates that exists.  The patterns among
the configured paths are tried in the order of the keys, which is that of the entries in every
configuration. -/
theorem resolve_first_existing (h : VirtualHost) (options : CompilerOptions) (specifier : String) :
    ∃ candidates,
      (∀ list, Documented h.content? options.paths specifier list ↔ list = candidates) ∧
      (∀ p, ((resolve options.paths specifier).run VirtualHost.host h).1 = some p ↔
        h.exists? p = true ∧ ∃ before behind, candidates = before ++ p :: behind ∧
          ∀ q ∈ before, h.exists? q = false) ∧
      (((resolve options.paths specifier).run VirtualHost.host h).1 = none ↔
        ∀ q ∈ candidates, h.exists? q = false) ∧
      (∀ p, h.exists? p = true ↔ ∃ text, h.content? p = some text) ∧
      ∀ source configured ignored,
        Config.PlaygroundOptions.ofToml source = .ok (configured, ignored) →
        configured.compiler.paths.Pairwise fun a b => a.1 ≤ b.1 := by
  refine ⟨_, fun list => documented_iff, fun p => ?_, ?_, fun p => VirtualHost.exists?_iff,
    fun source configured ignored => Config.ofToml_paths⟩
  · rw [run_resolve ⟨rfl, rfl⟩, List.find?_eq_some_iff_append]
    simp only [Bool.not_eq_true']
  · rw [run_resolve ⟨rfl, rfl⟩, List.find?_eq_none]
    simp only [Bool.not_eq_true]

/-- The declarations of a package that a scope publishes. -/
example : ((resolve [] "@babel/core").run VirtualHost.host
      { store := ⟨[("node_modules/@types/babel__core/index.d.ts", "export \x7b\x7d")]⟩
        buffer := "" }).1 =
    some "node_modules/@types/babel__core/index.d.ts" := by
  decide +kernel

end Playground.Compiler
