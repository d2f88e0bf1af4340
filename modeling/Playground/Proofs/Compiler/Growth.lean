import Playground.Proofs.Compiler.Checking

/-!
# More files

A store that holds more files offers every candidate that was there before, and maybe others in
front of it: a manifest that was not there only adds candidates.

* `VirtualHost.Extends` — a host has every file of another's store, with the same content;
* `mem_baseCandidates` — over more files a base keeps its candidates;
* `run_resolve_extends` — over more files a specifier that was resolved is resolved, to the same
  file or to one that is tried before it;
* `run_check_misses` — the missing modules that are reported over a host;
* `more_files_miss_less` — with more files no resolution is lost, and no other module is missing.
-/

namespace Playground.Compiler

open Playground.Emit Playground.Script Playground.Text

/-- Whether a host has every file of another's store, with the same content. -/
def VirtualHost.Extends (k h : VirtualHost) : Prop :=
  ∀ path text, h.store.get? path = some text → k.store.get? path = some text

variable {h k : VirtualHost} {paths : List (String × List String)}

/-! ### Candidates -/

/-- What exists goes on to exist. -/
theorem VirtualHost.Extends.exists? (hfiles : k.Extends h) {path : String}
    (hpath : h.exists? path = true) : k.exists? path = true := by
  unfold VirtualHost.exists? Snapshot.Store.contains at hpath ⊢
  rcases Bool.or_eq_true_iff.1 hpath with hstore | hsource
  · obtain ⟨text, htext⟩ := Option.isSome_iff_exists.1 hstore
    rw [hfiles _ _ htext]
    rfl
  · rw [hsource, Bool.or_true]

/-- A manifest is never the text being edited. -/
theorem hostPath_manifest (base : String) : hostPath (base ++ "/package.json") ≠ sourcePath := by
  intro h
  have hmanifest : "/package.json".toList.getLast? = some 'n' := by decide +kernel
  have hsource : sourcePath.toList.getLast? = some 'x' := by decide +kernel
  have hlast : (base ++ "/package.json").toList.getLast? = some 'n' := by
    rw [String.toList_append, List.getLast?_append, hmanifest]
    rfl
  unfold hostPath at h
  split at h
  · next rest hrest =>
    have hne : rest ≠ [] := by
      rintro rfl
      cases congrArg String.toList h
    rw [← h, String.toList_ofList] at hsource
    rw [hrest, List.getLast?_cons, hsource] at hlast
    cases hlast
  · rw [h, hsource] at hlast
    cases hlast

/-- The manifest of a base, if there is one, is still the same. -/
theorem VirtualHost.Extends.manifest (hfiles : k.Extends h) {base text : String}
    (hmanifest : h.content? (base ++ "/package.json") = some text) :
    k.content? (base ++ "/package.json") = some text := by
  unfold VirtualHost.content? at hmanifest ⊢
  rw [Snapshot.Store.shared?_eq, if_neg (hostPath_manifest base)] at hmanifest ⊢
  cases hstore : h.store.get? (hostPath (base ++ "/package.json")) with
  | none =>
    rw [hstore] at hmanifest
    cases hmanifest
  | some content =>
    rw [hstore] at hmanifest
    rw [hfiles _ _ hstore]
    exact hmanifest

/-- Over more files a base keeps its candidates. -/
theorem mem_baseCandidates (hfiles : k.Extends h) {base path : String}
    (hpath : path ∈ baseCandidates h.content? base) : path ∈ baseCandidates k.content? base := by
  unfold baseCandidates at hpath ⊢
  simp only [List.mem_append] at hpath ⊢
  refine hpath.imp_left (Or.imp_right fun hdeclared => ?_)
  -- a manifest that was not there declared nothing
  cases hmanifest : h.content? (trimmedBase base ++ "/package.json") with
  | none =>
    rw [hmanifest] at hdeclared
    cases hdeclared
  | some manifest => rwa [hfiles.manifest hmanifest, ← hmanifest]

/-- Over more files a specifier that was resolved is resolved, to the same file or to one that is
tried before it. -/
theorem run_resolve_extends (hfiles : k.Extends h) {specifier path : String}
    (hpath : ((resolve paths specifier).run VirtualHost.host h).1 = some path) :
    ∃ path' before behind,
      ((resolve paths specifier).run VirtualHost.host k).1 = some path' ∧
      Documented k.content? paths specifier (before ++ path' :: behind) ∧
      path ∈ path' :: behind := by
  rw [run_resolve ⟨rfl, rfl⟩] at hpath
  obtain ⟨base, hbase, hmem⟩ := List.mem_flatMap.1 (List.mem_of_find?_eq_some hpath)
  have hcandidate : path ∈ (bases paths specifier).flatMap (baseCandidates k.content?) :=
    List.mem_flatMap.2 ⟨base, hbase, mem_baseCandidates hfiles hmem⟩
  have hexists : k.exists? path = true := hfiles.exists? (List.find?_some hpath)
  rw [run_resolve ⟨rfl, rfl⟩]
  -- the file is still a candidate, so the search ends there at the latest
  cases hfound : ((bases paths specifier).flatMap (baseCandidates k.content?)).find? k.exists? with
  | none => exact absurd hexists (List.find?_eq_none.1 hfound path hcandidate)
  | some path' =>
    obtain ⟨-, before, behind, hsplit, hbefore⟩ := List.find?_eq_some_iff_append.1 hfound
    refine ⟨path', before, behind, rfl, documented_iff.2 hsplit.symm, ?_⟩
    rw [hsplit] at hcandidate
    refine (List.mem_append.1 hcandidate).resolve_left fun hmem => ?_
    simpa [hexists] using hbefore path hmem

/-! ### Missing modules -/

/-- The missing modules that are reported over a host: one for each specifier that is resolved to
nothing. -/
theorem run_check_misses (tools : Toolchain) (options : CompilerOptions) (root : SourceFile)
    (h : VirtualHost) :
    ((tools.check options root).run VirtualHost.host h).1.filter MissesModule =
      ((specifiers root.parsed.program).filter fun s =>
        (((resolve options.paths s.value).run VirtualHost.host h).1).isNone).map
        (Toolchain.unresolved root) := by
  obtain ⟨ts, hts, hmap, htold⟩ := check_turns tools
    (VirtualHost.host_keeps h.store h.buffer) options root ⟨rfl, rfl⟩
  obtain ⟨hrun, -⟩ := Prod.mk.inj htold
  rw [hrun, filter_misses, hts.misses, ← hmap, List.filter_map, List.map_map]
  exact congrArg _ (List.filter_congr fun t ht => congrArg Option.isNone (hts.found_eq t ht))

/-- With more files no resolution is lost: a specifier that was resolved is resolved to the same
file or to one that is tried before it.  So of the missing modules that are reported for a
program, some may go and none comes. -/
theorem more_files_miss_less (hfiles : k.Extends h) (options : CompilerOptions) :
    (∀ specifier path, ((resolve options.paths specifier).run VirtualHost.host h).1 = some path →
      ∃ path' before behind,
        ((resolve options.paths specifier).run VirtualHost.host k).1 = some path' ∧
        Documented k.content? options.paths specifier (before ++ path' :: behind) ∧
        path ∈ path' :: behind) ∧
    ∀ (tools : Toolchain) (root : SourceFile),
      List.Sublist (((tools.check options root).run VirtualHost.host k).1.filter MissesModule)
        (((tools.check options root).run VirtualHost.host h).1.filter MissesModule) := by
  refine ⟨fun specifier path => run_resolve_extends hfiles, fun tools root => ?_⟩
  rw [run_check_misses, run_check_misses]
  refine (List.monotone_filter_right _ fun s hmissing => ?_).map _
  rw [Option.isNone_iff_eq_none] at hmissing ⊢
  refine Option.eq_none_iff_forall_ne_some.2 fun path hpath => ?_
  obtain ⟨path', -, -, hpath', -⟩ := run_resolve_extends hfiles hpath
  cases hmissing.symm.trans hpath'

/-- A manifest that points nowhere, and one that is no manifest at all, leave the packages to be
found where they were. -/
theorem more_files_miss_less_manifests :
    let h : VirtualHost :=
      { store := ⟨[("node_modules/a/index.d.ts", ""), ("node_modules/b.d.ts", "")]⟩, buffer := "" }
    let k : VirtualHost :=
      { store := ⟨[("node_modules/a/index.d.ts", ""),
          ("node_modules/a/package.json", "\x7b\"types\": \"gone.d.ts\"\x7d"),
          ("node_modules/b.d.ts", ""), ("node_modules/b/package.json", "types")]⟩
        buffer := "other" }
    k.Extends h ∧
      (∃ path before behind, ((resolve [] "a").run VirtualHost.host k).1 = some path ∧
        Documented k.content? [] "a" (before ++ path :: behind) ∧
        "node_modules/a/index.d.ts" ∈ path :: behind) ∧
      ∀ root, List.Sublist
        (((standardTools.check { paths := [] } root).run VirtualHost.host k).1.filter MissesModule)
        (((standardTools.check { paths := [] } root).run VirtualHost.host h).1.filter
          MissesModule) := by
  intro h k
  have hfiles : k.Extends h := by
    intro path text htext
    obtain ⟨front, behind, hentries, -⟩ := List.lookup_eq_some_iff.1 htext
    have hmem : (path, text) ∈ h.store.entries := by
      rw [hentries]
      exact List.mem_append_right _ (List.mem_cons_self ..)
    simp only [h, List.mem_cons, Prod.mk.injEq, List.not_mem_nil, or_false] at hmem
    obtain ⟨rfl, rfl⟩ | ⟨rfl, rfl⟩ := hmem <;> decide +kernel
  obtain ⟨hresolves, hmisses⟩ := more_files_miss_less hfiles { paths := [] }
  exact ⟨hfiles, hresolves "a" _ (by decide +kernel), fun root => hmisses standardTools root⟩

end Playground.Compiler
