import Mathlib.Data.List.TakeWhile
import Playground.Proofs.Link.Characters

/-!
# Links are read again

A link, as it is written, is read as a link again if its authority is read as one, and what stands
behind its `#` is then the fragment.

* `Url.Written` — how the parts of a link look that was read (`parse_written`);
* `Url.AuthorityReads` — the authority of a link is read again as it is written;
* `Url.parse_fragment` — a link with a fragment attached is read with this fragment.
-/

namespace Playground.Link

open Playground.Text

/-! ### Cutting texts -/

section Cut

variable {p : Char → Bool} {stop : Char} {xs ys : List Char}

theorem drop_takeWhile (p : Char → Bool) (xs : List Char) :
    xs.drop (xs.takeWhile p).length = xs.dropWhile p := by
  have h : (xs.takeWhile p ++ xs.dropWhile p).drop (xs.takeWhile p).length = xs.dropWhile p :=
    List.drop_left
  rwa [List.takeWhile_append_dropWhile] at h

/-- What is cut off the front of a text does not reach beyond a character that ends it. -/
theorem dropWhile_append_stop (h : p stop = false) :
    (xs ++ stop :: ys).dropWhile p = xs.dropWhile p ++ stop :: ys := by
  induction xs with
  | nil => simp [h]
  | cons x xs ih =>
    simp only [List.cons_append, List.dropWhile_cons, ih]
    split <;> rfl

/-- What is cut off the front of a text is what stands before the first character that ends it. -/
theorem takeWhile_eq_left (hxs : ∀ x ∈ xs, p x) (hys : ∀ y ∈ ys.head?, p y = false) :
    (xs ++ ys).takeWhile p = xs := by
  rw [List.takeWhile_append_of_pos hxs]
  cases ys with
  | nil => simp
  | cons y ys => simp [hys y rfl]

/-- Cutting what is left out off both ends of a text leaves what starts and ends otherwise. -/
theorem trim_padded {before behind : List Char} (hbefore : ∀ c ∈ before, p c)
    (hbehind : ∀ c ∈ behind, p c) (hfirst : ∀ c ∈ xs.head?, p c = false)
    (hlast : ∀ c ∈ xs.getLast?, p c = false) :
    (((before ++ xs ++ behind).dropWhile p).reverse.dropWhile p).reverse = xs := by
  have hstop : ∀ ys : List Char, (∀ c ∈ ys.head?, p c = false) → ys.dropWhile p = ys := by
    intro ys hys
    cases ys with
    | nil => rfl
    | cons y ys => exact List.dropWhile_cons_of_neg (by simp [hys y rfl])
  rw [List.append_assoc, List.dropWhile_append_of_pos hbefore]
  cases hxs : xs with
  | nil =>
    have hall : behind.dropWhile p = [] := List.dropWhile_eq_nil_iff.2 hbehind
    rw [List.nil_append, hall]
    rfl
  | cons x rest =>
    rw [← hxs, hstop (xs ++ behind) (by rw [hxs] at hfirst ⊢; exact hfirst), List.reverse_append,
      List.dropWhile_append_of_pos fun c hc => hbehind c (List.mem_reverse.1 hc),
      hstop xs.reverse (by rwa [List.head?_reverse]), List.reverse_reverse]

theorem dropWhile_eq_right (hxs : ∀ x ∈ xs, p x) (hys : ∀ y ∈ ys.head?, p y = false) :
    (xs ++ ys).dropWhile p = ys := by
  rw [← drop_takeWhile, takeWhile_eq_left hxs hys, List.drop_left]

end Cut

namespace Url

/-! ### Schemes -/

/-- Whether a word is a scheme in small letters. -/
def IsScheme (word : List Char) : Prop :=
  (∃ c rest, word = c :: rest ∧ c.isAlpha) ∧ ∀ c ∈ word, isSchemeChar c ∧ c.toLower = c

/-- Letters and digits lie between the first digit and the last letter. -/
theorem isAlphanum_bounds {c : Char} (h : c.isAlphanum) : 48 ≤ c.toNat ∧ c.toNat ≤ 122 := by
  have hranges : (decide ('A'.val ≤ c.val ∧ c.val ≤ 'Z'.val) ||
      (decide ('a'.val ≤ c.val) && decide (c.val ≤ 'z'.val)) ||
      (decide ('0'.val ≤ c.val) && decide (c.val ≤ '9'.val))) = true := h
  simp only [UInt32.le_iff_toNat_le, Bool.or_eq_true, Bool.and_eq_true, decide_eq_true_eq]
    at hranges
  change 48 ≤ c.val.toNat ∧ c.val.toNat ≤ 122
  obtain (⟨hlow, hhigh⟩ | ⟨hlow, hhigh⟩) | ⟨hlow, hhigh⟩ := hranges <;>
    exact ⟨Nat.le_trans (by decide) hlow, Nat.le_trans hhigh (by decide)⟩

/-- The characters of schemes are ASCII characters. -/
theorem isSchemeChar_ascii {c : Char} (h : isSchemeChar c) : c.toNat < 128 := by
  simp only [isSchemeChar, Bool.or_eq_true, decide_eq_true_eq] at h
  obtain ((h | rfl) | rfl) | rfl := h
  · exact Nat.lt_of_le_of_lt (isAlphanum_bounds h).2 (by decide)
  · decide
  · decide
  · decide

/-- A character of a scheme is still one in a small letter. -/
theorem isSchemeChar_toLower {c : Char} (h : isSchemeChar c) :
    isSchemeChar c.toLower ∧ c.toLower.toLower = c.toLower ∧ (c.isAlpha → c.toLower.isAlpha) := by
  have hall : ∀ n < 128, isSchemeChar (Char.ofNat n) → isSchemeChar (Char.ofNat n).toLower ∧
      (Char.ofNat n).toLower.toLower = (Char.ofNat n).toLower ∧
      ((Char.ofNat n).isAlpha → (Char.ofNat n).toLower.isAlpha) := by
    decide +kernel
  have hc := hall c.toNat (isSchemeChar_ascii h)
  rw [Char.ofNat_toNat] at hc
  exact hc h

/-- The scheme of a text is a word in small letters. -/
theorem scheme?_written {cs rest : List Char} {scheme : String}
    (h : scheme? cs = some (scheme, rest)) : IsScheme scheme.toList := by
  unfold scheme? at h
  dsimp only at h
  split at h
  · rename_i c word _ hword _
    split at h
    · rename_i halpha
      cases h
      rw [String.toList_ofList, hword]
      have hchar : ∀ d ∈ c :: word, isSchemeChar d := fun d hd =>
        List.mem_takeWhile_imp (hword ▸ hd)
      refine ⟨⟨_, _, rfl, ?_⟩, fun d hd => ?_⟩
      · exact (isSchemeChar_toLower (hchar c List.mem_cons_self)).2.2 halpha
      · obtain ⟨e, he, rfl⟩ := List.mem_map.1 hd
        have hlower := isSchemeChar_toLower (hchar e he)
        exact ⟨hlower.1, hlower.2.1⟩
    · cases h
  · cases h

/-- A word in small letters is read as a scheme in front of a colon. -/
theorem scheme?_append {scheme : String} (h : IsScheme scheme.toList) (rest : List Char) :
    scheme? (scheme.toList ++ ':' :: rest) = some (scheme, rest) := by
  obtain ⟨⟨c, word, hcons, halpha⟩, hall⟩ := h
  have hword : (scheme.toList ++ ':' :: rest).takeWhile isSchemeChar = scheme.toList :=
    takeWhile_eq_left (fun d hd => (hall d hd).1) (by simp [isSchemeChar])
  have hlower : scheme.toList.map Char.toLower = scheme.toList :=
    (List.map_congr_left fun d hd => (hall d hd).2).trans (List.map_id _)
  have htext : String.ofList (c :: word) = scheme := by rw [← hcons, String.ofList_toList]
  unfold scheme?
  dsimp only
  rw [hword, List.drop_left, hlower, hcons]
  simp only [halpha, htext, if_true]

/-- Without a colon there is no scheme. -/
theorem scheme?_eq_none {cs : List Char} (h : ':' ∉ cs) : scheme? cs = none := by
  unfold scheme?
  dsimp only
  split
  · rename_i rest _ hrest
    have hmem : ':' ∈ cs.drop (cs.takeWhile isSchemeChar).length := hrest ▸ List.mem_cons_self
    exact absurd (List.mem_of_mem_drop hmem) h
  · rfl

/-- Schemes are free of the marks of a link. -/
theorem IsScheme.disjoint {word : List Char} (h : IsScheme word) : word.Disjoint strayMarks := by
  have hmarks : ∀ c ∈ strayMarks, isSchemeChar c = false := by simp [strayMarks, isSchemeChar]
  intro c hc hmark
  exact Bool.false_ne_true ((hmarks c hmark).symm.trans (h.2 c hc).1)

/-! ### Queries and fragments -/

theorem withTail_front (u : Url) (tail : List Char) :
    (u.withTail tail).scheme = u.scheme ∧ (u.withTail tail).authority = u.authority ∧
      (u.withTail tail).path = u.path := by
  unfold withTail
  dsimp only
  split
  · split <;> exact ⟨rfl, rfl, rfl⟩
  · exact ⟨rfl, rfl, rfl⟩
  · exact ⟨rfl, rfl, rfl⟩

/-- A query is free of the marks of a link. -/
theorem withTail_query {u : Url} (hu : u.query = none) (tail : List Char) {query : String}
    (h : (u.withTail tail).query = some query) : query.toList.Disjoint strayMarks := by
  -- a query encodes the marks of a link, whatever the scheme
  have hset : ∀ c ∈ strayMarks,
      (if kindOf u.scheme = .other then inQuery else inSpecialQuery) c = true := by
    split <;> simp [strayMarks, inQuery, inSpecialQuery, isControl]
  have hquery (cs : List Char) : (String.ofList (percentEncode
      (if kindOf u.scheme = .other then inQuery else inSpecialQuery) cs)).toList.Disjoint
        strayMarks := by
    rw [String.toList_ofList]
    exact percentEncode_disjoint (fun c _ hmark => hset c hmark) fun c hc hmark =>
      percentMarks_disjoint hc (List.mem_append_right _ hmark)
  unfold withTail at h
  dsimp only at h
  split at h
  · split at h <;>
    · cases h
      exact hquery _
  · rw [hu] at h
    cases h
  · rw [hu] at h
    cases h

/-- What stands behind the first `#` is the fragment, whether or not a query stands before it. -/
theorem cutTail_fragment {cs : List Char} (h : '#' ∉ cs) (fragment : List Char) :
    (cutTail (cs ++ '#' :: fragment)).2 ≠ [] ∧ ∀ u : Url,
      (u.withTail (cutTail (cs ++ '#' :: fragment)).2).fragment = some (fragmentText fragment) := by
  have htail : (cutTail (cs ++ '#' :: fragment)).2 =
      cs.dropWhile (fun c => c ≠ '?' && c ≠ '#') ++ '#' :: fragment := by
    unfold cutTail
    dsimp only
    rw [drop_takeWhile, dropWhile_append_stop (by simp)]
  have hsub := List.dropWhile_sublist (l := cs) (fun c => c ≠ '?' && c ≠ '#')
  have hhead := List.head?_dropWhile_not (fun c => c ≠ '?' && c ≠ '#') cs
  rw [htail]
  refine ⟨by simp, fun u => ?_⟩
  cases hrest : cs.dropWhile (fun c => c ≠ '?' && c ≠ '#') with
  | nil => rfl
  | cons c query =>
    rw [hrest] at hhead hsub
    have hquery : '#' ∉ query := fun hmem => h (hsub.mem (List.mem_cons_of_mem _ hmem))
    -- the path ends before a mark, and the only one in front of the fragment is that of a query
    have hc : c = '?' := by
      have hne : c ≠ '#' := fun heq => h (heq ▸ hsub.mem List.mem_cons_self)
      simpa [hne] using hhead
    have hall : ∀ d ∈ query, (decide (d ≠ '#')) = true := fun d hd => by
      simpa using fun heq : d = '#' => hquery (heq ▸ hd)
    subst hc
    rw [List.cons_append, withTail]
    dsimp only
    rw [takeWhile_eq_left hall (by simp), List.drop_left]

/-! ### Links as they are written -/

/-- How the parts of a link look that was read. -/
structure Written (u : Url) : Prop where
  scheme : IsScheme u.scheme.toList
  authority : ∀ text, u.authority = some text → text.toList.Disjoint partMarks
  path : u.path.toList.Disjoint strayMarks
  query : ∀ text, u.query = some text → text.toList.Disjoint strayMarks
  /-- a path behind an authority starts with a slash, if there is one -/
  rooted : u.authority ≠ none → u.path = "" ∨ Rooted u.path.toList
  /-- links with well-known schemes have an authority -/
  placed : kindOf u.scheme ≠ .other → u.authority ≠ none

/-- Links are written with what stands behind their path, as they are without it. -/
theorem Written.withTail {u : Url} (h : Written u) (hquery : u.query = none) (tail : List Char) :
    Written (u.withTail tail) := by
  obtain ⟨hscheme, hauthority, hpath⟩ := withTail_front u tail
  exact {
    scheme := hscheme ▸ h.scheme
    authority := hauthority ▸ h.authority
    path := hpath ▸ h.path
    query := fun _ => withTail_query hquery tail
    rooted := hauthority ▸ hpath ▸ h.rooted
    placed := hscheme ▸ hauthority ▸ h.placed }

theorem slash_disjoint : ['/'].Disjoint strayMarks := by simp [strayMarks]

/-! ### Readers of links, part by part -/

/-- Whether a character goes on with an authority. -/
def inAuthority (kind : Kind) (c : Char) : Bool := !kind.isSlash c && c ≠ '?' && c ≠ '#'

/-- The path behind an authority. -/
def pathBehind (kind : Kind) (path : List Char) : String :=
  if kind = .known then
    pathFrom kind ['/'] (match path with
      | c :: rest => if kind.isSlash c then rest else path
      | [] => [])
  else if path.isEmpty then "" else pathFrom kind [] path

/-- A link behind two slashes is an authority, a path, and what stands behind it. -/
theorem behindSlashes_eq (scheme : String) (cs : List Char) :
    behindSlashes scheme cs =
      let (path, tail) := cutTail (cs.dropWhile (inAuthority (kindOf scheme)))
      (authorityText scheme (cs.takeWhile (inAuthority (kindOf scheme)))
        (path.isEmpty && tail.isEmpty)).map fun authority =>
          let path := pathBehind (kindOf scheme) path
          Url.withTail { scheme, authority := some authority, path } tail := by
  have hin : (fun c => !(kindOf scheme).isSlash c && decide (c ≠ '?') && decide (c ≠ '#')) =
    inAuthority (kindOf scheme) := rfl
  unfold behindSlashes pathBehind
  dsimp only
  rw [hin, drop_takeWhile]
  cases authorityText scheme (cs.takeWhile (inAuthority (kindOf scheme))) _ with
  | error e => rfl
  | ok authority => rfl

theorem pathBehind_disjoint (kind : Kind) (path : List Char) :
    (pathBehind kind path).toList.Disjoint strayMarks := by
  unfold pathBehind
  split
  · exact pathFrom_disjoint slash_disjoint _
  · split
    · exact List.disjoint_nil_left _
    · exact pathFrom_disjoint (List.disjoint_nil_left _) _

/-- A path behind an authority starts with a slash, if there is one. -/
theorem pathBehind_rooted {kind : Kind} {cs path tail : List Char}
    (h : cutTail (cs.dropWhile (inAuthority kind)) = (path, tail)) :
    pathBehind kind path = "" ∨ Rooted (pathBehind kind path).toList := by
  unfold pathBehind
  split
  · exact .inr (pathFrom_rooted (.inr (.inl ⟨[], rfl⟩)))
  · cases path with
    | nil => exact .inl rfl
    | cons c path =>
      -- the path starts where the authority stopped, and not with what stands behind it
      refine .inr (pathFrom_rooted (.inr (.inr ⟨rfl, c, path, rfl, ?_⟩)))
      have hhead := List.head?_dropWhile_not (inAuthority kind) cs
      cases hrest : cs.dropWhile (inAuthority kind) with
      | nil =>
        rw [hrest] at h
        cases h
      | cons d rest =>
        rw [hrest] at h hhead
        unfold cutTail at h
        dsimp only at h hhead
        rw [List.takeWhile_cons] at h
        split at h
        · rename_i hd
          cases h
          simp_all [inAuthority]
        · cases h

theorem behindSlashes_written {scheme : String} {cs : List Char} {u : Url}
    (hscheme : IsScheme scheme.toList) (h : behindSlashes scheme cs = .ok u) : Written u := by
  rw [behindSlashes_eq] at h
  cases hcut : cutTail (cs.dropWhile (inAuthority (kindOf scheme))) with
  | mk path tail =>
    rw [hcut] at h
    dsimp only at h
    cases hauthority : authorityText scheme (cs.takeWhile (inAuthority (kindOf scheme)))
        (path.isEmpty && tail.isEmpty) with
    | error e =>
      rw [hauthority] at h
      cases h
    | ok authority =>
      rw [hauthority] at h
      cases h
      refine Written.withTail ?_ rfl tail
      exact {
        scheme := hscheme
        authority := fun text htext => Option.some.inj htext ▸ authorityText_disjoint hauthority
        path := pathBehind_disjoint _ path
        query := fun text htext => nomatch htext
        rooted := fun _ => pathBehind_rooted hcut
        placed := fun _ => Option.some_ne_none _ }

/-- A link to a file on a host, whose path is read behind its first slash. -/
def fileLink (host : String) (path tail : List Char) : Url :=
  withTail { scheme := "file", authority := some host, path := pathFrom .file ['/'] path } tail

/-- The host of a file, which may be missing. -/
def fileHost (host : List Char) : Except LinkError String :=
  if host.isEmpty then pure "" else knownHost host

/-- How the host of a file is shown: neither in front of a drive, nor for this computer. -/
def shownHost (path : List Char) (host : String) : String :=
  if host = "localhost" || isDrive (path.takeWhile fun c => !Kind.file.isSlash c) then "" else host

theorem shownHost_cases (path : List Char) (host : String) :
    shownHost path host = "" ∨ shownHost path host = host := by
  unfold shownHost
  split
  · exact .inl rfl
  · exact .inr rfl

/-- A text is a link to a file without a host, or with the one behind its two slashes. -/
theorem fileUrl_cases (cs : List Char) :
    (∃ path, fileUrl cs = .ok (fileLink "" path (cutTail cs).2)) ∨
      ∃ a b rest path, (cutTail cs).1 = a :: b :: rest ∧
        fileUrl cs = (fileHost (rest.takeWhile fun c => !Kind.file.isSlash c)).map fun host =>
          fileLink (shownHost path host) path (cutTail cs).2 := by
  unfold fileUrl
  dsimp only
  split
  · rename_i a b rest hcut
    split
    · split
      · exact .inl ⟨_, rfl⟩
      · refine .inr ⟨a, b, rest,
          rest.drop ((rest.takeWhile fun c => !Kind.file.isSlash c).length + 1), hcut, ?_⟩
        unfold fileHost
        split
        · rfl
        · cases knownHost (rest.takeWhile fun c => !Kind.file.isSlash c) <;> rfl
    · split <;> exact .inl ⟨_, rfl⟩
  · exact .inl ⟨_, rfl⟩

theorem isScheme_file : IsScheme "file".toList :=
  ⟨⟨'f', "ile".toList, by decide, by decide⟩, by simp [isSchemeChar]⟩

theorem Written.file {host : String} (hhost : host.toList.Disjoint partMarks)
    (path tail : List Char) : Written (fileLink host path tail) := by
  refine Written.withTail ?_ rfl tail
  exact {
    scheme := isScheme_file
    authority := fun text htext => Option.some.inj htext ▸ hhost
    path := pathFrom_disjoint slash_disjoint path
    query := fun text htext => nomatch htext
    rooted := fun _ => .inr (pathFrom_rooted (.inl rfl))
    placed := fun _ => Option.some_ne_none _ }

theorem fileHost_disjoint {cs : List Char} {host : String} (h : fileHost cs = .ok host) :
    host.toList.Disjoint partMarks := by
  unfold fileHost at h
  split at h
  · cases h
    exact List.disjoint_nil_left _
  · exact knownHost_disjoint h

theorem fileUrl_written {cs : List Char} {u : Url} (h : fileUrl cs = .ok u) : Written u := by
  have hnone : "".toList.Disjoint partMarks := List.disjoint_nil_left _
  obtain ⟨path, heq⟩ | ⟨_, _, rest, path, -, heq⟩ := fileUrl_cases cs
  · cases heq.symm.trans h
    exact Written.file hnone _ _
  · rw [heq] at h
    cases hhost : fileHost (rest.takeWhile fun c => !Kind.file.isSlash c) with
    | error e =>
      rw [hhost] at h
      cases h
    | ok host =>
      rw [hhost] at h
      cases h
      refine Written.file ?_ _ _
      obtain hshown | hshown := shownHost_cases path host
      · rwa [hshown]
      · rw [hshown]
        exact fileHost_disjoint hhost

/-- A link without an authority, whose path is free of the marks of a link. -/
theorem Written.other {scheme path : String} (hscheme : IsScheme scheme.toList)
    (hkind : kindOf scheme = .other) (hpath : path.toList.Disjoint strayMarks)
    (tail : List Char) :
    Written (Url.withTail { scheme, authority := none, path } tail) := by
  refine Written.withTail ?_ rfl tail
  exact {
    scheme := hscheme
    authority := fun text htext => nomatch htext
    path := hpath
    query := fun text htext => nomatch htext
    rooted := fun hne => absurd rfl hne
    placed := fun hne => absurd hkind hne }

theorem otherUrl_written {scheme : String} {cs : List Char} {u : Url}
    (hscheme : IsScheme scheme.toList) (hkind : kindOf scheme = .other)
    (h : otherUrl scheme cs = .ok u) : Written u := by
  unfold otherUrl at h
  split at h
  · exact behindSlashes_written hscheme h
  · cases h
    exact Written.other hscheme hkind (pathFrom_disjoint slash_disjoint _) _
  · cases h
    refine Written.other hscheme hkind ?_ _
    rw [String.toList_ofList]
    refine percentEncode_disjoint (fun c hc hmark => ?_) fun c hc hmark =>
      percentMarks_disjoint hc (List.mem_append_right _ hmark)
    -- the path ends in front of a fragment, and the blanks are encoded
    have hpath := List.all_eq_true.1 List.all_takeWhile c hc
    have hblank : ∀ c ∈ strayMarks, c = '#' ∨ isControl c = true := by
      simp [strayMarks, isControl]
    exact (hblank c hmark).resolve_left (by simp_all)

/-- A link that was read is written in its usual form. -/
theorem parse_written {input : String} {u : Url} (h : parse input = .ok u) : Written u := by
  unfold parse at h
  split at h
  · cases h
  · rename_i scheme rest hscheme
    have hword := scheme?_written hscheme
    split at h
    · exact fileUrl_written h
    · exact behindSlashes_written hword h
    · rename_i hkind
      exact otherUrl_written hword hkind h

/-! ### The text of a link -/

/-- What is read from an authority as it is written. -/
def rereadAuthority (scheme authority : String) : Except LinkError String :=
  if kindOf scheme = .file then fileHost authority.toList
  else authorityText scheme authority.toList false

/-- Whether the authority of a link, if it has one, is read again as it is written. -/
def AuthorityReads (u : Url) : Prop :=
  ∀ authority, u.authority = some authority → ∃ text, rereadAuthority u.scheme authority = .ok text

/-- What stands behind the authority of a link. -/
def rest (u : Url) : String := u.path ++ marked "?" u.query

/-- What stands behind the scheme of a link. -/
def behindScheme (u : Url) : List Char :=
  match u.authority with
  | some authority => '/' :: '/' :: (authority.toList ++ u.rest.toList)
  | none =>
    (if startsWith ['/', '/'] u.path.toList then ['/', '.'] else []) ++ u.rest.toList

theorem front_eq (u : Url) : u.front.toList = u.scheme.toList ++ ':' :: u.behindScheme := by
  have hcolon : ":".toList = [':'] := rfl
  have hslashes : "//".toList = ['/', '/'] := rfl
  have hgap : "/.".toList = ['/', '.'] := rfl
  unfold front behindScheme rest
  cases u.authority with
  | some authority => simp [marked, hcolon, hslashes]
  | none =>
    by_cases hstart : startsWith ['/', '/'] u.path.toList
    · simp [marked, hcolon, hgap, hstart]
    · simp [marked, hcolon, hstart]

/-- What stands behind the authority of a link is free of the marks of a link. -/
theorem Written.rest_disjoint {u : Url} (h : Written u) : u.rest.toList.Disjoint strayMarks := by
  have hmark : "?".toList.Disjoint strayMarks := by simp [strayMarks]
  unfold rest marked
  rw [String.toList_append]
  refine List.disjoint_append_left.2 ⟨h.path, ?_⟩
  split
  · rename_i query hquery
    rw [String.toList_append]
    exact List.disjoint_append_left.2 ⟨hmark, h.query query hquery⟩
  · exact List.disjoint_nil_left _

/-- What stands behind an authority starts with the slash of a path, or with a query. -/
theorem Written.rest_head {u : Url} (h : Written u) (hplaced : u.authority ≠ none) :
    ∀ c ∈ u.rest.toList.head?, c = '/' ∨ c = '?' := by
  unfold rest marked
  rw [String.toList_append]
  obtain hpath | ⟨path, hpath⟩ := h.rooted hplaced
  · rw [hpath]
    split
    · simp
    · simp
  · rw [hpath]
    simp

/-- A link is free of the marks of a link in front of its fragment. -/
theorem Written.front_disjoint {u : Url} (h : Written u) :
    u.front.toList.Disjoint strayMarks := by
  rw [front_eq]
  refine List.disjoint_append_left.2 ⟨h.scheme.disjoint, List.disjoint_cons_left.2
    ⟨by simp [strayMarks], ?_⟩⟩
  unfold behindScheme
  split
  · rename_i authority hauthority
    simp only [List.disjoint_append_left, List.disjoint_cons_left]
    exact ⟨by simp [strayMarks], by simp [strayMarks], fun c hc hmark =>
      h.authority authority hauthority hc (List.mem_append_right _ hmark), h.rest_disjoint⟩
  · refine List.disjoint_append_left.2 ⟨?_, h.rest_disjoint⟩
    split <;> simp [strayMarks]

/-! ### Links with a fragment -/

/-- Whether a text is read as a link with some fragment. -/
def HasFragment (outcome : Except LinkError Url) (fragment : List Char) : Prop :=
  ∃ u, outcome = .ok u ∧ u.fragment = some (fragmentText fragment)

/-- A well-known scheme does not go without a host. -/
theorem authorityText_nil {scheme : String} (h : kindOf scheme = .known) (endsLink : Bool) :
    authorityText scheme [] endsLink = .error .emptyHost := by
  unfold authorityText
  simp [cutUser, cutPort, h]
  rfl

section Fragment

variable {scheme : String} {authority rest : List Char}

/-- The characters of an authority go on with it, and what stands behind it does not. -/
theorem inAuthority_ends (kind : Kind) (hauthority : authority.Disjoint partMarks)
    (hrest : ∀ c ∈ rest.head?, c = '/' ∨ c = '?') (fragment : List Char) :
    (∀ c ∈ authority, inAuthority kind c) ∧
      ∀ c ∈ (rest ++ '#' :: fragment).head?, inAuthority kind c = false := by
  have hslash : kind.isSlash '/' := by simp [Kind.isSlash]
  refine ⟨fun c hc => ?_, fun c hc => ?_⟩
  · have hne : ∀ d ∈ partMarks, c ≠ d := fun d hd heq => hauthority hc (heq ▸ hd)
    simp [inAuthority, Kind.isSlash, hne '/' (by decide), hne '\\' (by decide),
      hne '?' (by decide), hne '#' (by decide)]
  · have hc : c = '/' ∨ c = '?' ∨ c = '#' := by
      cases rest with
      | nil => exact .inr (.inr (Option.some.inj hc).symm)
      | cons d rest =>
        obtain hd | hd := hrest c hc
        · exact .inl hd
        · exact .inr (.inl hd)
    obtain rfl | rfl | rfl := hc
    · simp [inAuthority, hslash]
    · simp [inAuthority]
    · simp [inAuthority]

theorem behindSlashes_fragment (hauthority : authority.Disjoint partMarks)
    (hrest : ∀ c ∈ rest.head?, c = '/' ∨ c = '?') (hhash : '#' ∉ rest)
    (hreads : ∃ text, authorityText scheme authority false = .ok text) (fragment : List Char) :
    HasFragment (behindSlashes scheme (authority ++ (rest ++ '#' :: fragment))) fragment := by
  obtain ⟨hgoes, hstops⟩ := inAuthority_ends (kindOf scheme) hauthority hrest fragment
  obtain ⟨text, htext⟩ := hreads
  obtain ⟨hne, htail⟩ := cutTail_fragment hhash fragment
  have hends : ((cutTail (rest ++ '#' :: fragment)).1.isEmpty &&
      (cutTail (rest ++ '#' :: fragment)).2.isEmpty) = false := by simp [hne]
  rw [behindSlashes_eq, takeWhile_eq_left hgoes hstops, dropWhile_eq_right hgoes hstops]
  dsimp only
  rw [hends, htext]
  exact ⟨_, rfl, htail _⟩

/-- However many slashes a well-known scheme may have, its authority starts behind them. -/
theorem dropWhile_slashes (hkind : kindOf scheme = .known)
    (hauthority : authority.Disjoint partMarks)
    (hreads : ∃ text, authorityText scheme authority false = .ok text) (others : List Char) :
    ('/' :: '/' :: (authority ++ others)).dropWhile Kind.known.isSlash = authority ++ others := by
  have hboth : ∀ c ∈ ['/', '/'], Kind.known.isSlash c := by simp [Kind.isSlash]
  refine dropWhile_eq_right hboth fun c hc => ?_
  cases hhost : authority with
  | nil =>
    obtain ⟨text, htext⟩ := hreads
    rw [hhost, authorityText_nil hkind] at htext
    cases htext
  | cons first host =>
    rw [hhost] at hc hauthority
    obtain rfl := Option.some.inj hc
    have hne : ∀ d ∈ partMarks, first ≠ d := fun d hd heq =>
      hauthority List.mem_cons_self (heq ▸ hd)
    simp [Kind.isSlash, hne '/' (by decide), hne '\\' (by decide)]

theorem fileUrl_fragment (hauthority : authority.Disjoint partMarks)
    (hrest : ∀ c ∈ rest.head?, c = '/' ∨ c = '?') (hhash : '#' ∉ rest)
    (hreads : ∃ text, fileHost authority = .ok text) (fragment : List Char) :
    HasFragment (fileUrl ('/' :: '/' :: (authority ++ (rest ++ '#' :: fragment)))) fragment := by
  obtain ⟨hgoes, hstops⟩ := inAuthority_ends .file hauthority hrest fragment
  have hfront : '#' ∉ '/' :: '/' :: (authority ++ rest) := by
    simp only [List.mem_cons, List.mem_append, not_or]
    exact ⟨by decide, by decide, fun hmem => hauthority hmem (by decide), hhash⟩
  have htail := (cutTail_fragment hfront fragment).2
  rw [List.cons_append, List.cons_append, List.append_assoc] at htail
  obtain ⟨path, heq⟩ | ⟨a, b, others, path, hpath, heq⟩ :=
    fileUrl_cases ('/' :: '/' :: (authority ++ (rest ++ '#' :: fragment)))
  · rw [heq]
    exact ⟨_, rfl, htail _⟩
  · -- the host ends where the authority does, for it ends before the path
    have hhost : (others.takeWhile fun c => !Kind.file.isSlash c) = authority := by
      have hothers : others = (authority ++ (rest ++ '#' :: fragment)).takeWhile
          fun c => decide (c ≠ '?') && decide (c ≠ '#') := by
        have hcut := hpath
        unfold cutTail at hcut
        dsimp only at hcut
        rw [List.takeWhile_cons_of_pos (by decide), List.takeWhile_cons_of_pos (by decide)] at hcut
        exact (List.cons.inj (List.cons.inj hcut).2).2.symm
      rw [hothers, List.takeWhile_takeWhile]
      exact takeWhile_eq_left (fun c hc => by simpa [inAuthority, and_assoc] using hgoes c hc)
        fun c hc => by simpa [inAuthority, and_assoc] using hstops c hc
    obtain ⟨text, htext⟩ := hreads
    rw [heq, hhost, htext]
    exact ⟨_, rfl, htail _⟩

theorem otherUrl_fragment {cs : List Char} (hhash : '#' ∉ cs)
    (hslashes : startsWith ['/', '/'] cs = false) (fragment : List Char) :
    HasFragment (otherUrl scheme (cs ++ '#' :: fragment)) fragment := by
  unfold otherUrl
  split
  · rename_i others heq
    match cs, heq with
    | [_], heq => cases heq
    | c :: d :: cs, heq =>
      obtain ⟨rfl, hcons⟩ := List.cons.inj heq
      obtain rfl := (List.cons.inj hcons).1
      cases hslashes
  · rename_i others _ heq
    match cs, heq with
    | c :: cs, heq =>
      obtain ⟨rfl, rfl⟩ := List.cons.inj heq
      have hcs : '#' ∉ cs := fun hmem => hhash (List.mem_cons_of_mem _ hmem)
      exact ⟨_, rfl, (cutTail_fragment hcs fragment).2 _⟩
  · exact ⟨_, rfl, (cutTail_fragment hhash fragment).2 _⟩

end Fragment

/-- A text that starts and ends with something visible is not trimmed. -/
theorem trimmed_eq {cs : List Char} (hfirst : ∀ c ∈ cs.head?, 32 < c.toNat)
    (hlast : ∀ c ∈ cs.getLast?, 32 < c.toNat) : trimmed cs = cs := by
  have hnil : ∀ c ∈ ([] : List Char), decide (c.toNat ≤ 32) = true := fun c hc => nomatch hc
  have h := trim_padded hnil hnil (fun c hc => decide_eq_false (Nat.not_le.2 (hfirst c hc)))
    fun c hc => decide_eq_false (Nat.not_le.2 (hlast c hc))
  rwa [List.nil_append, List.append_nil] at h

theorem isAlpha_visible {c : Char} (h : c.isAlpha) : 32 < c.toNat := by
  have halphanum : (c.isAlpha || c.isDigit) = true := Bool.or_eq_true_iff.2 (.inl h)
  exact Nat.lt_of_lt_of_le (by decide) (isAlphanum_bounds halphanum).1

theorem mem_of_mem_trimmed {cs : List Char} {c : Char} (h : c ∈ trimmed cs) : c ∈ cs := by
  have hinner := (List.dropWhile_sublist _).mem (List.mem_reverse.1 h)
  exact (List.dropWhile_sublist _).mem (List.mem_reverse.1 hinner)

/-- A text without a colon is no link. -/
theorem parse_noScheme {input : String} (h : ':' ∉ input.toList) :
    parse input = .error .noScheme := by
  have hcolon : ':' ∉ (trimmed input.toList).filter fun c => !isSkipped c := fun hmem =>
    h (mem_of_mem_trimmed (List.mem_of_mem_filter hmem))
  unfold parse
  rw [scheme?_eq_none hcolon]

/-- A link is read from what stands behind its scheme. -/
theorem parse_eq {cs : List Char} {scheme : String} {others : List Char}
    (hedges : trimmed cs = cs) (hskip : ∀ c ∈ cs, isSkipped c = false)
    (hscheme : scheme? cs = some (scheme, others)) :
    parse (String.ofList cs) = match kindOf scheme with
      | .file => fileUrl others
      | .known => behindSlashes scheme (others.dropWhile Kind.known.isSlash)
      | .other => otherUrl scheme others := by
  have hfilter : cs.filter (fun c => !isSkipped c) = cs :=
    List.filter_eq_self.2 fun c hc => by rw [hskip c hc]; rfl
  cases hkind : kindOf scheme <;>
    simp only [parse, String.toList_ofList, hedges, hfilter, hscheme, hkind]

/-- What starts otherwise adds no slash to the two that a text starts with. -/
theorem startsWith_append {path others : List Char} (h : ∀ c ∈ others.head?, c ≠ '/') :
    startsWith ['/', '/'] (path ++ others) = startsWith ['/', '/'] path := by
  match path with
  | [] =>
    cases others with
    | nil => rfl
    | cons c others => simp [startsWith, afterStart?, (h c rfl).symm]
  | [c] =>
    cases others with
    | nil => rfl
    | cons d others => simp [startsWith, afterStart?, (h d rfl).symm]
  | c :: d :: path =>
    simp only [startsWith, afterStart?, List.cons_append]
    split
    · split <;> rfl
    · rfl

/-- Without an authority, what stands behind a scheme is not taken for one. -/
theorem behindScheme_bare {u : Url} (h : u.authority = none) :
    startsWith ['/', '/'] u.behindScheme = false := by
  have hquery : ∀ c ∈ (marked "?" u.query).toList.head?, c ≠ '/' := by
    unfold marked
    split <;> simp
  unfold behindScheme rest
  rw [h]
  dsimp only
  by_cases hstart : startsWith ['/', '/'] u.path.toList
  · rw [if_pos hstart]
    rfl
  · rw [if_neg hstart, List.nil_append, String.toList_append, startsWith_append hquery]
    exact Bool.eq_false_iff.2 hstart

/-- A link with a fragment, character by character. -/
theorem front_fragment_eq (u : Url) (fragment : List Char) :
    u.front ++ "#" ++ String.ofList fragment =
      String.ofList (u.scheme.toList ++ ':' :: (u.behindScheme ++ '#' :: fragment)) := by
  rw [← List.cons_append, ← List.append_assoc, ← front_eq, String.ofList_append,
    String.ofList_toList, String.ofList_cons, String.append_assoc]
  rfl

namespace Written

variable {u : Url} (h : Written u) {fragment : List Char}
include h

/-- A link with a fragment is read from what stands behind its scheme, for there is nothing to trim
and nothing to skip. -/
theorem parse_front (hskip : ∀ c ∈ fragment, isSkipped c = false)
    (hlast : ∃ c ∈ fragment.getLast?, 32 < c.toNat) :
    parse (u.front ++ "#" ++ String.ofList fragment) = match kindOf u.scheme with
      | .file => fileUrl (u.behindScheme ++ '#' :: fragment)
      | .known => behindSlashes u.scheme
          ((u.behindScheme ++ '#' :: fragment).dropWhile Kind.known.isSlash)
      | .other => otherUrl u.scheme (u.behindScheme ++ '#' :: fragment) := by
  rw [front_fragment_eq]
  refine parse_eq (trimmed_eq (fun c hc => ?_) fun c hc => ?_) (fun c hc => ?_)
    (scheme?_append h.scheme _)
  · -- the text starts with a letter
    obtain ⟨⟨first, word, hcons, halpha⟩, -⟩ := h.scheme
    rw [hcons] at hc
    exact Option.some.inj hc ▸ isAlpha_visible halpha
  · -- and ends with the fragment
    obtain ⟨last, hends, hvisible⟩ := hlast
    have hall : (u.scheme.toList ++ ':' :: (u.behindScheme ++ '#' :: fragment)).getLast? =
        some last := by
      simp [List.getLast?_append, List.getLast?_cons, Option.mem_def.1 hends]
    exact Option.some.inj (hall.symm.trans hc) ▸ hvisible
  · rw [← List.cons_append, ← List.append_assoc, ← front_eq] at hc
    obtain hc | hc := List.mem_append.1 hc
    · have hne : ∀ d ∈ strayMarks, c ≠ d := fun d hd heq => h.front_disjoint hc (heq ▸ hd)
      simp [isSkipped, hne '\t' (by decide), hne '\n' (by decide), hne '\r' (by decide)]
    · obtain rfl | hc := List.mem_cons.1 hc
      · rfl
      · exact hskip c hc

/-- A link without an authority is read with its fragment. -/
theorem bare_fragment (hauthority : u.authority = none) (fragment : List Char) :
    kindOf u.scheme = .other ∧
      HasFragment (otherUrl u.scheme (u.behindScheme ++ '#' :: fragment)) fragment := by
  refine ⟨?_, otherUrl_fragment (fun hmem => ?_) (behindScheme_bare hauthority) fragment⟩
  · by_contra hne
    exact h.placed hne hauthority
  · have hfront : '#' ∈ u.front.toList := by
      rw [front_eq]
      exact List.mem_append_right _ (List.mem_cons_of_mem _ hmem)
    exact h.front_disjoint hfront (by decide)

end Written

/-- **A link is read with the fragment that is written behind it**, if its authority is read
again. -/
theorem parse_fragment {u : Url} (hwritten : Written u) (hreads : AuthorityReads u)
    {fragment : List Char} (hskip : ∀ c ∈ fragment, isSkipped c = false)
    (hlast : ∃ c ∈ fragment.getLast?, 32 < c.toNat) :
    HasFragment (parse (u.front ++ "#" ++ String.ofList fragment)) fragment := by
  rw [hwritten.parse_front hskip hlast]
  cases hauthority : u.authority with
  | none =>
    obtain ⟨hkind, hfragment⟩ := hwritten.bare_fragment hauthority fragment
    rw [hkind]
    exact hfragment
  | some authority =>
    have hhash : '#' ∉ u.rest.toList := fun hmem => hwritten.rest_disjoint hmem (by decide)
    have hdisjoint := hwritten.authority authority hauthority
    have hhead := hwritten.rest_head (by simp [hauthority])
    have hagain := hreads authority hauthority
    have hbehind : u.behindScheme ++ '#' :: fragment =
        '/' :: '/' :: (authority.toList ++ (u.rest.toList ++ '#' :: fragment)) := by
      simp [behindScheme, hauthority]
    rw [hbehind]
    -- each kind of scheme has a reader of its own for what stands behind two slashes
    unfold rereadAuthority at hagain
    cases hkind : kindOf u.scheme with
    | file =>
      rw [if_pos hkind] at hagain
      exact fileUrl_fragment hdisjoint hhead hhash hagain fragment
    | known =>
      rw [if_neg (by simp [hkind])] at hagain
      dsimp only
      rw [dropWhile_slashes hkind hdisjoint hagain]
      exact behindSlashes_fragment hdisjoint hhead hhash hagain fragment
    | other =>
      rw [if_neg (by simp [hkind])] at hagain
      exact behindSlashes_fragment hdisjoint hhead hhash hagain fragment

end Url

end Playground.Link
