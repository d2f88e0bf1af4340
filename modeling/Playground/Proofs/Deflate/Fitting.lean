import Playground.Proofs.Deflate.Canonical

/-!
# Code lengths fill the code space

Joining trees gives codes that fill the code space, but some may be too long.  Cutting them down to
the limit takes more than the space; each `lengthen` gives one unit back, and keeps the number of
codes.  What carries this is `Fitting`: the codes shorter than the limit fit, and there are not more
codes than units.  So as long as too much is taken, there is a longest code, and a shorter one that
can be made longer.
-/

namespace Playground.Deflate

/-! ### Parts of the code space -/

/-- The code space, in units of length `n`, that a code of a given length takes, unless it is
longer. -/
def part (n d : Nat) : Nat := if d ≤ n then 2 ^ (n - d) else 0

theorem part_succ (n d : Nat) : part (n + 1) (d + 1) = part n d := by
  rw [part, part, Nat.add_sub_add_right]
  by_cases h : d ≤ n
  · rw [if_pos h, if_pos (Nat.succ_le_succ h)]
  · rw [if_neg h, if_neg (fun hle => h (Nat.le_of_succ_le_succ hle))]

/-- In units of half the size, a code takes twice as many. -/
theorem part_double (n d : Nat) :
    part (n + 1) d = 2 * part n d + if d = n + 1 then 1 else 0 := by
  rw [part, part]
  by_cases hd : d ≤ n
  · rw [if_pos hd, if_pos (Nat.le_succ_of_le hd), if_neg (by omega), Nat.succ_sub hd,
      Nat.pow_succ]
    omega
  · rw [if_neg hd]
    by_cases hn : d = n + 1
    · rw [if_pos (Nat.le_of_eq hn), if_pos hn, hn, Nat.sub_self, Nat.pow_zero]
    · rw [if_neg (by omega), if_neg hn]

/-- No code is so short that it takes a unit of length zero. -/
theorem sum_part_zero {lengths : List Nat} (h : ∀ d ∈ lengths, 1 ≤ d) :
    (lengths.map (part 0)).sum = 0 := by
  have hzero : lengths.map (part 0) = List.replicate lengths.length 0 := by
    rw [List.eq_replicate_iff]
    refine ⟨List.length_map .., fun x hx => ?_⟩
    obtain ⟨d, hd, rfl⟩ := List.mem_map.1 hx
    exact if_neg (Nat.not_le.2 (h d hd))
  rw [hzero, List.sum_replicate_nat, Nat.mul_zero]

/-- In units of half the size, codes take twice as many, and those of the new length one each. -/
theorem sum_part_succ (lengths : List Nat) (n : Nat) :
    (lengths.map (part (n + 1))).sum =
      2 * (lengths.map (part n)).sum + lengths.count (n + 1) := by
  induction lengths with
  | nil => rfl
  | cons d lengths ih =>
    rw [List.map_cons, List.map_cons, List.sum_cons, List.sum_cons, ih, part_double,
      List.count_cons]
    by_cases hd : d = n + 1
    · rw [if_pos hd, if_pos (beq_iff_eq.2 hd)]
      omega
    · rw [if_neg hd, if_neg (fun heq => hd (beq_iff_eq.1 heq))]
      omega

/-- The share of some codes is the sum of their parts. -/
theorem share_eq_sum {lengths : List Nat} (h : ∀ d ∈ lengths, 1 ≤ d) (n : Nat) :
    share (countOf lengths) n = (lengths.map (part n)).sum := by
  induction n with
  | zero => exact (sum_part_zero h).symm
  | succ n ih => rw [share, ih, countOf, sum_part_succ]

/-- The space of some numbers of codes, with longer codes behind them. -/
theorem space_concat (counts : List Nat) (last : Nat) :
    space (counts ++ [last]) = 2 * space counts + last := by
  induction counts with
  | nil =>
    show (last <<< 0) + 0 = 2 * 0 + last
    rw [Nat.shiftLeft_zero]
    omega
  | cons n counts ih =>
    rw [List.cons_append, space, ih, space, List.length_append, List.length_singleton,
      Nat.shiftLeft_succ]
    omega

theorem space_eq_share (count : Nat → Nat) (n : Nat) :
    space ((List.range n).map count) = share count n := by
  induction n with
  | zero => rfl
  | succ n ih =>
    rw [List.range_succ, List.map_append, List.map_singleton, space_concat, ih, share]

/-! ### Trees -/

/-- The depths of the leaves of a tree, from left to right. -/
inductive Complete : List Nat → Prop where
  | leaf : Complete [0]
  | join {a b : List Nat} : Complete a → Complete b → Complete ((a ++ b).map (· + 1))

/-- Nothing that lies one deeper is the root. -/
theorem one_le_deeper (depths : List Nat) : ∀ d ∈ depths.map (· + 1), 1 ≤ d := by
  intro d hd
  obtain ⟨e, _, rfl⟩ := List.mem_map.1 hd
  exact Nat.le_add_left 1 e

namespace Complete

variable {depths : List Nat}

/-- No leaf of a tree with several leaves is its root. -/
theorem pos (h : Complete depths) (hseveral : 2 ≤ depths.length) : ∀ d ∈ depths, 1 ≤ d := by
  cases h with
  | leaf => exact absurd hseveral (by decide)
  | join _ _ => exact one_le_deeper _

/-- The leaves of a tree do not take more than there is. -/
theorem sum_part_le (h : Complete depths) (n : Nat) : (depths.map (part n)).sum ≤ 2 ^ n := by
  induction h generalizing n with
  | leaf => exact Nat.le_of_eq (Nat.add_zero _)
  | @join a b _ _ iha ihb =>
    -- leaves lie one deeper in the joined tree, so each of the two has half of the space
    cases n with
    | zero =>
      rw [sum_part_zero (one_le_deeper _)]
      exact Nat.zero_le _
    | succ n =>
      have hpart : part (n + 1) ∘ (· + 1) = part n := funext fun d => part_succ n d
      rw [List.map_map, hpart, List.map_append, List.sum_append_nat, Nat.pow_succ]
      have ha := iha n
      have hb := ihb n
      omega

/-- Cut down to a limit, they take all there is at least. -/
theorem le_sum_min (h : Complete depths) (n : Nat) :
    2 ^ n ≤ (depths.map fun d => 2 ^ (n - min n d)).sum := by
  induction h generalizing n with
  | leaf =>
    show 2 ^ n ≤ 2 ^ (n - min n 0) + 0
    have hmin : n - min n 0 = n := by rw [Nat.min_zero, Nat.sub_zero]
    exact Nat.le_of_eq (congrArg (2 ^ ·) hmin.symm)
  | @join a b ha _ iha ihb =>
    rw [List.map_map]
    cases n with
    | zero =>
      -- in units of length zero, every code takes all there is
      have hunit : ((fun d => 2 ^ (0 - min 0 d)) ∘ (· + 1)) = fun d => 2 ^ (0 - min 0 d) := by
        funext d
        show 2 ^ (0 - min 0 (d + 1)) = 2 ^ (0 - min 0 d)
        rw [Nat.zero_sub, Nat.zero_sub]
      rw [hunit, List.map_append, List.sum_append_nat]
      exact Nat.le_trans (iha 0) (Nat.le_add_right _ _)
    | succ n =>
      have hmin : ((fun d => 2 ^ (n + 1 - min (n + 1) d)) ∘ (· + 1)) =
          fun d => 2 ^ (n - min n d) := by
        funext d
        show 2 ^ (n + 1 - min (n + 1) (d + 1)) = _
        rw [Nat.add_min_add_right, Nat.add_sub_add_right]
      rw [hmin, List.map_append, List.sum_append_nat, Nat.pow_succ]
      have ha := iha n
      have hb := ihb n
      omega

end Complete

/-! ### Joining trees -/

/-- How many leaves some trees have. -/
def leavesOf (trees : List Tree) : Nat := (trees.map (·.depths.length)).sum

@[simp] theorem leavesOf_cons (t : Tree) (trees : List Tree) :
    leavesOf (t :: trees) = t.depths.length + leavesOf trees := rfl

theorem leavesOf_append_singleton (trees : List Tree) (t : Tree) :
    leavesOf (trees ++ [t]) = leavesOf trees + t.depths.length := by
  rw [leavesOf, List.map_append, List.sum_append_nat]
  rfl

/-- The tree that is taken is one of those in a row, which lose its leaves. -/
structure Taken (leaves : List Nat) (trees : List Tree) (a : Tree) (leaves' : List Nat)
    (trees' : List Tree) : Prop where
  complete : Complete a.depths
  others : ∀ t ∈ trees', Complete t.depths
  fewer : leaves.length + trees.length = leaves'.length + trees'.length + 1
  leaves_eq : leaves.length + leavesOf trees = a.depths.length + (leaves'.length + leavesOf trees')

theorem takeLightest_some {leaves leaves' : List Nat} {trees trees' : List Tree} {a : Tree}
    (htrees : ∀ t ∈ trees, Complete t.depths)
    (h : takeLightest leaves trees = some (a, leaves', trees')) :
    Taken leaves trees a leaves' trees' := by
  -- a leaf that is taken is a tree of its own, and those in the row stay
  have hleaf (leaf : Nat) (leaves : List Nat) :
      Taken (leaf :: leaves) trees ⟨leaf, [0]⟩ leaves trees := by
    refine ⟨.leaf, htrees, ?_, ?_⟩
    · rw [List.length_cons]
      omega
    · rw [List.length_cons, List.length_singleton]
      omega
  cases leaves with
  | nil =>
    cases trees with
    | nil => cases h
    | cons tree trees =>
      cases h
      refine ⟨htrees _ List.mem_cons_self, fun t ht => htrees t (List.mem_cons_of_mem _ ht), ?_, ?_⟩
      · rw [List.length_cons]
        omega
      · rw [leavesOf_cons, List.length_nil]
        omega
  | cons leaf leaves =>
    cases trees with
    | nil =>
      cases h
      exact hleaf leaf _
    | cons tree trees =>
      rw [takeLightest] at h
      split at h
      · cases h
        refine ⟨htrees _ List.mem_cons_self, fun t ht => htrees t (List.mem_cons_of_mem _ ht), ?_, ?_⟩
        · rw [List.length_cons, List.length_cons]
          omega
        · rw [leavesOf_cons]
          omega
      · cases h
        exact hleaf leaf _

theorem takeLightest_none {leaves : List Nat} {trees : List Tree}
    (h : takeLightest leaves trees = none) : leaves = [] ∧ trees = [] := by
  cases leaves with
  | nil =>
    cases trees with
    | nil => exact ⟨rfl, rfl⟩
    | cons tree trees => cases h
  | cons leaf leaves =>
    cases trees with
    | nil => cases h
    | cons tree trees =>
      rw [takeLightest] at h
      split at h <;> cases h

/-- Two trees are taken, and come back last as one. -/
theorem Taken.join {leaves leaves' leaves'' : List Nat} {trees trees' trees'' : List Tree}
    {a b : Tree} (ha : Taken leaves trees a leaves' trees')
    (hb : Taken leaves' trees' b leaves'' trees'') :
    (∀ t ∈ trees'' ++ [a.join b], Complete t.depths) ∧
      leaves.length + trees.length = leaves''.length + (trees'' ++ [a.join b]).length + 1 ∧
      leaves.length + leavesOf trees = leaves''.length + leavesOf (trees'' ++ [a.join b]) := by
  refine ⟨fun t ht => ?_, ?_, ?_⟩
  · rcases List.mem_append.1 ht with ht | ht
    · exact hb.others t ht
    · rw [List.mem_singleton.1 ht]
      exact .join ha.complete hb.complete
  · rw [List.length_append, List.length_singleton, ha.fewer, hb.fewer]
    rfl
  · have hjoin : (a.join b).depths.length = a.depths.length + b.depths.length := by
      rw [Tree.join, List.length_map, List.length_append]
    rw [ha.leaves_eq, hb.leaves_eq, leavesOf_append_singleton, hjoin]
    omega

/-- Joining all trees gives one tree with all leaves. -/
theorem joinAll_complete {n : Nat} {leaves : List Nat} {trees : List Tree}
    (htrees : ∀ t ∈ trees, Complete t.depths) (hn : leaves.length + trees.length = n)
    (hpos : 0 < n) :
    Complete (joinAll n leaves trees) ∧
      (joinAll n leaves trees).length = leaves.length + leavesOf trees := by
  induction n generalizing leaves trees with
  | zero => cases hpos
  | succ n ih =>
    rw [joinAll]
    cases hfirst : takeLightest leaves trees with
    | none =>
      obtain ⟨rfl, rfl⟩ := takeLightest_none hfirst
      cases hn
    | some taken =>
      obtain ⟨a, leaves', trees'⟩ := taken
      have ha := takeLightest_some htrees hfirst
      dsimp only
      cases hsecond : takeLightest leaves' trees' with
      | none =>
        obtain ⟨rfl, rfl⟩ := takeLightest_none hsecond
        exact ⟨ha.complete, ha.leaves_eq.symm⟩
      | some taken' =>
        obtain ⟨b, leaves'', trees''⟩ := taken'
        obtain ⟨hjoined, hfewer, hleaves⟩ := ha.join (takeLightest_some ha.others hsecond)
        have hsome : 0 < (trees'' ++ [a.join b]).length := by
          rw [List.length_append]
          exact Nat.succ_pos _
        dsimp only
        rw [hleaves]
        exact ih hjoined (by omega) (by omega)

/-! ### Lengthening -/

theorem go_cons (n m : Nat) (counts : List Nat) : lengthen.go (n :: m :: counts) =
    match lengthen.go (m :: counts) with
    | some changed => some (n :: changed)
    | none => if n = 0 then none else some ((n - 1) :: (m + 2) :: counts) := rfl

theorem go_none {init : List Nat} (h : ∀ n ∈ init, n = 0) (last : Nat) :
    lengthen.go (init ++ [last]) = none := by
  induction init with
  | nil => rfl
  | cons n init ih =>
    have hrest := ih fun m hm => h m (List.mem_cons_of_mem _ hm)
    have hzero := h n List.mem_cons_self
    cases init with
    | nil =>
      rw [List.nil_append] at hrest
      rw [List.cons_append, List.nil_append, go_cons, hrest]
      exact if_pos hzero
    | cons m init =>
      rw [List.cons_append] at hrest
      rw [List.cons_append, List.cons_append, go_cons, hrest]
      exact if_pos hzero

/-- One code is made longer by one, and so leaves room for one more of its new length. -/
structure Split (init : List Nat) (last : Nat) (init' : List Nat) (last' : Nat) : Prop where
  length_eq : init'.length = init.length
  space_eq : space (init' ++ [last']) = space (init ++ [last])
  sum_eq : (init' ++ [last']).sum = (init ++ [last]).sum + 1
  /-- the codes that are shorter than the limit take no more than before -/
  short_le : space init' ≤ space init

namespace Split

/-- The shorter codes stay as they are. -/
theorem cons {init init' : List Nat} {last last' : Nat} (h : Split init last init' last')
    (n : Nat) : Split (n :: init) last (n :: init') last' where
  length_eq := by rw [List.length_cons, List.length_cons, h.length_eq]
  space_eq := by
    rw [List.cons_append, List.cons_append, space, space, h.space_eq, List.length_append,
      List.length_append, h.length_eq]
    rfl
  sum_eq := by
    rw [List.cons_append, List.cons_append, List.sum_cons, List.sum_cons, h.sum_eq]
    rfl
  short_le := by
    rw [space, space, h.length_eq]
    exact Nat.add_le_add_left h.short_le _

/-- A code may become one of the longest. -/
theorem last (k last : Nat) : Split [k + 1] last [k] (last + 2) where
  length_eq := rfl
  space_eq := by
    rw [space_concat, space_concat]
    show 2 * ((k <<< 0) + 0) + (last + 2) = 2 * (((k + 1) <<< 0) + 0) + last
    rw [Nat.shiftLeft_zero, Nat.shiftLeft_zero]
    omega
  sum_eq := by
    show k + ((last + 2) + 0) = k + 1 + (last + 0) + 1
    omega
  short_le := by
    show (k <<< 0) + 0 ≤ ((k + 1) <<< 0) + 0
    rw [Nat.shiftLeft_zero, Nat.shiftLeft_zero]
    omega

/-- A code may become one that is shorter than the limit still. -/
theorem next (k m : Nat) (init : List Nat) (last : Nat) :
    Split ((k + 1) :: m :: init) last (k :: (m + 2) :: init) last := by
  have hspace (more : List Nat) : space (k :: (m + 2) :: more) = space ((k + 1) :: m :: more) := by
    rw [space, space, space, space, List.length_cons, List.length_cons, Nat.shiftLeft_eq,
      Nat.shiftLeft_eq, Nat.shiftLeft_eq, Nat.shiftLeft_eq, Nat.add_mul, Nat.add_mul,
      Nat.pow_succ]
    omega
  refine ⟨rfl, hspace (init ++ [last]), ?_, Nat.le_of_eq (hspace init)⟩
  simp only [List.cons_append, List.sum_cons]
  omega

end Split

/-- The last number that is not zero, apart from the very last one, goes down by one; the next one
goes up by two. -/
theorem go_some {init : List Nat} (h : ∃ n ∈ init, n ≠ 0) (last : Nat) :
    ∃ init' last', lengthen.go (init ++ [last]) = some (init' ++ [last']) ∧
      Split init last init' last' := by
  induction init with
  | nil => obtain ⟨n, hn, _⟩ := h; cases hn
  | cons n init ih =>
    by_cases hrest : ∃ m ∈ init, m ≠ 0
    · -- a longer code is there to be split
      obtain ⟨init', last', hgo, hsplit⟩ := ih hrest
      refine ⟨n :: init', last', ?_, hsplit.cons n⟩
      cases init with
      | nil => obtain ⟨m, hm, _⟩ := hrest; cases hm
      | cons m init =>
        rw [List.cons_append] at hgo
        rw [List.cons_append, List.cons_append, go_cons, hgo]
        rfl
    · have hzero : ∀ m ∈ init, m = 0 := fun m hm =>
        Decidable.byContradiction fun hne => hrest ⟨m, hm, hne⟩
      have hn : n ≠ 0 := by
        obtain ⟨m, hm, hne⟩ := h
        rcases List.mem_cons.1 hm with rfl | hm
        · exact hne
        · exact absurd (hzero m hm) hne
      obtain ⟨k, rfl⟩ := Nat.exists_eq_succ_of_ne_zero hn
      have hgo := go_none hzero last
      cases init with
      | nil => exact ⟨[k], last + 2, rfl, .last k last⟩
      | cons m init =>
        refine ⟨k :: (m + 2) :: init, last, ?_, .next k m init last⟩
        rw [List.cons_append] at hgo
        rw [List.cons_append, List.cons_append, go_cons, hgo]
        rfl

/-- Numbers of codes that can be made to fit: the codes that are shorter than the limit fit, and
there are not more codes than units. -/
structure Fitting (init : List Nat) (last : Nat) : Prop where
  short : 2 * space init ≤ 2 ^ (init.length + 1)
  few : (init ++ [last]).sum ≤ 2 ^ (init.length + 1)

/-- Where too much is taken, lengthening gives one unit back. -/
theorem lengthen_fitting {init : List Nat} {last : Nat} (h : Fitting init last)
    (hover : 2 ^ (init.length + 1) < space (init ++ [last])) :
    ∃ init' last', lengthen (init ++ [last]) = init' ++ [last'] ∧ Fitting init' last' ∧
      init'.length = init.length ∧ space (init' ++ [last']) + 1 = space (init ++ [last]) ∧
      (init' ++ [last']).sum = (init ++ [last]).sum := by
  have hshort := h.short
  have hfew := h.few
  rw [space_concat] at hover
  rw [List.sum_append_nat, List.sum_singleton] at hfew
  -- too much is taken only if there are longest codes
  obtain ⟨last, rfl⟩ := Nat.exists_eq_succ_of_ne_zero (by omega : last ≠ 0)
  -- and longest codes alone are not enough for that
  have hsome : ∃ n ∈ init, n ≠ 0 := by
    refine Decidable.byContradiction fun hnone => ?_
    have hzero : init = List.replicate init.length 0 := by
      rw [List.eq_replicate_iff]
      exact ⟨rfl, fun n hn => Decidable.byContradiction fun hne => hnone ⟨n, hn, hne⟩⟩
    have hspace (k : Nat) : space (List.replicate k 0) = 0 := by
      induction k with
      | zero => rfl
      | succ k ih => rw [List.replicate_succ, space, Nat.zero_shiftLeft, ih]
    rw [hzero, hspace, List.length_replicate] at hover
    omega
  obtain ⟨init', last', hgo, hlength, hspace, hsum, hless⟩ := go_some hsome last
  refine ⟨init', last', ?_, ⟨?_, ?_⟩, hlength, ?_, ?_⟩
  · have hreverse : (init ++ [last + 1]).reverse = (last + 1) :: init.reverse := by
      rw [List.reverse_append]
      rfl
    have hback : (last :: init.reverse).reverse = init ++ [last] := by
      rw [List.reverse_cons, List.reverse_reverse]
    unfold lengthen
    simp only [hreverse, Nat.add_sub_cancel, hback, hgo, Option.getD_some]
  · rw [hlength]
    omega
  · rw [hlength, hsum, List.sum_append_nat, List.sum_singleton]
    omega
  · rw [hspace, space_concat, space_concat]
    omega
  · rw [hsum, List.sum_append_nat, List.sum_append_nat, List.sum_singleton, List.sum_singleton]
    omega

/-- Fitting leaves just as many codes, which fill the code space. -/
theorem fit_fills {init : List Nat} {last : Nat} (h : Fitting init last)
    (hfull : 2 ^ (init.length + 1) ≤ space (init ++ [last])) :
    (fit (init ++ [last])).length = init.length + 1 ∧
      space (fit (init ++ [last])) = 2 ^ (init.length + 1) ∧
      (fit (init ++ [last])).sum = (init ++ [last]).sum := by
  have hloop (rounds : List Nat) (init : List Nat) (last : Nat) (h : Fitting init last)
      (hover : space (init ++ [last]) = 2 ^ (init.length + 1) + rounds.length) :
      (rounds.foldl (fun counts _ => lengthen counts) (init ++ [last])).length = init.length + 1 ∧
      space (rounds.foldl (fun counts _ => lengthen counts) (init ++ [last])) =
        2 ^ (init.length + 1) ∧
      (rounds.foldl (fun counts _ => lengthen counts) (init ++ [last])).sum =
        (init ++ [last]).sum := by
    induction rounds generalizing init last with
    | nil => exact ⟨List.length_append, hover, rfl⟩
    | cons r rounds ih =>
      rw [List.length_cons] at hover
      obtain ⟨init', last', hlengthen, hfitting, hlength, hspace, hsum⟩ :=
        lengthen_fitting h (by omega)
      rw [List.foldl_cons, hlengthen, ← hlength, ← hsum]
      exact ih init' last' hfitting (by rw [hlength]; omega)
  unfold fit
  refine hloop _ init last h ?_
  rw [List.length_range, List.length_append, List.length_singleton, Nat.shiftLeft_eq, Nat.one_mul]
  omega

end Playground.Deflate
