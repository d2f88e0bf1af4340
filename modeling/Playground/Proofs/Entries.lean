import Mathlib.Data.List.Nodup

/-!
# Lists of named entries

* `lookup_eq_some_iff` — where names are distinct, looking up is finding the entry;
* `eq_of_lookup` — ordered entries are told by what is looked up in them;
* `getLast?_filter_eq_some` — the last entry of a kind in a list that is in order;
* `getLast?_filter_eq_some_getElem` — the last entry of a kind by its position.
-/

namespace Playground

variable {α β : Type} {name : String} {es fs : List (String × α)}

theorem lookup_cons_ite (name : String) (e : String × α) (es : List (String × α)) :
    (e :: es).lookup name = if name = e.1 then some e.2 else es.lookup name := by
  rw [List.lookup_cons]
  split
  · next heq => rw [if_pos (beq_iff_eq.1 heq)]
  · next hne => rw [if_neg (beq_eq_false_iff_ne.1 hne)]

theorem lookup_eq_none_iff : es.lookup name = none ↔ name ∉ es.map Prod.fst := by
  simp only [List.lookup_eq_none_iff, bne_iff_ne, List.mem_map, not_exists, not_and]
  exact forall₂_congr fun _ _ => ne_comm

/-- Where names are distinct, every entry is the one that is found. -/
theorem lookup_eq_some_iff (hnames : (es.map Prod.fst).Nodup) {a : α} :
    es.lookup name = some a ↔ (name, a) ∈ es := by
  induction es with
  | nil => simp
  | cons e es ih =>
    obtain ⟨hfresh, hrest⟩ := List.nodup_cons.1 hnames
    rw [lookup_cons_ite, List.mem_cons]
    split
    · next heq =>
      subst heq
      have hnot : (e.1, a) ∉ es := fun he => hfresh (List.mem_map.2 ⟨_, he, rfl⟩)
      simp [hnot, Prod.ext_iff, eq_comm]
    · next hne =>
      rw [ih hrest]
      exact ⟨.inr, fun h => h.resolve_left fun heq => hne (congrArg Prod.fst heq)⟩

/-- Names in order are distinct. -/
theorem nodup_of_ordered (h : es.Pairwise fun a b => a.1 < b.1) : (es.map Prod.fst).Nodup :=
  List.pairwise_map.2 (h.imp fun {a b} hlt (heq : a.1 = b.1) => String.lt_irrefl b.1 (heq ▸ hlt))

/-- Entries in the order of their names are told by what is looked up in them. -/
theorem eq_of_lookup (hes : es.Pairwise fun a b => a.1 < b.1)
    (hfs : fs.Pairwise fun a b => a.1 < b.1) (h : ∀ name, es.lookup name = fs.lookup name) :
    es = fs := by
  have hnodup := nodup_of_ordered hes
  have hnodup' := nodup_of_ordered hfs
  refine List.Perm.eq_of_pairwise (fun a b _ _ hab hba => ?_) hes hfs ?_
  · exact absurd hba (String.lt_asymm hab)
  · refine (List.perm_ext_iff_of_nodup hnodup.of_map hnodup'.of_map).2 fun e => ?_
    rw [← lookup_eq_some_iff hnodup, ← lookup_eq_some_iff hnodup', h]

/-- The last entry of a kind in a list that is in order: no other of its kind comes later. -/
theorem getLast?_filter_eq_some {R : β → β → Prop} (hasymm : ∀ a b, R a b → ¬ R b a)
    {l : List β} (hl : l.Pairwise R) {p : β → Bool} {x : β} :
    (l.filter p).getLast? = some x ↔ x ∈ l ∧ p x = true ∧ ∀ y ∈ l, p y = true → ¬ R x y := by
  constructor
  · intro h
    obtain ⟨front, hfront⟩ := List.getLast?_eq_some_iff.1 h
    obtain ⟨hx, hpx⟩ := List.mem_filter.1 (hfront ▸ List.mem_append_right front (.head _))
    refine ⟨hx, hpx, fun y hy hpy => ?_⟩
    have hordered := hl.filter p
    rw [hfront, List.pairwise_append] at hordered
    have hmem : y ∈ front ++ [x] := hfront ▸ List.mem_filter.2 ⟨hy, hpy⟩
    -- what is kept stays in order, so all but the last come before it
    obtain hbefore | hsame := List.mem_append.1 hmem
    · exact hasymm _ _ (hordered.2.2 y hbefore x (.head _))
    · obtain rfl := List.mem_singleton.1 hsame
      exact fun hself => hasymm _ _ hself hself
  · rintro ⟨hx, hpx, hlast⟩
    have hmem : x ∈ l.filter p := List.mem_filter.2 ⟨hx, hpx⟩
    obtain heq | ⟨front, z, hfront⟩ := List.eq_nil_or_concat' (l.filter p)
    · simp [heq] at hmem
    · rw [hfront, List.getLast?_concat]
      have hordered := hl.filter p
      rw [hfront, List.pairwise_append] at hordered
      obtain ⟨hz, hpz⟩ := List.mem_filter.1 (hfront ▸ List.mem_append_right front (.head _))
      rw [hfront] at hmem
      obtain hbefore | hsame := List.mem_append.1 hmem
      · exact absurd (hordered.2.2 x hbefore z (.head _)) (hlast z hz hpz)
      · rw [List.mem_singleton.1 hsame]

theorem pairwise_zipIdx (l : List β) : l.zipIdx.Pairwise fun x y => x.2 < y.2 := by
  rw [← List.pairwise_map (f := Prod.snd), List.zipIdx_map_snd]
  exact List.pairwise_lt_range'

/-- The last entry of a kind is the one at the last position that has an entry of this kind. -/
theorem getLast?_filter_eq_some_getElem {l : List β} {p : β → Bool} {x : β} :
    (l.filter p).getLast? = some x ↔
      ∃ i : Fin l.length, l[i] = x ∧ p x = true ∧ ∀ j, i < j → p l[j] = false := by
  -- with their positions, entries are in order
  have hindexed : (l.filter p).getLast? =
      ((l.zipIdx.filter fun y => p y.1).getLast?).map Prod.fst := by
    conv_lhs => rw [← List.zipIdx_map_fst 0 l]
    rw [List.filter_map, List.getLast?_map]
    rfl
  have hlast {y : β × Nat} := getLast?_filter_eq_some (fun _ _ => Nat.lt_asymm)
    (pairwise_zipIdx l) (p := fun y => p y.1) (x := y)
  rw [hindexed, Option.map_eq_some_iff]
  constructor
  · rintro ⟨⟨_, i⟩, hfound, rfl⟩
    obtain ⟨hmem, hp, hlater⟩ := hlast.1 hfound
    obtain ⟨hi, hget⟩ := List.getElem?_eq_some_iff.1 (List.mem_zipIdx_iff_getElem?.1 hmem)
    refine ⟨⟨i, hi⟩, hget, hp, fun j hij => Bool.eq_false_iff.2 fun hpj => ?_⟩
    exact hlater (l[j], j) (List.mem_zipIdx_iff_getElem?.2 (List.getElem?_eq_getElem j.2)) hpj hij
  · rintro ⟨i, rfl, hp, hlater⟩
    refine ⟨(l[i], i), hlast.2 ⟨List.mem_zipIdx_iff_getElem?.2 (List.getElem?_eq_getElem i.2), hp,
      fun y hy hpy hij => ?_⟩, rfl⟩
    obtain ⟨hj, hget⟩ := List.getElem?_eq_some_iff.1 (List.mem_zipIdx_iff_getElem?.1 hy)
    have hfalse : p y.1 = false := hget ▸ hlater ⟨y.2, hj⟩ hij
    exact Bool.eq_false_iff.1 hfalse hpy

end Playground
