import Playground.Proofs.Script.Quotes

/-!
# The order of statements

The statements of a program stand one behind another in its text.

* `Stacked` — statements read so far, the last one first;
* `program_stacked` — the statements of a program are stretches of its text, in order;
* `read_stacked`, `ofText_stacked` — so are the statements that reading a text yields;
* `ofText_overlong` — a text that is too long has none.
-/

namespace Playground.Script.Parse

open Playground.Text

/-- Statements that were read up to a byte of a text, the last one first. -/
structure Stacked (text : String) (bound : Nat) (ns : List Node) : Prop where
  covers : ∀ n ∈ ns, Covers text n
  holds : ∀ n ∈ ns, Holds text n
  names : ∀ n ∈ ns, Names text n
  order : ns.Pairwise fun later earlier => earlier.span.stop ≤ later.span.start
  bounded : ∀ n ∈ ns, n.span.stop ≤ bound

/-- A statement goes on the stack of those before it. -/
theorem Stacked.push {text : String} {bound stop : Nat} {ns : List Node} {n : Node}
    (h : Stacked text bound ns) (hn : Covers text n) (hheld : Holds text n)
    (hnames : Names text n) (hstart : bound ≤ n.span.start) (hstop : n.span.stop = stop) :
    Stacked text stop (n :: ns) := by
  have hle : ∀ m ∈ ns, m.span.stop ≤ n.span.start := fun m hm =>
    Nat.le_trans (h.bounded m hm) hstart
  refine ⟨List.forall_mem_cons.2 ⟨hn, h.covers⟩, List.forall_mem_cons.2 ⟨hheld, h.holds⟩,
    List.forall_mem_cons.2 ⟨hnames, h.names⟩, List.pairwise_cons.2 ⟨hle, h.order⟩,
    List.forall_mem_cons.2 ⟨Nat.le_of_eq hstop, fun m hm => ?_⟩⟩
  exact hstop ▸ Nat.le_trans (hle m hm) hn.start_le_stop

/-- Passing over a directive leaves the stack as it is. -/
theorem Stacked.mono {text : String} {bound bound' : Nat} {ns : List Node}
    (h : Stacked text bound ns) (hle : bound ≤ bound') : Stacked text bound' ns :=
  { h with bounded := fun n hn => Nat.le_trans (h.bounded n hn) hle }

/-- The statements of a body are read one behind another. -/
theorem bodyFrom_stacked (m k : Nat) (atHead : Bool) (ds xs : List Node) {src : Source}
    {s s' : ParseState} {body : List Node × List Node} (hs : s.InText src.text)
    (hxs : Stacked src.text s.lastStop xs)
    (h : (bodyFrom (Grammar.level m) false k atHead ds xs).run src s = .ok body s') :
    ∃ ns, body.2 = ns.reverse ∧ Stacked src.text s'.lastStop ns := by
  -- the statements that were read are stacked up to where the last one stopped
  induction k generalizing atHead ds xs s with
  | zero =>
    cases h
    exact ⟨xs, rfl, hxs⟩
  | succ k ih =>
    unfold bodyFrom at h
    obtain ⟨t, _, ht, h⟩ := bind_ok h
    cases ht
    split at h
    · cases h
      exact ⟨xs, rfl, hxs⟩
    · obtain ⟨n, u, hn, h⟩ := bind_ok h
      obtain ⟨hu, hle, -⟩ := Parse.forward _ hn hs
      split at h
      · exact ih _ _ _ hu (hxs.mono hle) h
      · obtain ⟨hcovers, hstart, hstop⟩ := Construct.covers hs hn
        have hnames := Sources.names (k := .nothing) hs trivial hn
        exact ih _ _ _ hu (hxs.push hcovers (Encloses.holds hs hn) hnames hstart hstop) h

/-- The statements of a program are stretches of its text, each behind the one before. -/
theorem program_stacked {src : Source} {s s' : ParseState} {n : Node} (hs : s.InText src.text)
    (h : program.run src s = .ok n s') :
    ∃ mark directives ns, n.shape = .program mark directives ns.reverse ∧
      Stacked src.text s'.lastStop ns := by
  unfold program at h
  obtain ⟨source, _, hread, h⟩ := bind_ok h
  cases hread
  obtain ⟨mark, t, hmark, h⟩ := bind_ok h
  have ht := (Parse.forward _ hmark hs).1
  obtain ⟨_, u, hscan, h⟩ := bind_ok h
  have hu := (Parse.forward _ hscan ht).1
  obtain ⟨room, v, hroom, h⟩ := bind_ok h
  have hv := (Parse.forward _ hroom hu).1
  obtain ⟨body, w, hbody, h⟩ := bind_ok h
  obtain ⟨ns, hns, hstacked⟩ :=
    bodyFrom_stacked _ _ _ _ _ hv ⟨by simp, by simp, by simp, .nil, by simp⟩ hbody
  cases h
  exact ⟨mark, body.1, ns, by rw [← hns]; rfl, hstacked⟩

/-- The statements that reading a text yields are stretches of it, each behind the one before. -/
theorem read_stacked (dialect : Dialect) (text : String) :
    ∃ mark directives ns bound,
      (Parsed.read dialect text).program.shape = .program mark directives ns.reverse ∧
        Stacked text bound ns := by
  unfold Parsed.read
  dsimp only
  split
  · next program s hrun =>
    obtain ⟨mark, directives, ns, hshape, hstacked⟩ :=
      program_stacked (Cursor.inText_initial _) hrun
    exact ⟨mark, directives, ns, s.lastStop, hshape, hstacked⟩
  · exact ⟨none, [], [], 0, rfl, by simp, by simp, by simp, .nil, by simp⟩

theorem ofText_stacked (dialect : Dialect) (text : String) :
    ∃ mark directives ns bound,
      (Parsed.ofText dialect text).program.shape = .program mark directives ns.reverse ∧
        Stacked text bound ns := by
  unfold Parsed.ofText
  split
  · exact ⟨none, [], [], 0, rfl, by simp, by simp, by simp, .nil, by simp⟩
  · exact read_stacked dialect text

/-- A text that is too long has no statements. -/
theorem ofText_overlong (dialect : Dialect) {text : String}
    (h : Parsed.sizeLimit < text.utf8ByteSize) :
    (Parsed.ofText dialect text).program.shape = .program none [] [] := by
  rw [Parsed.ofText, if_pos h]
  rfl

end Playground.Script.Parse
