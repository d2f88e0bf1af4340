import Playground.Emit.ModuleSyntax
import Playground.Proofs.Script.Program
import Playground.Proofs.Text.Boundary

/-!
# What stripping leaves

A script is stripped of module syntax by cutting its text, so what is left is told from the text.

* `Stays` — what stays of a statement that imports or exports;
* `Carries` — the other statements stand in a text one behind another;
* `Part` — a statement that imports or exports, with the text in front of it and what stays of it;
* `Pending` — what is known while the parts are told from the statements;
* `strip_parts` — a script is its module statements and the texts between them, and stripping it
  replaces the statements and keeps the texts;
* `strip_object` — an object that is the default export is left as a block;
* `spliceFrom?` — cutting the text where a stretch that is out of range is noticed;
* `StartsWithBreak` — a line break stands where a statement starts;
* `strip_frame` — unless a statement starts so, all stretches are in range, and the text outside of
  module statements is kept.
-/

namespace Playground.Emit.ModuleSyntax

open Playground.Compiler Playground.Script Playground.Script.Parse Playground.Text

/-! ### The order of statements -/

/-- Whether statements are stretches of a script, each behind the one before. -/
structure InOrder (code : String) (body : List Node) : Prop where
  covers : ∀ n ∈ body, Covers code n
  holds : ∀ n ∈ body, Holds code n
  order : body.Pairwise fun earlier later => earlier.span.stop ≤ later.span.start

/-- The statements of a script are read in order. -/
theorem statements_inOrder {options : CompilerOptions} {code : String} {body : List Node}
    (h : statements options code = .ok body) : InOrder code body := by
  unfold statements at h
  dsimp only at h
  split at h
  · cases h
  · cases h
    obtain ⟨mark, directives, ns, bound, hshape, hstacked⟩ := ofText_stacked _ code
    unfold programBody
    rw [hshape]
    exact ⟨fun n hn => hstacked.covers n (List.mem_reverse.1 hn),
      fun n hn => hstacked.holds n (List.mem_reverse.1 hn),
      List.pairwise_reverse.2 hstacked.order⟩

/-! ### What stays of a statement -/

/-- Whether a statement ties a script to other modules. -/
def isModuleSyntax (n : Node) : Bool :=
  match n.shape with
  | .importDecl .. | .exportAll .. | .exportNamed .. | .exportDefault _ => true
  | _ => false

/-- Whether what is exported as the default is a declaration, and then whether it has a name. -/
def declares? (d : Node) : Option Bool :=
  match d.shape with
  | .function f => if f.role = .expression then none else some f.name.isSome
  | .classDef c => if c.isExpression then none else some c.name.isSome
  | _ => none

/-- Whether a node is an interface. -/
def isInterface (d : Node) : Bool := d.shape matches .interface ..

/-- What stays of a statement that imports or exports. -/
inductive Stays (code : String) (n : Node) : String → Prop
  | importDecl {phase typeOnly specifiers source attributes} :
    n.shape = .importDecl phase typeOnly specifiers source attributes → Stays code n ""
  | exportAll {typeOnly exported source attributes} :
    n.shape = .exportAll typeOnly exported source attributes → Stays code n ""
  | exportList {typeOnly specifiers source attributes} :
    n.shape = .exportNamed typeOnly none specifiers source attributes → Stays code n ""
  /-- an exported declaration stays -/
  | declaration {typeOnly d specifiers source attributes} :
    n.shape = .exportNamed typeOnly (some d) specifiers source attributes →
    Stays code n (slice code d.span)
  /-- so does one with a name that is exported as the default -/
  | named {d} : n.shape = .exportDefault d → declares? d = some true →
    Stays code n (slice code d.span)
  /-- one without a name becomes an expression in parentheses -/
  | nameless {d} : n.shape = .exportDefault d → declares? d = some false →
    Stays code n ("(" ++ slice code d.span ++ ");")
  | interface {d} : n.shape = .exportDefault d → isInterface d → Stays code n ""
  /-- any other expression stays as it is written -/
  | expression {d} : n.shape = .exportDefault d → declares? d = none → isInterface d = false →
    Stays code n (slice code d.span ++ ";")

/-- Statements are replaced exactly if they import or export. -/
theorem replacement?_isSome (code : String) (n : Node) :
    (replacement? code n).isSome = isModuleSyntax n := by
  unfold replacement? isModuleSyntax
  cases n.shape with
  | exportNamed typeOnly declaration => cases declaration <;> rfl
  | _ => rfl

/-- What a default export is replaced by. -/
theorem stays_defaultText (code : String) {n d : Node} (h : n.shape = .exportDefault d) :
    Stays code n (defaultText code d) := by
  unfold defaultText
  dsimp only
  -- a function or a class may be an expression, or declare a name or none
  split
  · next f hf =>
    split
    · exact .expression h (by simp [declares?, *]) (by simp [isInterface, hf])
    · split
      · exact .named h (by simp [declares?, *])
      · exact .nameless h (by simp_all [declares?])
  · next c hc =>
    split
    · exact .expression h (by simp [declares?, *]) (by simp [isInterface, hc])
    · split
      · exact .named h (by simp [declares?, *])
      · exact .nameless h (by simp_all [declares?])
  · next hi => exact .interface h (by simp [isInterface, hi])
  · next hf hc hi =>
    refine .expression h ?_ ?_
    · unfold declares?
      split
      · exact absurd ‹_› (hf _)
      · exact absurd ‹_› (hc _)
      · rfl
    · unfold isInterface
      split
      · exact (hi _ _ _ _ _ ‹_›).elim
      · rfl

/-- What a statement is replaced by stays of it. -/
theorem stays_replacement {code : String} {n : Node} {text : String}
    (h : replacement? code n = some text) : Stays code n text := by
  unfold replacement? at h
  split at h <;> cases h
  · exact .importDecl ‹_›
  · exact .exportAll ‹_›
  · exact .declaration ‹_›
  · exact .exportList ‹_›
  · exact stays_defaultText code ‹_›

/-! ### The parts of a script -/

/-- A text without the line break it starts with. -/
def withoutBreak (text : String) : String :=
  match text.toList with
  | '\n' :: cs => String.ofList cs
  | _ => text

/-- What is kept of a text that follows a statement: its first line break goes with a statement
that was removed. -/
def kept (removed : Bool) (text : String) : String := if removed then withoutBreak text else text

/-- A text in which other statements stand one behind another. -/
inductive Carries (code : String) : List Node → String → Prop
  | nil {text} : Carries code [] text
  | cons {n ns front behind} : isModuleSyntax n = false → Carries code ns behind →
    Carries code (n :: ns) (front ++ slice code n.span ++ behind)

/-- A statement that imports or exports, with what stands in front of it and what stays of it. -/
structure Part where
  /-- the statements in front of it -/
  others : List Node
  /-- the text in front of it, which carries them -/
  before : String
  statement : Node
  stays : String

/-- The statements of a part. -/
def Part.statements (p : Part) : List Node := p.others ++ [p.statement]

/-- The script that some parts and the text behind them make up. -/
def wholeOf (code : String) : List Part → String → String
  | [], behind => behind
  | p :: ps, behind => p.before ++ slice code p.statement.span ++ wholeOf code ps behind

/-- What is left of some parts and the text behind them. -/
def leftOf : Bool → List Part → String → String
  | removed, [], behind => kept removed behind
  | removed, p :: ps, behind =>
    kept removed p.before ++ p.stays ++ leftOf p.stays.isEmpty ps behind

/-- The parts of a script from a byte on, where some statements stand behind the byte already. -/
def partsFrom (code : String) : Nat → List Node → List Node → List Part
  | _, _, [] => []
  | start, others, n :: ns =>
    match replacement? code n with
    | some text =>
      ⟨others, slice code ⟨start, n.span.start⟩, n, text⟩ :: partsFrom code n.span.stop [] ns
    | none => partsFrom code start (others ++ [n]) ns

/-- The statements behind the parts of a script, and the byte that they stand behind. -/
def restFrom (code : String) : Nat → List Node → List Node → Nat × List Node
  | start, others, [] => (start, others)
  | start, others, n :: ns =>
    match replacement? code n with
    | some _ => restFrom code n.span.stop [] ns
    | none => restFrom code start (others ++ [n]) ns

/-- The text behind the parts of a script. -/
def behindFrom (code : String) (start : Nat) (others ns : List Node) : String :=
  slice code ⟨(restFrom code start others ns).1, code.utf8ByteSize⟩

/-- Statements some of which stand behind a byte already, while the others are still to come. -/
structure Pending (code : String) (start : Nat) (others ns : List Node) : Prop where
  boundary : Boundary code start
  order : InOrder code (others ++ ns)
  le : ∀ n ∈ others ++ ns, start ≤ n.span.start
  plain : ∀ n ∈ others, isModuleSyntax n = false

variable {code : String} {start : Nat} {others ns : List Node} {n : Node}

/-- Some of the statements are in order too. -/
theorem InOrder.of_sublist {body : List Node} (h : InOrder code body) (hsub : ns.Sublist body) :
    InOrder code ns :=
  ⟨fun m hm => h.covers m (hsub.subset hm), fun m hm => h.holds m (hsub.subset hm),
    h.order.sublist hsub⟩

theorem InOrder.pending {body : List Node} (h : InOrder code body) : Pending code 0 [] body :=
  ⟨boundary_zero code, h, fun _ _ => Nat.zero_le _, nofun⟩

namespace Pending

/-- The next statement. -/
theorem mem (_ : Pending code start others (n :: ns)) : n ∈ others ++ n :: ns :=
  List.mem_append_right _ (List.mem_cons_self ..)

/-- A statement that is not replaced joins those that stand there already. -/
theorem keep (h : Pending code start others (n :: ns)) (hn : replacement? code n = none) :
    Pending code start (others ++ [n]) ns where
  boundary := h.boundary
  order := by rw [List.append_assoc]; exact h.order
  le := by rw [List.append_assoc]; exact h.le
  plain := by
    have hplain : isModuleSyntax n = false := by rw [← replacement?_isSome code, hn]; rfl
    intro m hm
    rcases List.mem_append.1 hm with hm | hm
    · exact h.plain m hm
    · rw [List.mem_singleton.1 hm]
      exact hplain

/-- Behind a statement that is replaced all is still to come. -/
theorem cut (h : Pending code start others (n :: ns)) : Pending code n.span.stop [] ns where
  boundary := (h.order.covers n h.mem).stop
  order := h.order.of_sublist ((List.sublist_cons_self ..).trans (List.sublist_append_right ..))
  le := (List.pairwise_cons.1 (List.pairwise_append.1 h.order.order).2.1).1
  plain := nofun

/-- The text behind the byte carries the statements that stand there. -/
theorem carries (h : Pending code start others ns) {stop : Nat} (hstop : Boundary code stop)
    (hlast : ∀ n ∈ others, n.span.stop ≤ stop) :
    Carries code others (slice code ⟨start, stop⟩) := by
  obtain ⟨hstart, horder, hle, hplain⟩ := h
  replace horder := horder.of_sublist (List.sublist_append_left others ns)
  replace hle := fun n hn => hle n (List.mem_append_left ns hn)
  induction others generalizing start with
  | nil => exact .nil
  | cons n others ih =>
    have hn := horder.covers n (List.mem_cons_self ..)
    have hfront := hle n (List.mem_cons_self ..)
    have hback := hlast n (List.mem_cons_self ..)
    have hrest := ih (fun m hm => hlast m (List.mem_cons_of_mem _ hm)) hn.stop
      (fun m hm => hplain m (List.mem_cons_of_mem _ hm))
      (horder.of_sublist (List.sublist_cons_self ..)) (List.pairwise_cons.1 horder.order).1
    -- the text up to the end of a statement is what stands before it, and the statement
    have hsplit := extract_append hstart hn.start hn.stop hfront hn.start_le_stop
    have hwhole :=
      extract_append hstart hn.stop hstop (Nat.le_trans hfront hn.start_le_stop) hback
    unfold slice
    rw [← hwhole, ← hsplit]
    exact .cons (hplain n (List.mem_cons_self ..)) hrest

end Pending

/-- The parts and what is behind them have all the statements, in order. -/
theorem statements_partsFrom (code : String) (start : Nat) (others ns : List Node) :
    (partsFrom code start others ns).flatMap Part.statements ++
      (restFrom code start others ns).2 = others ++ ns := by
  induction ns generalizing start others with
  | nil => exact (List.append_nil others).symm
  | cons n ns ih =>
    unfold partsFrom restFrom
    split
    · rw [List.flatMap_cons, List.append_assoc, ih]
      exact List.append_assoc ..
    · rw [ih, List.append_assoc]
      rfl

/-- What the parts hold: a statement and what stays of it, behind a text that carries others. -/
theorem partsFrom_spec (h : Pending code start others ns) :
    ∀ p ∈ partsFrom code start others ns, Carries code p.others p.before ∧
      Stays code p.statement p.stays ∧ Holds code p.statement := by
  induction ns generalizing start others with
  | nil => nofun
  | cons n ns ih =>
    unfold partsFrom
    split
    · next text htext =>
      have hn := h.order.covers n h.mem
      have hbefore := (List.pairwise_append.1 h.order.order).2.2
      have hlast := fun m hm => hbefore m hm n (List.mem_cons_self ..)
      exact List.forall_mem_cons.2 ⟨⟨h.carries hn.start hlast, stays_replacement htext,
        h.order.holds n h.mem⟩, ih h.cut⟩
    · exact ih (h.keep ‹_›)

/-- The parts have the statements that import or export, and what these are replaced by. -/
theorem partsFrom_replaced (code : String) (start : Nat) (others ns : List Node) :
    (partsFrom code start others ns).map Part.statement = ns.filter isModuleSyntax ∧
      ∀ p ∈ partsFrom code start others ns, replacement? code p.statement = some p.stays := by
  induction ns generalizing start others with
  | nil => exact ⟨rfl, nofun⟩
  | cons n ns ih =>
    unfold partsFrom
    rw [List.filter_cons, ← replacement?_isSome code]
    cases hn : replacement? code n with
    | none => exact ih start (others ++ [n])
    | some text =>
      obtain ⟨hstatements, hreplaced⟩ := ih n.span.stop []
      exact ⟨congrArg _ hstatements, List.forall_mem_cons.2 ⟨hn, hreplaced⟩⟩

/-- The text behind the parts carries the rest of the statements. -/
theorem behindFrom_carries (h : Pending code start others ns) :
    Carries code (restFrom code start others ns).2 (behindFrom code start others ns) := by
  unfold behindFrom
  induction ns generalizing start others with
  | nil =>
    refine h.carries (boundary_size code) fun n hn => ?_
    exact (h.order.covers n (List.mem_append_left _ hn)).stop.le_size
  | cons n ns ih =>
    unfold restFrom
    split
    · exact ih h.cut
    · exact ih (h.keep ‹_›)

/-- The parts make up the script. -/
theorem whole_partsFrom (h : Pending code start others ns) :
    wholeOf code (partsFrom code start others ns) (behindFrom code start others ns) =
      slice code ⟨start, code.utf8ByteSize⟩ := by
  unfold behindFrom
  induction ns generalizing start others with
  | nil => rfl
  | cons n ns ih =>
    unfold partsFrom restFrom
    cases hn : replacement? code n with
    | none => exact ih (h.keep hn)
    | some text =>
      have hcovers := h.order.covers n h.mem
      have hfront := h.le n h.mem
      have hrest := ih h.cut
      dsimp only
      rw [wholeOf, hrest]
      unfold slice
      rw [extract_append h.boundary hcovers.start hcovers.stop hfront hcovers.start_le_stop,
        extract_append h.boundary hcovers.stop (boundary_size code)
          (Nat.le_trans hfront hcovers.start_le_stop) hcovers.stop.le_size]

/-- Where reading a script goes on behind a statement. -/
def resumed (code : String) (removed : Bool) (stop : Nat) : Nat :=
  if removed && slice code ⟨stop, stop + 1⟩ == "\n" then stop + 1 else stop

/-- From where reading goes on, the text is what is kept. -/
theorem slice_resumed {i j : Nat} (hi : Boundary code i) (hj : Boundary code j) (hij : i ≤ j)
    (removed : Bool) :
    slice code ⟨resumed code removed i, j⟩ = kept removed (slice code ⟨i, j⟩) := by
  cases removed with
  | false => rfl
  | true =>
    obtain ⟨before, between, behind, htext, rfl, rfl⟩ := hi.cut hj hij
    unfold resumed kept slice
    rw [extract_cut htext, withoutBreak, String.toList_ofList]
    cases between with
    | nil =>
      -- nothing stands in between, so a line break further on does not matter
      have hnone (k : Nat) : String.Pos.Raw.extract code ⟨width before + k⟩
          ⟨width before + width []⟩ = "" := if_pos (by simp)
      split
      · exact hnone 1
      · exact hnone 0
    | cons c between =>
      rw [List.append_assoc] at htext
      have hbreak := extract_break_iff htext
      by_cases hc : c = '\n'
      · subst hc
        have hcut : code.toList = before ++ ['\n'] ++ between ++ behind := by simp [htext]
        have hrest := extract_cut hcut
        simp only [hbreak.2 rfl, Bool.and_self, beq_self_eq_true, if_true]
        rw [width_append] at hrest
        rw [width_cons, ← Nat.add_assoc]
        exact hrest
      · have hother : ¬String.Pos.Raw.extract code ⟨width before⟩ ⟨width before + 1⟩ = "\n" :=
          fun h => hc (Option.some.inj (hbreak.1 h))
        have hkept : (match c :: between with
            | '\n' :: cs => String.ofList cs
            | _ => String.ofList (c :: between)) = String.ofList (c :: between) := by
          split
          · next h => exact absurd (List.cons.inj h).1 hc
          · rfl
        simp only [beq_eq_false_iff_ne.2 hother, Bool.and_false, Bool.false_eq_true, if_false,
          if_true]
        rw [hkept]
        exact extract_cut (by rw [htext, List.append_assoc])

/-- What follows an edit is what follows the statement it stands for. -/
theorem resume_eq (code : String) (span : Span) (text : String) :
    Edit.resume code ⟨span, text⟩ = resumed code text.isEmpty span.stop := rfl

theorem edits_cons_none (ns : List Node) (h : replacement? code n = none) :
    edits code (n :: ns) = edits code ns :=
  List.filterMap_cons_none (by rw [h]; rfl)

theorem edits_cons_some {text : String} (ns : List Node) (h : replacement? code n = some text) :
    edits code (n :: ns) = ⟨n.span, text⟩ :: edits code ns :=
  List.filterMap_cons_some (by rw [h]; rfl)

/-- Cutting the text leaves what is left of the parts. -/
theorem spliceFrom_edits (h : Pending code start others ns) (removed : Bool) :
    spliceFrom code (resumed code removed start) (edits code ns) =
      leftOf removed (partsFrom code start others ns) (behindFrom code start others ns) := by
  unfold behindFrom
  -- between two edits the invariant is that reading goes on where the last part ended
  induction ns generalizing start others removed with
  | nil => exact slice_resumed h.boundary (boundary_size code) h.boundary.le_size removed
  | cons n ns ih =>
    unfold partsFrom restFrom
    cases hn : replacement? code n with
    | none =>
      rw [edits_cons_none ns hn]
      exact ih (h.keep hn) removed
    | some text =>
      have hcovers := h.order.covers n h.mem
      have hrest := ih h.cut text.isEmpty
      have hfront := slice_resumed h.boundary hcovers.start (h.le n h.mem) removed
      rw [edits_cons_some ns hn, spliceFrom, resume_eq, hrest]
      dsimp only
      rw [hfront, leftOf]

/-! ### Stripping -/

/-- Stripping a script fails exactly if the script cannot be read.  Otherwise the script is its
module statements in order and the texts between them, which carry all other statements, and what
is left is what stays of each module statement and the texts between, without the line break
behind a statement of which nothing stays.  What a statement exports is a stretch of it. -/
theorem strip_parts (options : CompilerOptions) (code : String) :
    match statements options code with
    | .error message => strip options code = .error ⟨"strip-module-syntax", message⟩
    | .ok body => ∃ parts others behind,
        parts.flatMap Part.statements ++ others = body ∧
        (∀ p ∈ parts, Carries code p.others p.before ∧
          Stays code p.statement p.stays ∧ Holds code p.statement) ∧
        Carries code others behind ∧
        wholeOf code parts behind = code ∧
        strip options code = .ok (leftOf false parts behind) := by
  unfold strip
  cases hbody : statements options code with
  | error message => rfl
  | ok body =>
    have hpending := (statements_inOrder hbody).pending
    refine ⟨partsFrom code 0 [] body, (restFrom code 0 [] body).2, behindFrom code 0 [] body,
      statements_partsFrom code 0 [] body, partsFrom_spec hpending, behindFrom_carries hpending,
      ?_, ?_⟩
    · rw [whole_partsFrom hpending]
      exact extract_all code
    · rw [← spliceFrom_edits hpending false]
      rfl

/-- An object that is exported as the default is left at the start of a statement, where it is read
as a block. -/
theorem strip_object :
    strip {} "export default { a: 1, b: 2 };\n" = .ok "{ a: 1, b: 2 };\n" ∧
      (Parsed.ofText (emittedDialect {} .module) "{ a: 1, b: 2 };\n").faults.map Fault.message =
        [Cause.missingSemicolon.message] := by
  decide +kernel

/-! ### Reading in range -/

/-- Whether a stretch reaches from one boundary of characters to one behind it. -/
def InRange (code : String) (span : Span) : Prop :=
  Boundary code span.start ∧ Boundary code span.stop ∧ span.start ≤ span.stop

instance (code : String) (span : Span) : Decidable (InRange code span) :=
  inferInstanceAs (Decidable (_ ∧ _))

/-- The text between two byte offsets, if it is in range. -/
def slice? (code : String) (span : Span) : Option String :=
  if InRange code span then some (slice code span) else none

/-- Applies edits from a byte on, unless a stretch that is read is out of range. -/
def spliceFrom? (code : String) (start : Nat) : List Edit → Option String
  | [] => slice? code ⟨start, code.utf8ByteSize⟩
  | e :: rest => do
    let front ← slice? code ⟨start, e.span.start⟩
    if e.replacement.isEmpty then
      -- the text behind is read to see whether a line ends
      let _ ← slice? code ⟨e.span.stop, code.utf8ByteSize⟩
    let behind ← spliceFrom? code (e.resume code) rest
    return front ++ e.replacement ++ behind

/-- Whether a line break stands where a statement starts. -/
def StartsWithBreak (code : String) (n : Node) : Prop :=
  slice code ⟨n.span.start, n.span.start + 1⟩ = "\n"

instance (code : String) (n : Node) : Decidable (StartsWithBreak code n) :=
  inferInstanceAs (Decidable (_ = _))

theorem slice?_of_inRange {span : Span} (h : InRange code span) :
    slice? code span = some (slice code span) := if_pos h

/-- Behind a statement the text goes on in range up to what stands behind, unless a line break
starts there. -/
theorem inRange_resumed {stop : Nat} (hstart : Boundary code start) (hstop : Boundary code stop)
    (hle : start ≤ stop) (hbreak : start = stop → slice code ⟨stop, stop + 1⟩ ≠ "\n")
    (removed : Bool) : InRange code ⟨resumed code removed start, stop⟩ := by
  unfold resumed
  split
  · next hremoved =>
    have hbehind : slice code ⟨start, start + 1⟩ = "\n" := by simp_all
    refine ⟨hstart.behind_break hbehind, hstop, ?_⟩
    have hne : start ≠ stop := fun heq => hbreak heq (heq ▸ hbehind)
    exact Nat.lt_of_le_of_ne hle hne
  · exact ⟨hstart, hstop, hle⟩

/-- Cutting the text never reads out of range, if no statement starts with a line break. -/
theorem spliceFrom?_edits (h : Pending code start others ns)
    (hbreak : ∀ n ∈ ns, ¬ StartsWithBreak code n) (removed : Bool) :
    spliceFrom? code (resumed code removed start) (edits code ns) =
      some (spliceFrom code (resumed code removed start) (edits code ns)) := by
  induction ns generalizing start others removed with
  | nil =>
    have hend : slice code ⟨code.utf8ByteSize, code.utf8ByteSize + 1⟩ ≠ "\n" := by
      rw [slice, ← width_toList, ne_eq, extract_break_iff (List.append_nil _).symm]
      nofun
    exact slice?_of_inRange
      (inRange_resumed h.boundary (boundary_size code) h.boundary.le_size (fun _ => hend) removed)
  | cons n ns ih =>
    obtain ⟨hn, hrest⟩ := List.forall_mem_cons.1 hbreak
    cases hreplacement : replacement? code n with
    | none =>
      rw [edits_cons_none ns hreplacement]
      exact ih (h.keep hreplacement) hrest removed
    | some text =>
      have hcovers := h.order.covers n h.mem
      have hfront : InRange code ⟨resumed code removed start, n.span.start⟩ :=
        inRange_resumed h.boundary hcovers.start (h.le n h.mem) (fun _ => hn) removed
      have hbehind : InRange code ⟨n.span.stop, code.utf8ByteSize⟩ :=
        ⟨hcovers.stop, boundary_size code, hcovers.stop.le_size⟩
      have hedits := ih h.cut hrest text.isEmpty
      rw [edits_cons_some ns hreplacement, spliceFrom?, spliceFrom, slice?_of_inRange hfront,
        resume_eq, hedits]
      cases text.isEmpty with
      | true =>
        simp only [slice?_of_inRange hbehind]
        rfl
      | false => rfl

/-- Stripping a script reads nothing out of range, and nothing is lost or doubled: the script is
its module statements and the texts between them, and what is left is what the statements are
replaced by and the same texts, in the same order, without the line break behind a statement of
which nothing stays.  A script without module statements is left as it is. -/
theorem strip_frame {options : CompilerOptions} {code : String} {body : List Node}
    (hbody : statements options code = .ok body) (hbreak : ∀ n ∈ body, ¬ StartsWithBreak code n) :
    (∀ n ∈ body, ∀ d ∈ exported? n.shape, InRange code d.span) ∧
      ∃ parts behind out,
        strip options code = .ok out ∧ spliceFrom? code 0 (edits code body) = some out ∧
        parts.map Part.statement = body.filter isModuleSyntax ∧
        (∀ p ∈ parts, replacement? code p.statement = some p.stays) ∧
        wholeOf code parts behind = code ∧ leftOf false parts behind = out ∧
        (body.filter isModuleSyntax = [] → out = code) := by
  have horder := statements_inOrder hbody
  have hpending := horder.pending
  obtain ⟨hstatements, hreplaced⟩ := partsFrom_replaced code 0 [] body
  have hwhole := (whole_partsFrom hpending).trans (extract_all code)
  constructor
  · intro n hn d hd
    obtain ⟨hcovers, -, -⟩ := horder.holds n hn d hd
    exact ⟨hcovers.start, hcovers.stop, hcovers.start_le_stop⟩
  · refine ⟨partsFrom code 0 [] body, behindFrom code 0 [] body, splice code (edits code body),
      by rw [strip, hbody], spliceFrom?_edits hpending hbreak false, hstatements, hreplaced, hwhole,
      (spliceFrom_edits hpending false).symm, fun hnone => ?_⟩
    -- without parts the script is the text behind them
    have hparts : partsFrom code 0 [] body = [] := List.map_eq_nil_iff.1 (hstatements.trans hnone)
    have hleft := spliceFrom_edits hpending false
    rw [hparts] at hwhole hleft
    exact hleft.trans hwhole

/-- Statements on one line, and one at the end without a line break. -/
theorem strip_frame_adjacent :
    let code := "import \x22a\x22;import \x22b\x22;\nf();\nexport \x7b g \x7d;"
    ∃ body, statements {} code = .ok body ∧ (∀ n ∈ body, ¬ StartsWithBreak code n) ∧
      spliceFrom? code 0 (edits code body) = some "f();\n" := by
  intro code
  have hread : (match statements {} code with
      | .ok body => body.all fun n => ¬ StartsWithBreak code n
      | .error _ => false) = true := by decide +kernel
  have hstrip : strip {} code = .ok "f();\n" := by decide +kernel
  cases hbody : statements {} code with
  | error message =>
    rw [hbody] at hread
    cases hread
  | ok body =>
    rw [hbody] at hread
    have hbreak : ∀ n ∈ body, ¬ StartsWithBreak code n := by simpa using hread
    obtain ⟨-, parts, behind, out, hout, hsplice, -⟩ := strip_frame hbody hbreak
    cases hstrip.symm.trans hout
    exact ⟨body, rfl, hbreak, hsplice⟩

end Playground.Emit.ModuleSyntax
