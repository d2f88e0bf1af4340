import Playground.Script.Parse.Basic

/-!
# What actions of the reader do

Laws of the reader's actions that are told from how the actions are put together, so that they
can be looked up construct by construct.

* `Takes` — the action takes the current token at least;
* `Looks`, `Keeps` — the action moves nothing, or takes nothing;
* `Spans` — the construct that is read reaches from a given byte to the last token taken;
* `Construct` — a construct that takes tokens and reaches from the first of them to the last;
* `Covers` — the bytes of a node are a stretch of the text.
-/

namespace Playground.Script.Parse

open Playground.Text

variable {α β : Type}

/-- What an action in two parts yields, its second part yields after the first. -/
theorem bind_ok {p : Parse α} {f : α → Parse β} {src : Source} {s s' : ParseState} {b : β}
    (h : (p >>= f).run src s = .ok b s') :
    ∃ a t, p.run src s = .ok a t ∧ (f a).run src t = .ok b s' := by
  change (Parse.bind p f).run src s = _ at h
  unfold Parse.bind at h
  dsimp only at h
  split at h
  · next a t hp => exact ⟨a, t, hp, h⟩
  · cases h

/-! ### Taking tokens -/

/-- Whether an action, where it succeeds, takes the current token. -/
class Takes (p : Parse α) : Prop where
  start_le : ∀ {src s a s'}, s.InText src.text → p.run src s = .ok a s' →
    s.token.start ≤ s'.lastStop

/-- Whether an action takes the current token where something comes of it. -/
class TakesIfSome (p : Parse (Option α)) : Prop where
  start_le : ∀ {src s a s'}, s.InText src.text → p.run src s = .ok (some a) s' →
    s.token.start ≤ s'.lastStop

namespace Takes

variable {p : Parse α} {f : α → Parse β}

/-- What takes the current token at first takes it as a whole. -/
instance first [hp : Takes p] : Takes (p >>= f) where
  start_le hs h := by
    obtain ⟨a, t, hpa, hfa⟩ := bind_ok h
    obtain ⟨ht, -, -⟩ := p.forward hpa hs
    obtain ⟨-, hstop, -⟩ := (f a).forward hfa ht
    exact Nat.le_trans (hp.start_le hs hpa) hstop

/-- What takes a token in the end takes the current one too. -/
theorem onward (hf : ∀ a, Takes (f a)) : Takes (p >>= f) where
  start_le hs h := by
    obtain ⟨a, t, hpa, hfa⟩ := bind_ok h
    obtain ⟨ht, -, hstart⟩ := p.forward hpa hs
    exact Nat.le_trans hstart ((hf a).start_le ht hfa)

instance (priority := low) rest [hf : ∀ a, Takes (f a)] : Takes (p >>= f) := onward hf

/-- What takes a token only if something comes of it leaves the token to what follows. -/
instance orElse {p : Parse (Option α)} {f : Option α → Parse β} [hp : TakesIfSome p]
    [hf : Takes (f none)] : Takes (p >>= f) where
  start_le hs h := by
    obtain ⟨a, t, hpa, hfa⟩ := bind_ok h
    obtain ⟨ht, -, hstart⟩ := p.forward hpa hs
    cases a with
    | none => exact Nat.le_trans hstart (hf.start_le ht hfa)
    | some a =>
      obtain ⟨-, hstop, -⟩ := (f (some a)).forward hfa ht
      exact Nat.le_trans (hp.start_le hs hpa) hstop

theorem either {c : Prop} [Decidable c] {p q : Parse α} (hp : Takes p) (hq : Takes q) :
    Takes (if c then p else q) := by
  split
  · exact hp
  · exact hq

instance ite {c : Prop} [Decidable c] {p q : Parse α} [hp : Takes p] [hq : Takes q] :
    Takes (if c then p else q) := either hp hq

instance stop (fault : Fault) : Takes (stop fault : Parse α) where
  start_le _ h := by cases h

instance fail (cause : Cause) (start : Nat) : Takes (fail cause start : Parse α) :=
  inferInstanceAs (Takes (Parse.stop _))

instance unexpected : Takes (unexpected : Parse α) := by
  unfold Parse.unexpected
  refine onward fun s => ?_
  dsimp only
  split
  · split <;> infer_instance
  · infer_instance

instance within (f : Context → Context) [Takes p] : Takes (within f p) := by
  unfold Parse.within; infer_instance

instance delay {p : Unit → Parse α} [hp : Takes (p ())] : Takes (delay p) where
  start_le := hp.start_le

instance take : Takes take where
  start_le hs h := by
    cases h
    exact hs.start_le_stop

end Takes

namespace TakesIfSome

theorem onward {p : Parse α} {f : α → Parse (Option β)} (hf : ∀ a, TakesIfSome (f a)) :
    TakesIfSome (p >>= f) where
  start_le hs h := by
    obtain ⟨a, t, hpa, hfa⟩ := bind_ok h
    obtain ⟨ht, -, hstart⟩ := p.forward hpa hs
    exact Nat.le_trans hstart ((hf a).start_le ht hfa)

instance orElse {p : Parse (Option α)} {f : Option α → Parse (Option β)} [hp : TakesIfSome p]
    [hf : TakesIfSome (f none)] : TakesIfSome (p >>= f) where
  start_le hs h := by
    obtain ⟨a, t, hpa, hfa⟩ := bind_ok h
    obtain ⟨ht, -, hstart⟩ := p.forward hpa hs
    cases a with
    | none => exact Nat.le_trans hstart (hf.start_le ht hfa)
    | some a =>
      obtain ⟨-, hstop, -⟩ := (f (some a)).forward hfa ht
      exact Nat.le_trans (hp.start_le hs hpa) hstop

instance always {p : Parse (Option α)} [hp : Takes p] : TakesIfSome p where
  start_le := hp.start_le

instance never : TakesIfSome (Pure.pure none : Parse (Option α)) where
  start_le _ h := by cases h

instance ite {c : Prop} [Decidable c] {p q : Parse (Option α)} [TakesIfSome p] [TakesIfSome q] :
    TakesIfSome (if c then p else q) := by
  split <;> infer_instance

instance attempt {p : Parse α} [hp : Takes p] : TakesIfSome (attempt p) where
  start_le hs h := by
    unfold Parse.attempt at h
    dsimp only at h
    split at h <;> cases h
    next hpa => exact hp.start_le hs hpa

instance orBack {p : Parse (Option α)} [hp : TakesIfSome p] : TakesIfSome (orBack p) where
  start_le hs h := by
    unfold Parse.orBack at h
    dsimp only at h
    split at h
    · cases h
    · exact hp.start_le hs h

end TakesIfSome

instance : Takes bump := by unfold bump; infer_instance
instance : Takes bumpWord := by unfold bumpWord; infer_instance
instance (text : String) : Takes (expect text) := by unfold expect; infer_instance

/-! ### Taking nothing -/

/-- Whether an action leaves the cursor where it is. -/
class Looks (p : Parse α) : Prop where
  cursor : ∀ {src s a s'}, p.run src s = .ok a s' → s'.toCursor = s.toCursor

/-- Whether an action takes no token. -/
class Keeps (p : Parse α) : Prop where
  lastStop : ∀ {src s a s'}, p.run src s = .ok a s' → s'.lastStop = s.lastStop

/-- Whether an action of which nothing comes leaves the cursor where it is. -/
class LooksIfNone (p : Parse (Option α)) : Prop where
  cursor : ∀ {src s s'}, p.run src s = .ok none s' → s'.toCursor = s.toCursor

namespace Looks

instance pure (a : α) : Looks (Pure.pure a : Parse α) where
  cursor h := by cases h; rfl

instance bind {p : Parse α} {f : α → Parse β} [hp : Looks p] [hf : ∀ a, Looks (f a)] :
    Looks (p >>= f) where
  cursor h := by
    obtain ⟨a, t, hpa, hfa⟩ := bind_ok h
    rw [(hf a).cursor hfa, hp.cursor hpa]

instance ite {c : Prop} [Decidable c] {p q : Parse α} [Looks p] [Looks q] :
    Looks (if c then p else q) := by
  split <;> infer_instance

instance get : Looks get where
  cursor h := by cases h; rfl

instance read : Looks read where
  cursor h := by cases h; rfl

instance modify (f : Notes → Notes) : Looks (modify f) where
  cursor h := by cases h; rfl

instance preview (p : Parse α) (otherwise : α) : Looks (preview p otherwise) where
  cursor h := by
    unfold Parse.preview at h
    dsimp only at h
    split at h <;> cases h <;> rfl

end Looks

namespace Keeps

instance bind {p : Parse α} {f : α → Parse β} [hp : Keeps p] [hf : ∀ a, Keeps (f a)] :
    Keeps (p >>= f) where
  lastStop h := by
    obtain ⟨a, t, hpa, hfa⟩ := bind_ok h
    rw [(hf a).lastStop hfa, hp.lastStop hpa]

instance ite {c : Prop} [Decidable c] {p q : Parse α} [Keeps p] [Keeps q] :
    Keeps (if c then p else q) := by
  split <;> infer_instance

instance (priority := low) ofLooks {p : Parse α} [hp : Looks p] : Keeps p where
  lastStop h := by rw [hp.cursor h]

end Keeps

/-- Whether something comes of an action wherever it succeeds. -/
class Finds (p : Parse (Option α)) : Prop where
  isSome : ∀ {src s a s'}, p.run src s = .ok a s' → a.isSome

namespace Finds

instance pure (a : α) : Finds (Pure.pure (some a)) where
  isSome h := by cases h; rfl

instance bind {p : Parse α} {f : α → Parse (Option β)} [hf : ∀ a, Finds (f a)] :
    Finds (p >>= f) where
  isSome h := by
    obtain ⟨a, t, -, hfa⟩ := bind_ok h
    exact (hf a).isSome hfa

end Finds

namespace LooksIfNone

instance (priority := low) ofFinds {p : Parse (Option α)} [hp : Finds p] : LooksIfNone p where
  cursor h := by cases hp.isSome h

instance attempt {p : Parse α} : LooksIfNone (attempt p) where
  cursor h := by
    unfold Parse.attempt at h
    dsimp only at h
    split at h <;> cases h
    rfl

instance orBack {p : Parse (Option α)} : LooksIfNone (orBack p) where
  cursor h := by
    unfold Parse.orBack at h
    dsimp only at h
    split at h
    · cases h
      rfl
    · next hsome => exact absurd h (hsome _)

instance always {p : Parse (Option α)} [hp : Looks p] : LooksIfNone p where
  cursor h := hp.cursor h

theorem onward {p : Parse α} {f : α → Parse (Option β)} [hp : Looks p]
    (hf : ∀ a, LooksIfNone (f a)) : LooksIfNone (p >>= f) where
  cursor h := by
    obtain ⟨a, t, hpa, hfa⟩ := bind_ok h
    rw [(hf a).cursor hfa, hp.cursor hpa]

instance ite {c : Prop} [Decidable c] {p q : Parse (Option α)} [LooksIfNone p] [LooksIfNone q] :
    LooksIfNone (if c then p else q) := by
  split <;> infer_instance

end LooksIfNone

instance : Looks token := by unfold token; infer_instance
instance : Looks dialect := by unfold dialect; infer_instance
instance : Looks context := by unfold context; infer_instance
instance (cause : Cause) (start : Nat) : Looks (note cause start) := by unfold note; infer_instance
instance (p : Parse Bool) : Looks (ahead p) := by unfold ahead; infer_instance
instance (start stop : Nat) : Looks (slice start stop) := by unfold slice; infer_instance
instance : Looks left := by unfold left; infer_instance
instance (text : String) : Looks (isAt text) := by unfold isAt; infer_instance
instance (test : Token → Bool) : Looks (nextIs test) := by unfold nextIs; infer_instance
instance (test : Token → Bool) : Looks (nextOnSameLine test) := by
  unfold nextOnSameLine; infer_instance

/-! ### The reach of a construct -/

/-- What is known about the place where reading stands. -/
inductive Standing where
  | anywhere
  /-- the current token -/
  | at (t : Token)
  /-- what has just been read, if anything was, and nothing was taken since -/
  | behind (n : Option Node)

/-- Whether what is known holds, where the construct being read starts at the given byte. -/
def Standing.Holds (start : Nat) (c : Cursor) : Standing → Prop
  | .anywhere => True
  | .at t => c.token = t
  | .behind n => ∀ x ∈ n, x.span = ⟨start, c.lastStop⟩

/-- What may hold a construct. -/
class HasNode (α : Type) where
  node? : α → Option Node

instance : HasNode Node := ⟨fun n => some n⟩
instance : HasNode (Option Node) := ⟨fun n => n⟩
instance : HasNode (Node × Bool) := ⟨fun p => some p.1⟩

/-- Whether the construct that an action yields reaches from the given byte to the last token
taken. -/
class Spans [HasNode α] (k : Standing) (start : Nat) (p : Parse α) : Prop where
  span : ∀ {src s a s'}, k.Holds start s.toCursor → p.run src s = .ok a s' →
    ∀ n ∈ HasNode.node? a, n.span = ⟨start, s'.lastStop⟩

namespace Spans

section Rules

variable [HasNode β] {k : Standing} {start : Nat} {n : Option Node} {t : Token}
  {p : Parse α} {f : α → Parse β}

/-- What comes first may be anything. -/
theorem onward (hf : ∀ a, Spans .anywhere start (f a)) : Spans k start (p >>= f) where
  span hs h := by
    obtain ⟨a, u, hpa, hfa⟩ := bind_ok h
    exact (hf a).span trivial hfa

instance (priority := low) rest [hf : ∀ a, Spans .anywhere start (f a)] :
    Spans k start (p >>= f) := onward hf

/-- The construct may be read first, and something done about it then. -/
theorem about {p : Parse Node} {f : Node → Parse β} [hp : Spans k start p]
    (hf : ∀ x, Spans (.behind (some x)) start (f x)) : Spans k start (p >>= f) where
  span hs h := by
    obtain ⟨x, u, hpx, hfx⟩ := bind_ok h
    exact (hf x).span (hp.span hs hpx) hfx

instance construct {p : Parse Node} {f : Node → Parse β} [hp : Spans k start p]
    [hf : ∀ x, Spans (.behind (some x)) start (f x)] : Spans k start (p >>= f) := about hf

/-- The construct may come with a flag. -/
theorem aboutPair {p : Parse (Node × Bool)} {f : Node × Bool → Parse β} [hp : Spans k start p]
    (hf : ∀ x flag, Spans (.behind (some x)) start (f (x, flag))) : Spans k start (p >>= f) where
  span hs h := by
    obtain ⟨⟨x, flag⟩, u, hpx, hfx⟩ := bind_ok h
    exact (hf x flag).span (hp.span hs hpx) hfx

instance token {f : Token → Parse β} [hf : Spans (.at t) start (f t)] :
    Spans (.at t) start (token >>= f) where
  span hs h := by
    cases hs
    exact hf.span rfl h

/-- Looking leaves the current token. -/
theorem looking [hp : Looks p] (hf : ∀ a, Spans (.at t) start (f a)) :
    Spans (.at t) start (p >>= f) where
  span hs h := by
    obtain ⟨a, u, hpa, hfa⟩ := bind_ok h
    refine (hf a).span ?_ hfa
    rw [hp.cursor hpa]
    exact hs

instance look [hp : Looks p] [hf : ∀ a, Spans (.at t) start (f a)] :
    Spans (.at t) start (p >>= f) := looking hf

/-- What takes nothing leaves what was read as it is. -/
theorem keeping [hp : Keeps p] (hf : ∀ a, Spans (.behind n) start (f a)) :
    Spans (.behind n) start (p >>= f) where
  span hs h := by
    obtain ⟨a, u, hpa, hfa⟩ := bind_ok h
    refine (hf a).span ?_ hfa
    unfold Standing.Holds
    rw [hp.lastStop hpa]
    exact hs

instance keep [hp : Keeps p] [hf : ∀ a, Spans (.behind n) start (f a)] :
    Spans (.behind n) start (p >>= f) := keeping hf

/-- Where nothing comes of what is tried, what was read is left as it is. -/
theorem trying {p : Parse (Option α)} {f : Option α → Parse β} [hp : LooksIfNone p]
    (hsome : ∀ a, Spans .anywhere start (f (some a))) (hnone : Spans (.behind n) start (f none)) :
    Spans (.behind n) start (p >>= f) where
  span hs h := by
    obtain ⟨a, u, hpa, hfa⟩ := bind_ok h
    cases a with
    | some a => exact (hsome a).span trivial hfa
    | none =>
      refine hnone.span ?_ hfa
      rw [hp.cursor hpa]
      exact hs

/-- Where a construct is tried, it may be read or not. -/
theorem offering {p : Parse (Option Node)} {f : Option Node → Parse β} [hk : LooksIfNone p]
    [hp : Spans (.at t) start p] (hsome : ∀ x, Spans (.behind (some x)) start (f (some x)))
    (hnone : Spans (.at t) start (f none)) : Spans (.at t) start (p >>= f) where
  span hs h := by
    obtain ⟨a, u, hpa, hfa⟩ := bind_ok h
    cases a with
    | some a => exact (hsome a).span (hp.span hs hpa) hfa
    | none =>
      refine hnone.span ?_ hfa
      rw [hk.cursor hpa]
      exact hs

/-- A mark that may follow what was read. -/
theorem eating {mark : String} {f : Bool → Parse β} (htrue : Spans .anywhere start (f true))
    (hfalse : Spans (.behind n) start (f false)) : Spans (.behind n) start (eat mark >>= f) where
  span hs h := by
    obtain ⟨taken, u, htaken, hfa⟩ := bind_ok h
    cases taken with
    | true => exact htrue.span trivial hfa
    | false =>
      refine hfalse.span ?_ hfa
      unfold eat at htaken
      obtain ⟨present, v, hpresent, htaken⟩ := bind_ok htaken
      rw [← Looks.cursor hpresent] at hs
      cases present with
      | true =>
        obtain ⟨_, w, -, htaken⟩ := bind_ok htaken
        cases htaken
      | false =>
        cases htaken
        exact hs

end Rules

variable [HasNode α] {k : Standing} {start : Nat}

theorem either {c : Prop} [Decidable c] {p q : Parse α} (hp : Spans k start p)
    (hq : Spans k start q) : Spans k start (if c then p else q) := by
  split
  · exact hp
  · exact hq

instance ite {c : Prop} [Decidable c] {p q : Parse α} [hp : Spans k start p]
    [hq : Spans k start q] : Spans k start (if c then p else q) := either hp hq

/-- What was read, in another shape. -/
theorem reshaped {x y : Node} (h : y.span = x.span) :
    Spans (.behind (some x)) start (Pure.pure y) where
  span hs hr := by
    cases hr
    rintro _ ⟨⟩
    exact h.trans (hs x rfl)

instance pure (a : α) : Spans (.behind (HasNode.node? a)) start (Pure.pure a) where
  span hs hr := by
    cases hr
    exact hs

instance same (n : Node) : Spans (.behind (some n)) start (Pure.pure n) := pure n

instance found (n : Node) :
    Spans (.behind (some n)) start (Pure.pure (some n) : Parse (Option Node)) := pure (some n)

instance pair (n : Node) (b : Bool) :
    Spans (.behind (some n)) start (Pure.pure (n, b) : Parse (Node × Bool)) := pure (n, b)

instance nothing : Spans k start (Pure.pure none : Parse (Option Node)) where
  span _ hr := by
    cases hr
    nofun

instance orBack {p : Parse (Option Node)} [hp : Spans k start p] : Spans k start (orBack p) where
  span hs h := by
    unfold Parse.orBack at h
    dsimp only at h
    split at h
    · cases h
      nofun
    · exact hp.span hs h

instance node (shape : Shape Node) : Spans k start (node start shape) where
  span _ h := by
    cases h
    rintro _ ⟨⟩
    rfl

instance stop (fault : Fault) : Spans k start (stop fault : Parse α) where
  span _ h := by cases h

instance fail (cause : Cause) (place : Nat) : Spans k start (fail cause place : Parse α) :=
  inferInstanceAs (Spans k start (Parse.stop _))

instance unexpected : Spans k start (unexpected : Parse α) := by
  unfold Parse.unexpected
  refine onward fun s => ?_
  dsimp only
  split
  · split <;> infer_instance
  · infer_instance

instance within (f : Context → Context) (p : Parse α) [hp : Spans k start p] :
    Spans k start (within f p) where
  span hs h := by
    unfold Parse.within at h
    obtain ⟨_, _, hget, h⟩ := bind_ok h
    obtain ⟨_, _, hset, h⟩ := bind_ok h
    obtain ⟨a, _, hpa, h⟩ := bind_ok h
    obtain ⟨_, _, hback, h⟩ := bind_ok h
    cases hget
    cases hset
    cases hback
    cases h
    have hspan := hp.span (by exact hs) hpa
    exact hspan

instance delay {p : Unit → Parse α} [hp : Spans k start (p ())] : Spans k start (delay p) where
  span := hp.span

end Spans

/-! ### Constructs -/

/-- Whether a construct takes tokens and reaches from the first of them to the last. -/
class Construct (p : Parse Node) : Prop where
  takes : Takes p
  spans : ∀ t, Spans (.at t) t.start p

attribute [instance] Construct.takes Construct.spans

instance (fault : Fault) : Construct (stop fault) where
  takes := inferInstance
  spans _ := inferInstance

instance {p : Unit → Parse Node} [hp : Construct (p ())] : Construct (delay p) where
  takes := inferInstance
  spans _ := inferInstance

instance : Construct stringLiteral where
  takes := by unfold stringLiteral; infer_instance
  spans t := by unfold stringLiteral; infer_instance

set_option synthInstance.maxSize 1000 in
instance : Construct bindingName where
  takes := by unfold bindingName; infer_instance
  spans t := by unfold bindingName; infer_instance

set_option synthInstance.maxSize 1000 in
instance : Construct referenceName where
  takes := by unfold referenceName; infer_instance
  spans t := by unfold referenceName; infer_instance

/-- Whether the bytes a node stands for are a stretch of a text. -/
structure Covers (text : String) (n : Node) : Prop where
  start : Boundary text n.span.start
  stop : Boundary text n.span.stop
  start_le_stop : n.span.start ≤ n.span.stop

/-- A construct covers the text between the tokens taken before and those taken with it. -/
theorem Construct.covers {p : Parse Node} [hp : Construct p] {src : Source} {s s' : ParseState}
    {n : Node} (hs : s.InText src.text) (h : p.run src s = .ok n s') :
    Covers src.text n ∧ s.lastStop ≤ n.span.start ∧ n.span.stop = s'.lastStop := by
  have hspan : n.span = ⟨s.token.start, s'.lastStop⟩ := (hp.spans _).span rfl h n rfl
  obtain ⟨hs', -, -⟩ := p.forward h hs
  rw [hspan]
  exact ⟨⟨hspan ▸ hs.start, hspan ▸ hs'.lastStop, hspan ▸ hp.takes.start_le hs h⟩,
    hs.lastStop_le_start, rfl⟩

end Playground.Script.Parse
