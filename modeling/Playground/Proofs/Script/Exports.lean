import Playground.Proofs.Script.Statements

/-!
# What exports hold

A declaration that is exported lies in the statement that exports it.

* `exported?`, `source?` — the declaration that a statement exports, and the literal by which it
  names a module;
* `Plain` — the construct exports no declaration and names no module;
* `Within`, `Encloses` — the construct, or what it exports, lies between a byte and the last token
  taken;
* `Holds` — what a statement exports is a stretch of the statement.
-/

namespace Playground.Script.Parse

open Playground.Text

set_option synthInstance.maxSize 2000

variable {α β : Type}

/-- The declaration that an export holds. -/
def exported? : Shape Node → Option Node
  | .exportNamed _ declaration _ _ _ => declaration
  | .exportDefault declaration => some declaration
  | _ => none

/-- The literal that names the module of an import or an export. -/
def source? : Shape Node → Option Node
  | .importDecl _ _ _ source _ => some source
  | .exportAll _ _ source _ => some source
  | .exportNamed _ _ _ source _ => source
  | _ => none

/-! ### Constructs that export nothing -/

/-- Whether a shape holds no exported declaration and names no module. -/
class PlainShape (shape : Shape Node) : Prop where
  exported : exported? shape = none
  source : source? shape = none

section Shapes

variable {a b c : Node} {x y z : Option Node} {ns : List Node} {flag : Bool} {text : String}

instance : PlainShape .empty := ⟨rfl, rfl⟩
instance : PlainShape .debuggerStmt := ⟨rfl, rfl⟩
instance : PlainShape (.exprStmt a) := ⟨rfl, rfl⟩
instance : PlainShape (.block ns) := ⟨rfl, rfl⟩
instance : PlainShape (.labeled text a) := ⟨rfl, rfl⟩
instance {kind : VarKind} : PlainShape (.varDecl kind flag ns) := ⟨rfl, rfl⟩
instance : PlainShape (.ifStmt a b x) := ⟨rfl, rfl⟩
instance : PlainShape (.doWhile a b) := ⟨rfl, rfl⟩
instance : PlainShape (.whileStmt a b) := ⟨rfl, rfl⟩
instance : PlainShape (.forStmt x y z a) := ⟨rfl, rfl⟩
instance : PlainShape (.forIn a b c) := ⟨rfl, rfl⟩
instance : PlainShape (.forOf flag a b c) := ⟨rfl, rfl⟩
instance {label : Option String} : PlainShape (.breakStmt label) := ⟨rfl, rfl⟩
instance {label : Option String} : PlainShape (.continueStmt label) := ⟨rfl, rfl⟩
instance : PlainShape (.returnStmt x) := ⟨rfl, rfl⟩
instance : PlainShape (.throwStmt a) := ⟨rfl, rfl⟩
instance : PlainShape (.withStmt a b) := ⟨rfl, rfl⟩
instance : PlainShape (.switchStmt a ns) := ⟨rfl, rfl⟩
instance : PlainShape (.tryStmt a x y) := ⟨rfl, rfl⟩
instance {f : Function Node} : PlainShape (.function f) := ⟨rfl, rfl⟩
instance {d : Class Node} : PlainShape (.classDef d) := ⟨rfl, rfl⟩
instance : PlainShape (.typeAlias flag a x b) := ⟨rfl, rfl⟩
instance {ms : List Node} : PlainShape (.interface flag a x ns ms) := ⟨rfl, rfl⟩
instance {isConst : Bool} : PlainShape (.enumDecl isConst flag a ns) := ⟨rfl, rfl⟩
instance : PlainShape (.moduleDecl text flag a x) := ⟨rfl, rfl⟩
instance : PlainShape (.importEquals flag a b) := ⟨rfl, rfl⟩
instance : PlainShape (.exportNamed flag none ns none y) := ⟨rfl, rfl⟩
instance : PlainShape (.exportAssign a) := ⟨rfl, rfl⟩
instance : PlainShape (.exportAsNamespace text) := ⟨rfl, rfl⟩

instance {p : Prop} [Decidable p] {s t : Shape Node} [hs : PlainShape s] [ht : PlainShape t] :
    PlainShape (if p then s else t) := by
  split
  · exact hs
  · exact ht

end Shapes

/-- Whether a construct exports no declaration and names no module. -/
class Plain (p : Parse Node) : Prop where
  shape : ∀ {src s n s'}, p.run src s = .ok n s' → PlainShape n.shape

namespace Plain

theorem onward {p : Parse α} {f : α → Parse Node} (hf : ∀ a, Plain (f a)) : Plain (p >>= f) where
  shape h := by
    obtain ⟨a, t, -, hfa⟩ := bind_ok h
    exact (hf a).shape hfa

instance (priority := low) rest {p : Parse α} {f : α → Parse Node} [hf : ∀ a, Plain (f a)] :
    Plain (p >>= f) := onward hf

/-- What was read may be handed on. -/
theorem about {p : Parse Node} {f : Node → Parse Node} [hp : Plain p]
    (hf : ∀ n, PlainShape n.shape → Plain (f n)) : Plain (p >>= f) where
  shape h := by
    obtain ⟨n, t, hpn, hfn⟩ := bind_ok h
    exact (hf n (hp.shape hpn)).shape hfn

instance ite {c : Prop} [Decidable c] {p q : Parse Node} [Plain p] [Plain q] :
    Plain (if c then p else q) := by
  split <;> infer_instance

theorem pure {n : Node} (h : PlainShape n.shape) : Plain (Pure.pure n) where
  shape hr := by cases hr; exact h

instance node {start : Nat} {shape : Shape Node} [h : PlainShape shape] :
    Plain (node start shape) where
  shape hr := by cases hr; exact h

instance stop (fault : Fault) : Plain (stop fault) where
  shape h := by cases h

instance fail (cause : Cause) (start : Nat) : Plain (fail cause start) :=
  inferInstanceAs (Plain (Parse.stop _))

instance unexpected : Plain unexpected := by
  unfold Parse.unexpected
  refine onward fun s => ?_
  dsimp only
  split
  · split <;> infer_instance
  · infer_instance

instance within (f : Context → Context) (p : Parse Node) [hp : Plain p] : Plain (within f p) where
  shape h := by
    unfold Parse.within at h
    obtain ⟨_, _, -, h⟩ := bind_ok h
    obtain ⟨_, _, -, h⟩ := bind_ok h
    obtain ⟨n, _, hpn, h⟩ := bind_ok h
    obtain ⟨_, _, -, h⟩ := bind_ok h
    cases h
    exact hp.shape hpn

theorem ended {n : Node} (h : PlainShape n.shape) : Plain (ended n) := by
  unfold Parse.ended
  exact onward fun _ => onward fun _ => pure h

end Plain

variable (g : Grammar)

instance : Plain (block g) := by unfold block; infer_instance

instance (start : Nat) (x : Node) : Plain (expressionStatement start x) := by
  unfold expressionStatement; infer_instance

instance : Plain (expressionOrLabel g) := by
  unfold expressionOrLabel
  refine Plain.onward fun t => Plain.onward fun x => ?_
  split <;> infer_instance

instance (start : Nat) (declared : Bool) : Plain (varBindings g start declared) := by
  unfold varBindings; infer_instance

instance (place : Place) : Plain (variableStatement g place) := by
  unfold variableStatement
  refine Plain.onward fun t => Plain.about fun d hd => ?_
  have hended := Plain.ended hd
  repeat' first | exact hended | refine Plain.onward fun _ => ?_ | split

instance (place : Place) : Plain (letStatement g place) := by unfold letStatement; infer_instance

instance : Plain (ifStatement g) := by unfold ifStatement; infer_instance

instance : Plain (doStatement g) := by unfold doStatement; infer_instance

instance : Plain (whileStatement g) := by unfold whileStatement; infer_instance

instance (start : Nat) (setup : Option Node) : Plain (forRest g start setup) := by
  unfold forRest; infer_instance

instance (start : Nat) (isAwait : Bool) (left : Node) : Plain (forOver g start isAwait left) := by
  unfold forOver; infer_instance

instance : Plain (forStatement g) := by
  unfold forStatement
  repeat' first | infer_instance | refine Plain.onward fun _ => ?_

instance (isBreak : Bool) : Plain (jumpStatement isBreak) := by
  unfold jumpStatement; infer_instance

instance : Plain (returnStatement g) := by unfold returnStatement; infer_instance

instance : Plain (throwStatement g) := by unfold throwStatement; infer_instance

instance : Plain (withStatement g) := by unfold withStatement; infer_instance

instance : Plain (switchStatement g) := by unfold switchStatement; infer_instance

instance : Plain (tryStatement g) := by unfold tryStatement; infer_instance

instance (start : Nat) (isExpression nameless isAsync declared : Bool) :
    Plain (function g start isExpression nameless isAsync declared) := by
  unfold function; infer_instance

instance (place : Place) (isAsync : Bool) : Plain (functionStatement g place isAsync) := by
  unfold functionStatement
  refine Plain.onward fun t => ?_
  repeat' first
    | exact Plain.pure ‹_›
    | refine Plain.about fun f hf => ?_
    | refine Plain.onward fun _ => ?_
    | split

instance (start : Nat) (decorators : List Node) (isExpression isAbstract declared : Bool) :
    Plain (classFrom g start decorators isExpression isAbstract declared) := by
  unfold classFrom; infer_instance

instance (place : Place) : Plain (classStatement g place) := by
  unfold classStatement
  refine Plain.onward fun t => ?_
  repeat' first
    | exact Plain.pure ‹_›
    | refine Plain.about fun c hc => ?_
    | refine Plain.onward fun _ => ?_
    | split

instance (start : Nat) (declared : Bool) : Plain (typeAlias g start declared) := by
  unfold typeAlias; infer_instance

instance (start : Nat) (declared : Bool) : Plain (interface g start declared) := by
  unfold interface; infer_instance

instance (start : Nat) (declared : Bool) : Plain (enumDeclaration g start declared) := by
  unfold enumDeclaration; infer_instance

instance (keyword : String) (declared : Bool) (n start : Nat) :
    Plain (namespaceFrom g keyword declared n start) := by
  cases n <;> unfold namespaceFrom <;> infer_instance

instance (start : Nat) (declared : Bool) : Plain (moduleDeclaration g start declared) := by
  unfold moduleDeclaration; infer_instance

instance (start : Nat) (typeOnly : Bool) : Plain (importEquals start typeOnly) := by
  unfold importEquals; infer_instance

instance (start : Nat) (decorators : List Node) (ms : List WrittenModifier) :
    Plain (declarationForm g start decorators ms) := by
  unfold declarationForm
  dsimp only
  refine Plain.onward fun t => ?_
  repeat' first
    | exact Plain.pure ‹_›
    | infer_instance
    | refine Plain.about fun d hd => ?_
    | refine @Plain.about _ _ (Plain.ended ‹_›) fun d hd => ?_
    | refine Plain.onward fun _ => ?_
    | split

instance (start : Nat) (decorators : List Node) (ms : List WrittenModifier) :
    Plain (declarationAfter g start decorators ms) := by
  unfold declarationAfter
  dsimp only
  infer_instance

instance : Plain (typedDeclaration g) := by unfold typedDeclaration; infer_instance

/-! ### Declarations that are exported -/

/-- Whether a construct, read from a byte in front of the current token on, lies behind that
byte. -/
class Within (start : Nat) (p : Parse Node) : Prop where
  covers : ∀ {src s d s'}, s.InText src.text → Boundary src.text start →
    start ≤ s.token.start → p.run src s = .ok d s' →
    Covers src.text d ∧ start ≤ d.span.start ∧ d.span.stop ≤ s'.lastStop

namespace Within

instance spans {start : Nat} {p : Parse Node} [hspans : Spans .anywhere start p]
    [htakes : Takes p] : Within start p where
  covers hs hstart hle h := by
    have hspan := hspans.span trivial h _ rfl
    have hs' := (p.forward h hs).1
    rw [hspan]
    exact ⟨⟨hspan ▸ hstart, hspan ▸ hs'.lastStop,
      hspan ▸ Nat.le_trans hle (htakes.start_le hs h)⟩, Nat.le_refl _, Nat.le_refl _⟩

instance (priority := low) rest {start : Nat} {p : Parse α} {f : α → Parse Node}
    [hf : ∀ a, Within start (f a)] : Within start (p >>= f) where
  covers hs hstart hle h := by
    obtain ⟨a, t, hpa, hfa⟩ := bind_ok h
    obtain ⟨ht, -, hbehind⟩ := p.forward hpa hs
    exact (hf a).covers ht hstart (Nat.le_trans hle hbehind) hfa

instance ite {start : Nat} {c : Prop} [Decidable c] {p q : Parse Node} [Within start p]
    [Within start q] : Within start (if c then p else q) := by
  split <;> infer_instance

/-- A construct and the end of the statement behind it. -/
instance ended {start : Nat} {p : Parse Node} {q : Parse PUnit} [hp : Construct p] :
    Within start (p >>= fun d => q >>= fun _ => Pure.pure d) where
  covers hs _ hle h := by
    obtain ⟨d, t, hpd, h⟩ := bind_ok h
    obtain ⟨_, u, hq, h⟩ := bind_ok h
    cases h
    have hspan := (hp.spans _).span rfl hpd _ rfl
    obtain ⟨hcovers, -, hstop⟩ := hp.covers hs hpd
    obtain ⟨-, hlast, -⟩ := q.forward hq (p.forward hpd hs).1
    exact ⟨hcovers, by rw [hspan]; exact hle, hstop ▸ hlast⟩

end Within

/-- Whether what a construct exports lies in it, where it is read from a byte in front of the
current token on. -/
class Encloses (start : Nat) (p : Parse Node) : Prop where
  covers : ∀ {src s n s'}, s.InText src.text → Boundary src.text start →
    start ≤ s.token.start → p.run src s = .ok n s' → ∀ d ∈ exported? n.shape,
    Covers src.text d ∧ start ≤ d.span.start ∧ d.span.stop ≤ s'.lastStop

namespace Encloses

variable {start : Nat}

instance plain {p : Parse Node} [hp : Plain p] : Encloses start p where
  covers _ _ _ h d hd := by rw [(hp.shape h).exported] at hd; cases hd

theorem onward {p : Parse α} {f : α → Parse Node} (hf : ∀ a, Encloses start (f a)) :
    Encloses start (p >>= f) where
  covers hs hstart hle h := by
    obtain ⟨a, t, hpa, hfa⟩ := bind_ok h
    obtain ⟨ht, -, hbehind⟩ := p.forward hpa hs
    exact (hf a).covers ht hstart (Nat.le_trans hle hbehind) hfa

instance (priority := low) rest {p : Parse α} {f : α → Parse Node}
    [hf : ∀ a, Encloses start (f a)] : Encloses start (p >>= f) := onward hf

/-- What starts with the current token starts behind the byte. -/
theorem fromToken {f : Token → Parse Node} (hf : ∀ t, Encloses t.start (f t)) :
    Encloses start (token >>= f) where
  covers {_ s _ _} hs _ hle h d hd := by
    obtain ⟨hcovers, hfront, hback⟩ := (hf s.token).covers hs hs.start (Nat.le_refl _) h d hd
    exact ⟨hcovers, Nat.le_trans hle hfront, hback⟩

instance ite {c : Prop} [Decidable c] {p q : Parse Node} [Encloses start p] [Encloses start q] :
    Encloses start (if c then p else q) := by
  split <;> infer_instance

/-- A node that exports no declaration. -/
theorem bare {whole : Nat} {shape : Shape Node} (hshape : exported? shape = none) :
    Encloses start (node whole shape) where
  covers _ _ _ h d hd := by
    cases h
    cases hshape.symm.trans hd

/-- A declaration and the export around it. -/
theorem holding {p : Parse Node} {whole : Nat} {shape : Node → Shape Node} [hp : Within start p]
    (hshape : ∀ d, exported? (shape d) = some d) :
    Encloses start (p >>= fun d => node whole (shape d)) where
  covers hs hstart hle h d hd := by
    obtain ⟨e, t, hpe, h⟩ := bind_ok h
    cases h
    cases (hshape e).symm.trans hd
    exact hp.covers hs hstart hle hpe

end Encloses

instance (start whole : Nat) : Encloses start (importRest whole) := by
  unfold importRest
  repeat' first
    | exact Encloses.bare rfl | infer_instance | refine Encloses.onward fun _ => ?_ | split

instance (start : Nat) : Encloses start importDeclaration := by
  unfold importDeclaration; infer_instance

instance (start whole : Nat) (typeOnly : Bool) : Encloses start (exportList whole typeOnly) := by
  unfold exportList
  repeat' first
    | exact Encloses.bare rfl | refine Encloses.onward fun _ => ?_ | split

instance (start whole : Nat) (typeOnly : Bool) : Encloses start (exportAll whole typeOnly) := by
  unfold exportAll
  repeat' first
    | exact Encloses.bare rfl | refine Encloses.onward fun _ => ?_ | split

variable [g.Lawful]

instance (start : Nat) (decorators : List Node) :
    Within start (exportedDefault g start decorators) := by
  unfold exportedDefault; infer_instance

instance (start whole : Nat) (decorators : List Node) :
    Encloses start (exportDefault g whole decorators) := by
  unfold exportDefault
  refine Encloses.onward fun _ => Encloses.fromToken fun t => ?_
  exact Encloses.onward fun more => Encloses.onward fun _ => Encloses.holding fun d => rfl

instance (start whole : Nat) (decorators : List Node) :
    Encloses start (exportedDeclaration g whole decorators) := by
  unfold exportedDeclaration
  refine Encloses.fromToken fun t => ?_
  refine Encloses.onward fun more => Encloses.onward fun _ => Encloses.onward fun ms => ?_
  exact Encloses.holding fun d => rfl

instance (start whole : Nat) : Encloses start (exportedImport whole) := by
  unfold exportedImport
  refine Encloses.fromToken fun t => Encloses.onward fun _ => Encloses.onward fun typeOnly => ?_
  exact Encloses.holding fun d => rfl

instance (start whole : Nat) (decorators : List Node) :
    Encloses start (exportDeclaration g whole decorators) := by
  unfold exportDeclaration; infer_instance

instance (start : Nat) : Encloses start (decoratedStatement g) := by
  unfold decoratedStatement; infer_instance

instance (start : Nat) (place : Place) : Encloses start (statement g place) := by
  unfold statement; infer_instance

omit [g.Lawful] in
instance (start n : Nat) (place : Place) : Encloses start ((Grammar.level n).statement place) := by
  cases n with
  | zero => exact ⟨fun _ _ _ h => by cases h⟩
  | succ n =>
    have h : Encloses start (statement (Grammar.level n) place) := inferInstance
    exact ⟨h.covers⟩

/-- Whether what a statement exports is a stretch of the statement. -/
def Holds (text : String) (n : Node) : Prop :=
  ∀ d ∈ exported? n.shape,
    Covers text d ∧ n.span.start ≤ d.span.start ∧ d.span.stop ≤ n.span.stop

/-- What a construct exports is a stretch of it. -/
theorem Encloses.holds {p : Parse Node} [hp : Construct p] [hheld : ∀ start, Encloses start p]
    {src : Source} {s s' : ParseState} {n : Node} (hs : s.InText src.text)
    (h : p.run src s = .ok n s') : Holds src.text n := by
  have hspan : n.span = ⟨s.token.start, s'.lastStop⟩ := (hp.spans _).span rfl h n rfl
  intro d hd
  rw [hspan]
  exact (hheld _).covers hs hs.start (Nat.le_refl _) h d hd

end Playground.Script.Parse
