import Playground.Proofs.Script.Expressions
import Playground.Script.Parse.Program

/-!
# The reach of statements

Every kind of statement is a construct, declarations, imports and exports among them.

* `Grammar.Lawful` holds at every depth, by induction on the depth;
* so the statements of a program are constructs, however deep they nest.
-/

namespace Playground.Script.Parse

set_option synthInstance.maxSize 2000

variable (g : Grammar) [g.Lawful]

/-! ### Checks -/

instance {α : Type} (xs : List α) (check : α → Parse PUnit) [∀ x, Looks (check x)] :
    Looks (xs.forM check) := by
  induction xs with
  | nil => exact Looks.pure _
  | cons x xs ih => exact Looks.bind

instance (kind : VarKind) (declared : Bool) (d : Node) : Looks (checkInitial kind declared d) := by
  unfold checkInitial
  repeat' first | infer_instance | refine @Looks.bind _ _ _ _ inferInstance fun _ => ?_ | split

instance (n : Node) : Looks (checkInitials n) := by
  unfold checkInitials
  split <;> infer_instance

instance (allowed : List String) (cause : String → Cause) (ms : List WrittenModifier) :
    Looks (allowOnly allowed cause ms) := by
  unfold allowOnly
  infer_instance

/-! ### Declarations -/

instance (k : Standing) (start : Nat) (declared : Bool) :
    Spans k start (varBindings g start declared) := by
  unfold varBindings; infer_instance

instance (start : Nat) (declared : Bool) : Takes (varBindings g start declared) := by
  unfold varBindings; infer_instance

/-- The end of a statement stretches the declaration in it. -/
instance (start : Nat) (n : Node) : Spans (.behind (some n)) start (ended n) where
  span hs h := by
    unfold ended at h
    obtain ⟨_, t, hend, h⟩ := bind_ok h
    obtain ⟨_, u, hget, h⟩ := bind_ok h
    cases hget
    cases h
    rintro _ ⟨⟩
    rw [Node.span, hs n rfl]

instance (start : Nat) (declared : Bool) : Takes (typeAlias g start declared) := by
  unfold typeAlias; infer_instance

instance (k : Standing) (start : Nat) (declared : Bool) :
    Spans k start (typeAlias g start declared) := by
  unfold typeAlias; infer_instance

instance (start : Nat) (declared : Bool) : Takes (interface g start declared) := by
  unfold interface; infer_instance

instance (k : Standing) (start : Nat) (declared : Bool) :
    Spans k start (interface g start declared) := by
  unfold interface; infer_instance

instance (start : Nat) (declared : Bool) : Takes (enumDeclaration g start declared) := by
  unfold enumDeclaration; infer_instance

instance (k : Standing) (start : Nat) (declared : Bool) :
    Spans k start (enumDeclaration g start declared) := by
  unfold enumDeclaration; infer_instance

instance (keyword : String) (declared : Bool) (k : Standing) (n start : Nat) :
    Spans k start (namespaceFrom g keyword declared n start) := by
  cases n <;> unfold namespaceFrom <;> infer_instance

instance (start : Nat) (declared : Bool) : Takes (moduleDeclaration g start declared) := by
  unfold moduleDeclaration; infer_instance

instance (k : Standing) (start : Nat) (declared : Bool) :
    Spans k start (moduleDeclaration g start declared) := by
  unfold moduleDeclaration; infer_instance

instance (start : Nat) (typeOnly : Bool) : Takes (importEquals start typeOnly) := by
  unfold importEquals; infer_instance

instance (k : Standing) (start : Nat) (typeOnly : Bool) :
    Spans k start (importEquals start typeOnly) := by
  unfold importEquals; infer_instance

instance (start : Nat) (decorators : List Node) (ms : List WrittenModifier) :
    Takes (declarationForm g start decorators ms) := by
  unfold declarationForm
  dsimp only
  infer_instance

instance (k : Standing) (start : Nat) (decorators : List Node) (ms : List WrittenModifier) :
    Spans k start (declarationForm g start decorators ms) := by
  unfold declarationForm
  dsimp only
  infer_instance

instance (start : Nat) (decorators : List Node) (ms : List WrittenModifier) :
    Takes (declarationAfter g start decorators ms) := by
  unfold declarationAfter
  dsimp only
  infer_instance

instance (k : Standing) (start : Nat) (decorators : List Node) (ms : List WrittenModifier) :
    Spans k start (declarationAfter g start decorators ms) := by
  unfold declarationAfter
  dsimp only
  infer_instance

instance : Construct (typedDeclaration g) where
  takes := by unfold typedDeclaration; infer_instance
  spans t := by unfold typedDeclaration; infer_instance

/-! ### Imports and exports -/

instance (k : Standing) (start : Nat) : Spans k start (importRest start) := by
  unfold importRest
  infer_instance

instance : Construct importDeclaration where
  takes := by unfold importDeclaration; infer_instance
  spans t := by unfold importDeclaration; infer_instance

instance (k : Standing) (start : Nat) (typeOnly : Bool) :
    Spans k start (exportList start typeOnly) := by
  unfold exportList; infer_instance

instance (k : Standing) (start : Nat) (typeOnly : Bool) :
    Spans k start (exportAll start typeOnly) := by
  unfold exportAll; infer_instance

instance (k : Standing) (start : Nat) (decorators : List Node) :
    Spans k start (exportDefault g start decorators) := by
  unfold exportDefault; infer_instance

instance (k : Standing) (start : Nat) (decorators : List Node) :
    Spans k start (exportedDeclaration g start decorators) := by
  unfold exportedDeclaration; infer_instance

instance (k : Standing) (start : Nat) : Spans k start (exportedImport start) := by
  unfold exportedImport; infer_instance

instance (start : Nat) (decorators : List Node) :
    Takes (exportDeclaration g start decorators) := by unfold exportDeclaration; infer_instance

instance (k : Standing) (start : Nat) (decorators : List Node) :
    Spans k start (exportDeclaration g start decorators) := by
  unfold exportDeclaration; infer_instance

/-! ### Statements -/

instance : Construct (block g) where
  takes := by unfold block; infer_instance
  spans t := by unfold block; infer_instance

instance (k : Standing) (start : Nat) (x : Node) : Spans k start (expressionStatement start x) := by
  unfold expressionStatement; infer_instance

instance : Construct (expressionOrLabel g) where
  takes := by unfold expressionOrLabel; infer_instance
  spans t := by
    unfold expressionOrLabel
    refine @Spans.token _ _ _ _ _ ?_
    repeat' first | infer_instance | refine Spans.onward fun _ => ?_ | split

instance (place : Place) : Construct (variableStatement g place) where
  takes := by unfold variableStatement; infer_instance
  spans t := by
    unfold variableStatement
    refine @Spans.token _ _ _ _ _ (Spans.about fun d => ?_)
    repeat' first | infer_instance | refine Spans.keeping fun _ => ?_ | split

instance (place : Place) : Construct (letStatement g place) where
  takes := by unfold letStatement; infer_instance
  spans t := by unfold letStatement; infer_instance

instance : Construct (ifStatement g) where
  takes := by unfold ifStatement; infer_instance
  spans t := by unfold ifStatement; infer_instance

instance : Construct (doStatement g) where
  takes := by unfold doStatement; infer_instance
  spans t := by unfold doStatement; infer_instance

instance : Construct (whileStatement g) where
  takes := by unfold whileStatement; infer_instance
  spans t := by unfold whileStatement; infer_instance

instance (k : Standing) (start : Nat) (setup : Option Node) :
    Spans k start (forRest g start setup) := by
  unfold forRest; infer_instance

instance (k : Standing) (start : Nat) (isAwait : Bool) (left : Node) :
    Spans k start (forOver g start isAwait left) := by
  unfold forOver; infer_instance

instance : Construct (forStatement g) where
  takes := by unfold forStatement; infer_instance
  spans t := by
    unfold forStatement
    refine @Spans.token _ _ _ _ _ ?_
    repeat' first | refine Spans.either ?_ ?_ | infer_instance | refine Spans.onward fun _ => ?_

instance (isBreak : Bool) : Construct (jumpStatement isBreak) where
  takes := by unfold jumpStatement; infer_instance
  spans t := by unfold jumpStatement; infer_instance

instance : Construct (returnStatement g) where
  takes := by unfold returnStatement; infer_instance
  spans t := by unfold returnStatement; infer_instance

instance : Construct (throwStatement g) where
  takes := by unfold throwStatement; infer_instance
  spans t := by unfold throwStatement; infer_instance

instance : Construct (withStatement g) where
  takes := by unfold withStatement; infer_instance
  spans t := by unfold withStatement; infer_instance

instance : Construct (switchStatement g) where
  takes := by unfold switchStatement; infer_instance
  spans t := by unfold switchStatement; infer_instance

instance : Construct (tryStatement g) where
  takes := by unfold tryStatement; infer_instance
  spans t := by unfold tryStatement; infer_instance

instance (place : Place) (isAsync : Bool) : Construct (functionStatement g place isAsync) where
  takes := by unfold functionStatement; infer_instance
  spans t := by
    unfold functionStatement
    refine @Spans.token _ _ _ _ _ ?_
    repeat' first
      | infer_instance
      | refine Spans.about fun _ => ?_
      | refine Spans.keeping fun _ => ?_
      | refine Spans.onward fun _ => ?_
      | split

instance (place : Place) : Construct (classStatement g place) where
  takes := by unfold classStatement; infer_instance
  spans t := by unfold classStatement; infer_instance

instance : Construct (decoratedStatement g) where
  takes := by unfold decoratedStatement; infer_instance
  spans t := by unfold decoratedStatement; infer_instance

instance : Looks atAwaitUsing := by unfold atAwaitUsing; infer_instance

instance : Looks atTypedDeclaration := by unfold atTypedDeclaration; infer_instance

instance (place : Place) : Construct (statement g place) where
  takes := by
    unfold statement
    refine Takes.onward fun t => ?_
    repeat' first | refine Takes.either ?_ ?_ | infer_instance
  spans t := by
    unfold statement
    refine @Spans.token _ _ _ _ _ ?_
    repeat' first | refine Spans.either ?_ ?_ | infer_instance

/-! ### Programs -/

omit [g.Lawful] in
/-- However deep constructs nest, they are constructs. -/
instance (n : Nat) : (Grammar.level n).Lawful := by
  induction n with
  | zero =>
    exact
      { expression := inferInstanceAs (Construct (stop _))
        assignment := inferInstanceAs (Construct (stop _))
        unary := inferInstanceAs (Construct (stop _))
        leftHand := inferInstanceAs (Construct (stop _))
        markup := fun _ => inferInstanceAs (Construct (stop _))
        classTakes := fun _ _ _ => inferInstanceAs (Takes (stop _))
        classSpans := fun k start _ _ => inferInstanceAs (Spans k start (stop _)) }
  | succ n ih =>
    let g := Grammar.level n
    exact
      { expression := inferInstanceAs (Construct (delay fun _ => Parse.expression g))
        assignment := inferInstanceAs (Construct (delay fun _ => Parse.assignment g))
        unary := inferInstanceAs (Construct (delay fun _ => Parse.unary g))
        leftHand := inferInstanceAs (Construct (delay fun _ => Parse.leftHand g))
        markup := fun inChild => inferInstanceAs (Construct (delay fun _ => Parse.markup g inChild))
        classTakes := fun start decorators isExpression =>
          inferInstanceAs (Takes (delay fun _ =>
            classFrom g start decorators isExpression false false))
        classSpans := fun k start decorators isExpression =>
          inferInstanceAs (Spans k start (delay fun _ =>
            classFrom g start decorators isExpression false false)) }

omit [g.Lawful] in
instance (n : Nat) (place : Place) : Construct ((Grammar.level n).statement place) := by
  cases n with
  | zero => exact inferInstanceAs (Construct (stop _))
  | succ n => exact inferInstanceAs (Construct (delay fun _ => statement (Grammar.level n) place))

end Playground.Script.Parse
