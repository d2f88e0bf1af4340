import Playground.Proofs.Script.Reading
import Playground.Script.Parse.Expression

/-!
# The reach of expressions

Every kind of expression is a construct, if those that nest in it are.

* `Grammar.Lawful` — what the constructs that nest have to be;
* the instances follow the grammar, from literals to sequences.
-/

namespace Playground.Script.Parse

set_option synthInstance.maxSize 2000

/-- What the constructs that nest have to be for those built from them to be constructs too. -/
class Grammar.Lawful (g : Grammar) : Prop where
  expression : Construct g.expression
  assignment : Construct g.assignment
  unary : Construct g.unary
  leftHand : Construct g.leftHand
  markup : ∀ inChild, Construct (g.markup inChild)
  classTakes : ∀ start decorators isExpression,
    Takes (g.classAfter start decorators isExpression)
  classSpans : ∀ k start decorators isExpression,
    Spans k start (g.classAfter start decorators isExpression)

attribute [instance] Grammar.Lawful.expression Grammar.Lawful.assignment Grammar.Lawful.unary
  Grammar.Lawful.leftHand Grammar.Lawful.markup Grammar.Lawful.classTakes
  Grammar.Lawful.classSpans

variable (g : Grammar) [g.Lawful]

/-! ### Scanning in place -/

instance : Keeps pass where
  lastStop h := by
    cases h
    unfold Cursor.pass
    split <;> rfl

instance (n : Nat) : Keeps (skip n) := by
  induction n with
  | zero => unfold skip; infer_instance
  | succ n ih => unfold skip; infer_instance

instance : Keeps rewind where
  lastStop h := by cases h; rfl

instance (kind : TokenKind) (name : String) (onNewLine escaped : Bool) (value : String)
    (cooked : Option String) : Keeps (setToken kind name onNewLine escaped value cooked) where
  lastStop h := by cases h; rfl

instance (marks : List String) : Looks (firstMark marks) := by
  induction marks with
  | nil => unfold firstMark; infer_instance
  | cons mark marks ih => unfold firstMark continuesWith; infer_instance

instance : Keeps joinRightAngle := by unfold joinRightAngle; infer_instance
instance : Keeps splitRightAngle := by unfold splitRightAngle; infer_instance

/-! ### Literals -/

instance : Construct patternLiteral where
  takes := by unfold patternLiteral; infer_instance
  spans t := by unfold patternLiteral; infer_instance

instance (item : Parse Node) (tagged : Bool) : Takes (templateParts item tagged) := by
  unfold templateParts; infer_instance

instance (tagged : Bool) : Construct (templateLiteral g tagged) where
  takes := by unfold templateLiteral; infer_instance
  spans t := by unfold templateLiteral; infer_instance

instance : Construct (arrayLiteral g) where
  takes := by unfold arrayLiteral; infer_instance
  spans t := by unfold arrayLiteral; infer_instance

instance : Construct (objectLiteral g) where
  takes := by unfold objectLiteral; infer_instance
  spans t := by
    unfold objectLiteral
    refine @Spans.token _ _ _ _ _ ?_
    repeat' first | infer_instance | refine Spans.onward fun _ => ?_ | split

/-! ### Functions, classes and markup -/

instance (start : Nat) (isExpression nameless isAsync declared : Bool) :
    Takes (function g start isExpression nameless isAsync declared) := by
  unfold function; infer_instance

instance (k : Standing) (start : Nat) (isExpression nameless isAsync declared : Bool) :
    Spans k start (function g start isExpression nameless isAsync declared) := by
  unfold function; infer_instance

instance (start : Nat) (decorators : List Node) (isExpression isAbstract declared : Bool) :
    Takes (classFrom g start decorators isExpression isAbstract declared) := by
  unfold classFrom; infer_instance

instance (k : Standing) (start : Nat) (decorators : List Node)
    (isExpression isAbstract declared : Bool) :
    Spans k start (classFrom g start decorators isExpression isAbstract declared) := by
  unfold classFrom; infer_instance

instance (inChild : Bool) : Construct (markup g inChild) where
  takes := by unfold markup; infer_instance
  spans t := by
    unfold markup
    refine @Spans.token _ _ _ _ _ ?_
    repeat' first | infer_instance | refine Spans.onward fun _ => ?_

/-! ### Primary expressions -/

instance : Construct (importExpression g) where
  takes := by unfold importExpression; infer_instance
  spans t := by
    unfold importExpression
    refine @Spans.token _ _ _ _ _ ?_
    repeat' first | infer_instance | refine Spans.onward fun _ => ?_ | split

instance : Construct (parenthesized g) where
  takes := by unfold parenthesized; infer_instance
  spans t := by
    unfold parenthesized
    refine @Spans.token _ _ _ _ _ ?_
    repeat' first | infer_instance | refine Spans.onward fun _ => ?_ | split

instance (n : Nat) : Construct (newExpression g n) where
  takes := by cases n <;> unfold newExpression <;> infer_instance
  spans t := by
    cases n <;> unfold newExpression
    · infer_instance
    · refine @Spans.token _ _ _ _ _ ?_
      repeat' first | infer_instance | refine Spans.onward fun _ => ?_ | split

instance (n : Nat) : Construct (primary g n) where
  takes := by cases n <;> unfold primary <;> infer_instance
  spans t := by cases n <;> unfold primary <;> infer_instance

/-! ### Calls and accesses -/

instance (k : Standing) (start : Nat) (object : Node) (optional : Bool) :
    Spans k start (memberRest.dotted start object optional) := by
  unfold memberRest.dotted; infer_instance

instance (k : Standing) (start : Nat) (object : Node) (optional : Bool) :
    Spans k start (memberRest.indexed g start object optional) := by
  unfold memberRest.indexed; infer_instance

instance : LooksIfNone (expressionTypeArguments g) := by
  unfold expressionTypeArguments
  refine LooksIfNone.onward fun d => ?_
  split
  · infer_instance
  · exact LooksIfNone.attempt

/-- The accesses behind an expression reach from its start on. -/
instance (start k : Nat) (n : Node) (chained : Bool) :
    Spans (.behind (some n)) start (memberRest g start k n chained) := by
  induction k generalizing n chained with
  | zero => unfold memberRest; infer_instance
  | succ k ih =>
    unfold memberRest
    refine Spans.keeping fun t => ?_
    repeat' first
      | infer_instance
      | refine Spans.trying (fun _ => ?_) ?_
      | refine Spans.keeping fun _ => ?_
      | refine Spans.onward fun _ => ?_
      | split

instance (n start : Nat) : Takes (memberOrHigher g n start) := by
  cases n <;> unfold memberOrHigher <;> infer_instance

instance (t : Token) (n : Nat) : Spans (.at t) t.start (memberOrHigher g n t.start) := by
  cases n with
  | zero => unfold memberOrHigher; infer_instance
  | succ n => unfold memberOrHigher; infer_instance

/-- The calls and accesses behind an expression reach from its start on. -/
instance (start k : Nat) (n : Node) (chained : Bool) :
    Spans (.behind (some n)) start (callRest g start k n chained) := by
  induction k generalizing n chained with
  | zero => unfold callRest; infer_instance
  | succ k ih =>
    unfold callRest
    refine Spans.keeping fun room => Spans.aboutPair fun x chained => Spans.eating ?_ ?_
    · repeat' first | infer_instance | refine Spans.onward fun _ => ?_ | split
    · simp only [Bool.false_eq_true, if_false, Bool.false_and, Bool.or_false]
      infer_instance

instance : Construct (leftHand g) where
  takes := by unfold leftHand; infer_instance
  spans t := by
    unfold leftHand
    refine @Spans.token _ _ _ _ _ ?_
    refine Spans.looking fun room => Spans.aboutPair fun x chained => ?_
    refine Spans.keeping fun room => Spans.aboutPair fun x chained => ?_
    dsimp only
    repeat' first | infer_instance | exact Spans.reshaped rfl | split

/-! ### Operators -/

instance : Construct (update g) where
  takes := by
    unfold update
    refine Takes.onward fun t => ?_
    split <;> infer_instance
  spans t := by
    unfold update
    refine @Spans.token _ _ _ _ _ ?_
    repeat' first
      | infer_instance
      | refine Spans.about fun x => ?_
      | refine Spans.keeping fun _ => ?_
      | refine Spans.looking fun _ => ?_
      | refine Spans.onward fun _ => ?_
      | split

instance : Looks atAwait := by unfold atAwait; infer_instance

instance : Construct (unary g) where
  takes := by
    unfold unary
    refine Takes.onward fun t => ?_
    split <;> infer_instance
  spans t := by
    unfold unary
    refine @Spans.token _ _ _ _ _ ?_
    repeat' first
      | infer_instance
      | refine Spans.looking fun _ => ?_
      | refine Spans.onward fun _ => ?_
      | split

theorem span_markPure (k : Nat) (n : Node) : (markPure k n).span = n.span := by
  cases k with
  | zero => rfl
  | succ k => unfold markPure; split <;> rfl

instance : Keeps atInfix := by
  unfold atInfix
  repeat' first | infer_instance | refine @Keeps.bind _ _ _ _ ?_ fun _ => ?_ | split

/-- The operators behind an operand reach from its start on. -/
instance (n start rank : Nat) (x : Node) :
    Spans (.behind (some x)) start (binaryRest g n start rank x) := by
  induction n generalizing x with
  | zero => unfold binaryRest; infer_instance
  | succ n ih =>
    unfold binaryRest
    refine Spans.keeping fun op => ?_
    repeat' first
      | infer_instance
      | refine Spans.about fun x => ?_
      | refine Spans.onward fun _ => ?_
      | split

instance (n rank : Nat) : Construct (binary g n rank) where
  takes := by cases n <;> unfold binary <;> infer_instance
  spans t := by
    cases n <;> unfold binary
    · infer_instance
    · refine @Spans.token _ _ _ _ _ (Spans.looking fun c => Spans.either ?_ ?_)
      · repeat' first | infer_instance | refine Spans.onward fun _ => ?_ | split
      · refine Spans.looking fun s => Spans.about fun x => ?_
        have hspan : (if s.trivia.sawPure then markPure (x.span.stop + 1) x else x).span =
            x.span := by
          split
          · exact span_markPure _ _
          · rfl
        exact @Spans.about _ _ _ _ _ _ (Spans.reshaped hspan) fun first => inferInstance

/-! ### Arrow functions -/

instance (k : Standing) (start : Nat) (head : ArrowHead) :
    Spans k start (arrowFrom g start head) := by
  unfold arrowFrom
  refine Spans.onward fun body => ?_
  infer_instance

instance (k : Standing) (start : Nat) (isAsync : Bool) (name : String) (span : Span) :
    Spans k start (arrowOfName g start isAsync name span) := by
  unfold arrowOfName; infer_instance

instance (place : ParamPlace) : Takes (parameters g place) := by unfold parameters; infer_instance

instance : Takes (arrowHead g) := by unfold arrowHead; infer_instance

instance (mayReturnType : Bool) : TakesIfSome (arrow? g mayReturnType) := by
  unfold arrow?
  refine TakesIfSome.onward fun t => TakesIfSome.onward fun named => ?_
  refine @TakesIfSome.ite _ _ _ _ _ inferInstance (@TakesIfSome.ite _ _ _ _ _ inferInstance ?_)
  refine TakesIfSome.onward fun guess => ?_
  cases guess <;> infer_instance

instance : Looks atAsyncName := by unfold atAsyncName; infer_instance
instance : Looks guessArrow := by unfold guessArrow; infer_instance

instance (mayReturnType : Bool) : LooksIfNone (arrow? g mayReturnType) := by
  unfold arrow?
  refine LooksIfNone.onward fun t => LooksIfNone.onward fun named => ?_
  refine @LooksIfNone.ite _ _ _ _ _ inferInstance (@LooksIfNone.ite _ _ _ _ _ inferInstance ?_)
  refine LooksIfNone.onward fun guess => ?_
  cases guess <;> infer_instance

instance (t : Token) (mayReturnType : Bool) : Spans (.at t) t.start (arrow? g mayReturnType) := by
  unfold arrow?
  refine @Spans.token _ _ _ _ _ (Spans.looking fun named => ?_)
  refine Spans.either inferInstance (Spans.either inferInstance ?_)
  refine Spans.looking fun guess => ?_
  repeat' first
    | infer_instance
    | refine Spans.about fun x => ?_
    | refine Spans.onward fun _ => ?_
    | refine @Spans.orBack _ _ _ ?_
    | split

/-! ### Assignments and sequences -/

instance : Looks atYield := by unfold atYield; infer_instance

instance : Keeps atAssign := by
  unfold atAssign
  refine @Keeps.bind _ _ _ _ inferInstance fun _ => ?_
  refine @Keeps.bind _ _ _ _ inferInstance fun t => ?_
  split <;> infer_instance

instance : Construct (yieldExpression g) where
  takes := by unfold yieldExpression; infer_instance
  spans t := by unfold yieldExpression; infer_instance

instance (branch : Parse Node) (mayReturnType : Bool) :
    Construct (assignmentOr g branch mayReturnType) where
  takes := by unfold assignmentOr; infer_instance
  spans t := by
    unfold assignmentOr
    refine @Spans.token _ _ _ _ _ (Spans.looking fun yields => Spans.either inferInstance ?_)
    refine Spans.offering (fun f => inferInstance) ?_
    refine Spans.looking fun room => Spans.about fun x => ?_
    repeat' first
      | infer_instance
      | refine Spans.eating ?_ ?_
      | refine Spans.keeping fun _ => ?_
      | refine Spans.onward fun _ => ?_
      | split

instance : Construct (assignment g) where
  takes := by unfold assignment; infer_instance
  spans t := by unfold assignment; infer_instance

instance : Construct (expression g) where
  takes := by unfold expression; infer_instance
  spans t := by unfold expression; infer_instance

end Playground.Script.Parse
