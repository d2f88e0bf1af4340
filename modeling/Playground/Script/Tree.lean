import Playground.Script.Operator

/-!
# The syntax tree

A program is a tree of nodes.  `Shape` lists the forms of syntax once, with the children left
open; a `Node` is a shape whose children are nodes, together with the bytes of the source it
covers.  Expressions, statements, patterns, types and markup share the one type, so a traversal
is written once: `Shape.mapM` visits the children of any form in source order.
-/

namespace Playground.Script

/-- A half-open range of byte offsets in a source text. -/
structure Span where
  start : Nat
  stop : Nat
deriving DecidableEq, Inhabited, Repr

/-- The span of nodes that no source text stands behind. -/
def Span.none : Span := ⟨0, 0⟩

/-- What a function node stands for. -/
inductive FunctionRole where
  | expression
  | declaration
  /-- a declaration without a body -/
  | signature
  /-- a method without a body -/
  | bodiless
deriving DecidableEq, Inhabited

/-- How a method is reached. -/
inductive MethodKind where
  | constructor | method | getter | setter
deriving DecidableEq, Inhabited

/-- Who may reach a class member. -/
inductive Access where
  | publicAccess | protectedAccess | privateAccess
deriving DecidableEq, Inhabited

/-- The keyword as written. -/
def Access.text : Access → String
  | .publicAccess => "public" | .protectedAccess => "protected" | .privateAccess => "private"

/-- One literal stretch of a template: its text as written, and its value if its escapes are
valid. -/
structure Quasi where
  raw : String
  cooked : Option String
  span : Span
deriving Inhabited

/-- A function with its own `this`. -/
structure Function (α : Type) where
  role : FunctionRole
  isAsync : Bool
  isGenerator : Bool
  declared : Bool
  name : Option α
  typeParams : Option α
  thisParam : Option α
  params : α
  returnType : Option α
  body : Option α
  /-- wrapped in parentheses when printed, as a function called at once -/
  wrapped : Bool

/-- A function without its own `this`. -/
structure Arrow (α : Type) where
  isAsync : Bool
  /-- the body is a single expression, kept as the only statement -/
  concise : Bool
  typeParams : Option α
  params : α
  returnType : Option α
  body : α
  /-- written in parentheses, as a function called at once -/
  wrapped : Bool

/-- A class with its heritage and members. -/
structure Class (α : Type) where
  isExpression : Bool
  decorators : List α
  name : Option α
  typeParams : Option α
  heritage : Option α
  heritageArgs : Option α
  implemented : List α
  members : List α
  bodySpan : Span
  isAbstract : Bool
  declared : Bool

/-- The words that may stand before a class member or a parameter. -/
structure Modifiers where
  access : Option Access := none
  isStatic : Bool := false
  isReadonly : Bool := false
  isAbstract : Bool := false
  isOverride : Bool := false
  isDeclare : Bool := false
  isOptional : Bool := false
  isDefinite : Bool := false
deriving DecidableEq, Inhabited

/-- A method, accessor or constructor of a class. -/
structure Method (α : Type) where
  kind : MethodKind
  decorators : List α
  modifiers : Modifiers
  computed : Bool
  key : α
  value : α

/-- A field of a class; `accessor` fields get a pair of accessors. -/
structure Field (α : Type) where
  isAccessor : Bool
  decorators : List α
  modifiers : Modifiers
  computed : Bool
  key : α
  ascription : Option α
  value : Option α

/-- A formal parameter. -/
structure Param (α : Type) where
  decorators : List α
  modifiers : Modifiers
  target : α
  ascription : Option α
  initial : Option α

/-- The forms of syntax, over an open type of children. -/
inductive Shape (α : Type) where
  -- names
  | reference (name : String)
  | binding (name : String)
  | propertyName (name : String)
  | privateName (name : String)
  -- literals
  | nullLit
  | boolLit (value : Bool)
  | numberLit (value : Float) (raw : Option String)
  | bigIntLit (digits : String)
  | stringLit (value : String) (raw : Option String)
  | regexLit (pattern flags : String)
  | template (quasis : List Quasi) (values : List α)
  | taggedTemplate (tag : α) (typeArgs : Option α) (quasi : α)
  -- expressions
  | thisExpr
  | superExpr
  | metaProperty (owner name : String)
  | arrayLit (elements : List α)
  | hole
  | objectLit (properties : List α)
  | property (kind : MethodKind) (isMethod computed shorthand : Bool) (key value : α)
  | spread (argument : α)
  | function (f : Function α)
  | arrow (f : Arrow α)
  | classDef (c : Class α)
  | unary (op : UnaryOp) (argument : α)
  | update (op : UpdateOp) (leading : Bool) (target : α)
  | binary (op : BinaryOp) (left right : α)
  | logical (op : LogicalOp) (left right : α)
  | conditional (test yes no : α)
  | assign (op : AssignOp) (target value : α)
  | sequence (parts : List α)
  | call (callee : α) (typeArgs : Option α) (args : List α) (optional pure : Bool)
  | newExpr (callee : α) (typeArgs : Option α) (args : List α) (pure : Bool)
  | member (object : α) (name : String) (optional : Bool)
  | index (object key : α) (optional : Bool)
  | privateMember (object : α) (name : String) (optional : Bool)
  | chain (inner : α)
  | privateIn (name : String) (right : α)
  | importCall (phase : Option String) (source : α) (options : Option α)
  | await (argument : α)
  | yieldExpr (delegate : Bool) (argument : Option α)
  | paren (inner : α)
  | asType (inner ascribed : α)
  | satisfiesType (inner ascribed : α)
  | angleCast (ascribed inner : α)
  | nonNull (inner : α)
  | instantiate (inner typeArgs : α)
  -- markup
  | markupElement (name : α) (typeArgs : Option α) (attributes children : List α)
      (closing : Option α)
  | markupFragment (children : List α)
  | markupName (name : String)
  | markupMember (object : α) (name : String)
  | markupNamespaced (space name : String)
  | markupAttribute (name : α) (value : Option α)
  | markupSpread (argument : α)
  | markupContainer (inner : α)
  | markupEmpty
  | markupSpreadChild (inner : α)
  | markupText (value : String)
  -- patterns
  | objectPattern (properties : List α)
  | patternProperty (computed shorthand : Bool) (key value : α)
  | arrayPattern (elements : List α)
  | withDefault (target value : α)
  | rest (target : α) (ascription : Option α)
  -- statements
  | program (hashbang : Option String) (directives body : List α)
  | directive (raw : String)
  | block (body : List α)
  | empty
  | exprStmt (inner : α)
  | ifStmt (test yes : α) (no : Option α)
  | forStmt (setup test step : Option α) (body : α)
  | forIn (left right body : α)
  | forOf (isAwait : Bool) (left right body : α)
  | whileStmt (test body : α)
  | doWhile (body test : α)
  | continueStmt (label : Option String)
  | breakStmt (label : Option String)
  | returnStmt (argument : Option α)
  | withStmt (object body : α)
  | switchStmt (subject : α) (cases : List α)
  | switchCase (test : Option α) (body : List α)
  | labeled (label : String) (body : α)
  | throwStmt (argument : α)
  | tryStmt (attempt : α) (handler finalizer : Option α)
  | catchClause (caught ascription : Option α) (body : α)
  | debuggerStmt
  | varDecl (kind : VarKind) (declared : Bool) (declarators : List α)
  | declarator (target : α) (definite : Bool) (ascription initial : Option α)
  -- functions and classes
  | params (items : List α)
  | param (p : Param α)
  | functionBody (directives body : List α)
  | method (m : Method α)
  | field (f : Field α)
  | staticBlock (body : List α)
  | decorator (inner : α)
  -- modules
  | importDecl (phase : Option String) (typeOnly : Bool) (specifiers : Option (List α))
      (source : α) (attributes : Option α)
  | importDefault (name : α)
  | importNamespace (name : α)
  | importNamed (imported name : α) (typeOnly : Bool)
  | exportNamed (typeOnly : Bool) (declaration : Option α) (specifiers : List α)
      (source attributes : Option α)
  | exportSpecifier (name exported : α) (typeOnly : Bool)
  | exportDefault (declaration : α)
  | exportAll (typeOnly : Bool) (exported : Option α) (source : α) (attributes : Option α)
  | importAttributes (keyword : String) (entries : List α)
  | importAttribute (key value : α)
  -- types
  | typeKeyword (name : String)
  | typeThis
  | typeReference (name : α) (typeArgs : Option α)
  | qualified (left : α) (name : String)
  | typeArguments (items : List α)
  | typeParameters (items : List α)
  | typeParameter (name : String) (isConst isIn isOut : Bool) (bound default : Option α)
  | typeArray (element : α)
  | typeTuple (elements : List α)
  | tupleNamed (label : String) (optional : Bool) (element : α)
  | typeMarked (inner : α) (mark : String)
  | typeRest (inner : α)
  | typeUnion (items : List α)
  | typeIntersection (items : List α)
  | typeFunction (typeParams thisParam : Option α) (formals result : α)
  | typeConstructor (isAbstract : Bool) (typeParams : Option α) (formals result : α)
  | typeConditional (subject bound yes no : α)
  | typeInfer (introduced : α)
  | typeParen (inner : α)
  | typeOperator (word : String) (inner : α)
  | typeIndexed (object key : α)
  | typeMapped (readonlyMark optionalMark : Option String) (key : String)
      (constraint : α) (rename value : Option α)
  | typeLiteral (inner : α)
  | typeTemplate (quasis : List Quasi) (items : List α)
  | typeObject (members : List α)
  | typeQuery (name : α) (typeArgs : Option α)
  | typeImport (source : α) (options qualifier typeArgs : Option α)
  | typePredicate (asserts : Bool) (subject : α) (ascribed : Option α)
  | propertySignature (isReadonly optional computed : Bool) (key : α) (ascription : Option α)
  | methodSignature (kind : MethodKind) (optional computed : Bool) (key : α)
      (typeParams thisParam : Option α) (formals : α) (result : Option α)
  | callSignature (typeParams thisParam : Option α) (formals : α) (result : Option α)
  | constructSignature (typeParams : Option α) (formals : α) (result : Option α)
  | indexSignature (modifiers : Modifiers) (formals : List α) (ascription : α)
  -- typed declarations
  | typeAlias (declared : Bool) (name : α) (typeParams : Option α) (value : α)
  | interface (declared : Bool) (name : α) (typeParams : Option α) (bases members : List α)
  | heritage (inner : α) (typeArgs : Option α)
  | enumDecl (isConst declared : Bool) (name : α) (members : List α)
  | enumMember (computed : Bool) (key : α) (initial : Option α)
  | moduleDecl (keyword : String) (declared : Bool) (name : α) (body : Option α)
  | moduleBlock (directives body : List α)
  | importEquals (typeOnly : Bool) (name : α) (target : α)
  | externalModule (source : α)
  | exportAssign (inner : α)
  | exportAsNamespace (name : String)

/-- A form of syntax whose children are nodes, with the bytes it covers. -/
inductive Node where
  | mk (span : Span) (shape : Shape Node)

namespace Node

/-- The bytes of the source the node covers. -/
def span : Node → Span
  | mk s _ => s

/-- The form of syntax of the node. -/
def shape : Node → Shape Node
  | mk _ s => s

/-- A node that no source text stands behind. -/
def made (shape : Shape Node) : Node := mk Span.none shape

/-- The same node over another form of syntax. -/
def withShape (n : Node) (shape : Shape Node) : Node := mk n.span shape

instance : Inhabited Node := ⟨mk Span.none .empty⟩

end Node

end Playground.Script
