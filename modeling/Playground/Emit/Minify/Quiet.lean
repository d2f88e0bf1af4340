import Playground.Emit.Minify.Value

/-!
# What does nothing that can be seen

`isQuiet` says that evaluating an expression does nothing that can be seen, so that it may be
left out or evaluated at another time; `same` that two expressions are written the same.
-/

namespace Playground.Emit.Minify

open Playground.Script

/-! ### Functions that every program has -/

/-- The functions of every program that do nothing but give a value. -/
def plainFunctions : List String :=
  ["decodeURI", "decodeURIComponent", "encodeURI", "encodeURIComponent", "escape", "isFinite",
    "isNaN", "parseFloat", "parseInt"]

/-- What makes a value of its own, with `new` or without. -/
def plainMakers : List String :=
  ["Boolean", "Date", "Error", "EvalError", "Number", "Object", "RangeError", "ReferenceError",
    "String", "SyntaxError", "TypeError", "URIError"]

/-- What makes a collection, with `new`. -/
def collectionMakers : List String := ["ArrayBuffer", "Map", "Set", "WeakMap", "WeakSet"]

/-- The functions of an object of every program that do nothing but give a value. -/
def plainMethods : String → List String
  | "Array" => ["isArray", "of"]
  | "Math" =>
    ["abs", "acos", "acosh", "asin", "asinh", "atan", "atan2", "atanh", "cbrt", "ceil", "clz32",
      "cos", "cosh", "exp", "expm1", "floor", "fround", "hypot", "imul", "log", "log10", "log1p",
      "log2", "max", "min", "pow", "random", "round", "sign", "sin", "sinh", "sqrt", "tan", "tanh",
      "trunc"]
  | "Number" => ["isFinite", "isInteger", "isNaN", "isSafeInteger", "parseFloat", "parseInt"]
  | "Object" =>
    ["create", "entries", "getOwnPropertyNames", "getOwnPropertySymbols", "getPrototypeOf",
      "is", "isExtensible", "isFrozen", "isSealed", "keys", "values"]
  | "String" => ["fromCharCode", "fromCodePoint", "raw"]
  | "Date" => ["UTC", "now", "parse"]
  | "Symbol" => ["for", "keyFor"]
  | _ => []

/-- The name of a function of every program; a name that the program declares is none. -/
def globalName? (s : Scopes) (n : Node) : Option String :=
  match n.shape with
  | .reference name => if s.binds name then none else some name
  | _ => none

/-- Whether calling something does nothing but give a value. -/
def isPlainCallee (s : Scopes) (callee : Node) : Bool :=
  match callee.shape with
  | .reference _ =>
    (globalName? s callee).any fun name =>
      plainFunctions.contains name || plainMakers.contains name || name == "Symbol"
  | .member object method false =>
    (globalName? s object).any fun name => (plainMethods name).contains method
  | _ => false

/-- Whether making something new does nothing but give a value. -/
def isPlainMaker (s : Scopes) (callee : Node) : Bool :=
  (globalName? s callee).any fun name =>
    plainMakers.contains name || collectionMakers.contains name

/-! ### Expressions -/

/-- Whether an operation on two values only does what its operands do. -/
def isPlainOperation (op : BinaryOp) (a b : Node) : Bool :=
  let isWhole (k : Option Kind) : Bool := k = some .bigInt
  match op with
  | .eq | .ne | .strictEq | .strictNe | .lt | .le | .gt | .ge => true
  | .isIn | .instanceof => false
  | .add =>
    match primitiveKind? a, primitiveKind? b with
    | some x, some y => x == .text || y == .text || (x == .bigInt) == (y == .bigInt)
    | _, _ => false
  | _ =>
    (primitiveKind? a).isSome && (primitiveKind? b).isSome &&
      isWhole (primitiveKind? a) == isWhole (primitiveKind? b)

/-- Whether evaluating an expression does nothing that can be seen, some levels down; a variable
that is declared nowhere may be missing. -/
def isQuietTo : Nat → Scopes → Node → Bool
  | 0, _, _ => false
  | k + 1, s, n =>
    match n.shape with
    | .nullLit | .boolLit _ | .numberLit .. | .bigIntLit _ | .stringLit .. | .regexLit ..
    | .thisExpr | .metaProperty .. | .hole | .function _ | .arrow _ => true
    | .reference name => s.binds name
    | .unary op argument =>
      match op with
      | .delete => false
      | .not | .void => isQuietTo k s argument
      | .typeof =>
        match argument.shape with
        | .reference _ => true
        | _ => isQuietTo k s argument
      | .plus =>
        (primitiveKind? argument).isSome && primitiveKind? argument != some .bigInt &&
          isQuietTo k s argument
      | .minus | .bitNot => (primitiveKind? argument).isSome && isQuietTo k s argument
    | .binary op a b => isPlainOperation op a b && isQuietTo k s a && isQuietTo k s b
    | .logical _ a b => isQuietTo k s a && isQuietTo k s b
    | .conditional a b c => isQuietTo k s a && isQuietTo k s b && isQuietTo k s c
    | .sequence parts => parts.all (isQuietTo k s)
    | .arrayLit elements => elements.all (isQuietTo k s)
    | .objectLit properties => properties.all (isQuietTo k s)
    | .spread argument =>
      match argument.shape with
      | .arrayLit _ | .stringLit .. | .template .. => isQuietTo k s argument
      | _ => false
    | .property _ _ computed _ key value =>
      (!computed || (primitiveKind? key).isSome && isQuietTo k s key) && isQuietTo k s value
    | .template _ values => values.all fun v => (primitiveKind? v).isSome && isQuietTo k s v
    | .call callee _ args _ isPure =>
      (isPure || isPlainCallee s callee) && args.all (isQuietTo k s)
    | .newExpr callee _ args isPure =>
      (isPure || isPlainMaker s callee) && args.all (isQuietTo k s)
    | .member object "length" false =>
      match object.shape with
      | .arrayLit _ | .stringLit .. | .template .. => isQuietTo k s object
      | _ => false
    | .classDef c =>
      c.decorators.isEmpty && c.heritage.isNone && c.members.all fun m =>
        match m.shape with
        | .method m => !m.computed && m.decorators.isEmpty
        | .field f =>
          !f.computed && f.decorators.isEmpty &&
            (!f.modifiers.isStatic || f.value.all (isQuietTo k s))
        | .staticBlock body => body.isEmpty
        | _ => false
    | _ => false

/-- Whether evaluating an expression does nothing that can be seen. -/
def isQuiet (s : Scopes) (n : Node) : Bool := isQuietTo n.depth s n

/-- Whether two expressions are written the same, some levels down. -/
def sameTo : Nat → Node → Node → Bool
  | 0, _, _ => false
  | k + 1, a, b =>
    match a.shape, b.shape with
    | .reference x, .reference y => x == y
    | .thisExpr, .thisExpr | .nullLit, .nullLit | .superExpr, .superExpr => true
    | .boolLit x, .boolLit y => x == y
    | .numberLit x _, .numberLit y _ => x == y
    | .bigIntLit x, .bigIntLit y => x == y
    | .stringLit x _, .stringLit y _ => x == y
    | .member x name i, .member y other j => name == other && i == j && sameTo k x y
    | .index x key i, .index y other j => i == j && sameTo k x y && sameTo k key other
    | .privateMember x name i, .privateMember y other j => name == other && i == j && sameTo k x y
    | .chain x, .chain y => sameTo k x y
    | .unary op x, .unary other y => op == other && sameTo k x y
    | .binary op x y, .binary other v w => op == other && sameTo k x v && sameTo k y w
    | .logical op x y, .logical other v w => op == other && sameTo k x v && sameTo k y w
    | .conditional x y z, .conditional u v w => sameTo k x u && sameTo k y v && sameTo k z w
    | .assign op x y, .assign other v w => op == other && sameTo k x v && sameTo k y w
    | .sequence xs, .sequence ys | .arrayLit xs, .arrayLit ys =>
      xs.length == ys.length && (xs.zip ys).all fun (x, y) => sameTo k x y
    | .template qs xs, .template rs ys =>
      qs.map (·.raw) == rs.map (·.raw) && xs.length == ys.length &&
        (xs.zip ys).all fun (x, y) => sameTo k x y
    | .spread x, .spread y => sameTo k x y
    | .call f none xs i _, .call g none ys j _ =>
      i == j && sameTo k f g && xs.length == ys.length &&
        (xs.zip ys).all fun (x, y) => sameTo k x y
    | .newExpr f none xs _, .newExpr g none ys _ =>
      sameTo k f g && xs.length == ys.length && (xs.zip ys).all fun (x, y) => sameTo k x y
    | _, _ => false

/-- Whether two expressions are written the same. -/
def same (a b : Node) : Bool := sameTo a.depth a b

/-- Whether an expression is a function that does nothing. -/
def isIdle (n : Node) : Bool :=
  let empty (params body : Node) : Bool :=
    match params.shape, body.shape with
    | .params [], .functionBody [] [] => true
    | _, _ => false
  match n.shape with
  | .function f => (f.body.map (empty f.params)).getD false
  | .arrow f => empty f.params f.body
  | _ => false

/-- Expressions one after another. -/
def sequenceOf (parts : List Node) : Option Node :=
  let flat := parts.flatMap fun p =>
    match p.shape with
    | .sequence inner => inner
    | _ => [p]
  match flat with
  | [] => none
  | [only] => some only
  | _ => some (Build.seq flat)

/-- Expressions as one expression. -/
def inOrder (parts : List Node) : Node := (sequenceOf parts).getD Build.void0

end Playground.Emit.Minify
