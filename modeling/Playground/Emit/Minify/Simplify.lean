import Playground.Emit.Minify.Calculate
import Playground.Emit.Minify.Unused
import Playground.Script.Letter

/-!
# Shorter expressions

`Minify.expression` gives a shorter form of an expression whose parts are short already: what is
known is computed, negations move into comparisons, choices become logical operators, templates
are filled in, and keys lose their quotes.
-/

namespace Playground.Emit.Minify

open Playground.Script

/-! ### Templates -/

/-- A text as it is written inside of a template. -/
def templateEscaped : List Char → List Char
  | [] => []
  | '\\' :: cs => '\\' :: '\\' :: templateEscaped cs
  | '\x60' :: cs => '\\' :: '\x60' :: templateEscaped cs
  | '$' :: '\x7b' :: cs => '\\' :: '$' :: '\x7b' :: templateEscaped cs
  | c :: cs => c :: templateEscaped cs

/-- A stretch of a template that shows a text. -/
def quasiOf (text : String) : Quasi :=
  { raw := String.ofList (templateEscaped text.toList), cooked := some text, span := Span.none }

/-- Two stretches of a template as one. -/
def Quasi.followedBy (q r : Quasi) : Quasi :=
  { q with
    raw := q.raw ++ r.raw
    cooked := do return (← q.cooked) ++ (← r.cooked) }

/-- The stretches and holes of a template from a stretch on, without holes whose value is
known. -/
def filled (q : Quasi) : List Quasi → List Node → List Quasi × List Node
  | r :: qs, v :: vs =>
    match textOf? v with
    | some text => filled (Quasi.followedBy (Quasi.followedBy q (quasiOf text)) r) qs vs
    | none =>
      let (qs, vs) := filled r qs vs
      (q :: qs, v :: vs)
  | qs, vs => (q :: qs, vs)

/-- A template; one without holes is a text. -/
def template (n : Node) (quasis : List Quasi) (values : List Node) : Node :=
  match quasis with
  | [] => n
  | q :: qs =>
    match filled q qs values with
    | ([only], []) => (only.cooked.map Build.str).getD n
    | (qs, vs) => n.withShape (.template qs vs)

/-- The stretches and holes of one template behind those of another. -/
def templatesJoined (qs rs : List Quasi) : List Quasi :=
  match qs.getLast?, rs with
  | some q, r :: rest => qs.dropLast ++ Quasi.followedBy q r :: rest
  | _, _ => qs ++ rs

/-- The sum of a template and another template or a text. -/
def templateSum? (a b : Node) : Option Node :=
  match a.shape, b.shape with
  | .template qs xs, .template rs ys =>
    some (.made (.template (templatesJoined qs rs) (xs ++ ys)))
  | .template qs xs, _ => do
    return .made (.template (templatesJoined qs [quasiOf (← textOf? b)]) xs)
  | _, .template rs ys => do
    return .made (.template (templatesJoined [quasiOf (← textOf? a)] rs) ys)
  | _, _ => none

/-! ### Operators -/

/-- The value of a sum, if it is known. -/
def knownSum? (a b : Node) : Option Node :=
  if primitiveKind? a = some .text || primitiveKind? b = some .text then do
    return Build.str ((← textOf? a) ++ (← textOf? b))
  else do return ofConstant (← Constant.sum? (← constant? a) (← constant? b))

/-- What can be added behind a sum by adding it to the last summand, if that is a text. -/
def lastSum? (n a b : Node) : Option Node :=
  match a.shape with
  | .binary .add c d =>
    if kindOf? d = some .text then
      ((do return Build.str ((← textOf? d) ++ (← textOf? b))).or (templateSum? d b)).map
        fun sum => n.withShape (.binary .add c sum)
    else none
  | _ => none

/-- The sum of two expressions. -/
def add (n a b : Node) : Node :=
  (((knownSum? a b).or (templateSum? a b)).or (lastSum? n a b)).getD n

/-- Whether an expression asks for the kind of a value. -/
def asksKind (n : Node) : Bool :=
  match n.shape with
  | .unary .typeof _ => true
  | _ => false

/-- Whether an expression is the given text. -/
def isText (s : String) (n : Node) : Bool :=
  match n.shape with
  | .stringLit t _ => s == t
  | _ => false

/-- Whether an expression is written as a literal. -/
def isLiteral (n : Node) : Bool :=
  match n.shape with
  | .nullLit | .boolLit _ | .numberLit .. | .bigIntLit _ | .stringLit .. | .regexLit .. => true
  | _ => false

/-- The value of an operation, if it is known and worth it. -/
def computed (n : Node) (op : BinaryOp) (a b : Node) : Node :=
  match constant? a, constant? b with
  | some x, some y => ((Constant.calculated? op x y).map ofConstant).getD n
  | _, _ => n

/-- Whether two expressions are equal, if their kinds say so. -/
def equalByKind? (isStrict : Bool) (a b : Node) : Option Bool :=
  let isMissing (k : Kind) : Bool := k == .null || k == .undefined
  match kindOf? a, kindOf? b with
  | some x, some y =>
    if !isQuiet [] a || !isQuiet [] b then none
    else if isStrict then if x = y then none else some false
    else if isMissing x || isMissing y then some (isMissing x && isMissing y)
    else none
  | _, _ => none

/-- A comparison of a truth value with one that is known. -/
def comparedTruth? (isEqual : Bool) (a b : Node) : Option Node :=
  match b.shape with
  | .boolLit v => if isBoolean a then some (if v == isEqual then a else negate a) else none
  | _ => none

/-- A comparison for being equal or not; what is compared with stands behind. -/
def comparison (n : Node) (op : BinaryOp) (a b : Node) : Node :=
  let (a, b) :=
    if (isLiteral a || (constant? a).isSome) && !isLiteral b && (constant? b).isNone then (b, a)
    else (a, b)
  let isEqual := op == .strictEq || op == .eq
  let isStrict := op == .strictEq || op == .strictNe
  let isPrimitive : Bool := (kindOf? a).isSome && kindOf? a != some .object
  -- the names of all other kinds come before this letter
  if asksKind a && isText "undefined" b then
    n.withShape (.binary (if isEqual then .gt else .lt) a (Build.str "u"))
  else
    match equalByKind? isStrict a b, constant? a, constant? b with
    | some equal, _, _ => Build.bool (equal == isEqual)
    | none, some _, some _ => computed (n.withShape (.binary op a b)) op a b
    | none, _, _ =>
      match comparedTruth? isEqual a b with
      | some truth => truth
      | none =>
        if isStrict && isPrimitive && kindOf? a = kindOf? b then
          n.withShape (.binary (if isEqual then .eq else .ne) a b)
        else if !isStrict && isUndefined b then n.withShape (.binary op a Build.null)
        else n.withShape (.binary op a b)

/-- A bitwise operation; it groups to the left, and what is known is put together. -/
def bitwise (n : Node) (op : BinaryOp) (a b : Node) : Node :=
  let known? (x y : Node) : Option Node := do
    return ofConstant (← Constant.calculated? op (← constant? x) (← constant? y))
  match known? a b with
  | some value => value
  | none =>
    match a.shape, b.shape with
    | _, .binary inner c d =>
      if inner == op then n.withShape (.binary op (b.withShape (.binary op a c)) d) else n
    | .binary inner c d, _ =>
      if inner != op then n
      else
        match known? c b, known? d b with
        | some value, _ => n.withShape (.binary op d value)
        | none, some value => n.withShape (.binary op c value)
        | none, none => n
    | _, _ => n

/-- Whether a value is made by what every program is provided with, if that is known. -/
def instanceOf (s : Scopes) (n a b : Node) : Node :=
  match globalName? s b, kindOf? a with
  | some name, some kind =>
    if ["Object", "Number", "Boolean", "String"].contains name && isQuiet s a then
      Build.bool (name == "Object" && kind == .object)
    else n
  | _, _ => n

/-- A binary expression. -/
def binary (s : Scopes) (n : Node) (op : BinaryOp) (a b : Node) : Node :=
  match op with
  | .add => add n a b
  | .strictEq | .eq | .strictNe | .ne => comparison n op a b
  | .bitAnd | .bitOr | .bitXor => bitwise n op a b
  | .instanceof => instanceOf s n a b
  | _ => computed n op a b

/-- The variable that a comparison compares with a value that is empty or missing; and which. -/
def comparedWith? (op : BinaryOp) (n : Node) : Option (Node × Constant) :=
  match n.shape with
  | .binary other a b =>
    match a.shape, constant? b with
    | .reference _, some .null => if op == other then some (a, .null) else none
    | .reference _, some .undefined => if op == other then some (a, .undefined) else none
    | _, _ => none
  | _ => none

/-- One comparison for two that ask whether a variable is empty and whether it is missing. -/
def emptyOrMissing? (op : LogicalOp) (a b : Node) : Option Node := do
  let (strict, loose) ← match op with
    | .or => some (BinaryOp.strictEq, BinaryOp.eq)
    | .and => some (.strictNe, .ne)
    | .coalesce => none
  let (x, v) ← comparedWith? strict a
  let (y, w) ← comparedWith? strict b
  if same x y && !Constant.same v w then some (.made (.binary loose x Build.null)) else none

/-- The question whether an object is there, behind the question whether a variable is one. -/
def objectThere? (op : LogicalOp) (a b : Node) : Option Node := do
  let (loose, strict) ← match op with
    | .and => some (BinaryOp.eq, BinaryOp.strictNe)
    | .or => some (.ne, .strictEq)
    | .coalesce => none
  let .binary other x y := a.shape | none
  let .unary .typeof asked := x.shape | none
  let (compared, v) ← comparedWith? strict b
  if other == loose && isText "object" y && same asked compared && Constant.same v .null then
    let missing : Node := .made (.unary .not compared)
    return .made (.logical op a (if op == .and then .made (.unary .not missing) else missing))
  else none

/-- Whether an expression reads the same value each time, and reading it does nothing. -/
def isSteady (s : Scopes) (n : Node) : Bool :=
  match n.shape with
  | .thisExpr => true
  | .reference name => s.binds name
  | _ => false

/-- Whether an expression is a variable that is declared. -/
def isDeclared (s : Scopes) (n : Node) : Bool :=
  match n.shape with
  | .reference name => s.binds name
  | _ => false

/-- Whether what is assigned to is what is read, and finding it does nothing. -/
def isSameTarget (s : Scopes) (target value : Node) : Bool :=
  match target.shape with
  | .reference _ => same target value
  | .member object _ _ | .privateMember object _ _ => isSteady s object && same target value
  | .index object key _ =>
    isSteady s object && (isLiteral key || isSteady s key) && same target value
  | _ => false

/-- A logical expression whose first operand is not known. -/
def logicalOf (s : Scopes) (n : Node) (op : LogicalOp) (a b : Node) : Node :=
  match (emptyOrMissing? op a b).or (objectThere? op a b) with
  | some both => both
  | none =>
    match a.shape, b.shape with
    | _, .logical inner _ _ =>
      if inner == op then n.withShape (joined op a b).shape else n
    | _, .assign .plain target value =>
      if isSameTarget s target a then n.withShape (.assign (.logical op) target value) else n
    | .logical inner c d, _ =>
      if inner == op then
        match quietTruth? d, op, emptyOrMissing? op d b with
        | some true, .and, _ | some false, .or, _ => n.withShape (.logical op c b)
        | _, _, some both => n.withShape (.logical op c both)
        | _, _, none => n
      else n
    | _, _ => n

/-- A logical expression. -/
def logical (s : Scopes) (n : Node) (op : LogicalOp) (a b : Node) : Node :=
  let second : Node := if isQuiet s a then b else inOrder [a, b]
  match op with
  | .or =>
    match truth? a with
    | some true => a
    | some false => second
    | none => logicalOf s n op a b
  | .and =>
    match truth? a with
    | some true => second
    | some false => a
    | none => logicalOf s n op a b
  | .coalesce =>
    match kindOf? a with
    | some .null | some .undefined => second
    | some _ => a
    | none => logicalOf s n op a b

/-- Whether two expressions are the same variable. -/
def isSameVariable (a b : Node) : Bool :=
  match a.shape, b.shape with
  | .reference x, .reference y => x == y
  | _, _ => false

/-! ### Choices -/

/-- A choice with a test inside of a choice, if one value is the same in both. -/
def nested? (n test yes no : Node) : Option Node :=
  match yes.shape, no.shape with
  | .conditional inner a b, other =>
    if same b no then some (n.withShape (.conditional (joined .and test inner) a no))
    else
      match other with
      | .conditional inner a b =>
        if same yes a then some (n.withShape (.conditional (joined .or test inner) yes b)) else none
      | _ => none
  | _, .conditional inner a b =>
    if same yes a then some (n.withShape (.conditional (joined .or test inner) yes b)) else none
  | _, _ => none

/-- A choice between a value and the same value behind or beside something else. -/
def repeated? (test yes no : Node) : Option Node :=
  let ends (parts : List Node) (x : Node) : Bool := (parts.getLast?.map (same x)).getD false
  match yes.shape, no.shape with
  | .sequence parts, _ =>
    if ends parts no then some (inOrder [joined .and test (inOrder parts.dropLast), no]) else none
  | _, .sequence parts =>
    if ends parts yes then some (inOrder [joined .or test (inOrder parts.dropLast), yes]) else none
  | .logical .or a b, _ => if same b no then some (Build.or (joined .and test a) no) else none
  | _, .logical .and a b =>
    if same yes b then some (Build.and (joined .or test a) yes) else none
  | _, _ => none

/-- A choice between two assignments to the same variable, or two calls of the same function that
differ in their first argument. -/
def merged? (s : Scopes) (test yes no : Node) : Option Node :=
  match yes.shape, no.shape with
  | .assign op target value, .assign op' target' value' =>
    match target.shape with
    | .reference _ =>
      if op == op' && same target target' then
        some (.made (.assign op target (Build.cond test value value')))
      else none
    | _ => none
  | .call callee none (x :: xs) false pure, .call callee' none (y :: ys) false _ =>
    if isQuiet s test && isSteady s callee && same callee callee' && xs.length == ys.length &&
        (xs.zip ys).all fun (a, b) => same a b then
      match x.shape, y.shape with
      | .spread a, .spread b =>
        some (.made (.call callee none (.made (.spread (Build.cond test a b)) :: xs) false pure))
      | .spread _, _ | _, .spread _ => none
      | _, _ => some (.made (.call callee none (Build.cond test x y :: xs) false pure))
    else none
  | _, _ => none

/-- The choice between two values under a test, with what both share written once. -/
def shared (s : Scopes) (n test yes no : Node) : Node :=
  if same yes no then
    if isQuiet s test then yes else inOrder [test, yes]
  else
    (((nested? n test yes no).or (repeated? test yes no)).or (merged? s test yes no)).getD n

/-- A choice by whether a variable is empty or missing: the variable or another value, or a member
of the variable or none. -/
def present? (s : Scopes) (test yes no : Node) : Option Node :=
  match test.shape with
  | .binary .eq x y =>
    if !isNull y || !isSteady s x then none
    else if same x no then some (.made (.logical .coalesce x yes))
    else if isUndefined yes then optional? x no
    else none
  | _ => none

/-- A choice with a test that is not negated. -/
def choose (s : Scopes) (n test yes no : Node) : Node :=
  match constant? yes, constant? no with
  | some (.bool true), some (.bool false) =>
    if isBoolean test then test else .made (.unary .not (negate test))
  | some (.bool false), some (.bool true) => negate test
  | some (.bool true), none =>
    if isBoolean test then n.withShape (joined .or test no).shape else n
  | none, some (.bool false) =>
    if isBoolean test then n.withShape (joined .and test yes).shape else n
  | _, _ =>
    if isSameVariable test yes then n.withShape (joined .or test no).shape
    else if isSameVariable test no then n.withShape (joined .and test yes).shape
    else (present? s test yes no).getD (shared s n test yes no)

/-- A choice. -/
def conditional (s : Scopes) (n test yes no : Node) : Node :=
  let test := asTest test
  match truth? test with
  | some b =>
    let value := if b then yes else no
    if isQuiet s test then value else inOrder [test, value]
  | none =>
    match test.shape with
    | .unary .not inner => choose s (n.withShape (.conditional inner no yes)) inner no yes
    | .binary .ne a b => flipped .eq a b
    | .binary .strictNe a b => flipped .strictEq a b
    | .sequence parts =>
      match parts.getLast? with
      | some last => Build.seq (parts.dropLast ++ [.made (.conditional last yes no)])
      | none => n
    | _ => choose s (n.withShape (.conditional test yes no)) test yes no
where
  /-- A choice by the opposite of a comparison. -/
  flipped (op : BinaryOp) (a b : Node) : Node :=
    let test := test.withShape (.binary op a b)
    choose s (n.withShape (.conditional test no yes)) test no yes

/-! ### Other expressions -/

/-- An expression with an operator in front. -/
def unary (s : Scopes) (n : Node) (op : UnaryOp) (a : Node) : Node :=
  match op with
  | .not => negate (asTest a)
  | .typeof => if isQuiet s a then ((kindName? a).map Build.str).getD n else n
  | _ => ((constant? a).bind fun c => (Constant.applied? op c).map ofConstant).getD n

/-- An assignment. -/
def assign (s : Scopes) (n : Node) (op : AssignOp) (target value : Node) : Node :=
  match op, value.shape with
  | .plain, .binary inner a b =>
    match inner with
    -- no comparison assigns
    | .eq | .ne | .strictEq | .strictNe | .lt | .le | .gt | .ge | .isIn | .instanceof => n
    | _ => if isSameTarget s target a then n.withShape (.assign (.binary inner) target b) else n
  | .plain, .logical inner a b =>
    if isDeclared s target && same target a then n.withShape (.assign (.logical inner) target b)
    else n
  | .binary .sub, .numberLit x _ =>
    if x == 1 then n.withShape (.update .decrement true target) else n
  | _, _ => n

/-- A chain of members, of which nothing is left where it starts from what is missing. -/
def chain (s : Scopes) (n inner : Node) : Node :=
  let ended (object : Node) : Node :=
    match kindOf? object with
    | some .null | some .undefined =>
      if isQuiet s object then Build.void0 else inOrder [object, Build.void0]
    | _ => n
  match inner.shape with
  | .member object _ true | .index object _ true | .privateMember object _ true => ended object
  | .call callee _ _ true _ => ended callee
  | _ => n

/-! ### Keys -/

/-- The number that a text is the usual form of. -/
def numberKey? (s : String) : Option Float :=
  let cs := s.toList
  if cs.isEmpty || 10 < cs.length || !cs.all Char.isDigit then none
  else if cs.head? == some '0' && 1 < cs.length then none
  else s.toNat?.map Float.ofNat

/-- The key of a property with as little around it as it needs. -/
def key (computed : Bool) (k : Node) : Bool × Node :=
  match k.shape with
  | .stringLit s _ =>
    let special := s == "__proto__" || s == "constructor" || s == "prototype"
    -- as plain keys these may mean something else
    if special then (computed, k)
    else if isIdentName s then (false, k.withShape (.propertyName s))
    else
      match numberKey? s with
      | some x => (false, k.withShape (.numberLit x none))
      | none => (false, k)
  | .numberLit .. => (false, k)
  | _ => (computed, k)

/-! ### Objects -/

/-- Whether a property of an object that is spread may stand among the properties of another: it
does not run code when it is read, and does not say where others come from. -/
def isMovable (p : Node) : Bool :=
  match p.shape with
  | .property kind _ computed shorthand key _ =>
    kind == .method &&
      match key.shape with
      | .propertyName name | .stringLit name _ => computed || shorthand || name != "__proto__"
      | _ => true
  | .spread _ => true
  | _ => false

/-- The properties that a spread value gives, if they can be told. -/
def spreadProperties? (argument : Node) : Option (List Node) :=
  match argument.shape with
  | .objectLit properties => if properties.all isMovable then some properties else none
  -- values without properties that could be copied
  | .nullLit | .boolLit _ | .numberLit .. | .bigIntLit _ | .regexLit .. | .function _
  | .arrow _ => some []
  | _ => if isUndefined argument then some [] else none

/-- The properties of an object, with those of spread objects among them. -/
def spreadsOpened (properties : List Node) : List Node :=
  properties.flatMap fun p =>
    match p.shape with
    | .spread argument => (spreadProperties? argument).getD [p]
    | _ => [p]

/-! ### Expressions -/

/-- Whether an expression means something else where it is called or deleted directly. -/
def dependsOnPlace (n : Node) : Bool :=
  match n.shape with
  | .member .. | .index .. | .privateMember .. | .chain _ => true
  | .reference name => name == "eval"
  | _ => false

/-- A shorter form of an expression whose parts are short already, among the given scopes. -/
def expression (s : Scopes) (n : Node) : Node :=
  match n.shape with
  | .paren inner => inner
  | .reference "undefined" => if s.binds "undefined" then n else Build.void0
  | .reference "NaN" => if s.binds "NaN" then n else Build.num notANumber
  | .reference "Infinity" => if s.binds "Infinity" then n else Build.num (1.0 / 0.0)
  | .template quasis values => template n quasis values
  | .binary op a b => binary s n op a b
  | .logical op a b => logical s n op a b
  | .conditional test yes no => conditional s n test yes no
  | .unary op a => unary s n op a
  | .assign op target value => assign s n op target value
  | .chain inner => chain s n inner
  | .objectLit properties => n.withShape (.objectLit (spreadsOpened properties))
  | .index object k optional =>
    match k.shape with
    | .stringLit name _ =>
      if isIdentName name then n.withShape (.member object name optional)
      else
        match numberKey? name with
        | some x => n.withShape (.index object (k.withShape (.numberLit x none)) optional)
        | none => n
    | _ => n
  | .property kind isMethod computed shorthand k value =>
    let (computed, k) := key computed k
    n.withShape (.property kind isMethod computed shorthand k value)
  | .sequence parts =>
    match parts.getLast? with
    | some last => (sequenceOf (parts.dropLast.filterMap (unused s) ++ [last])).getD n
    | none => n
  | _ => n

end Playground.Emit.Minify
