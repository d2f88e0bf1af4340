import Playground.Emit.Minify.Truth

/-!
# Values that nobody looks at

`unused` is what is left of an expression when nobody looks at its value: the parts of it that do
something that can be seen, in their order.
-/

namespace Playground.Emit.Minify

open Playground.Script

/-! ### Members of what may be missing -/

/-- The inner expression of a chain of members. -/
def unchained (n : Node) : Node :=
  match n.shape with
  | .chain inner => inner
  | _ => n

/-- A chain of members and calls that ends where the variable it starts from is missing, some
levels down. -/
def optionalTo : Nat → Node → Node → Option Node
  | 0, _, _ => none
  | k + 1, x, n =>
    match n.shape with
    | .member object name optional =>
      if same x object then some (n.withShape (.member object name true))
      else do return n.withShape (.member (← optionalTo k x (unchained object)) name optional)
    | .index object key optional =>
      if same x object then some (n.withShape (.index object key true))
      else do return n.withShape (.index (← optionalTo k x (unchained object)) key optional)
    | .privateMember object name optional =>
      if same x object then some (n.withShape (.privateMember object name true))
      else do
        return n.withShape (.privateMember (← optionalTo k x (unchained object)) name optional)
    | .call callee typeArgs args optional isPure =>
      if same x callee then some (n.withShape (.call callee typeArgs args true isPure))
      else do
        let callee ← optionalTo k x (unchained callee)
        return n.withShape (.call callee typeArgs args optional isPure)
    | _ => none

/-- A chain of members and calls that ends where the variable it starts from is missing. -/
def optional? (x n : Node) : Option Node :=
  match x.shape with
  | .reference _ =>
    (optionalTo n.depth x (unchained n)).map fun inner => .made (.chain inner)
  | _ => none

/-- The variable that a comparison compares with a value that is empty, if it is declared. -/
def comparedWithNull? (s : Scopes) (op : BinaryOp) (n : Node) : Option Node :=
  match n.shape with
  | .binary other x y =>
    match x.shape with
    | .reference name => if op == other && isNull y && s.binds name then some x else none
    | _ => none
  | _ => none

/-! ### Sums of texts -/

/-- A sum with texts that nobody looks at emptied, some levels down; and whether it is a text. -/
def emptiedTo : Nat → Scopes → Node → Node × Bool
  | 0, _, n => (n, false)
  | k + 1, s, n =>
    match n.shape with
    | .binary .add a b =>
      let blank (x : Node) : Node := if isQuiet s x then Build.str "" else x
      let (a, isText) := emptiedTo k s a
      if isText then
        if (primitiveKind? b).isSome && isQuiet s b then (blank a, true)
        else (n.withShape (.binary .add (blank a) b), true)
      else if primitiveKind? b = some .text then (n.withShape (.binary .add a (blank b)), true)
      else (n.withShape (.binary .add a b), false)
    | _ => (n, primitiveKind? n = some .text)

/-! ### What is left -/

/-- The values of a template that are turned into texts where that may be seen, on their own, and
what is left of the others. -/
def templateParts (unused : Node → Option Node) : List Node → List Node → List Node
  | pending, [] => flushed pending
  | pending, v :: vs =>
    if (primitiveKind? v).isNone then templateParts unused (pending ++ [v]) vs
    else
      match unused v with
      | none => templateParts unused pending vs
      | some v => flushed pending ++ v :: templateParts unused [] vs
where
  /-- A template of values without any text between them. -/
  flushed (values : List Node) : List Node :=
    if values.isEmpty then []
    else
      let gap : Quasi := { raw := "", cooked := some "", span := Span.none }
      [.made (.template (List.replicate (values.length + 1) gap) values)]

/-- What is left of the properties of an object, with the spread ones pending. -/
def objectParts (s : Scopes) (unused : Node → Option Node) : List Node → List Node → List Node
  | pending, [] => flushed pending
  | pending, p :: ps =>
    match p.shape with
    | .property _ _ computed _ key value =>
      let key :=
        if !computed || (primitiveKind? key).isSome && isQuiet s key then none
        else some (.made (.binary .add key (Build.str "")))
      flushed pending ++ key.toList ++ (unused value).toList ++ objectParts s unused [] ps
    | _ => objectParts s unused (pending ++ [p]) ps
where
  /-- An object of spread values. -/
  flushed (values : List Node) : List Node :=
    if values.isEmpty then [] else [Build.object values]

/-- What evaluating a class does, if that can be told from its members one by one. -/
def classParts? (s : Scopes) (unused : Node → Option Node) (c : Class Node) :
    Option (List Node) :=
  let usesItself (n : Node) : Bool :=
    n.nodes.any fun x => match x.shape with | .thisExpr | .superExpr => true | _ => false
  if !c.decorators.isEmpty || c.heritage.isSome then none
  else
    let parts := c.members.map fun m =>
      match m.shape with
      | .method x =>
        if x.decorators.isEmpty then
          some (if x.computed then (unused x.key).toList else [])
        else none
      | .field f =>
        let key := if f.computed then (unused f.key).toList else []
        let value := if f.modifiers.isStatic then f.value.toList else []
        if !f.decorators.isEmpty || value.any usesItself then none
        else some (key ++ value.filter (!isQuiet s ·))
      | .staticBlock [] => some []
      | _ => none
    if parts.all (·.isSome) then some (parts.flatMap (·.getD [])) else none

/-- What is left of an expression when nobody looks at its value, some levels down. -/
def unusedTo : Nat → Scopes → Node → Option Node
  | 0, _, n => some n
  | k + 1, s, n =>
    if isQuiet s n then none
    else
      match n.shape with
      | .unary .not argument | .unary .void argument | .unary .typeof argument =>
        unusedTo k s argument
      | .binary op a b =>
        match op with
        | .eq | .ne | .strictEq | .strictNe | .lt | .le | .gt | .ge =>
          sequenceOf ((unusedTo k s a).toList ++ (unusedTo k s b).toList)
        | .add =>
          let (sum, _) := emptiedTo n.depth s n
          if isQuiet s sum then none else some sum
        | _ => some n
      | .logical op a b =>
        match unusedTo k s b with
        | none => unusedTo k s a
        | some b => some (guard s n op (if op == .coalesce then a else asTest a) b)
      | .conditional test yes no =>
        match unusedTo k s yes, unusedTo k s no with
        | none, none => unusedTo k s test
        | some yes, none => some (guard s n .and (asTest test) yes)
        | none, some no => some (guard s n .or (asTest test) no)
        | some yes, some no => some (n.withShape (.conditional test yes no))
      | .sequence parts => sequenceOf (parts.filterMap (unusedTo k s))
      | .call _ _ args _ true | .newExpr _ _ args true => unusedList (unusedTo k s) args
      | .call callee _ [] false _ => if isIdle callee then none else some n
      | .arrayLit elements => unusedList (unusedTo k s) elements
      | .spread _ => some n
      | .objectLit properties =>
        let left := objectParts s (unusedTo k s) [] properties
        if left.isEmpty then none else sequenceOf left
      | .template _ values => sequenceOf (templateParts (unusedTo k s) [] values)
      | .classDef c =>
        match classParts? s (unusedTo k s) c with
        | some left => sequenceOf left
        | none => some n
      | _ => some n
where
  /-- What is left of elements or arguments; the spread ones stay in an array. -/
  unusedList (unused : Node → Option Node) (elements : List Node) : Option Node :=
    let left := elements.filterMap unused
    if left.any isSpreadOut then some (Build.array left) else sequenceOf left
  /-- An expression that is evaluated only if another asks for it. -/
  guard (s : Scopes) (n : Node) (op : LogicalOp) (a b : Node) : Node :=
    let plain := n.withShape (joined op a b).shape
    match op, a.shape with
    | .and, .unary .not inner => n.withShape (joined .or inner b).shape
    | .or, .unary .not inner => n.withShape (joined .and inner b).shape
    | .and, .binary .eq x y | .or, .binary .ne x y =>
      if isNull y then n.withShape (joined .coalesce x b).shape else plain
    | .and, .binary .ne _ _ => ((comparedWithNull? s .ne a).bind (optional? · b)).getD plain
    | .or, .binary .eq _ _ => ((comparedWithNull? s .eq a).bind (optional? · b)).getD plain
    | _, _ => plain

/-- What is left of an expression when nobody looks at its value. -/
def unused (s : Scopes) (n : Node) : Option Node := unusedTo n.depth s n

end Playground.Emit.Minify
