import Playground.Emit.EnumValue
import Playground.Emit.Lowering.Operator

/-!
# Lowering spreads and rests of objects

An object with spreads is merged by a helper.  A pattern with a rest loses the rest, and another
helper gives what the keys of the pattern leave over.  `restParts` says which target gets which
value, for declarations and assignments alike; patterns among the parameters, in loops and in
catch clauses first become declarations.
-/

namespace Playground.Emit.Lower

open Playground.Script

/-- Lowers an object with spreads. -/
def objectSpread (n : Node) : Lower Node := do
  if !(← lacks 2018) then return n
  match n.shape with
  | .objectLit properties =>
    if properties.any isSpread then
      return spreadObject (← helper "objectSpread2" "objectSpread2") properties
    return n
  | _ => return n

/-! ### Patterns -/

/-- Whether a part of a pattern is a rest. -/
def isRest (n : Node) : Bool :=
  match n.shape with
  | .rest .. => true
  | _ => false

/-- Whether an object in a pattern has a rest, some levels down. -/
def hasRestTo : Nat → Node → Bool
  | 0, _ => false
  | k + 1, n =>
    match n.shape with
    | .objectPattern properties => properties.any fun p => isRest p || hasRestTo k p
    | .patternProperty _ _ _ value => hasRestTo k value
    | .arrayPattern elements => elements.any (hasRestTo k)
    | .withDefault target _ => hasRestTo k target
    | .rest target _ => hasRestTo k target
    | _ => false

/-- Whether an object in a pattern has a rest. -/
def hasRest (n : Node) : Bool := hasRestTo n.depth n

/-- A target for a name: a variable that is declared, or one that is assigned to. -/
def target (declares : Bool) (name : String) : Node :=
  if declares then Build.bind name else Build.var name

/-- A name for a part of a pattern. -/
def partName (declares : Bool) (base : String) : Lower String :=
  if declares then fresh base else temporary base

/-- A pattern in which every object with a rest, some levels down, is replaced by a name; and
those objects with their names. -/
def nameRests (declares : Bool) : Nat → Node → Lower (Node × List (String × Node))
  | 0, n => return (n, [])
  | k + 1, n => do
    let all (ns : List Node) : Lower (List Node × List (String × Node)) := do
      let found ← ns.mapM (nameRests declares k)
      return (found.map (·.1), found.flatMap (·.2))
    match n.shape with
    | .objectPattern properties =>
      if properties.any isRest then
        let name ← partName declares "ref"
        return (target declares name, [(name, n)])
      let (properties, found) ← all properties
      return (n.withShape (.objectPattern properties), found)
    | .patternProperty computed shorthand key value =>
      let (value, found) ← nameRests declares k value
      return (n.withShape (.patternProperty computed shorthand key value), found)
    | .arrayPattern elements =>
      let (elements, found) ← all elements
      return (n.withShape (.arrayPattern elements), found)
    | .withDefault inner value =>
      let (inner, found) ← nameRests declares k inner
      return (n.withShape (.withDefault inner value), found)
    | .rest inner ascription =>
      let (inner, found) ← nameRests declares k inner
      return (n.withShape (.rest inner ascription), found)
    | _ => return (n, [])

/-- The key of a property as a value; a key that is computed is kept in a variable. -/
structure RestKey where
  key : Node
  /-- the property with its key replaced -/
  property : Node
  kept : List (Node × Node)
  isPlain : Bool
deriving Inhabited

/-- The key of a property of a pattern. -/
def restKey (declares : Bool) (p : Node) : Lower RestKey := do
  match p.shape with
  | .patternProperty computed shorthand key value =>
    match key.shape with
    | .propertyName name => return ⟨Build.str name, p, [], true⟩
    | .stringLit s _ => return ⟨Build.str s, p, [], true⟩
    | .numberLit x _ => return ⟨Build.str (EnumValue.numberString x), p, [], true⟩
    | _ =>
      if !computed then return ⟨key, p, [], true⟩
      let name ← partName declares (nameOf key)
      let read := Build.var name
      return ⟨read, p.withShape (.patternProperty true shorthand read value),
        [(target declares name, key)], false⟩
  | _ => return ⟨Build.str "", p, [], true⟩

/-- What the keys of a pattern leave over of an object. -/
def leftOver (keys : List RestKey) (source : Node) : Lower Node := do
  -- nothing is left out, but what is no object is still refused
  if keys.isEmpty then
    let checked := Build.seq [← callHelper "objectDestructuringEmpty" [source], source]
    return ← callHelper "extends" [Build.object [], checked]
  let list := Build.array (keys.map (·.key))
  let given ←
    if !keys.all (·.isPlain) then
      pure (Build.call (Build.dot list "map")
        [Build.var (← helper "toPropertyKey" "toPropertyKey")])
    -- in a function the list is not made anew with every call
    else if (← read).scopes.isTop then pure list
    else do
      let name ← fresh "excluded"
      modify fun s => { s with keyLists := s.keyLists ++ [(name, list)] }
      pure (Build.var name)
  callHelper "objectWithoutProperties" [source, given]

/-- Which targets get which values when a value goes to a pattern, some levels down. -/
def restParts (declares : Bool) : Nat → Node → Node → Lower (List (Node × Node))
  | 0, pattern, source => return [(pattern, source)]
  | k + 1, pattern, source => do
    let nested (found : List (String × Node)) : Lower (List (Node × Node)) := do
      let parts ← found.mapM fun (name, n) => restParts declares k n (Build.var name)
      return parts.flatten
    match pattern.shape with
    | .objectPattern properties =>
      let (rests, others) := properties.partition isRest
      let keys ← others.mapM (restKey declares)
      let found ← (keys.map (·.property)).mapM (nameRests declares pattern.depth)
      -- without other keys there is nothing left to declare
      let own :=
        if found.isEmpty && declares then []
        else [(pattern.withShape (.objectPattern (found.map (·.1))), source)]
      let inner ← nested (found.flatMap (·.2))
      let under ← rests.mapM fun r => do
        match r.shape with
        | .rest inner _ => return (inner, ← leftOver keys source)
        | _ => return (r, source)
      return keys.flatMap (·.kept) ++ own ++ inner ++ under
    | _ =>
      let (pattern, found) ← nameRests declares pattern.depth pattern
      return (pattern, source) :: (← nested found)

/-- Whether an expression is a variable. -/
def isVariable (n : Node) : Bool :=
  match n.shape with
  | .reference _ => true
  | _ => false

/-- The declarators that a declarator with rests becomes. -/
def restDeclarators (d : Node) : Lower (List Node) := do
  match d.shape with
  | .declarator pattern _ _ (some initial) =>
    if !hasRest pattern then return [d]
    let one (part : Node × Node) : Node := .made (.declarator part.1 false none (some part.2))
    if isVariable initial then
      return (← restParts true pattern.depth pattern initial).map one
    let name ← fresh (nameOf initial)
    let parts ← restParts true pattern.depth pattern (Build.var name)
    return one (Build.bind name, initial) :: parts.map one
  | _ => return [d]

/-- Lowers the rests in a declaration. -/
def declareRests (n : Node) : Lower Node := do
  if !(← lacks 2018) then return n
  match n.shape with
  | .varDecl kind declared declarators =>
    return n.withShape (.varDecl kind declared (← declarators.mapM restDeclarators).flatten)
  | _ => return n

/-- Lowers the rests in an assignment. -/
def assignRests (n : Node) : Lower Node := do
  if !(← lacks 2018) then return n
  match n.shape with
  | .assign .plain pattern value =>
    if !hasRest pattern then return n
    let name ← temporary (nameOf value)
    let parts ← restParts false pattern.depth pattern (Build.var name)
    return Build.seq
      ([Build.set (Build.var name) value] ++ parts.map (fun p => Build.set p.1 p.2) ++
        [Build.var name])
  | _ => return n

/-! ### Where a pattern becomes a declaration -/

/-- Puts statements first in the body of a function; a single expression becomes an answer. -/
def prepend (added : List Node) (concise : Bool) (body : Node) : Node :=
  if added.isEmpty then body
  else
    match body.shape with
    | .functionBody directives statements =>
      let statements :=
        if concise then
          statements.map fun s =>
            match s.shape with
            | .exprStmt inner => s.withShape (.returnStmt (some inner))
            | _ => s
        else statements
      body.withShape (.functionBody directives (added ++ statements))
    | .block statements => body.withShape (.block (added ++ statements))
    | _ => Build.block (added ++ [body])

/-- The declaration of a pattern. -/
def declarePattern (kind : VarKind) (pattern : Node) (name : String) : Node :=
  .made (.varDecl kind false [.made (.declarator pattern false none (some (Build.var name)))])

/-- A pattern in which objects, some levels down, are replaced by names, and the declarations of
those objects; what is in an object goes with it. -/
def nameObjects : Nat → Node → Lower (Node × List Node)
  | 0, n => return (n, [])
  | k + 1, n => do
    match n.shape with
    | .objectPattern _ =>
      let name ← fresh "ref"
      return (Build.bind name, [declarePattern .asLet n name])
    | .arrayPattern elements =>
      let found ← elements.mapM (nameObjects k)
      return (n.withShape (.arrayPattern (found.map (·.1))), found.flatMap (·.2))
    | .withDefault inner value =>
      let (inner, added) ← nameObjects k inner
      return (n.withShape (.withDefault inner value), added)
    | .rest inner ascription =>
      let (inner, added) ← nameObjects k inner
      return (n.withShape (.rest inner ascription), added)
    | _ => return (n, [])

/-- A pattern without rests of objects, and the declarations that make up for them. -/
def withoutRests (pattern : Node) : Lower (Node × List Node) :=
  if hasRest pattern then nameObjects pattern.depth pattern else return (pattern, [])

/-- The parameters with names in place of patterns that have rests, and the declarations of
those. -/
def nameParameters (formals : Node) : Lower (Node × List Node) := do
  match formals.shape with
  | .params items =>
    let found ← items.mapM fun item => do
      match item.shape with
      | .param p =>
        let (inner, added) ← withoutRests p.target
        return (item.withShape (.param { p with target := inner }), added)
      | .rest inner ascription =>
        let (inner, added) ← withoutRests inner
        return (item.withShape (.rest inner ascription), added)
      | _ => return (item, [])
    return (formals.withShape (.params (found.map (·.1))), found.flatMap (·.2))
  | _ => return (formals, [])

/-- Moves the rests among the parameters of a function into its body. -/
def parameterRests (n : Node) : Lower Node := do
  if !(← lacks 2018) then return n
  match n.shape with
  | .function f =>
    match f.body with
    | some body =>
      let (params, added) ← nameParameters f.params
      return n.withShape (.function { f with params, body := some (prepend added false body) })
    | none => return n
  | .arrow f =>
    let (params, added) ← nameParameters f.params
    return n.withShape (.arrow
      { f with
        params, body := prepend added f.concise f.body, concise := f.concise && added.isEmpty })
  | _ => return n

/-- The head of a loop over things without rests, and what the body starts with. -/
def loopHead (left : Node) : Lower (Node × List Node) := do
  match left.shape with
  | .varDecl kind declared [d] =>
    match d.shape with
    | .declarator pattern _ _ none =>
      let (pattern, added) ← withoutRests pattern
      let head := left.withShape
        (.varDecl kind declared [d.withShape (.declarator pattern false none none)])
      return (head, added)
    | _ => return (left, [])
  | _ =>
    if !hasRest left then return (left, [])
    let name ← fresh "ref"
    return (Build.declare .asVar name none, [Build.stmt (Build.set left (Build.var name))])

/-- Moves the rests in the head of a loop, and in a catch clause, into the body. -/
def headRests (n : Node) : Lower Node := do
  if !(← lacks 2018) then return n
  match n.shape with
  | .forIn left right body =>
    let (left, added) ← loopHead left
    return n.withShape (.forIn left right (prepend added false body))
  | .forOf isAwait left right body =>
    let (left, added) ← loopHead left
    return n.withShape (.forOf isAwait left right (prepend added false body))
  | .catchClause (some caught) ascription body =>
    let (caught, added) ← withoutRests caught
    return n.withShape (.catchClause (some caught) ascription (prepend added false body))
  | _ => return n

end Playground.Emit.Lower
