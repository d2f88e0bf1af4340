import Playground.Emit.Lowering.Async
import Playground.Emit.Lowering.Basic
import Playground.Emit.Lowering.Chain
import Playground.Emit.Lowering.ClassBody
import Playground.Emit.Lowering.Disposal
import Playground.Emit.Lowering.PrivateChain
import Playground.Emit.Lowering.Rest
import Playground.Script.PatternSyntax

/-!
# Lowering a program

One walk lowers a program.  On the way in, `enter` replaces an expression by the newest syntax
first; then its parts are walked, with what is known about the place they stand at; on the way out
waiting and the functions that wait take their older forms.  `lowerProgram` runs the walk and puts
in front what the program needs: imported helpers, variables, and what is captured.

A regular expression that the target cannot read as a literal is made when the program runs.  Of
a literal that might hold a form that is too new the pattern is read first, and what is wrong with
it is reported.
-/

namespace Playground.Emit

open Playground.Script

namespace Lower

/-! ### Literals -/

/-- The year a flag of regular expressions came with. -/
def flagYear (flag : Char) : Nat :=
  match flag with
  | 's' => 2018
  | 'd' => 2022
  | 'v' => 2024
  | _ => 2015

/-- Makes a regular expression when the program runs. -/
def regexMade (pattern flags : String) : Shape Node :=
  .newExpr (Build.var "RegExp") none [Build.str pattern, Build.str flags] false

/-- Lowers a regular expression. -/
def regexLiteral (n : Node) : Lower Node := do
  match n.shape with
  | .regexLit pattern flags =>
    let year := (← read).year
    if flags.toList.any fun f => year < flagYear f then
      return n.withShape (regexMade pattern flags)
    if !(← lacks 2018) then return n
    match Pattern.read pattern (flags.toList.contains 'u') with
    | .ok true => return n.withShape (regexMade pattern flags)
    | .ok false => return n
    | .error e =>
      modify fun s =>
        { s with faults := s.faults.push ⟨.pattern e.problem, n.span.start + 1 + e.offset, false⟩ }
      return n
  | _ => return n

/-- Notes a big integer that the target cannot read. -/
def bigIntLiteral (n : Node) : Lower Unit := do
  match n.shape with
  | .bigIntLit _ => if ← lacks 2020 then warn .targetLacksBigInt n.span.start
  | _ => return ()

/-- Notes the texts that stand for names in an import or export, where the target has names
only. -/
def exportedTexts (n : Node) : Lower Unit := do
  if !(← lacks 2020) then return ()
  let named : List Node :=
    match n.shape with
    | .importNamed imported _ _ => [imported]
    | .exportSpecifier name exported _ => [exported, name]
    | .exportAll _ exported _ _ => exported.toList
    | _ => []
  let texts := (named.filter fun m => m.shape matches .stringLit ..).map (·.span.start)
  texts.eraseDups.forM fun start => warn .targetLacksNames start

/-! ### On the way in -/

/-- The base of a name for a function that reaches a property of the base class. -/
def superBase (verb name : String) : String :=
  match name.toList with
  | [] => "superprop_" ++ verb
  | c :: cs => "superprop_" ++ verb ++ String.ofList (c.toUpper :: cs)

/-- A node of the base class. -/
def isSuper (n : Node) : Bool :=
  match n.shape with
  | .superExpr => true
  | _ => false

/-- The value of a property of the base class, reached from another function. -/
def superGet (n : Node) : Lower (Option Node) := do
  match n.shape with
  | .member object name _ =>
    if !isSuper object then return none
    let reach := Build.concise (Build.params []) n
    return some (Build.call (← superHere (superBase "get" name) reach) [])
  | .index object key _ =>
    if !isSuper object then return none
    let prop ← fresh "prop"
    let reach := Build.concise (Build.params [Build.bind prop]) (Build.item object (Build.var prop))
    return some (Build.call (← superHere (superBase "get" "") reach) [key])
  | _ => return none

/-- Replaces what reaches the base class from code that moves into another function. -/
def superAccess (n : Node) : Lower Node := do
  if !(← read).displaced then return n
  match n.shape with
  | .member .. | .index .. => return (← superGet n).getD n
  | .call callee _ args false pure =>
    match ← superGet callee with
    | some value =>
      return n.withShape (.call (Build.dot value "call") none (Build.this :: args) false pure)
    | none => return n
  | .assign .plain target value =>
    match target.shape with
    | .member object name _ =>
      if !isSuper object then return n
      let given ← fresh "value"
      let reach := Build.concise (Build.params [Build.bind given])
        (Build.set target (Build.var given))
      return Build.call (← superHere (superBase "set" name) reach) [value]
    | .index object key _ =>
      if !isSuper object then return n
      let prop ← fresh "prop"
      let given ← fresh "value"
      let reach := Build.concise (Build.params [Build.bind prop, Build.bind given])
        (Build.set (Build.item object (Build.var prop)) (Build.var given))
      return Build.call (← superHere (superBase "set" "") reach) [key, value]
    | _ => return n
  | _ => return n

/-- Replaces an expression on the way in, by the newest syntax first. -/
def enter (n : Node) : Lower Node := do
  let n ← headDisposal n
  let n ← superAccess n
  let n ← privateChain n
  let n ← privateTargets n
  let n ← privateAccess n
  let n ← assignLogical n
  let n ← coalesce n
  let n ← optionalChain n
  let n ← objectSpread n
  let n ← assignRests n
  let n ← parameterRests n
  let n ← declareRests n
  let n ← headRests n
  let n ← power n
  bigIntLiteral n
  exportedTexts n
  regexLiteral n

/-! ### Statements in a list -/

/-- A statement, with what stands before and behind it in the list. -/
structure Placed where
  before : List Node := []
  main : Node
  behind : List Node := []

/-- All the statements. -/
def Placed.all (p : Placed) : List Node := p.before ++ p.main :: p.behind

/-- The statement within another one. -/
def Placed.within (p : Placed) (f : Node → Node) : Placed := { p with main := f p.main }

/-- The loop that waits in a statement, with its label. -/
def waitingLoop? (n : Node) : Option (Option String × Node × Node × Node) :=
  match n.shape with
  | .forOf true left right body => some (none, left, right, body)
  | .labeled label inner =>
    match inner.shape with
    | .forOf true left right body => some (some label, left, right, body)
    | _ => none
  | _ => none

/-- An arrow function with its body changed; a single expression that needs declarations becomes
an answer. -/
def withBody (f : Arrow Node) (params body : Node) : Arrow Node :=
  let single :=
    match body.shape with
    | .functionBody [] [_] => true
    | _ => false
  if f.concise && !single then
    { f with params, concise := false, body := prepend [] false (answered body) }
  else { f with params, body }
where
  /-- The body with its expression as the answer. -/
  answered (body : Node) : Node :=
    match body.shape with
    | .functionBody directives statements =>
      body.withShape (.functionBody directives (statements.map fun s =>
        match s.shape with
        | .exprStmt inner => s.withShape (.returnStmt (some inner))
        | _ => s))
    | _ => body

/-- Within the function of a class or an object that is entered. -/
def insideFunction (n : Node) (flow : Flow) (displaced : Bool) (a : Around) : Around :=
  { a with scopes := n.enter a.scopes, site := .other, flow, displaced, atTop := false }

/-- Within the initial value of a member of a class. -/
def insideMember (isStatic : Bool) (a : Around) : Around :=
  { a with
    site := .other, flow := .plain, displaced := false, atTop := false
    classes :=
      match a.classes with
      | c :: cs => { c with inStatic := isStatic } :: cs
      | [] => [] }

/-- The name that a key gives to a function. -/
def keySite (computed : Bool) (key : Node) : Site :=
  match computed, key.shape with
  | false, .propertyName name => .named name
  | _, .stringLit name _ => .named name
  | false, .numberLit x _ => .named (EnumValue.numberString x)
  | _, _ => .other

/-- The name that a variable gives to a function. -/
def targetSite (n : Node) : Site :=
  match n.shape with
  | .binding name => .named name
  | _ => .other

mutual

/-- A node, some levels down. -/
def node : Nat → Node → Lower Node
  | 0, n => return n
  | k + 1, n => do
    let site := (← read).site
    match n.shape with
    | .nonNull inner => node k inner
    | .paren inner =>
      match inner.shape with
      | .nonNull _ => node k inner
      | _ =>
        let through := if site = .callee then site else .other
        return n.withShape (.paren (← atSite through (node k inner)))
    | _ =>
      let n ← enter n
      match n.shape with
      | .thisExpr => thisHere n
      | .reference "arguments" => argumentsHere n
      | .function f => functionNode k n f site
      | .arrow f => arrowNode k n f site
      | .classDef c =>
        let (c, lowered) ← classNode k n c
        match lowered with
        | none => return n.withShape (.classDef c)
        | some (place, pieces) =>
          let (value, functions) ← classValue place n c pieces
          modify fun s => { s with functionsBehind := s.functionsBehind ++ functions }
          return value
      | .params items =>
        modify fun s => { s with inParameters := true }
        let items ← atSite .other (items.mapM (node k))
        modify fun s => { s with inParameters := false }
        return n.withShape (.params items)
      | .await _ =>
        let a ← read
        if a.flow = .top && (← lacks 2022) then warn .targetLacksTopAwait n.span.start
        let inner ← parts k n
        await inner
      | .yieldExpr .. => yieldAll (← parts k n)
      | _ => parts k n

/-- A node of which the parts are lowered, with the sites they stand at. -/
def parts : Nat → Node → Lower Node
  | 0, n => return n
  | k + 1, n =>
    withReader (fun a => { a with scopes := n.enter a.scopes, site := .other }) do
      match n.shape with
      | .declarator target definite ascription initial =>
        let target' ← node k target
        let initial ← initial.mapM fun i => atSite (targetSite target) (node k i)
        return n.withShape (.declarator target' definite ascription initial)
      | .property kind isMethod computed shorthand key value =>
        let key' ← if computed then node k key else pure key
        let isFunction := isMethod || kind != .method
        let site := if isFunction then .method else keySite computed key
        let value ← atSite site (node k value)
        return n.withShape (.property kind isMethod computed shorthand key' value)
      | .param p =>
        let decorators ← p.decorators.mapM (node k)
        let target ← node k p.target
        let initial ← p.initial.mapM fun i => atSite .parameter (node k i)
        return n.withShape (.param { p with decorators, target, initial })
      | .call callee typeArgs args optional pure =>
        let callee ← atSite .callee (node k callee)
        return n.withShape (.call callee typeArgs (← args.mapM (node k)) optional pure)
      | .block body => return n.withShape (.block (← statements k body))
      | .functionBody directives body =>
        let scope := ((← read).scopes.head?.map (·.key.span)).getD n.span
        let body ← disposedList scope body
        return n.withShape (.functionBody directives (← statements k body))
      | .staticBlock body =>
        return n.withShape (.staticBlock (← statements k (← disposedList n.span body)))
      | .tryStmt .. =>
        let n ← blockDisposal n
        return n.withShape (← n.shape.mapM (node k))
      | .switchCase test body =>
        return n.withShape (.switchCase (← test.mapM (node k)) (← statements k body))
      | .ifStmt test yes no =>
        return n.withShape (.ifStmt (← node k test) (← single k yes) (← no.mapM (single k)))
      | .whileStmt test body =>
        return n.withShape (.whileStmt (← node k test) (← single k body))
      | .doWhile body test =>
        return n.withShape (.doWhile (← single k body) (← node k test))
      | .forStmt setup test step body =>
        return n.withShape (.forStmt (← setup.mapM (node k)) (← test.mapM (node k))
          (← step.mapM (node k)) (← single k body))
      | .forIn left right body =>
        return n.withShape (.forIn (← node k left) (← node k right) (← single k body))
      | .forOf isAwait left right body =>
        return n.withShape (.forOf isAwait (← node k left) (← node k right) (← single k body))
      | .labeled label body => return n.withShape (.labeled label (← single k body))
      | .withStmt object body =>
        return n.withShape (.withStmt (← node k object) (← single k body))
      | .catchClause none ascription body =>
        let body ← node k body
        if !(← lacks 2019) then return n.withShape (.catchClause none ascription body)
        let name ← fresh "unused"
        return n.withShape (.catchClause (some (Build.bind name)) ascription body)
      | shape => return n.withShape (← shape.mapM (node k))

/-- A function, some levels down. -/
def functionNode : Nat → Node → Function Node → Site → Lower Node
  | 0, n, _, _ => return n
  | k + 1, n, f, site => do
    let (f, captured) ← functionParts k n f (site = .method)
    match f.body with
    | none => return n.withShape (.function f)
    | some body =>
      let kept := n.withShape (.function { f with body := some (behindDirectives captured body) })
      if !(← lowersAsync f.isAsync f.isGenerator) then return kept
      if site = .method then return n.withShape (← asyncMethod f body captured).shape
      if f.role != .expression then return kept
      return ← asyncExpression f (behindDirectives captured body) site

/-- The parts of a function, and what is captured from it. -/
def functionParts : Nat → Node → Function Node → Bool → Lower (Function Node × List Node)
  | 0, _, f, _ => return (f, [])
  | k + 1, n, f, isMethod => do
    let lowered ← lowersAsync f.isAsync f.isGenerator
    let flow : Flow :=
      if !f.isAsync then .plain else if f.isGenerator then .asyncGenerator else .async
    let (c, f) ← inFunction do
      let params ← withReader (insideFunction n flow false) (node k f.params)
      let body ← withReader (insideFunction n flow (lowered && isMethod)) (f.body.mapM (node k))
      return { f with params, body }
    return (f, captureStatements c (Build.var "arguments"))

/-- An arrow function, some levels down. -/
def arrowNode : Nat → Node → Arrow Node → Site → Lower Node
  | 0, n, _, _ => return n
  | k + 1, n, f, site => do
    let lowered ← lowersAsync f.isAsync false
    let flow : Flow := if f.isAsync then .async else .plain
    let displaced := (← read).displaced || lowered
    withReader (insideFunction n flow displaced) do
      let params ← node k f.params
      let body ← node k f.body
      let f := withBody f params body
      if lowered then asyncArrow f site else return n.withShape (.arrow f)

/-- A class, some levels down, and what is to be moved if it is lowered. -/
def classNode : Nat → Node → Class Node →
    Lower (Class Node × Option (ClassPlace × ClassPieces))
  | 0, _, c => return (c, none)
  | k + 1, n, c =>
    withReader (fun a => { a with scopes := n.enter a.scopes, site := .other }) do
      let decorators ← c.decorators.mapM (node k)
      let heritage ← c.heritage.mapM (node k)
      let c := { c with decorators, heritage }
      match ← openClass c with
      | none => return ({ c with members := ← c.members.mapM (member k) }, none)
      | some (place, c) =>
        let members ←
          withReader (fun a => { a with classes := place :: a.classes })
            (c.members.mapM (member k))
        return ({ c with members }, some (place, ← closeClass place members))

/-- A member of a class, some levels down. -/
def member : Nat → Node → Lower Node
  | 0, n => return n
  | k + 1, n => do
    match n.shape with
    | .method m =>
      let decorators ← m.decorators.mapM (node k)
      let key ← if m.computed then node k m.key else pure m.key
      let value ← atSite .method (node k m.value)
      return n.withShape (.method { m with decorators, key, value })
    | .field f =>
      let decorators ← f.decorators.mapM (node k)
      let key ← if f.computed then node k f.key else pure f.key
      let value ←
        withReader (insideMember f.modifiers.isStatic) (f.value.mapM (node k))
      return n.withShape (.field { f with decorators, key, value })
    | .staticBlock _ => withReader (insideMember true) (parts k n)
    | _ => node k n

/-- A statement that stands alone. -/
def single : Nat → Node → Lower Node
  | 0, n => return n
  | k + 1, n => do return (← statement k n).main

/-- The statements of a list, behind the declarations they need. -/
def statements : Nat → List Node → Lower (List Node)
  | 0, body => return body
  | k + 1, body => do
    let (declared, body) ← gathering do
      let all ← body.mapM (statement k)
      return all.flatMap Placed.all
    return declared ++ body

/-- A statement, with what it needs around it. -/
def statement : Nat → Node → Lower Placed
  | 0, n => return { main := n }
  | k + 1, n => do
    let pending := (← get).functionsBehind
    modify fun s => { s with functionsBehind := [] }
    let placed ← placedStatement k n
    let functions := (← get).functionsBehind
    modify fun s => { s with functionsBehind := pending }
    return { placed with behind := placed.behind ++ functions }

/-- A statement, by its form. -/
def placedStatement : Nat → Node → Lower Placed
  | 0, n => return { main := n }
  | k + 1, n => do
    if ← lacks 2018 then
      match waitingLoop? n with
      | some (label, left, right, body) =>
        let (before, loop) ← waitingLoop label left right body
        return { before, main := ← node k loop }
      | none => pure ()
    let n ← match n.shape with
      | .block _ => blockDisposal n
      | _ => pure n
    match n.shape with
    | .exportNamed typeOnly (some d) specifiers source attributes =>
      let p ← statement k d
      return p.within fun d =>
        n.withShape (.exportNamed typeOnly (some d) specifiers source attributes)
    | .exportDefault d =>
      let wrap (d : Node) : Node := n.withShape (.exportDefault d)
      match d.shape with
      | .function f => if f.role = .declaration then return (← statement k d).within wrap
      | .classDef c => if !c.isExpression then return (← statement k d).within wrap
      | _ => pure ()
      return { main := wrap (← node k d) }
    | .function f =>
      if f.role = .declaration && (← lowersAsync f.isAsync f.isGenerator) then
        let n ← parameterRests n
        match n.shape with
        | .function f =>
          let (f, captured) ← functionParts k n f false
          match f.body with
          | some body =>
            let (f, behind) ← asyncDeclaration f (behindDirectives captured body)
            return { main := n.withShape (.function f), behind := [behind] }
          | none => return { main := n.withShape (.function f) }
        | _ => return { main := n }
      return { main := ← node k n }
    | .classDef c =>
      if c.isExpression then return { main := ← node k n }
      let (c, lowered) ← classNode k n c
      match lowered with
      | none => return { main := n.withShape (.classDef c) }
      | some (place, pieces) =>
        let (before, c, behind) ← declaredClass place c pieces
        return { before, main := n.withShape (.classDef c), behind }
    | _ => return { main := ← node k n }

end

end Lower

/-- What lowering makes of a program. -/
structure Lowered where
  program : Node
  faults : List Fault
  /-- the program imports helpers now -/
  imports : Bool
deriving Inhabited

/-- What the arguments of no function are. -/
def topArguments : Node :=
  let there := Build.bin .strictEq (.made (.unary .typeof (Build.var "arguments")))
    (Build.str "undefined")
  Build.cond there Build.void0 (Build.var "arguments")

/-- Lowers a program for the language of a year. -/
def lowerProgram (year : Nat) (isModule : Bool) (program : Node) : Lowered :=
  match program.shape with
  | .program hashbang directives body =>
    let levels := 16 * program.nodes.length + 64
    let around : Around :=
      { year, scopes := program.enter []
        assigned := (Names.assigned program).map fun (key, name) => (key.span, name) }
    let walk : Lower (Captured × List Node × List Node) :=
      Lower.inFunction (Lower.gathering do
        let (outside, moved) ← Lower.programDisposal body
        let all ← outside.mapM (Lower.statement levels)
        let last ← (← Lower.disposed program.span .asVar moved).mapM (Lower.statement levels)
        return (all ++ last.toList).flatMap Lower.Placed.all)
    let ((captured, declared, body), s) :=
      (walk.run around).run { fresh := Fresh.ofProgram program }
    let keys : List Node :=
      if s.keyLists.isEmpty then []
      else [.made (.varDecl .asConst false (s.keyLists.map fun (name, value) =>
        .made (.declarator (Build.bind name) false none (some value))))]
    let added := keys ++ s.imports.statements isModule ++ declared
    let body := Lower.captureStatements captured topArguments ++ behindImports added body
    { program := program.withShape (.program hashbang directives body)
      faults := s.faults.toList, imports := isModule && !s.imports.entries.isEmpty }
  | _ => ⟨program, [], false⟩

end Playground.Emit
