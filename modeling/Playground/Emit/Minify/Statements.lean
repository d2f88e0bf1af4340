import Playground.Emit.Minify.Provided

/-!
# Fewer statements

`Minify.merge` makes fewer statements out of a list of them: expressions run together, conditions
become expressions where their branches are, values that are returned are chosen between, and what
cannot be reached is dropped.  `Minify.single` does the same for a statement that stands alone.
-/

namespace Playground.Emit.Minify

open Playground.Script

/-! ### Kinds of statements -/

/-- Whether a statement declares names in the scope it stands in. -/
def isLexicalDeclaration (n : Node) : Bool :=
  match n.shape with
  | .varDecl kind _ _ => kind.isLexical
  | .function _ | .classDef _ => true
  | _ => false

/-- Whether control does not go on behind a statement. -/
def isJump (n : Node) : Bool :=
  match n.shape with
  | .returnStmt _ | .throwStmt _ | .breakStmt _ | .continueStmt _ => true
  | _ => false

/-- What has to stay of a statement that is never reached: the names it declares. -/
def unreached (n : Node) : List Node :=
  match n.shape with
  | .function _ => [n]
  | _ =>
    if isLexicalDeclaration n then []
    else
      match ((Names.vars n).map (·.name)).eraseDups with
      | [] => []
      | names => [Build.declareAll .asVar names]

/-- The statements up to the first that control does not pass, and what stays of the others. -/
def reached : List Node → List Node
  | [] => []
  | n :: rest =>
    if isJump n then n :: rest.flatMap unreached else n :: reached rest

/-- The statements of a statement that may be a block; a block that declares names is one. -/
def opened (n : Node) : List Node :=
  match n.shape with
  | .block body => if body.any isLexicalDeclaration then [n] else body
  | .empty => []
  | _ => [n]

/-- Statements as one. -/
def single (statements : List Node) : Node :=
  match statements with
  | [] => .made .empty
  | [s] => if isLexicalDeclaration s then Build.block [s] else s
  | _ => Build.block statements

/-- The expression of a statement that is one. -/
def expressionOf? (n : Node) : Option Node :=
  match n.shape with
  | .exprStmt e => some e
  | _ => none

/-- What a statement returns, if it returns. -/
def returned? (n : Node) : Option Node :=
  match n.shape with
  | .returnStmt value => some (value.getD Build.void0)
  | _ => none

/-! ### Putting statements together -/

/-- A statement with an expression evaluated before it. -/
def before? (e n : Node) : Option Node :=
  let join (x : Node) : Node := inOrder [e, x]
  match n.shape with
  | .exprStmt x => some (n.withShape (.exprStmt (join x)))
  | .returnStmt (some x) => some (n.withShape (.returnStmt (some (join x))))
  | .throwStmt x => some (n.withShape (.throwStmt (join x)))
  | .ifStmt test yes no => some (n.withShape (.ifStmt (join test) yes no))
  | .switchStmt subject cases => some (n.withShape (.switchStmt (join subject) cases))
  | .forStmt none test step body => some (n.withShape (.forStmt (some e) test step body))
  | .forStmt (some setup) test step body =>
    match setup.shape with
    | .varDecl .. => none
    | _ => some (n.withShape (.forStmt (some (join setup)) test step body))
  | .forIn left right body =>
    match left.shape with
    | .varDecl _ _ ds => if ds.any hasValue then none else some (moved left right body)
    | _ => some (moved left right body)
  | _ => none
where
  /-- Whether a declarator gives a value. -/
  hasValue (d : Node) : Bool :=
    match d.shape with
    | .declarator _ _ _ (some _) => true
    | _ => false
  /-- A loop over the keys of what is evaluated behind the expression. -/
  moved (left right body : Node) : Node := n.withShape (.forIn left (inOrder [e, right]) body)

/-- Whether a declarator only declares a variable. -/
def declaresOnly (name : String) (d : Node) : Bool :=
  match d.shape with
  | .declarator target _ _ none =>
    match target.shape with
    | .binding other => name == other
    | _ => false
  | _ => false

/-- The variable of a loop declared in the loop: what stays of its declaration, and what declares
it in the loop. -/
def loopVariable? (d left : Node) : Option (List Node × Node) :=
  match d.shape, left.shape with
  | .varDecl .asVar declared ds, .reference name =>
    match ds.partition (declaresOnly name) with
    | ([own], others) =>
      let stays := if others.isEmpty then [] else [d.withShape (.varDecl .asVar declared others)]
      some (stays, .made (.varDecl .asVar declared [own]))
    | _ => none
  | _, _ => none

/-- A declaration with the statement behind it: what stays in front, and the two as one. -/
def declarationBefore? (d n : Node) : Option (List Node × Node) :=
  match d.shape with
  | .varDecl kind declared ds =>
    match n.shape with
    | .varDecl kind' _ more =>
      if kind == kind' && !kind.isUsing then
        some ([], d.withShape (.varDecl kind declared (ds ++ more)))
      else none
    | .forStmt setup test step body =>
      if kind != .asVar then none
      else
        match setup with
        | none => some ([], n.withShape (.forStmt (some d) test step body))
        | some s =>
          match s.shape with
          | .varDecl .asVar _ more =>
            let setup := d.withShape (.varDecl .asVar declared (ds ++ more))
            some ([], n.withShape (.forStmt (some setup) test step body))
          | _ => none
    | .forIn left right body =>
      (loopVariable? d left).map fun (stays, left) => (stays, n.withShape (.forIn left right body))
    | .forOf isAwait left right body =>
      (loopVariable? d left).map fun (stays, left) =>
        (stays, n.withShape (.forOf isAwait left right body))
    | _ => none
  | _ => none

/-- What a statement throws, if it throws. -/
def thrown? (n : Node) : Option Node :=
  match n.shape with
  | .throwStmt value => some value
  | _ => none

/-- A return, or a throw, behind a condition under which another value is returned or thrown. -/
def choiceBefore? (s : Scopes) (c n : Node) : Option Node :=
  let choice (test a b : Node) : Node := expression s (.made (.conditional test a b))
  match c.shape with
  | .ifStmt test yes none =>
    match returned? yes, returned? n, thrown? yes, thrown? n with
    | some a, some b, _, _ => some (n.withShape (.returnStmt (some (choice test a b))))
    | _, _, some a, some b => some (n.withShape (.throwStmt (choice test a b)))
    | _, _, _, _ => none
  | _ => none

/-- Puts a statement behind those so far, the last of which comes first. -/
def push (s : Scopes) : Nat → List Node → Node → List Node
  | 0, done, n => n :: done
  | k + 1, done, n =>
    match done with
    | [] => [n]
    | last :: earlier =>
      let joined :=
        match expressionOf? last with
        | some e => (before? e n).map fun m => ([], m)
        | none => (declarationBefore? last n).or ((choiceBefore? s last n).map fun m => ([], m))
      match joined with
      | some ([], m) => push s k earlier m
      | some (stays, m) => m :: stays ++ earlier
      | none => n :: done

/-- A condition with branches that are expressions, or return, as an expression. -/
def condition (s : Scopes) (n test yes : Node) (no : Option Node) : List Node :=
  let test := asTest test
  let expr (e : Node) : List Node := ((unused s e).map fun e => n.withShape (.exprStmt e)).toList
  let negated : Option Node :=
    match test.shape with
    | .unary .not inner => some inner
    | _ => none
  match truth? test with
  | some b =>
    let before := ((unused s test).map fun e => n.withShape (.exprStmt e)).toList
    before ++
      if b then opened yes ++ no.toList.flatMap unreached
      else no.toList.flatMap opened ++ unreached yes
  | none =>
    let noBranch := no.filter fun x => !(opened x).isEmpty
    match opened yes, noBranch with
    | [], none => expr test
    | [], some other =>
      match expressionOf? other with
      | some e => expr (joined .or test e)
      | none => [n.withShape (.ifStmt (negate test) other none)]
    | _, none =>
      match expressionOf? yes with
      | some e =>
        match negated with
        | some inner => expr (joined .or inner e)
        | none => expr (joined .and test e)
      | none => [n.withShape (.ifStmt test yes none)]
    | _, some other =>
      match expressionOf? yes, expressionOf? other with
      | some a, some b => expr (expression s (.made (.conditional test a b)))
      | _, _ =>
        match returned? yes, returned? other with
        | some a, some b =>
          [n.withShape (.returnStmt (some (expression s (.made (.conditional test a b)))))]
        | _, _ =>
          match negated with
          | some inner => [n.withShape (.ifStmt inner other (some yes))]
          | none => [n.withShape (.ifStmt test yes (some other))]

/-- Whether a block has no statements. -/
def isEmptyBlock (n : Node) : Bool :=
  match n.shape with
  | .block body => body.isEmpty
  | _ => false

/-- An attempt: one that does nothing cannot fail, and nothing has to be done finally where the
block for that is empty. -/
def attempted (n attempt : Node) (handler finalizer : Option Node) : List Node :=
  let left := handler.toList.flatMap unreached
  if isEmptyBlock attempt && left.isEmpty then
    finalizer.toList.flatMap opened
  else
    let finalizer := if handler.isSome then finalizer.filter (!isEmptyBlock ·) else finalizer
    [n.withShape (.tryStmt attempt handler finalizer)]

/-- A loop under a test that is known, or is not: one that never runs only starts. -/
def looped (s : Scopes) (n : Node) (setup : Option Node) (test : Node) (step : Option Node)
    (body : Node) : List Node :=
  match (if isQuiet s test then truth? test else none) with
  | some true => [n.withShape (.forStmt setup none step body)]
  | some false =>
    match setup with
    | none => unreached body
    | some start =>
      match start.shape with
      | .varDecl kind _ _ => if kind.isLexical then [n] else start :: unreached body
      | _ => start.withShape (.exprStmt start) :: unreached body
  | none => [n.withShape (.forStmt setup (some (asTest test)) step body)]

/-- Whether a statement leaves what a label names at once. -/
def leavesAtOnce (label : String) (n : Node) : Bool :=
  match (opened n).head? with
  | none => true
  | some first =>
    match first.shape with
    | .breakStmt (some name) => name == label
    | _ => false

/-- What a statement becomes on its own. -/
def settle (s : Scopes) (n : Node) : List Node :=
  match n.shape with
  | .empty | .debuggerStmt => []
  | .block body => if body.any isLexicalDeclaration then [n] else body
  | .exprStmt e => ((unused s e).map fun e => n.withShape (.exprStmt e)).toList
  | .ifStmt test yes no => condition s n test yes no
  | .whileStmt test body => looped s n none test none body
  | .forStmt setup (some test) step body => looped s n setup test step body
  | .labeled label body => if leavesAtOnce label body then unreached body else [n]
  | .tryStmt attempt handler finalizer => attempted n attempt handler finalizer
  | .returnStmt (some value) =>
    match constant? value with
    | some .undefined => [n.withShape (.returnStmt none)]
    | _ => [n]
  | _ => [n]

/-- A condition as statements of a list: what is done otherwise stands behind a branch that
jumps. -/
def divided (n : Node) : List Node :=
  match n.shape with
  | .ifStmt test yes (some no) =>
    if isJump yes then n.withShape (.ifStmt test yes none) :: opened no else [n]
  | _ => [n]

/-- Statements put together. -/
def together (s : Scopes) (body : List Node) : List Node :=
  ((reached body).foldl (fun done n => push s (done.length + 1) done n) []).reverse

/-- Fewer statements that do the same. -/
def merge (s : Scopes) (body : List Node) : List Node :=
  together s ((body.flatMap (settle s)).flatMap divided)

/-- A statement that stands alone, made of fewer. -/
def alone (s : Scopes) (n : Node) : Node := single (together s ((opened n).flatMap (settle s)))

/-- Whether a statement returns nothing. -/
def returnsNothing (n : Node) : Bool :=
  match n.shape with
  | .returnStmt none => true
  | _ => false

/-- Whether a statement goes on with the next turn of the loop around it. -/
def goesOn (n : Node) : Bool :=
  match n.shape with
  | .continueStmt none => true
  | _ => false

/-- A statement in front of others: a condition under which none of them is done guards them, some
levels down. -/
def guarding (endsAll : Node → Bool) : Nat → Node → List Node → List Node
  | 0, n, rest => n :: rest
  | k + 1, n, rest =>
    match n.shape with
    | .ifStmt test yes no =>
      let behind := (no.toList.flatMap opened).foldr (guarding endsAll k) rest
      if endsAll yes && !behind.isEmpty && !behind.any isLexicalDeclaration then
        [n.withShape (.ifStmt (negate test) (single behind) none)]
      else n :: rest
    | _ => n :: rest

/-- Statements in which conditions guard what is not done if they hold. -/
def guarded (endsAll : Node → Bool) (body : List Node) : List Node :=
  body.foldr (fun n rest => guarding endsAll n.depth n rest) []

/-- Statements without one at the end that ends them anyway. -/
def withoutLast (endsAll : Node → Bool) (body : List Node) : List Node :=
  if body.getLast?.any endsAll then body.dropLast else body

/-- The body of a loop, which goes on with the next turn at its end anyway. -/
def loopBody (s : Scopes) (body : Node) : Node :=
  match body.shape with
  | .block statements =>
    let fewer := merge s (withoutLast goesOn (guarded goesOn statements))
    if fewer.any isLexicalDeclaration then body.withShape (.block fewer) else single fewer
  | _ => body

end Playground.Emit.Minify
