import Playground.Script.Early.Place
import Playground.Script.Numeral
import Playground.Script.Parse.Program

/-!
# Early faults

What is wrong with a program although it could be read: names that are declared twice or are
reserved, jumps that lead nowhere, a base class where there is none, and so on.  `Early.faultsOf`
lists them in the order in which they are noticed.
-/

namespace Playground.Script.Early

/-! ### Names -/

/-- The words that are no names in strict code. -/
def strictWords : List String :=
  ["implements", "interface", "let", "package", "private", "protected", "public", "static",
    "yield"]

/-- What is wrong with a name. -/
def nameFaults (p : Place) (n : Node) (name : String) : List Noticed :=
  if p.ambient then []
  else if name = "await" && p.isModule || p.strict && strictWords.contains name then
    [.behind n (.reservedHere name) n.span.start]
  else []

/-- What is wrong with a name that is declared. -/
def bindingFaults (p : Place) (n : Node) (name : String) : List Noticed :=
  nameFaults p n name
    ++ if p.strict && !p.ambient && (name = "eval" || name = "arguments") then
        [.behind n (.strictAssign name) n.span.start]
      else []

/-- What is wrong with the variables that an assignment writes, some levels down. -/
def writtenFaults (p : Place) : Nat → Node → List Noticed
  | 0, _ => []
  | k + 1, n =>
    match n.shape with
    | .reference name =>
      if p.strict && (name = "eval" || name = "arguments") then
        [.behind n (.strictAssign name) n.span.start]
      else []
    | .objectPattern properties => properties.flatMap (writtenFaults p k)
    | .patternProperty _ _ _ value => writtenFaults p k value
    | .arrayPattern elements => elements.flatMap (writtenFaults p k)
    | .withDefault target _ => writtenFaults p k target
    | .rest target _ => writtenFaults p k target
    | .paren inner => writtenFaults p k inner
    | _ => []

/-- What is wrong with the use of a variable. -/
def referenceFaults (p : Place) (n : Node) (name : String) : List Noticed :=
  nameFaults p n name
    ++ match p.noArguments with
      | some words =>
        if name = "arguments" then [.behind n (.argumentsInInitializer words) n.span.start]
        else []
      | none => []

/-- What is wrong with the names of a declaration. -/
def declarationFaults (p : Place) (kind : VarKind) (n : Node) (declarators : List Node) :
    List Noticed :=
  if kind.isLexical && !p.strict then
    ((Names.ofDeclarators declarators).filter fun d => d.name = "let").map fun d =>
      .behind n (.letInLexical kind.text) d.start
  else []

/-- What is wrong with the declaration in the head of a loop over keys or items: it declares one
variable, and gives it no value. -/
def headFaults (p : Place) (isIn : Bool) (n left : Node) : List Noticed :=
  match left.shape with
  | .varDecl kind _ declarators =>
    let valued := declarators.any fun d =>
      match d.shape with
      | .declarator target _ _ (some _) =>
        p.strict || !isIn || kind.isLexical || !(target.shape matches .binding _)
      | _ => false
    (if declarators.length > 1 then
      [Noticed.behind n (.forMultiple (if isIn then "in" else "of")) left.span.start]
    else []) ++
      if valued then
        [.behind n (.forInitializer (if isIn then "for-in" else "for-of")) left.span.start]
      else []
  | _ => []

/-- What is wrong with a variable that is said to have a value in any case. -/
def definiteFaults (n target : Node) (isTyped hasInitial : Bool) : List Noticed :=
  if hasInitial then [.behind n .definiteInitial target.span.stop]
  else if isTyped then []
  else [.behind n .definiteUntyped target.span.stop]

/-! ### Literals -/

/-- What is wrong with a number in strict code. -/
def numberFaults (p : Place) (n : Node) (raw : Option String) : List Noticed :=
  match p.strict, (raw.getD "").toList with
  | true, '0' :: c :: cs =>
    if !c.isDigit then []
    else
      let octal := (c :: cs).all fun d => '0' ≤ d && d ≤ '7'
      [.behind n (if octal then .legacyOctal else .leadingZero) n.span.start]
  | _, _ => []

/-- The first escape of a string that strict code does not have. -/
def oldEscape? : List Char → Option Cause
  | '\\' :: '0' :: c :: cs =>
    if '1' ≤ c && c ≤ '9' then some .legacyOctal else oldEscape? (c :: cs)
  | '\\' :: c :: cs =>
    if '1' ≤ c && c ≤ '7' then some .legacyOctal
    else if c = '8' || c = '9' then some .octalEscape
    else oldEscape? cs
  | _ :: cs => oldEscape? cs
  | [] => none

/-- What is wrong with a string in strict code. -/
def stringFaults (p : Place) (n : Node) (raw : Option String) : List Noticed :=
  if p.strict then
    (oldEscape? (raw.getD "").toList).toList.map fun cause => .behind n cause n.span.start
  else []

/-! ### Jumps -/

/-- What is wrong with a jump to a label, or out of the innermost statement that allows it. -/
def jumpFaults (p : Place) (n : Node) (word : String) (label : Option String) (allowed : Bool)
    (illegal : Cause) : List Noticed :=
  match label with
  | none => if allowed then [] else [.behind n illegal n.span.start]
  | some name =>
    -- the label, if one blank stands behind the word
    let start := n.span.start + word.utf8ByteSize + 1
    match p.labels.find? fun l => l.name = name with
    | some l =>
      if word = "continue" && !l.isLoop then [.behind n (.labelNotLoop word) l.start] else []
    | none => [.behind n (if p.inFunction then .jumpOverFunction else .unknownLabel) start]

/-- What is wrong with a label. -/
def labelFaults (p : Place) (n : Node) (name : String) : List Noticed :=
  nameFaults p n name
    ++ match p.labels.find? fun l => l.name = name with
      | some l => [.behind n (.labelRedeclared name) l.start]
      | none => []

/-- What is wrong with a function that is the body of another statement. -/
def bodyFaults (p : Place) (tolerant : Bool) (body : Node) : List Noticed :=
  match body.shape with
  | .function f =>
    if f.role = .declaration && (p.strict || !tolerant) then
      [.behind body .functionPosition body.span.start]
    else []
  | _ => []

/-! ### Expressions -/

/-- What is wrong with an operand of `delete`. -/
def deleteFaults (p : Place) : Nat → Node → List Noticed
  | 0, _ => []
  | k + 1, n =>
    match n.shape with
    | .reference _ => if p.strict then [.behind n .deleteName n.span.start] else []
    | .privateMember .. => [.behind n .deletePrivate n.span.start]
    | .chain inner | .paren inner => deleteFaults p k inner
    | .asType inner _ | .satisfiesType inner _ | .angleCast _ inner | .nonNull inner =>
      deleteFaults p k inner
    | _ => []

/-- The fixed name of a key. -/
def keyName? (computed : Bool) (key : Node) : Option String :=
  match key.shape with
  | .propertyName name => some name
  | .stringLit value _ => some value
  | .numberLit value raw => if computed then raw else some (numberText value)
  | .privateName name => some ("#" ++ name)
  | _ => none

/-- What is wrong with the properties of an object: it has one prototype. -/
def prototypeFaults (n : Node) (properties : List Node) : List Noticed :=
  let keys := properties.filterMap fun q =>
    match q.shape with
    | .property .method false false false key _ =>
      if keyName? false key = some "__proto__" then some key else none
    | _ => none
  match keys with
  | first :: _ :: _ => [.behind n (.redeclared "__proto__") first.span.start]
  | _ => []

/-- Where the private name at the end of a node starts. -/
def privateStart (n : Node) (name : String) : Nat := n.span.stop - name.utf8ByteSize - 1

/-- What is wrong with reaching a private name of an object: the base class has none. -/
def privateOwnerFaults (n object : Node) : List Noticed :=
  match object.shape with
  | .superExpr => [.behind n .privateOnSuper object.span.start]
  | _ => []

/-- What is wrong with a private name. -/
def privateFaults (p : Place) (n : Node) (name : String) (start : Nat) : List Noticed :=
  match p.privates with
  | none => [.behind n (.privateOutsideClass name) start]
  | some names => if names.contains name then [] else [.behind n (.privateUndeclared name) start]

/-! ### Functions and classes -/

/-- What is wrong with the order of optional parameters. -/
def orderFaults : Bool → List Node → List Noticed
  | _, [] => []
  | seen, n :: rest =>
    match n.shape with
    | .param p =>
      (if seen && !p.modifiers.isOptional && p.initial.isNone then
        [Noticed.behind n .requiredAfterOptional n.span.start]
      else []) ++ orderFaults (seen || p.modifiers.isOptional) rest
    | _ => orderFaults seen rest

/-- What is wrong with the order of type parameters that have a default. -/
def typeOrderFaults : Bool → List Node → List Noticed
  | _, [] => []
  | seen, n :: rest =>
    match n.shape with
    | .typeParameter _ _ _ _ _ default =>
      (if seen && default.isNone then [Noticed.behind n .optionalTypeParamOrder n.span.start]
      else []) ++ typeOrderFaults (seen || default.isSome) rest
    | _ => typeOrderFaults seen rest

/-- What is wrong with a directive in a function whose parameters are no plain names. -/
def directiveFaults (params : Node) (body : Option Node) : List Noticed :=
  match body.map Node.shape with
  | some (.functionBody directives _) =>
    if Declare.areSimple (Declare.itemsOf params) then []
    else
      (directives.filter fun d => areStrict [d]).map fun d =>
        .behind d .useStrictParams d.span.start
  | _ => []

/-- Whether a method has no body. -/
def isBodiless (m : Method Node) : Bool :=
  match m.value.shape with
  | .function f => f.body.isNone
  | _ => false

/-- What is wrong with the constructors of a class: one of them has a body. -/
def constructorFaults (n : Node) (members : List Node) (declared : Bool) : List Noticed :=
  let constructors := members.filterMap fun m =>
    match m.shape with
    | .method x => if x.kind = .constructor then some (m, x) else none
    | _ => none
  let (bodiless, whole) := constructors.partition fun c => isBodiless c.2
  match bodiless.getLast?, whole with
  | _, first :: _ :: _ => [.behind n .duplicateConstructor first.2.key.span.start]
  | some last, [] =>
    if declared then [] else [.behind n .missingConstructorBody last.1.span.start]
  | _, _ => []

/-- What is wrong with methods without a body: each is followed by one of its name. -/
def overloadFaults (n : Node) : List Node → List Noticed
  | [] => []
  | m :: rest =>
    let here := match m.shape with
      | .method x =>
        let followed := match rest with
          | r :: _ =>
            match r.shape with
            | .method y =>
              keyName? x.computed x.key = keyName? y.computed y.key
                && (keyName? x.computed x.key).isSome
            | _ => false
          | [] => false
        if x.kind != .constructor && isBodiless x && !x.modifiers.isAbstract
            && !x.modifiers.isOptional && !followed then
          [Noticed.behind n .missingFunctionBody x.key.span.start]
        else []
      | _ => []
    here ++ overloadFaults n rest

/-- What is wrong with abstract members of a class that is not abstract. -/
def abstractFaults (n : Node) (members : List Node) : List Noticed :=
  members.filterMap fun m =>
    match m.shape with
    | .method x =>
      if x.modifiers.isAbstract then
        some (.behind n (.abstractInConcrete "methods") x.key.span.start)
      else none
    | .field x =>
      if x.modifiers.isAbstract then
        some (.behind n (.abstractInConcrete "properties") x.key.span.start)
      else none
    | _ => none

/-- What is wrong with a method by itself: no constructor is abstract, and an accessor has a
body. -/
def methodFormFaults (p : Place) (n : Node) (m : Method Node) : List Noticed :=
  if m.kind = .constructor then
    if m.modifiers.isAbstract then [.behind n .abstractPlace m.key.span.start] else []
  else if m.kind != .method && isBodiless m && !m.modifiers.isAbstract && !p.ambient then
    [.behind n .accessorBodyMissing m.key.span.start]
  else []

/-- What is wrong with a class as a whole. -/
def classFaults (p : Place) (n : Node) (c : Class Node) : List Noticed :=
  let ambient := p.ambient || c.declared
  constructorFaults n c.members ambient
    ++ (if ambient then [] else overloadFaults n c.members)
    ++ (if c.isAbstract then [] else abstractFaults n c.members)

/-- A named member of a class. -/
structure Element where
  name : String
  /-- the name as written -/
  written : String
  start : Nat
  isStatic : Bool
  kind : Option MethodKind
deriving Inhabited

/-- A key with a fixed name, as written. -/
def writtenKey (key : Node) (name : String) : String :=
  match key.shape with
  | .stringLit _ raw | .numberLit _ raw => raw.getD name
  | _ => name

/-- The named members of a class. -/
def elementsOf (members : List Node) : List Element :=
  members.filterMap fun n =>
    match n.shape with
    | .method m =>
      if m.kind = .constructor || isBodiless m then none
      else
        (keyName? m.computed m.key).map fun name =>
          ⟨name, writtenKey m.key name, m.key.span.start, m.modifiers.isStatic, some m.kind⟩
    | .field f =>
      (keyName? f.computed f.key).map fun name =>
        ⟨name, writtenKey f.key name, f.key.span.start, f.modifiers.isStatic, none⟩
    | _ => none

/-- Whether two members of one name do not go together. -/
def Element.clashes (a b : Element) : Bool :=
  let isAccessor (e : Element) : Bool := e.kind = some .getter || e.kind = some .setter
  a.isStatic == b.isStatic && (!(isAccessor a && isAccessor b) || a.kind = b.kind)

/-- What is wrong with a member and an earlier one of the same name: a private name is either of
the class or of its objects. -/
def Element.clash? (a b : Element) : Option Cause :=
  if a.clashes b then some (.redeclared a.written)
  else if a.name.startsWith "#" && a.isStatic != b.isStatic then some (.privateTwice a.name)
  else none

/-- What is wrong with members of one name; each is compared with the one before. -/
def elementFaults (place : Nat) : List Element → List Element → List Noticed
  | _, [] => []
  | before, e :: rest =>
    let clash : Option Noticed := do
      let b ← before.find? fun b => b.name = e.name
      let cause ← b.clash? e
      return ⟨place, ⟨cause, b.start, false⟩⟩
    clash.toList ++ elementFaults place (e :: before) rest

/-- What is wrong with the members of the classes of a program that have one name. -/
def memberFaults (program : Node) : List Noticed :=
  program.nodes.flatMap fun n =>
    match n.shape with
    | .classDef c => elementFaults program.span.stop [] (elementsOf c.members)
    | _ => []

/-! ### Typed declarations -/

/-- What is wrong with members of an enumeration that have no value. -/
def enumFaults : Bool → List Node → List Noticed
  | _, [] => []
  | needed, m :: rest =>
    match m.shape with
    | .enumMember _ _ (some initial) =>
      let known := match initial.shape with
        | .numberLit .. | .reference _ | .member .. | .index .. | .binary .. | .unary .. => true
        | _ => false
      enumFaults (!known) rest
    | .enumMember _ _ none =>
      (if needed then [Noticed.behind m .enumInitializer m.span.start] else [])
        ++ enumFaults needed rest
    | _ => enumFaults needed rest

/-- The names of types that are part of the language. -/
def typeWords : List String :=
  ["any", "unknown", "never", "number", "bigint", "boolean", "string", "symbol", "void", "object",
    "undefined"]

/-- What is wrong with the name of a type. -/
def typeNameFaults (n : Node) (what : String) (name : Node) : List Noticed :=
  ((Names.ofBinding name).filter fun b => typeWords.contains b.name).map fun b =>
    .behind n (.typeNameReserved what b.name) b.start

/-- Where the name of a type parameter starts. -/
def typeParameterStart (n : Node) (name : String) (isConst isIn isOut : Bool)
    (hasMore : Bool) : Nat :=
  let words := (if isConst then 6 else 0) + (if isIn then 3 else 0) + (if isOut then 4 else 0)
  if hasMore then n.span.start + words else n.span.stop - name.utf8ByteSize

/-- What is wrong with a type parameter: only those of classes, interfaces and aliases have a
variance. -/
def typeParameterFaults (variant : Bool) (n : Node) : List Noticed :=
  match n.shape with
  | .typeParameter name isConst isIn isOut bound default =>
    let start := typeParameterStart n name isConst isIn isOut (bound.isSome || default.isSome)
    (if typeWords.contains name then
      [Noticed.behind n (.typeNameReserved "Type parameter" name) start]
    else [])
      ++ (if isIn && !variant then [.behind n (.variancePlace "in") n.span.start] else [])
      ++ if isOut && !variant then [.behind n (.variancePlace "out") n.span.start] else []
  | _ => []

/-- What is wrong with the place of a namespace, once for every node around it; an augmentation of
the global scope declares what exists elsewhere. -/
def namespaceFaults (p : Place) (n : Node) (keyword : String) (declared : Bool) : List Noticed :=
  List.replicate p.below (.behind n .namespacePlace n.span.start)
    ++ if keyword = "global" && !declared && !p.ambient then
        [.behind n .globalAugmentation n.span.start]
      else []

/-- What is wrong with the statements of a case: a resource needs a block around it. -/
def caseFaults (body : List Node) : List Noticed :=
  body.filterMap fun n =>
    match n.shape with
    | .varDecl kind _ _ =>
      if kind.isUsing then some (.behind n .usingInCase n.span.start) else none
    | _ => none

/-- What is wrong with an export assignment: nothing else is exported. -/
def assignmentFaults (program : Node) (body : List Node) : List Noticed :=
  let others := body.any fun n =>
    match n.shape with
    | .exportNamed _ none [] none _ => false
    | .exportNamed .. | .exportDefault _ | .exportAll .. => true
    | _ => false
  if others then
    (body.filter fun n => n.shape matches .exportAssign _).map fun n =>
      .behind program .exportAssignMixed n.span.start
  else []

/-- What is wrong with the statements of a script. -/
def scriptFaults (p : Place) (body : List Node) : List Noticed :=
  if p.isModule then []
  else
    body.filterMap fun n =>
      match n.shape with
      | .varDecl kind _ _ =>
        if kind.isUsing then some (.behind n .usingAtTop n.span.start) else none
      | _ => none

/-! ### Everywhere -/

/-- Whether an expression is the base class. -/
def isBase (n : Node) : Bool := n.shape matches .superExpr

mutual

/-- What is wrong with a node and below it, some levels down. -/
def faultsTo : Nat → Place → Node → List Noticed
  | 0, _, _ => []
  | k + 1, around, n =>
    let p := around.within n
    let inside : List Noticed := n.shape.children.flatMap (faultsTo k p)
    match n.shape with
    | .program _ directives body =>
      directives.flatMap (faultsTo k p) ++ body.flatMap (faultsTo k p) ++ scriptFaults p body
        ++ assignmentFaults n body
    | .directive text => stringFaults p n (some text)
    | .block body => body.flatMap (faultsTo k p.nested)
    | .binding name => bindingFaults p n name
    | .reference name => referenceFaults p n name
    | .numberLit _ raw => numberFaults p n raw
    | .stringLit _ raw => stringFaults p n raw
    | .metaProperty "new" _ =>
      if p.hasTarget then [] else [.behind n .newTargetOutside n.span.start]
    | .objectLit properties => inside ++ prototypeFaults n properties
    | .property kind isMethod _ _ key value =>
      faultsTo k p key
        ++ if isMethod || kind != .method then methodFaults k p false false value
          else faultsTo k p value
    | .function f =>
      if f.declared then [] else functionFaults k (p.inOwnFunction f) p n f
    | .arrow f =>
      let q := p.inArrow f.body
      f.typeParams.toList.flatMap (faultsTo k p) ++ faultsTo k q f.params
        ++ f.returnType.toList.flatMap (faultsTo k p) ++ faultsTo k q f.body
        ++ directiveFaults f.params (some f.body)
    | .params items => inside ++ orderFaults false items
    | .param _ => n.shape.children.flatMap (faultsTo k { p with inParameter := true })
    | .await _ =>
      inside
        ++ (if p.inParameter then [.behind n .awaitInParams n.span.start] else [])
        ++ if p.inStaticBlock then [.behind n .awaitInStatic n.span.start] else []
    | .yieldExpr .. =>
      inside ++ if p.inParameter then [.behind n .yieldInParams n.span.start] else []
    | .exportDefault inner => faultsTo k { p with nameless := true } inner
    | .declarator target true ascription initial =>
      inside ++ definiteFaults n target ascription.isSome initial.isSome
    | .typeParameters items =>
      items.flatMap (fun i => faultsTo k p i ++ typeParameterFaults around.variant i)
        ++ typeOrderFaults false items
    | .classDef c =>
      let q := p.inClass (c.members.flatMap privateNameOf) c.declared
      c.decorators.flatMap (faultsTo k p)
        ++ c.name.toList.flatMap (faultsTo k { p with strict := true })
        ++ c.typeParams.toList.flatMap (faultsTo k p)
        ++ c.heritage.toList.flatMap (faultsTo k { p with strict := true })
        ++ c.members.flatMap (faultsInClass k q c.heritage.isSome) ++ classFaults p n c
        ++ if c.name.isNone && !c.isExpression && !p.nameless then
            [.behind n .classNameRequired n.span.start]
          else []
    | .unary .delete argument => inside ++ deleteFaults p (k + 1) argument
    | .assign _ target _ => inside ++ writtenFaults p (k + 1) target
    | .update _ _ target => inside ++ writtenFaults p (k + 1) target
    | .call callee _ args _ _ =>
      if isBase callee then
        args.flatMap (faultsTo k p)
          ++ if p.baseCall then []
            else if p.rootConstructor then [.behind n .superWithoutBase n.span.start]
            else [.behind n .superCall n.span.start]
      else inside
    | .superExpr => if p.baseMember then [] else [.behind n .superReference n.span.start]
    | .privateMember object name _ =>
      faultsTo k p object ++ privateOwnerFaults n object
        ++ privateFaults p n name (privateStart n name)
    | .privateIn name right => privateFaults p n name n.span.start ++ faultsTo k p right
    | .withStmt object body =>
      faultsTo k p object ++ faultsTo k p body ++ [.behind n .withInStrict n.span.start]
    | .ifStmt test yes no =>
      faultsTo k p test ++ faultsTo k p.nested yes ++ no.toList.flatMap (faultsTo k p.nested)
        ++ bodyFaults p true yes ++ no.toList.flatMap (bodyFaults p true)
    | .labeled label body =>
      let l : Label := ⟨label, n.span.start, isLoop body⟩
      faultsTo k (p.labelled l) body ++ labelFaults p n label ++ bodyFaults p true body
    | .forStmt setup test step body =>
      (setup.toList ++ test.toList ++ step.toList).flatMap (faultsTo k p)
        ++ faultsTo k p.looping body ++ bodyFaults p false body
    | .forIn left right body =>
      faultsTo k p left ++ faultsTo k p right ++ faultsTo k p.looping body
        ++ writtenFaults p (k + 1) left ++ bodyFaults p false body ++ headFaults p true n left
    | .forOf _ left right body =>
      faultsTo k p left ++ faultsTo k p right ++ faultsTo k p.looping body
        ++ writtenFaults p (k + 1) left ++ bodyFaults p false body ++ headFaults p false n left
    | .whileStmt test body =>
      faultsTo k p test ++ faultsTo k p.looping body ++ bodyFaults p false body
    | .doWhile body test =>
      faultsTo k p.looping body ++ faultsTo k p test ++ bodyFaults p false body
    | .switchStmt subject cases =>
      faultsTo k p subject ++ cases.flatMap (faultsTo k p.switching)
    | .switchCase test body =>
      test.toList.flatMap (faultsTo k p) ++ body.flatMap (faultsTo k p) ++ caseFaults body
    | .breakStmt label => jumpFaults p n "break" label (p.inLoop || p.inSwitch) .illegalBreak
    | .continueStmt label => jumpFaults p n "continue" label p.inLoop .illegalContinue
    | .varDecl kind declared declarators =>
      if declared then [] else inside ++ declarationFaults p kind n declarators
    | .enumDecl _ declared _ members =>
      if declared || p.ambient then [] else inside ++ enumFaults false members
    | .moduleDecl keyword declared _ body =>
      body.toList.flatMap (faultsTo k { p with ambient := p.ambient || declared })
        ++ namespaceFaults around n keyword declared
    | .typeAlias _ name _ _ => inside ++ typeNameFaults n "Type alias" name
    | .interface _ name _ _ _ => inside ++ typeNameFaults n "Interface" name
    | _ => inside

/-- What is wrong with a function, whose own place is the first one. -/
def functionFaults : Nat → Place → Place → Node → Function Node → List Noticed
  | 0, _, _, _, _ => []
  | k + 1, own, p, _, f =>
    f.name.toList.flatMap (faultsTo k (if f.role = .expression then own else p))
      ++ f.typeParams.toList.flatMap (faultsTo k p) ++ faultsTo k own f.params
      ++ f.returnType.toList.flatMap (faultsTo k p) ++ f.body.toList.flatMap (faultsTo k own)
      ++ directiveFaults f.params f.body

/-- What is wrong with the function of a method; a constructor belongs to a class with or
without a base class. -/
def methodFaults : Nat → Place → Bool → Bool → Node → List Noticed
  | 0, _, _, _, _ => []
  | k + 1, p, isConstructor, hasBase, n =>
    match n.shape with
    | .function f =>
      let p := p.within n
      functionFaults k (p.inMethod isConstructor hasBase f) p n f
    | _ => faultsTo k p n

/-- What is wrong with a member of a class, which has a base class or not. -/
def faultsInClass : Nat → Place → Bool → Node → List Noticed
  | 0, _, _, _ => []
  | k + 1, around, hasBase, n =>
    let p := around.within n
    match n.shape with
    | .method m =>
      m.decorators.flatMap (faultsTo k p) ++ faultsTo k p m.key
        ++ methodFaults k p (m.kind = .constructor) hasBase m.value ++ methodFormFaults p n m
    | .field f =>
      f.decorators.flatMap (faultsTo k p) ++ faultsTo k p f.key
        ++ f.ascription.toList.flatMap (faultsTo k p)
        ++ f.value.toList.flatMap (faultsTo k (p.inInitializer "class field initializer"))
    | .staticBlock body => body.flatMap (faultsTo k p.inStatic)
    | _ => faultsTo k p n

end

/-- What is wrong with a program that could be read. -/
def faultsOf (parsed : Parsed) : List Fault :=
  let program := parsed.program
  let directives := match program.shape with
    | .program _ directives _ => directives
    | _ => []
  let strict := parsed.isModule || areStrict directives
  let place : Place := { strict, isModule := parsed.isModule }
  let found := redeclarations strict program
    ++ faultsTo (3 * program.depth + 3) place program ++ memberFaults program
  (found.mergeSort fun a b => a.place ≤ b.place).map (·.fault)

end Playground.Script.Early
