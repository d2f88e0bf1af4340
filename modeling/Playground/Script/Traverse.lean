import Playground.Script.Tree

/-!
# Visiting the children of a node

`Shape.mapM` applies an action to every child of a form of syntax, in source order, and rebuilds
the form.  `Shape.children` lists them.  `Node.depth` bounds how deep a traversal goes.
-/

namespace Playground.Script

variable {α β : Type} {m : Type → Type} [Monad m]

/-- Applies an action to the parts of a function, in source order. -/
@[specialize] def Function.mapM (f : α → m β) (x : Function α) : m (Function β) := do
  let name ← x.name.mapM f
  let typeParams ← x.typeParams.mapM f
  let thisParam ← x.thisParam.mapM f
  let params ← f x.params
  let returnType ← x.returnType.mapM f
  let body ← x.body.mapM f
  return ⟨x.role, x.isAsync, x.isGenerator, x.declared, name, typeParams, thisParam, params,
    returnType, body, x.wrapped⟩

/-- Applies an action to the parts of an arrow function, in source order. -/
@[specialize] def Arrow.mapM (f : α → m β) (x : Arrow α) : m (Arrow β) := do
  let typeParams ← x.typeParams.mapM f
  let params ← f x.params
  let returnType ← x.returnType.mapM f
  let body ← f x.body
  return ⟨x.isAsync, x.concise, typeParams, params, returnType, body, x.wrapped⟩

/-- Applies an action to the parts of a class, in source order. -/
@[specialize] def Class.mapM (f : α → m β) (x : Class α) : m (Class β) := do
  let decorators ← x.decorators.mapM f
  let name ← x.name.mapM f
  let typeParams ← x.typeParams.mapM f
  let heritage ← x.heritage.mapM f
  let heritageArgs ← x.heritageArgs.mapM f
  let implemented ← x.implemented.mapM f
  let members ← x.members.mapM f
  return ⟨x.isExpression, decorators, name, typeParams, heritage, heritageArgs, implemented,
    members, x.bodySpan, x.isAbstract, x.declared⟩

/-- Applies an action to the parts of a method, in source order. -/
@[specialize] def Method.mapM (f : α → m β) (x : Method α) : m (Method β) := do
  let decorators ← x.decorators.mapM f
  let key ← f x.key
  let value ← f x.value
  return ⟨x.kind, decorators, x.modifiers, x.computed, key, value⟩

/-- Applies an action to the parts of a field, in source order. -/
@[specialize] def Field.mapM (f : α → m β) (x : Field α) : m (Field β) := do
  let decorators ← x.decorators.mapM f
  let key ← f x.key
  let ascription ← x.ascription.mapM f
  let value ← x.value.mapM f
  return ⟨x.isAccessor, decorators, x.modifiers, x.computed, key, ascription, value⟩

/-- Applies an action to the parts of a parameter, in source order. -/
@[specialize] def Param.mapM (f : α → m β) (x : Param α) : m (Param β) := do
  let decorators ← x.decorators.mapM f
  let target ← f x.target
  let ascription ← x.ascription.mapM f
  let initial ← x.initial.mapM f
  return ⟨decorators, x.modifiers, target, ascription, initial⟩

/-- Applies an action to every child, in source order. -/
@[specialize] def Shape.mapM (f : α → m β) : Shape α → m (Shape β)
  | .reference name => return .reference name
  | .binding name => return .binding name
  | .propertyName name => return .propertyName name
  | .privateName name => return .privateName name
  | .nullLit => return .nullLit
  | .boolLit value => return .boolLit value
  | .numberLit value raw => return .numberLit value raw
  | .bigIntLit digits => return .bigIntLit digits
  | .stringLit value raw => return .stringLit value raw
  | .regexLit pattern flags => return .regexLit pattern flags
  | .template quasis values => return .template quasis (← values.mapM f)
  | .taggedTemplate tag typeArgs quasi =>
    return .taggedTemplate (← f tag) (← typeArgs.mapM f) (← f quasi)
  | .thisExpr => return .thisExpr
  | .superExpr => return .superExpr
  | .metaProperty owner name => return .metaProperty owner name
  | .arrayLit elements => return .arrayLit (← elements.mapM f)
  | .hole => return .hole
  | .objectLit properties => return .objectLit (← properties.mapM f)
  | .property kind isMethod computed shorthand key value =>
    return .property kind isMethod computed shorthand (← f key) (← f value)
  | .spread argument => return .spread (← f argument)
  | .function x => return .function (← x.mapM f)
  | .arrow x => return .arrow (← x.mapM f)
  | .classDef c => return .classDef (← c.mapM f)
  | .unary op argument => return .unary op (← f argument)
  | .update op leading target => return .update op leading (← f target)
  | .binary op left right => return .binary op (← f left) (← f right)
  | .logical op left right => return .logical op (← f left) (← f right)
  | .conditional test yes no => return .conditional (← f test) (← f yes) (← f no)
  | .assign op target value => return .assign op (← f target) (← f value)
  | .sequence parts => return .sequence (← parts.mapM f)
  | .call callee typeArgs args optional pure =>
    return .call (← f callee) (← typeArgs.mapM f) (← args.mapM f) optional pure
  | .newExpr callee typeArgs args pure =>
    return .newExpr (← f callee) (← typeArgs.mapM f) (← args.mapM f) pure
  | .member object name optional => return .member (← f object) name optional
  | .index object key optional => return .index (← f object) (← f key) optional
  | .privateMember object name optional => return .privateMember (← f object) name optional
  | .chain inner => return .chain (← f inner)
  | .privateIn name right => return .privateIn name (← f right)
  | .importCall phase source options => return .importCall phase (← f source) (← options.mapM f)
  | .await argument => return .await (← f argument)
  | .yieldExpr delegate argument => return .yieldExpr delegate (← argument.mapM f)
  | .paren inner => return .paren (← f inner)
  | .asType inner ascribed => return .asType (← f inner) (← f ascribed)
  | .satisfiesType inner ascribed => return .satisfiesType (← f inner) (← f ascribed)
  | .angleCast ascribed inner => return .angleCast (← f ascribed) (← f inner)
  | .nonNull inner => return .nonNull (← f inner)
  | .instantiate inner typeArgs => return .instantiate (← f inner) (← f typeArgs)
  | .markupElement name typeArgs attributes children closing =>
    return .markupElement (← f name) (← typeArgs.mapM f) (← attributes.mapM f) (← children.mapM f)
      (← closing.mapM f)
  | .markupFragment children => return .markupFragment (← children.mapM f)
  | .markupName name => return .markupName name
  | .markupMember object name => return .markupMember (← f object) name
  | .markupNamespaced space name => return .markupNamespaced space name
  | .markupAttribute name value => return .markupAttribute (← f name) (← value.mapM f)
  | .markupSpread argument => return .markupSpread (← f argument)
  | .markupContainer inner => return .markupContainer (← f inner)
  | .markupEmpty => return .markupEmpty
  | .markupSpreadChild inner => return .markupSpreadChild (← f inner)
  | .markupText value => return .markupText value
  | .objectPattern properties => return .objectPattern (← properties.mapM f)
  | .patternProperty computed shorthand key value =>
    return .patternProperty computed shorthand (← f key) (← f value)
  | .arrayPattern elements => return .arrayPattern (← elements.mapM f)
  | .withDefault target value => return .withDefault (← f target) (← f value)
  | .rest target ascription => return .rest (← f target) (← ascription.mapM f)
  | .program hashbang directives body =>
    return .program hashbang (← directives.mapM f) (← body.mapM f)
  | .directive raw => return .directive raw
  | .block body => return .block (← body.mapM f)
  | .empty => return .empty
  | .exprStmt inner => return .exprStmt (← f inner)
  | .ifStmt test yes no => return .ifStmt (← f test) (← f yes) (← no.mapM f)
  | .forStmt setup test step body =>
    return .forStmt (← setup.mapM f) (← test.mapM f) (← step.mapM f) (← f body)
  | .forIn left right body => return .forIn (← f left) (← f right) (← f body)
  | .forOf isAwait left right body => return .forOf isAwait (← f left) (← f right) (← f body)
  | .whileStmt test body => return .whileStmt (← f test) (← f body)
  | .doWhile body test => return .doWhile (← f body) (← f test)
  | .continueStmt label => return .continueStmt label
  | .breakStmt label => return .breakStmt label
  | .returnStmt argument => return .returnStmt (← argument.mapM f)
  | .withStmt object body => return .withStmt (← f object) (← f body)
  | .switchStmt subject cases => return .switchStmt (← f subject) (← cases.mapM f)
  | .switchCase test body => return .switchCase (← test.mapM f) (← body.mapM f)
  | .labeled label body => return .labeled label (← f body)
  | .throwStmt argument => return .throwStmt (← f argument)
  | .tryStmt attempt handler finalizer =>
    return .tryStmt (← f attempt) (← handler.mapM f) (← finalizer.mapM f)
  | .catchClause caught ascription body =>
    return .catchClause (← caught.mapM f) (← ascription.mapM f) (← f body)
  | .debuggerStmt => return .debuggerStmt
  | .varDecl kind declared declarators => return .varDecl kind declared (← declarators.mapM f)
  | .declarator target definite ascription initial =>
    return .declarator (← f target) definite (← ascription.mapM f) (← initial.mapM f)
  | .params items => return .params (← items.mapM f)
  | .param p => return .param (← p.mapM f)
  | .functionBody directives body => return .functionBody (← directives.mapM f) (← body.mapM f)
  | .method m => return .method (← m.mapM f)
  | .field x => return .field (← x.mapM f)
  | .staticBlock body => return .staticBlock (← body.mapM f)
  | .decorator inner => return .decorator (← f inner)
  | .importDecl phase typeOnly specifiers source attributes =>
    return .importDecl phase typeOnly (← specifiers.mapM (·.mapM f)) (← f source)
      (← attributes.mapM f)
  | .importDefault name => return .importDefault (← f name)
  | .importNamespace name => return .importNamespace (← f name)
  | .importNamed imported name typeOnly => return .importNamed (← f imported) (← f name) typeOnly
  | .exportNamed typeOnly declaration specifiers source attributes =>
    return .exportNamed typeOnly (← declaration.mapM f) (← specifiers.mapM f) (← source.mapM f)
      (← attributes.mapM f)
  | .exportSpecifier name exported typeOnly =>
    return .exportSpecifier (← f name) (← f exported) typeOnly
  | .exportDefault declaration => return .exportDefault (← f declaration)
  | .exportAll typeOnly exported source attributes =>
    return .exportAll typeOnly (← exported.mapM f) (← f source) (← attributes.mapM f)
  | .importAttributes keyword entries => return .importAttributes keyword (← entries.mapM f)
  | .importAttribute key value => return .importAttribute (← f key) (← f value)
  | .typeKeyword name => return .typeKeyword name
  | .typeThis => return .typeThis
  | .typeReference name typeArgs => return .typeReference (← f name) (← typeArgs.mapM f)
  | .qualified left name => return .qualified (← f left) name
  | .typeArguments items => return .typeArguments (← items.mapM f)
  | .typeParameters items => return .typeParameters (← items.mapM f)
  | .typeParameter name isConst isIn isOut bound default =>
    return .typeParameter name isConst isIn isOut (← bound.mapM f) (← default.mapM f)
  | .typeArray element => return .typeArray (← f element)
  | .typeTuple elements => return .typeTuple (← elements.mapM f)
  | .tupleNamed label optional element => return .tupleNamed label optional (← f element)
  | .typeMarked inner mark => return .typeMarked (← f inner) mark
  | .typeRest inner => return .typeRest (← f inner)
  | .typeUnion items => return .typeUnion (← items.mapM f)
  | .typeIntersection items => return .typeIntersection (← items.mapM f)
  | .typeFunction typeParams thisParam formals result =>
    return .typeFunction (← typeParams.mapM f) (← thisParam.mapM f) (← f formals) (← f result)
  | .typeConstructor isAbstract typeParams formals result =>
    return .typeConstructor isAbstract (← typeParams.mapM f) (← f formals) (← f result)
  | .typeConditional subject bound yes no =>
    return .typeConditional (← f subject) (← f bound) (← f yes) (← f no)
  | .typeInfer introduced => return .typeInfer (← f introduced)
  | .typeParen inner => return .typeParen (← f inner)
  | .typeOperator word inner => return .typeOperator word (← f inner)
  | .typeIndexed object key => return .typeIndexed (← f object) (← f key)
  | .typeMapped readonlyMark optionalMark key constraint rename value =>
    return .typeMapped readonlyMark optionalMark key (← f constraint) (← rename.mapM f)
      (← value.mapM f)
  | .typeLiteral inner => return .typeLiteral (← f inner)
  | .typeTemplate quasis items => return .typeTemplate quasis (← items.mapM f)
  | .typeObject members => return .typeObject (← members.mapM f)
  | .typeQuery name typeArgs => return .typeQuery (← f name) (← typeArgs.mapM f)
  | .typeImport source options qualifier typeArgs =>
    return .typeImport (← f source) (← options.mapM f) (← qualifier.mapM f) (← typeArgs.mapM f)
  | .typePredicate asserts subject ascribed =>
    return .typePredicate asserts (← f subject) (← ascribed.mapM f)
  | .propertySignature isReadonly optional computed key ascription =>
    return .propertySignature isReadonly optional computed (← f key) (← ascription.mapM f)
  | .methodSignature kind optional computed key typeParams thisParam formals result =>
    return .methodSignature kind optional computed (← f key) (← typeParams.mapM f)
      (← thisParam.mapM f) (← f formals) (← result.mapM f)
  | .callSignature typeParams thisParam formals result =>
    return .callSignature (← typeParams.mapM f) (← thisParam.mapM f) (← f formals)
      (← result.mapM f)
  | .constructSignature typeParams formals result =>
    return .constructSignature (← typeParams.mapM f) (← f formals) (← result.mapM f)
  | .indexSignature modifiers formals ascription =>
    return .indexSignature modifiers (← formals.mapM f) (← f ascription)
  | .typeAlias declared name typeParams value =>
    return .typeAlias declared (← f name) (← typeParams.mapM f) (← f value)
  | .interface declared name typeParams bases members =>
    return .interface declared (← f name) (← typeParams.mapM f) (← bases.mapM f)
      (← members.mapM f)
  | .heritage inner typeArgs => return .heritage (← f inner) (← typeArgs.mapM f)
  | .enumDecl isConst declared name members =>
    return .enumDecl isConst declared (← f name) (← members.mapM f)
  | .enumMember computed key initial => return .enumMember computed (← f key) (← initial.mapM f)
  | .moduleDecl keyword declared name body =>
    return .moduleDecl keyword declared (← f name) (← body.mapM f)
  | .moduleBlock directives body => return .moduleBlock (← directives.mapM f) (← body.mapM f)
  | .importEquals typeOnly name target => return .importEquals typeOnly (← f name) (← f target)
  | .externalModule source => return .externalModule (← f source)
  | .exportAssign inner => return .exportAssign (← f inner)
  | .exportAsNamespace name => return .exportAsNamespace name

/-- Replaces every child. -/
def Shape.map (f : α → β) (s : Shape α) : Shape β :=
  Id.run (s.mapM fun x => pure (f x))

/-- The children, in source order. -/
def Shape.children (s : Shape α) : List α :=
  ((s.mapM fun x => (modify (x :: ·) : StateM (List α) Unit)).run []).2.reverse

end Playground.Script
