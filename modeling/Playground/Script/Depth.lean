import Playground.Script.Tree

/-!
# How deep a tree is

`Node.depth` is the length of the longest path from a node to a leaf, counted in nodes.  It is
the number of levels a traversal that goes one node down at a time needs.
-/

namespace Playground.Script

/-- The largest of some numbers, zero if there is none. -/
def deepest (ns : List Nat) : Nat := ns.foldr max 0

mutual

/-- The length of the longest path down from the node, counted in nodes. -/
def Node.depth : Node → Nat
  | .mk _ s => Shape.depth s + 1

/-- The depth of the deepest child. -/
def Shape.depth : Shape Node → Nat
  | .template _ values => Node.listDepth values
  | .taggedTemplate tag typeArgs quasi =>
    deepest [tag.depth, Node.optionDepth typeArgs, quasi.depth]
  | .arrayLit elements => Node.listDepth elements
  | .objectLit properties => Node.listDepth properties
  | .property _ _ _ _ key value => deepest [key.depth, value.depth]
  | .spread argument => argument.depth
  | .function x => Function.depth x
  | .arrow x => Arrow.depth x
  | .classDef c => Class.depth c
  | .unary _ argument => argument.depth
  | .update _ _ target => target.depth
  | .binary _ left right => deepest [left.depth, right.depth]
  | .logical _ left right => deepest [left.depth, right.depth]
  | .conditional test yes no => deepest [test.depth, yes.depth, no.depth]
  | .assign _ target value => deepest [target.depth, value.depth]
  | .sequence parts => Node.listDepth parts
  | .call callee typeArgs args _ _ =>
    deepest [callee.depth, Node.optionDepth typeArgs, Node.listDepth args]
  | .newExpr callee typeArgs args _ =>
    deepest [callee.depth, Node.optionDepth typeArgs, Node.listDepth args]
  | .member object _ _ => object.depth
  | .index object key _ => deepest [object.depth, key.depth]
  | .privateMember object _ _ => object.depth
  | .chain inner => inner.depth
  | .privateIn _ right => right.depth
  | .importCall _ source options => deepest [source.depth, Node.optionDepth options]
  | .await argument => argument.depth
  | .yieldExpr _ argument => Node.optionDepth argument
  | .paren inner => inner.depth
  | .asType inner ascribed => deepest [inner.depth, ascribed.depth]
  | .satisfiesType inner ascribed => deepest [inner.depth, ascribed.depth]
  | .angleCast ascribed inner => deepest [ascribed.depth, inner.depth]
  | .nonNull inner => inner.depth
  | .instantiate inner typeArgs => deepest [inner.depth, typeArgs.depth]
  | .markupElement name typeArgs attributes children closing =>
    deepest [name.depth, Node.optionDepth typeArgs, Node.listDepth attributes,
      Node.listDepth children, Node.optionDepth closing]
  | .markupFragment children => Node.listDepth children
  | .markupMember object _ => object.depth
  | .markupAttribute name value => deepest [name.depth, Node.optionDepth value]
  | .markupSpread argument => argument.depth
  | .markupContainer inner => inner.depth
  | .markupSpreadChild inner => inner.depth
  | .objectPattern properties => Node.listDepth properties
  | .patternProperty _ _ key value => deepest [key.depth, value.depth]
  | .arrayPattern elements => Node.listDepth elements
  | .withDefault target value => deepest [target.depth, value.depth]
  | .rest target ascription => deepest [target.depth, Node.optionDepth ascription]
  | .program _ directives body => deepest [Node.listDepth directives, Node.listDepth body]
  | .block body => Node.listDepth body
  | .exprStmt inner => inner.depth
  | .ifStmt test yes no => deepest [test.depth, yes.depth, Node.optionDepth no]
  | .forStmt setup test step body =>
    deepest [Node.optionDepth setup, Node.optionDepth test, Node.optionDepth step, body.depth]
  | .forIn left right body => deepest [left.depth, right.depth, body.depth]
  | .forOf _ left right body => deepest [left.depth, right.depth, body.depth]
  | .whileStmt test body => deepest [test.depth, body.depth]
  | .doWhile body test => deepest [body.depth, test.depth]
  | .returnStmt argument => Node.optionDepth argument
  | .withStmt object body => deepest [object.depth, body.depth]
  | .switchStmt subject cases => deepest [subject.depth, Node.listDepth cases]
  | .switchCase test body => deepest [Node.optionDepth test, Node.listDepth body]
  | .labeled _ body => body.depth
  | .throwStmt argument => argument.depth
  | .tryStmt attempt handler finalizer =>
    deepest [attempt.depth, Node.optionDepth handler, Node.optionDepth finalizer]
  | .catchClause caught ascription body =>
    deepest [Node.optionDepth caught, Node.optionDepth ascription, body.depth]
  | .varDecl _ _ declarators => Node.listDepth declarators
  | .declarator target _ ascription initial =>
    deepest [target.depth, Node.optionDepth ascription, Node.optionDepth initial]
  | .params items => Node.listDepth items
  | .param p => Param.depth p
  | .functionBody directives body => deepest [Node.listDepth directives, Node.listDepth body]
  | .method m => Method.depth m
  | .field x => Field.depth x
  | .staticBlock body => Node.listDepth body
  | .decorator inner => inner.depth
  | .importDecl _ _ specifiers source attributes =>
    deepest [Node.optionListDepth specifiers, source.depth, Node.optionDepth attributes]
  | .importDefault name => name.depth
  | .importNamespace name => name.depth
  | .importNamed imported name _ => deepest [imported.depth, name.depth]
  | .exportNamed _ declaration specifiers source attributes =>
    deepest [Node.optionDepth declaration, Node.listDepth specifiers, Node.optionDepth source,
      Node.optionDepth attributes]
  | .exportSpecifier name exported _ => deepest [name.depth, exported.depth]
  | .exportDefault declaration => declaration.depth
  | .exportAll _ exported source attributes =>
    deepest [Node.optionDepth exported, source.depth, Node.optionDepth attributes]
  | .importAttributes _ entries => Node.listDepth entries
  | .importAttribute key value => deepest [key.depth, value.depth]
  | .typeReference name typeArgs => deepest [name.depth, Node.optionDepth typeArgs]
  | .qualified left _ => left.depth
  | .typeArguments items => Node.listDepth items
  | .typeParameters items => Node.listDepth items
  | .typeParameter _ _ _ _ bound default =>
    deepest [Node.optionDepth bound, Node.optionDepth default]
  | .typeArray element => element.depth
  | .typeTuple elements => Node.listDepth elements
  | .tupleNamed _ _ element => element.depth
  | .typeMarked inner _ => inner.depth
  | .typeRest inner => inner.depth
  | .typeUnion items => Node.listDepth items
  | .typeIntersection items => Node.listDepth items
  | .typeFunction typeParams thisParam formals result =>
    deepest [Node.optionDepth typeParams, Node.optionDepth thisParam, formals.depth, result.depth]
  | .typeConstructor _ typeParams formals result =>
    deepest [Node.optionDepth typeParams, formals.depth, result.depth]
  | .typeConditional subject bound yes no =>
    deepest [subject.depth, bound.depth, yes.depth, no.depth]
  | .typeInfer introduced => introduced.depth
  | .typeParen inner => inner.depth
  | .typeOperator _ inner => inner.depth
  | .typeIndexed object key => deepest [object.depth, key.depth]
  | .typeMapped _ _ _ constraint rename value =>
    deepest [constraint.depth, Node.optionDepth rename, Node.optionDepth value]
  | .typeLiteral inner => inner.depth
  | .typeTemplate _ items => Node.listDepth items
  | .typeObject members => Node.listDepth members
  | .typeQuery name typeArgs => deepest [name.depth, Node.optionDepth typeArgs]
  | .typeImport source options qualifier typeArgs =>
    deepest [source.depth, Node.optionDepth options, Node.optionDepth qualifier,
      Node.optionDepth typeArgs]
  | .typePredicate _ subject ascribed => deepest [subject.depth, Node.optionDepth ascribed]
  | .propertySignature _ _ _ key ascription => deepest [key.depth, Node.optionDepth ascription]
  | .methodSignature _ _ _ key typeParams thisParam formals result =>
    deepest [key.depth, Node.optionDepth typeParams, Node.optionDepth thisParam, formals.depth,
      Node.optionDepth result]
  | .callSignature typeParams thisParam formals result =>
    deepest [Node.optionDepth typeParams, Node.optionDepth thisParam, formals.depth,
      Node.optionDepth result]
  | .constructSignature typeParams formals result =>
    deepest [Node.optionDepth typeParams, formals.depth, Node.optionDepth result]
  | .indexSignature _ formals ascription => deepest [Node.listDepth formals, ascription.depth]
  | .typeAlias _ name typeParams value =>
    deepest [name.depth, Node.optionDepth typeParams, value.depth]
  | .interface _ name typeParams bases members =>
    deepest [name.depth, Node.optionDepth typeParams, Node.listDepth bases,
      Node.listDepth members]
  | .heritage inner typeArgs => deepest [inner.depth, Node.optionDepth typeArgs]
  | .enumDecl _ _ name members => deepest [name.depth, Node.listDepth members]
  | .enumMember _ key initial => deepest [key.depth, Node.optionDepth initial]
  | .moduleDecl _ _ name body => deepest [name.depth, Node.optionDepth body]
  | .moduleBlock directives body => deepest [Node.listDepth directives, Node.listDepth body]
  | .importEquals _ name target => deepest [name.depth, target.depth]
  | .externalModule source => source.depth
  | .exportAssign inner => inner.depth
  | _ => 0

/-- The depth of the deepest part of a function. -/
def Function.depth : Function Node → Nat
  | ⟨_, _, _, _, name, typeParams, thisParam, params, returnType, body, _⟩ =>
    deepest [Node.optionDepth name, Node.optionDepth typeParams, Node.optionDepth thisParam,
      params.depth, Node.optionDepth returnType, Node.optionDepth body]

/-- The depth of the deepest part of an arrow function. -/
def Arrow.depth : Arrow Node → Nat
  | ⟨_, _, typeParams, params, returnType, body, _⟩ =>
    deepest [Node.optionDepth typeParams, params.depth, Node.optionDepth returnType, body.depth]

/-- The depth of the deepest part of a class. -/
def Class.depth : Class Node → Nat
  | ⟨_, decorators, name, typeParams, heritage, heritageArgs, implemented, members, _, _, _⟩ =>
    deepest [Node.listDepth decorators, Node.optionDepth name, Node.optionDepth typeParams,
      Node.optionDepth heritage, Node.optionDepth heritageArgs, Node.listDepth implemented,
      Node.listDepth members]

/-- The depth of the deepest part of a method. -/
def Method.depth : Method Node → Nat
  | ⟨_, decorators, _, _, key, value⟩ => deepest [Node.listDepth decorators, key.depth, value.depth]

/-- The depth of the deepest part of a field. -/
def Field.depth : Field Node → Nat
  | ⟨_, decorators, _, _, key, ascription, value⟩ =>
    deepest [Node.listDepth decorators, key.depth, Node.optionDepth ascription,
      Node.optionDepth value]

/-- The depth of the deepest part of a parameter. -/
def Param.depth : Param Node → Nat
  | ⟨decorators, _, target, ascription, initial⟩ =>
    deepest [Node.listDepth decorators, target.depth, Node.optionDepth ascription,
      Node.optionDepth initial]

/-- The depth of the deepest node of a list. -/
def Node.listDepth : List Node → Nat
  | [] => 0
  | x :: xs => max x.depth (Node.listDepth xs)

/-- The depth of a node that may be absent. -/
def Node.optionDepth : Option Node → Nat
  | none => 0
  | some x => x.depth

/-- The depth of the deepest node of a list that may be absent. -/
def Node.optionListDepth : Option (List Node) → Nat
  | none => 0
  | some x => Node.listDepth x

end

end Playground.Script
