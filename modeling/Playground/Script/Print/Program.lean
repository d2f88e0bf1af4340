import Playground.Script.Depth
import Playground.Script.Print.Statement

/-!
# Printing programs

`Node.print` prints a whole program with the comments it keeps.  The parts of constructs are names,
patterns, parameters, members of classes, markup and types.
-/

namespace Playground.Script

namespace Print

variable (g : Printers)

/-! ### Patterns and parameters -/

/-- An ascribed type. -/
def ascribed (t : Option Node) : Print Unit := do
  match t with
  | some t =>
    put ":"
    blank
    g.part t
  | none => return ()

/-- The words for modifiers of a member. -/
def accessWord (m : Modifiers) : Print Unit := do
  m.access.forM fun a => word (a.text ++ " ")

/-- A target of an assignment or a declaration. -/
def target (n : Node) : Print Unit := do
  match n.shape with
  | .objectPattern _ | .arrayPattern _ | .withDefault .. | .binding _ => g.part n
  | _ => g.expr .update {} n

/-- Whether a property of a pattern can be written by the name it binds alone. -/
def isShorthandTarget (k value : Node) : Bool :=
  match k.shape, value.shape with
  | .propertyName a, .binding b | .propertyName a, .reference b => a == b
  | .propertyName a, .withDefault t _ =>
    match t.shape with
    | .binding b | .reference b => a == b
    | _ => false
  | _, _ => false

/-- Whether a pattern binds names, and does not assign to places. -/
def bindsNames : Nat → Node → Bool
  | 0, _ => true
  | k + 1, n =>
    match n.shape with
    | .binding _ => true
    | .objectPattern items => items.all fun i =>
      match i.shape with
      | .patternProperty _ _ _ v => bindsNames k v
      | .rest t _ => bindsNames k t
      | _ => true
    | .arrayPattern items => items.all fun i =>
      match i.shape with
      | .hole => true
      | .rest t _ => bindsNames k t
      | _ => bindsNames k i
    | .withDefault t _ => bindsNames k t
    | _ => false

/-- An object pattern.  One that binds names has blanks inside of its braces. -/
def objectPattern (binds : Bool) (items : List Node) : Print Unit := do
  put "\x7b"
  if binds then
    if !items.isEmpty then
      blank
      commas g.part items
      blank
  else
    let isRest (n : Node) : Bool := match n.shape with | .rest .. => true | _ => false
    let properties := items.filter (!isRest ·)
    commas g.part properties
    (items.filter isRest).forM fun r => do
      if !properties.isEmpty then put ","
      g.part r
  put "\x7d"

/-- An array pattern; a hole at the end needs a comma of its own. -/
def arrayPattern (items : List Node) : Print Unit := do
  put "["
  commas (fun i => if isHole i then pure () else target g i) items
  if (items.getLast?.map isHole).getD false then put ","
  put "]"

/-- A parameter. -/
def param (p : Param Node) : Print Unit := do
  decorators g p.decorators
  accessWord p.modifiers
  if p.modifiers.isOverride then word "override "
  if p.modifiers.isReadonly then word "readonly "
  target g p.target
  if p.modifiers.isOptional then put "?"
  ascribed g p.ascription
  match p.initial with
  | some x =>
    blank
    put "="
    blank
    g.expr .comma {} x
  | none => return ()

/-! ### Members of classes -/

/-- A method of a class. -/
def method (m : Method Node) : Print Unit := do
  decorators g m.decorators
  accessWord m.modifiers
  if m.modifiers.isAbstract then word "abstract "
  if m.modifiers.isStatic then leadingWord "static"
  match m.value.shape with
  | .function f =>
    if m.modifiers.isOverride then word "override "
    methodWords m.kind f
    key g m.computed m.key
    if m.modifiers.isOptional then put "?"
    signature g f
  | _ => key g m.computed m.key
  newline

/-- A field of a class. -/
def field (f : Field Node) : Print Unit := do
  decorators g f.decorators
  if f.modifiers.isDeclare then word "declare "
  accessWord f.modifiers
  if f.modifiers.isAbstract then word "abstract "
  if f.modifiers.isStatic then leadingWord "static"
  if f.modifiers.isOverride then word "override "
  if f.modifiers.isReadonly then word "readonly "
  if f.isAccessor then leadingWord "accessor"
  key g f.computed f.key
  if f.modifiers.isOptional then put "?"
  if f.modifiers.isDefinite then put "!"
  ascribed g f.ascription
  match f.value with
  | some x =>
    blank
    put "="
    blank
    g.expr .comma {} x
  | none => pure ()
  endStatement

/-! ### Markup -/

/-- The quote an attribute's value is written in. -/
def attributeQuote (value : String) : String :=
  if value.contains '\x22' then "\x27" else "\x22"

/-- An element. -/
def markupElement (name : Node) (typeArgs : Option Node) (attrs children : List Node)
    (closing : Option Node) : Print Unit := do
  put "<"
  g.part name
  typeArgs.forM g.part
  attrs.forM fun a => do
    put " "
    g.part a
  match closing with
  | none =>
    blank
    put "/>"
  | some c =>
    put ">"
    children.forM g.part
    put "</"
    g.part c
    put ">"

/-- The value of an attribute. -/
def attributeValue (n : Node) : Print Unit := do
  match n.shape with
  | .stringLit value _ =>
    let quote := attributeQuote value
    put (quote ++ value ++ quote)
  | _ => g.part n

/-! ### Types -/

/-- A member of an object type, on a line of its own. -/
def typeMembers (members : List Node) : Print Unit :=
  braces members.isEmpty (members.forM fun m => do
    startLine
    g.part m
    put ";"
    newline)

/-- A mark of a mapped type, with its sign. -/
def mappedMark (mark : Option String) (text : String) : Print Unit := do
  mark.forM fun signText => put (signText ++ text)

/-- Parameters of a signature, with the one for `this`. -/
def formals (thisParam : Option Node) (params : Node) : Print Unit := do
  put "("
  match thisParam, params.shape with
  | some p, .params items =>
    g.part p
    if !items.isEmpty then
      put ","
      blank
  | _, _ => pure ()
  g.part params
  put ")"

/-- A type, or a part of one. -/
def type (n : Node) : Print Unit := do
  match n.shape with
  | .typeKeyword name => word name
  | .typeThis => word "this"
  | .typeReference name args =>
    g.part name
    args.forM g.part
  | .qualified left name =>
    g.part left
    put ("." ++ name)
  | .typeArguments items | .typeParameters items =>
    put "<"
    commas g.part items
    put ">"
  | .typeParameter name isConst isIn isOut bound default =>
    if isConst then put "const "
    if isIn then put "in "
    if isOut then put "out "
    put name
    match bound with
    | some b =>
      put " extends "
      g.part b
    | none => pure ()
    match default with
    | some d =>
      put " = "
      g.part d
    | none => pure ()
  | .typeArray element =>
    g.part element
    put "[]"
  | .typeTuple elements =>
    put "["
    commas g.part elements
    put "]"
  | .tupleNamed label optional element =>
    put label
    if optional then put "?"
    put ":"
    put " "
    g.part element
  | .typeMarked inner mark =>
    g.part inner
    put mark
  | .typeRest inner =>
    put "..."
    g.part inner
  | .typeUnion items => separated (put " | ") g.part items
  | .typeIntersection items => separated (put " & ") g.part items
  | .typeFunction typeParams thisParam params result =>
    typeParams.forM g.part
    formals g thisParam params
    put " => "
    g.part result
  | .typeConstructor isAbstract typeParams params result =>
    if isAbstract then put "abstract "
    put "new "
    typeParams.forM g.part
    formals g none params
    put " => "
    g.part result
  | .typeConditional subject bound yes no =>
    g.part subject
    put " extends "
    g.part bound
    put " ? "
    g.part yes
    put " : "
    g.part no
  | .typeInfer introduced =>
    put "infer "
    g.part introduced
  | .typeParen inner =>
    put "("
    g.part inner
    put ")"
  | .typeOperator text inner =>
    put text
    if text != "?" && text != "!" then put " "
    g.part inner
  | .typeIndexed object k =>
    g.part object
    put "["
    g.part k
    put "]"
  | .typeMapped readonlyMark optionalMark name constraint rename value =>
    put "\x7b "
    mappedMark readonlyMark "readonly "
    put ("[" ++ name ++ " in ")
    g.part constraint
    match rename with
    | some r =>
      put " as "
      g.part r
    | none => pure ()
    put "]"
    mappedMark optionalMark "?"
    ascribed g value
    put " \x7d"
  | .typeLiteral inner => g.expr .lowest {} inner
  | .typeTemplate quasis items =>
    put "\x60"
    let rec go : List Quasi → List Node → Print Unit
      | [], _ => return ()
      | q :: qs, [] => do
        put q.raw
        go qs []
      | q :: qs, x :: xs => do
        put q.raw
        put "$\x7b"
        g.part x
        put "\x7d"
        go qs xs
    go quasis items
    put "\x60"
  | .typeObject members => typeMembers g members
  | .typeQuery name args =>
    put "typeof "
    g.part name
    args.forM g.part
  | .typeImport source options qualifier args =>
    put "import("
    g.part source
    match options with
    | some o =>
      put ", "
      g.expr .comma {} o
    | none => pure ()
    put ")"
    match qualifier with
    | some q =>
      put "."
      g.part q
    | none => pure ()
    args.forM g.part
  | .typePredicate asserts subject is =>
    if asserts then put "asserts "
    g.part subject
    match is with
    | some t =>
      put " is "
      g.part t
    | none => pure ()
  | .propertySignature isReadonly optional computed k t =>
    if isReadonly then put "readonly "
    key g computed k
    if optional then put "?"
    ascribed g t
  | .methodSignature kind optional computed k typeParams thisParam params result =>
    match kind with
    | .getter => put "get "
    | .setter => put "set "
    | _ => pure ()
    key g computed k
    if optional then put "?"
    typeParams.forM g.part
    formals g thisParam params
    ascribed g result
  | .callSignature typeParams thisParam params result =>
    typeParams.forM g.part
    formals g thisParam params
    ascribed g result
  | .constructSignature typeParams params result =>
    put "new "
    typeParams.forM g.part
    formals g none params
    ascribed g result
  | .indexSignature modifiers params t =>
    if modifiers.isStatic then put "static "
    if modifiers.isReadonly then put "readonly "
    put "["
    commas g.part params
    put "]"
    ascribed g (some t)
  | _ => return ()

/-! ### Declarations of the typed dialect -/

/-- The members of an enumeration. -/
def enumMembers (members : List Node) : Print Unit :=
  braces members.isEmpty do
    separated (do put ","; newline) (fun m => do startLine; g.part m) members
    if !members.isEmpty then newline

/-- A namespace; dotted names are written in one go. -/
def moduleDeclaration : Nat → Node → Print Unit
  | 0, _ => return ()
  | k + 1, n => do
    match n.shape with
    | .moduleDecl _ _ name b =>
      g.part name
      match b with
      | some inner =>
        match inner.shape with
        | .moduleDecl .. =>
          put "."
          moduleDeclaration k inner
        | .moduleBlock directives stmts =>
          blank
          braces (directives.isEmpty && stmts.isEmpty)
            (directivesAndStatements g directives stmts)
          modify ({ · with needsSemicolon := false })
        | _ => g.part inner
      | none => put ";"
    | _ => return ()

/-- A declaration of the typed dialect. -/
def typedDeclaration (n : Node) : Print Unit := do
  match n.shape with
  | .typeAlias declared name typeParams value =>
    if declared then word "declare "
    word "type "
    g.part name
    typeParams.forM g.part
    put " = "
    g.part value
  | .interface declared name typeParams bases members =>
    if declared then word "declare "
    word "interface "
    g.part name
    typeParams.forM g.part
    if !bases.isEmpty then
      put " extends "
      commas g.part bases
    blank
    typeMembers g members
  | .heritage inner args =>
    g.expr .call {} inner
    args.forM g.part
  | .enumDecl isConst declared name members =>
    if declared then word "declare "
    if isConst then word "const "
    word "enum "
    g.part name
    blank
    enumMembers g members
  | .enumMember computed k initial =>
    if computed then put "["
    g.part k
    if computed then put "]"
    match initial with
    | some x =>
      blank
      put "="
      blank
      g.expr .lowest {} x
    | none => pure ()
  | .moduleDecl keyword declared _ _ =>
    if declared then word "declare "
    if keyword != "global" then word (keyword ++ " ")
    moduleDeclaration g (n.span.stop + 2) n
  | .importEquals typeOnly name value =>
    word "import "
    if typeOnly then put "type "
    g.part name
    put " = "
    g.part value
  | .externalModule source =>
    put "require("
    g.part source
    put ")"
  | .exportAssign x =>
    word "export = "
    g.expr .lowest {} x
  | .exportAsNamespace name => word ("export as namespace " ++ name)
  | _ => type g n

/-! ### All parts -/

/-- Anything that is neither an expression among operators nor a statement. -/
def part (n : Node) : Print Unit := do
  match n.shape with
  | .stringLit value raw => stringLiteral false value raw
  | .propertyName name => put name
  | .binding name => word name
  | .property kind isMethod computed _ k value => property g kind isMethod computed k value
  | .objectPattern items => objectPattern g (bindsNames (n.span.stop + 4) n) items
  | .arrayPattern items => arrayPattern g items
  | .patternProperty computed _ k value =>
    if isShorthandTarget k value && !computed then target g value
    else
      key g computed k
      put ":"
      blank
      target g value
  | .withDefault t value =>
    target g t
    blank
    put "="
    blank
    g.expr .comma {} value
  | .rest t ascription =>
    put "..."
    target g t
    ascribed g ascription
  | .params items => commas g.part items
  | .param p => param g p
  | .functionBody directives stmts => functionBody g n.span directives stmts
  | .method m => method g m
  | .field f => field g f
  | .staticBlock stmts =>
    word "static"
    blank
    block g stmts
    newline
  | .decorator x =>
    put "@"
    g.expr .lowest {} x
  | .catchClause caught ascription b =>
    word "catch"
    match caught with
    | some c =>
      blank
      put "("
      g.part c
      ascribed g ascription
      put ")"
    | none => pure ()
    blank
    clauseBlock g b
  | .switchCase test stmts => switchCase g test stmts
  | .importNamed imported name typeOnly =>
    if typeOnly then put "type "
    let same := match imported.shape, name.shape with
      | .propertyName a, .binding b => a == b
      | _, _ => false
    if same then g.part name
    else
      g.part imported
      put " as "
      g.part name
  | .exportSpecifier name exported typeOnly =>
    if typeOnly then put "type "
    let nameOf (n : Node) : Option String := match n.shape with
      | .propertyName a | .reference a | .binding a => some a
      | _ => none
    g.part name
    let same := match name.shape, exported.shape with
      | .stringLit a _, .stringLit b _ => a == b
      | _, _ => (nameOf name).isSome && nameOf name == nameOf exported
    if !same then
      put " as "
      g.part exported
  | .importAttribute k value =>
    g.part k
    put ":"
    blank
    g.part value
  | .markupElement name typeArgs attrs children closing =>
    markupElement g name typeArgs attrs children closing
  | .markupFragment children =>
    put "<>"
    children.forM g.part
    put "</>"
  | .markupName name => put name
  | .markupMember x name =>
    g.part x
    put ("." ++ name)
  | .markupNamespaced space name => put (space ++ ":" ++ name)
  | .markupAttribute name value =>
    g.part name
    match value with
    | some v =>
      put "="
      attributeValue g v
    | none => pure ()
  | .markupSpread x =>
    put "\x7b..."
    g.expr .comma {} x
    put "\x7d"
  | .markupContainer x =>
    put "\x7b"
    match x.shape with
    | .markupEmpty => commentsAt x.span.stop
    | _ => g.expr .lowest {} x
    put "\x7d"
  | .markupEmpty => return ()
  | .markupSpreadChild x =>
    put "\x7b..."
    g.expr .lowest {} x
    put "\x7d"
  | .markupText value => put value
  | .reference _ | .thisExpr | .member .. | .numberLit .. | .bigIntLit _ | .privateName _
  | .spread _ => g.expr .lowest {} n
  | .moduleBlock directives stmts =>
    braces (directives.isEmpty && stmts.isEmpty) (directivesAndStatements g directives stmts)
  | .typeAlias .. | .interface .. | .heritage .. | .enumDecl .. | .enumMember .. | .moduleDecl ..
  | .importEquals .. | .externalModule _ | .exportAssign _ | .exportAsNamespace _ =>
    typedDeclaration g n
  | _ => type g n

/-! ### Programs -/

/-- Printers that reach the given number of nodes down. -/
def Printers.level : Nat → Printers
  | 0 => default
  | n + 1 =>
    { expr := fun strength room x style page =>
        Print.expression (Printers.level n) strength room x style page
      stmt := fun x style page => Print.statement (Printers.level n) x style page
      part := fun x style page => Print.part (Printers.level n) x style page }

/-- A whole program. -/
def program (n : Node) : Print Unit := do
  match n.shape with
  | .program hashbang directives body =>
    let g := Printers.level (3 * n.depth + 16)
    commentsAt 0
    hashbang.forM fun h => put ("#!" ++ h ++ "\n")
    directivesAndStatements g directives body
    heldSemicolon
    commentsAt n.span.stop
  | _ => return ()

end Print

/-- The text of a program; the comments are those of its source. -/
def Node.print (n : Node) (style : Style) (comments : List Comment) : String :=
  let waiting := if style.compact then [] else Print.waitingComments comments
  ((Print.program n).run style { waiting }).2.text

end Playground.Script
