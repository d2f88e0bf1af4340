import Playground.Script.Print.Expression

/-!
# Printing statements

Every statement starts with the comments that lead it and ends its line.
-/

namespace Playground.Script.Print

variable (g : Printers)

/-! ### Bodies -/

/-- Statements one after another. -/
def statements (body : List Node) : Print Unit :=
  body.forM fun s => do
    heldSemicolon
    g.stmt s

/-- The quote a directive is written in: the one it does not hold. -/
def directiveQuote : List Char → Char
  | [] => '\x22'
  | '\\' :: _ :: cs => directiveQuote cs
  | c :: cs =>
    if c == '\x22' then '\x27' else if c == '\x27' then '\x22' else directiveQuote cs

/-- Directives and the statements after them. -/
def directivesAndStatements (directives body : List Node) : Print Unit := do
  directives.forM fun d => do
    match d.shape with
    | .directive raw =>
      startLine
      let quote := (directiveQuote raw.toList).toString
      put (quote ++ raw ++ quote)
      put ";"
      newline
    | _ => g.stmt d
  statements g body

/-- The body of a function.  Comments before its closing brace are kept. -/
def functionBody (span : Span) (directives body : List Node) : Print Unit := do
  let atEnd ← if span.stop > 0 then takeComments (span.stop - 1) else pure []
  let isEmpty := directives.isEmpty && body.isEmpty
  let oneLine := isEmpty && atEnd.all fun c => !c.newlineBefore && !c.newlineAfter
  braces oneLine do
    directivesAndStatements g directives body
    if !atEnd.isEmpty then
      leadingComments none atEnd
      modify ({ · with indentAsBlank := false })
  modify ({ · with needsSemicolon := false })

/-- A block. -/
def block (body : List Node) : Print Unit := do
  braces body.isEmpty (statements g body)
  modify ({ · with needsSemicolon := false })

/-- The block a clause ends with. -/
def clauseBlock (n : Node) : Print Unit := do
  match n.shape with
  | .block body => block g body
  | _ => g.stmt n

/-- The body of a statement: a block stays on its line, and so does any other statement. -/
def body (needSpace : Bool) (n : Node) : Print Unit := do
  match n.shape with
  | .block stmts =>
    blank
    block g stmts
    newline
  | .empty =>
    if ← isCompact then put ";" else put ";"
    newline
  | _ =>
    if needSpace && (← isCompact) then put " "
    modify ({ · with indentAsBlank := true })
    g.stmt n

/-! ### Branches -/

/-- Whether an `else` behind the statement would belong to a conditional inside of it. -/
def swallowsElse : Nat → Node → Bool
  | 0, _ => false
  | k + 1, n =>
    match n.shape with
    | .ifStmt _ _ none => true
    | .ifStmt _ _ (some no) => swallowsElse k no
    | .forStmt _ _ _ b | .forIn _ _ b | .forOf _ _ _ b | .whileStmt _ b | .withStmt _ b
    | .labeled _ b => swallowsElse k b
    | _ => false

/-- A conditional and the conditionals behind its `else`. -/
def ifStatement : Nat → Node → Node → Option Node → Print Unit
  | 0, _, _, _ => return ()
  | k + 1, test, yes, no => do
    word "if"
    blank
    put "("
    g.expr .lowest {} test
    put ")"
    match yes.shape with
    | .block stmts =>
      blank
      block g stmts
      if no.isSome then blank else newline
    | _ =>
      if no.isSome && swallowsElse (k + 1) yes then
        blank
        braces false (g.stmt yes)
        modify ({ · with needsSemicolon := false })
        blank
      else
        body g false yes
        if no.isSome then startLine
    match no with
    | none => return ()
    | some other =>
      heldSemicolon
      word "else"
      match other.shape with
      | .block stmts =>
        blank
        block g stmts
        newline
      | .ifStmt test yes no =>
        put " "
        ifStatement k test yes no
      | _ => body g true other

/-- A case of a switch. -/
def switchCase (test : Option Node) (stmts : List Node) : Print Unit := do
  match test with
  | some t =>
    word "case"
    blank
    g.expr .lowest {} t
  | none => word "default"
  put ":"
  match stmts with
  | [s] => body g false s
  | _ =>
    newline
    indented (statements g stmts)

/-! ### Declarations -/

/-- A variable declaration without its end. -/
def declarators (room : Room) (kind : VarKind) (declared : Bool) (ds : List Node) : Print Unit := do
  if declared then word "declare "
  word kind.text
  if !ds.isEmpty then blank
  commas (fun d => do
    match d.shape with
    | .declarator target definite ascription initial =>
      g.part target
      if definite then put "!"
      match ascription with
      | some t =>
        put ":"
        blank
        g.part t
      | none => pure ()
      match initial with
      | some x =>
        blank
        put "="
        blank
        g.expr .comma { noIn := room.noIn } x
      | none => pure ()
    | _ => g.part d) ds

/-- What the head of a loop sets up or assigns to. -/
def loopHead (n : Node) : Print Unit := do
  match n.shape with
  | .varDecl kind declared ds => declarators g { noIn := true } kind declared ds
  | .objectPattern _ | .arrayPattern _ => g.part n
  | _ => g.expr .lowest { noIn := true } n

/-- The attributes of an import. -/
def attributes (n : Option Node) : Print Unit := do
  match n with
  | none => return ()
  | some a =>
    match a.shape with
    | .importAttributes keyword entries =>
      blank
      put keyword
      blank
      put "\x7b"
      if !entries.isEmpty then
        blank
        commas g.part entries
        blank
      put "\x7d"
    | _ => return ()

/-- The specifiers of an import: a default, a namespace, a list. -/
def importSpecifiers (specifiers : List Node) : Print Unit := do
  let isNamed (n : Node) : Bool := match n.shape with | .importNamed .. => true | _ => false
  let named := specifiers.filter isNamed
  let others := specifiers.filter (!isNamed ·)
  if !others.isEmpty then blank
  commas (fun n => do
    match n.shape with
    | .importDefault name => g.part name
    | .importNamespace name =>
      put "*"
      blank
      put "as "
      g.part name
    | _ => g.part n) others
  if !named.isEmpty then
    if !others.isEmpty then put ","
    blank
    put "\x7b"
    blank
    commas g.part named
    blank
    put "\x7d"
    blank
  else if !others.isEmpty then put " "

/-- An import. -/
def importDeclaration (phase : Option String) (typeOnly : Bool)
    (specifiers : Option (List Node)) (source : Node) (attrs : Option Node) : Print Unit := do
  word "import"
  if typeOnly then put " type"
  phase.forM fun p => put (" " ++ p)
  match specifiers with
  | none => blank
  | some [] =>
    blank
    put "\x7b\x7d"
    blank
    put "from"
    blank
  | some ss =>
    importSpecifiers g ss
    put "from"
    blank
  g.part source
  attributes g attrs
  endStatement

/-- An export of names or of a declaration. -/
def exportNamed (typeOnly : Bool) (declaration : Option Node) (specifiers : List Node)
    (source attrs : Option Node) : Print Unit := do
  word "export"
  if typeOnly then put " type"
  match declaration with
  | some d =>
    put " "
    match d.shape with
    | .varDecl kind declared ds =>
      declarators g {} kind declared ds
      endStatement
    | .typeAlias .. | .importEquals .. =>
      g.part d
      endStatement
    | .function _ | .classDef _ =>
      g.expr .lowest {} d
      newline
    | _ =>
      g.part d
      newline
  | none =>
    blank
    put "\x7b"
    if !specifiers.isEmpty then
      blank
      commas g.part specifiers
      blank
    put "\x7d"
    match source with
    | some s =>
      blank
      put "from"
      blank
      g.part s
      attributes g attrs
    | none => pure ()
    endStatement

/-- A default export. -/
def exportDefault (d : Node) : Print Unit := do
  word "export"
  put " default "
  match d.shape with
  | .function f =>
    g.expr .lowest {} d
    if f.role == .expression then endStatement else newline
  | .classDef c =>
    if c.isExpression then modify fun p => { p with exportStart := some p.text.utf8ByteSize }
    g.expr .lowest {} d
    if c.isExpression then endStatement else newline
  | .interface .. =>
    g.part d
    newline
  | _ =>
    modify fun p => { p with exportStart := some p.text.utf8ByteSize }
    g.expr .comma {} d
    endStatement

/-! ### All statements -/

/-- Starts the line of a statement that may stand where a line is started already. -/
def startStatementLine : Print Unit := do
  let p ← get
  if p.indent > 0 || p.indentAsBlank then startLine

/-- Something after a keyword, in parentheses. -/
def inParens (x : Node) : Print Unit := do
  put "("
  g.expr .lowest {} x
  put ")"

/-- A statement on lines of its own. -/
def statement (n : Node) : Print Unit := do
  match n.shape with
  | .typeAlias .. | .interface .. | .enumDecl .. | .importEquals .. => pure ()
  | _ => commentsAt n.span.start
  match n.shape with
  | .exprStmt x =>
    startStatementLine
    modify fun p => { p with statementStart := some p.text.utf8ByteSize }
    g.expr .lowest {} x
    endStatement
  | .labeled label b =>
    startStatementLine
    word label
    put ":"
    body g false b
  | .block stmts =>
    startLine
    block g stmts
    newline
  | .empty =>
    startLine
    put ";"
    newline
  | .ifStmt test yes no =>
    startLine
    ifStatement g (n.span.stop + 2) test yes no
  | .forStmt setup test step b =>
    startLine
    word "for"
    blank
    put "("
    setup.forM (loopHead g)
    put ";"
    match test with
    | some t =>
      blank
      g.expr .lowest {} t
    | none => pure ()
    put ";"
    match step with
    | some t =>
      blank
      g.expr .lowest {} t
    | none => pure ()
    put ")"
    body g false b
  | .forIn left right b =>
    startLine
    word "for"
    blank
    put "("
    loopHead g left
    blank
    word "in"
    blank
    g.expr .lowest {} right
    put ")"
    body g false b
  | .forOf isAwait left right b =>
    startLine
    word "for"
    if isAwait then put " await"
    blank
    put "("
    let isBare := match left.shape with
      | .reference name => name == "let" || (name == "async" && !isAwait)
      | _ => false
    wrapped isBare (loopHead g left)
    blank
    word "of"
    blank
    g.expr .comma {} right
    put ")"
    body g false b
  | .whileStmt test b =>
    startLine
    word "while"
    blank
    inParens g test
    body g false b
  | .doWhile b test =>
    startLine
    word "do"
    match b.shape with
    | .block stmts =>
      blank
      block g stmts
      blank
    | _ =>
      newline
      indented do
        g.stmt b
        heldSemicolon
      startLine
    word "while"
    blank
    inParens g test
    endStatement
  | .continueStmt label =>
    startLine
    word "continue"
    label.forM fun l => put (" " ++ l)
    endStatement
  | .breakStmt label =>
    startLine
    word "break"
    label.forM fun l => put (" " ++ l)
    endStatement
  | .returnStmt x =>
    startLine
    word "return"
    match x with
    | some y =>
      blank
      g.expr .lowest {} y
    | none => pure ()
    endStatement
  | .withStmt object b =>
    startLine
    word "with"
    inParens g object
    body g false b
  | .switchStmt subject cases =>
    startLine
    word "switch"
    blank
    inParens g subject
    blank
    braces cases.isEmpty (cases.forM fun c => do
      heldSemicolon
      commentsAt c.span.start
      startLine
      g.part c)
    modify ({ · with needsSemicolon := false })
    newline
  | .throwStmt x =>
    startLine
    word "throw"
    blank
    g.expr .lowest {} x
    endStatement
  | .tryStmt attempt handler finalizer =>
    startLine
    word "try"
    blank
    clauseBlock g attempt
    match handler with
    | some h =>
      blank
      g.part h
    | none => pure ()
    match finalizer with
    | some f =>
      blank
      word "finally"
      blank
      clauseBlock g f
    | none => pure ()
    newline
  | .debuggerStmt =>
    startLine
    word "debugger"
    endStatement
  | .varDecl kind declared ds =>
    startLine
    declarators g {} kind declared ds
    endStatement
  | .function _ | .classDef _ =>
    startLine
    g.expr .lowest {} n
    newline
  | .importDecl phase typeOnly specifiers source attrs =>
    startLine
    importDeclaration g phase typeOnly specifiers source attrs
  | .exportNamed typeOnly declaration specifiers source attrs =>
    startLine
    exportNamed g typeOnly declaration specifiers source attrs
  | .exportDefault d =>
    startLine
    exportDefault g d
  | .exportAll typeOnly exported source attrs =>
    startLine
    word "export"
    if typeOnly then put " type"
    blank
    put "*"
    match exported with
    | some e =>
      blank
      put "as "
      g.part e
      put " "
    | none => blank
    put "from"
    blank
    g.part source
    attributes g attrs
    endStatement
  | .typeAlias .. | .importEquals .. | .exportAssign _ | .exportAsNamespace _ =>
    startLine
    g.part n
    endStatement
  | _ =>
    startLine
    g.part n
    newline

end Playground.Script.Print
