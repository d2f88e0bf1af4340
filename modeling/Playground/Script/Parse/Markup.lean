import Playground.Script.Parse.Param

/-!
# Markup

Reads elements and fragments of markup.  Among the children of an element the scanner reads text
up to the next `<` or brace; inside the marks it reads names, which may hold hyphens.
-/

namespace Playground.Script.Parse

variable (g : Grammar)

/-- A name of markup without its qualifiers; the name may hold hyphens. -/
def markupIdent : Parse (String × Span) := do
  let t ← token
  if !t.isName then unexpected
  extendMarkupName
  let u ← token
  bump
  return (u.value, u.span)

/-- The members of a dotted element name after its first. -/
def markupMembers (start : Nat) : Nat → Node → Parse Node
  | 0, n => return n
  | k + 1, n => do
    if ← eat "." then
      let (name, span) ← markupIdent
      if name.contains '-' then note .hyphenInMarkup span.start
      markupMembers start k (← node start (.markupMember n name))
    else return n

/-- Whether an element name stands for a variable: it does not start with a small letter and
holds no hyphen. -/
def namesVariable (name : String) : Bool :=
  match name.toList with
  | c :: _ =>
    if c.toNat < 128 then !(c.isLower || name.contains '-')
    else true
  | [] => false

/-- The name of an element. -/
def markupElementName : Parse Node := do
  let start := (← token).start
  let (name, span) ← markupIdent
  if ← eat ":" then
    let (rest, _) ← markupIdent
    node start (.markupNamespaced name rest)
  else if ← isAt "." then
    let first : Node :=
      if name == "this" then .mk span .thisExpr else .mk span (.reference name)
    markupMembers start (← left) first
  else if name == "this" then return .mk span .thisExpr
  else if namesVariable name then return .mk span (.reference name)
  else return .mk span (.markupName name)

/-- Whether two element names are written alike. -/
def sameMarkupName : Nat → Node → Node → Bool
  | 0, _, _ => true
  | k + 1, a, b =>
    match a.shape, b.shape with
    | .markupName x, .markupName y => x == y
    | .reference x, .reference y => x == y
    | .thisExpr, .thisExpr => true
    | .markupNamespaced p x, .markupNamespaced q y => p == q && x == y
    | .markupMember o x, .markupMember p y => x == y && sameMarkupName k o p
    | _, _ => false

/-- Takes the token that ends an element's mark.  Inside another element its children go on
after it. -/
def endMark (inChild : Bool) : Parse Unit := do
  if !(← isAt ">") then unexpected
  if inChild then scanMarkupChild else bump

/-- An expression in braces, or nothing but a comment; the braces stand in an attribute or
among children. -/
def markupContainer (inChild : Bool) : Parse Node := do
  let start := (← token).start
  bump
  if ← isAt "\x7d" then
    let stop := (← token).start
    if !inChild then note .emptyMarkupAttribute start
    let inner := Node.mk ⟨start + 1, stop⟩ .markupEmpty
    if inChild then scanMarkupChild else bump
    node start (.markupContainer inner)
  else
    let inner ← g.expression
    match inner.shape with
    | .sequence _ => note .markupComma inner.span.start
    | _ => pure ()
    if !(← isAt "\x7d") then
      let t ← token
      fail (.expected "\x7d" t.text) t.start
    if inChild then scanMarkupChild else bump
    node start (.markupContainer inner)

/-- An attribute. -/
def markupAttribute : Parse Node := do
  let start := (← token).start
  if ← isAt "\x7b" then
    bump
    expect "..."
    let argument ← g.expression
    expect "\x7d"
    node start (.markupSpread argument)
  else
    let (name, _) ← markupIdent
    let nameNode ←
      if ← isAt ":" then do
        bump
        let (rest, _) ← markupIdent
        node start (.markupNamespaced name rest)
      else node start (.markupName name)
    if !(← isAt "=") then return ← node start (.markupAttribute nameNode none)
    scanMarkupValue
    let t ← token
    let value ←
      if t.kind == .string then do
        let raw ← slice t.start t.stop
        bump
        node t.start (.stringLit t.value (some raw))
      else if t.isText "\x7b" then markupContainer g false
      else if t.isText "<" then g.markup false
      else unexpected
    node start (.markupAttribute nameNode (some value))

/-- The attributes of an element. -/
def markupAttributes : Nat → List Node → Parse (List Node)
  | 0, acc => return acc.reverse
  | n + 1, acc => do
    let t ← token
    if t.kind == .eof || t.isAny ["<", ">", "/"] then return acc.reverse
    markupAttributes n ((← markupAttribute g) :: acc)

/-- The children of an element, up to its closing mark, of which the `</` is taken. -/
def markupChildren : Nat → List Node → Parse (List Node)
  | 0, acc => return acc.reverse
  | n + 1, acc => do
    let t ← token
    if t.isText "<" then
      if ← nextIs (·.isText "/") then
        bump
        bump
        return acc.reverse
      markupChildren n ((← g.markup true) :: acc)
    else if t.isText "\x7b" then
      if ← nextIs (·.isText "...") then
        bump
        bump
        let inner ← g.expression
        if !(← isAt "\x7d") then
          let u ← token
          fail (.expected "\x7d" u.text) u.start
        scanMarkupChild
        markupChildren n ((← node t.start (.markupSpreadChild inner)) :: acc)
      else markupChildren n ((← markupContainer g true) :: acc)
    else if t.kind == .markupText then
      scanMarkupChild
      markupChildren n ((← node t.start (.markupText t.value)) :: acc)
    else unexpected

/-- The text of an element name in a message. -/
def markupNameText (n : Node) : Parse String := slice n.span.start n.span.stop

/-- An element or fragment; the current token is its `<`. -/
def markup (inChild : Bool) : Parse Node := do
  let start := (← token).start
  bump
  if ← isAt ">" then
    scanMarkupChild
    let children ← markupChildren g (← left) []
    let t ← token
    if !t.isText ">" then
      if t.isName then fail .closingFragment t.start
      unexpected
    endMark inChild
    node start (.markupFragment children)
  else
    let name ← markupElementName
    let typeArgs ← typeArguments? g
    let attributes ← markupAttributes g (← left) []
    if ← eat "/" then
      endMark inChild
      node start (.markupElement name typeArgs attributes [] none)
    else
      if !(← isAt ">") then unexpected
      scanMarkupChild
      let children ← markupChildren g (← left) []
      let t ← token
      if t.isText ">" then
        note (.closingTag (← markupNameText name)) t.start
        endMark inChild
        node start (.markupElement name typeArgs attributes children none)
      else
        let closing ← markupElementName
        if !sameMarkupName (closing.span.stop + 1) name closing then
          note (.closingTag (← markupNameText name)) closing.span.start
        endMark inChild
        node start (.markupElement name typeArgs attributes children (some closing))

end Playground.Script.Parse
