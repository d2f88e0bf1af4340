import Playground.Compiler.Pipeline
import Playground.Emit.ModuleImports
import Playground.Script.Letter
import Playground.Text.Entities

/-!
# Compiling markup

An element of markup becomes a call: in classic mode of a factory with the name, the attributes
and the children, in automatic mode of a function of an imported runtime, which takes the
children among the attributes and the key apart.  Comments of the program may name another
factory, fragment, mode or runtime.
-/

namespace Playground.Emit

open Playground.Compiler Playground.Script Playground.Text

/-- What markup is compiled to. -/
structure MarkupTarget where
  automatic : Bool
  /-- the factory, if one is given -/
  factory : Option String
  /-- what stands for a fragment, if it is given -/
  fragment : Option String
  /-- where the runtime is imported from, if it is given -/
  importSource : Option String
deriving Inhabited

namespace MarkupTarget

/-- What the options ask for. -/
def ofOptions (o : CompilerOptions) : MarkupTarget :=
  match o.jsx with
  | .automatic =>
    { automatic := true, factory := none, fragment := none, importSource := o.jsxImportSource }
  | _ =>
    { automatic := false, factory := o.jsxFactory, fragment := o.jsxFragment
      importSource := none }

/-! ### Comments that change the target -/

/-- Whether a character ends a word of a comment. -/
def isGap (c : Char) : Bool :=
  c == ' ' || c == '\t' || c == '\n' || c == '\r' || c == '\x0c'

/-- What a word of a comment, and the word after it, ask for. -/
def heed (t : MarkupTarget) (word value : String) : MarkupTarget :=
  match word with
  | "" => { t with factory := value }
  | "Frag" => { t with fragment := value }
  | "Runtime" =>
    match value with
    | "classic" => { t with automatic := false }
    | "automatic" => { t with automatic := true }
    | _ => t
  | "ImportSource" => { t with importSource := value }
  | _ => t

/-- The words that may follow `@jsx`. -/
def pragmaWords : List String := ["Frag", "Runtime", "ImportSource", ""]

/-- The target after a comment, of which the given characters are left. -/
def afterText : Nat → MarkupTarget → List Char → MarkupTarget
  | 0, t, _ => t
  | k + 1, t, cs =>
    match afterStart? ['@'] (cs.dropWhile (· != '@')) with
    | none => t
    | some rest =>
      match afterStart? ['j', 's', 'x'] rest with
      | none => afterText k t rest
      | some rest =>
        let found := pragmaWords.findSome? fun w =>
          match afterStart? w.toList rest with
          | some (c :: more) => if isGap c then some (w, more) else none
          | _ => none
        match found with
        | none => afterText k t rest
        | some (w, more) =>
          let more := more.dropWhile isGap
          let value := more.takeWhile fun c => !isGap c
          if value.isEmpty then t
          else afterText k (heed t w (String.ofList value)) (more.drop value.length)

/-- The inside of a comment. -/
def inside (c : Comment) : List Char :=
  let cs := c.text.toList.drop 2
  if c.isBlock then cs.take (cs.length - 2) else cs

/-- The target after the comments of a program. -/
def afterComments (t : MarkupTarget) (comments : List Comment) : MarkupTarget :=
  comments.foldl (fun t c => afterText (c.text.length + 1) t (inside c)) t

/-! ### Parts of the calls -/

/-- A dotted name as an expression. -/
def dotted (name : String) : Node :=
  match (pieces '.' name.toList).map String.ofList with
  | "import" :: "meta" :: rest => rest.foldl Build.dot (.made (.metaProperty "import" "meta"))
  | "this" :: rest => rest.foldl Build.dot Build.this
  | first :: rest => rest.foldl Build.dot (Build.var first)
  | [] => Build.var name

/-- A configured name, or a property of `React` in place of one that is missing. -/
def named (name : Option String) (default : String) : Node :=
  match name with
  | some s => if s.isEmpty then Build.dot (Build.var "React") default else dotted s
  | none => Build.dot (Build.var "React") default

/-- The module of the runtime. -/
def runtime (t : MarkupTarget) : String :=
  match t.importSource with
  | some s => if s.isEmpty then "react" else s
  | none => "react"

end MarkupTarget

/-! ### Text -/

/-- Whether a character is a blank inside of a line. -/
def isInlineBlank (c : Char) : Bool :=
  c == ' ' || c == '\t' || c == '\x0b' || c == '\x0c' || c == '\u00a0' || c == '\ufeff' ||
    c == '\u1680' || ('\u2000' ≤ c && c ≤ '\u200a') || c == '\u202f' || c == '\u205f' ||
    c == '\u3000'

/-- The lines of a text. -/
def textLines (cs : List Char) : List (List Char) :=
  let ends (c : Char) : Bool :=
    c == '\n' || c == '\r' || c == '\u2028' || c == '\u2029'
  cs.foldr (fun c acc =>
    match acc with
    | [] => [[c]]
    | l :: ls => if ends c then [] :: l :: ls else (c :: l) :: ls) [[]]

/-- A text without the blanks at the ends of its lines, except at its own ends, on one line;
nothing if it is blank and has several lines. -/
def markupText? (s : String) : Option String :=
  let trimEnd (l : List Char) : List Char := (l.reverse.dropWhile isInlineBlank).reverse
  match textLines s.toList with
  | [] => none
  | [only] => if only.isEmpty then none else some (decodeEntities (String.ofList only))
  | first :: rest =>
    let last := (rest.getLastD []).dropWhile isInlineBlank
    let middle := rest.dropLast.map fun l => trimEnd (l.dropWhile isInlineBlank)
    let kept := ((trimEnd first :: middle) ++ [last]).filter fun l => !l.isEmpty
    if kept.isEmpty then none
    else some (" ".intercalate (kept.map fun l => decodeEntities (String.ofList l)))

/-! ### Calls -/

/-- What compiling markup keeps track of. -/
structure MarkupState where
  fresh : Fresh
  imports : ModuleImports := {}
  /-- the names under which things are imported already -/
  names : List (String × String) := []
  faults : List String := []
deriving Inhabited

/-- The monad of compiling markup. -/
abbrev MarkupM := ReaderT (MarkupTarget × Bool) (StateM MarkupState)

namespace MarkupM

/-- The name something is imported under. -/
def imported (source key base : String) (front : Bool) (as : String → Imported) :
    MarkupM String := do
  let s ← get
  match s.names.lookup key with
  | some name => return name
  | none =>
    let (name, fresh) := s.fresh.make base
    set { s with
      fresh, names := (key, name) :: s.names, imports := s.imports.add source (as name) front }
    return name

/-- The helper that merges objects. -/
def spreadHelper : MarkupM String :=
  imported (helperModule "objectSpread2") "objectSpread" "objectSpread" false .whole

/-- Something of the runtime. -/
def ofRuntime (exported : String) : MarkupM Node := do
  let (target, isModule) ← read
  let source := target.runtime ++ "/jsx-runtime"
  if isModule then
    return Build.var (← imported source exported exported false (.named exported))
  let whole ← imported source "runtime" "reactJsxRuntime" false .whole
  return Build.dot (Build.var whole) exported

/-- The factory that takes the key among the attributes, in automatic mode. -/
def keyedFactory : MarkupM Node := do
  let (target, isModule) ← read
  if isModule then
    return Build.var
      (← imported target.runtime "createElement" "createElement" false (.named "createElement"))
  let whole ← imported target.runtime "react" "react" true .whole
  return Build.dot (Build.var whole) "createElement"

/-- Notes that something cannot be compiled. -/
def refuse (message : String) : MarkupM Unit :=
  modify fun s => { s with faults := s.faults ++ [message] }

/-- The name of an element as an expression. -/
def elementName : Nat → Node → MarkupM Node
  | 0, n => return n
  | k + 1, n => do
    match n.shape with
    | .markupName name => return .mk n.span (.stringLit name none)
    | .markupNamespaced space name =>
      refuse ("Namespace tags are not supported by default. React's JSX doesn't support " ++
        "namespace tags. You can set \x60throwIfNamespace: false\x60 to bypass this warning.")
      return .mk n.span (.stringLit (space ++ ":" ++ name) none)
    | .markupMember object name => return .mk n.span (.member (← elementName k object) name false)
    | _ => return n

/-- The name of an attribute. -/
def attributeName (n : Node) : String :=
  match n.shape with
  | .markupName name => name
  | .markupNamespaced space name => space ++ ":" ++ name
  | _ => ""

/-- The name of an attribute as the key of a property. -/
def attributeKey (n : Node) : Node :=
  let name := attributeName n
  match n.shape with
  | .markupNamespaced .. => .mk n.span (.stringLit name none)
  | _ =>
    if name.toList.contains '-' then .mk n.span (.stringLit name none)
    else .mk n.span (.propertyName name)

/-- Whether an attribute is the key. -/
def isKey (n : Node) : Bool :=
  match n.shape with
  | .markupAttribute name _ =>
    match name.shape with
    | .markupName s => s == "key"
    | _ => false
  | _ => false

/-- Whether an attribute is a spread. -/
def isSpreadAttribute (n : Node) : Bool :=
  match n.shape with
  | .markupSpread _ => true
  | _ => false

/-- Whether the key comes behind a spread. -/
def keyBehindSpread : List Node → Bool
  | [] => false
  | a :: rest => if isSpreadAttribute a then rest.any isKey else keyBehindSpread rest

/-- Whether an object literal sets the prototype. -/
def setsPrototype (properties : List Node) : Bool :=
  properties.any fun p =>
    match p.shape with
    | .property .method false false _ key _ =>
      match key.shape with
      | .propertyName s => s == "__proto__"
      | .stringLit s _ => s == "__proto__"
      | _ => false
    | _ => false

/-- The properties a spread attribute stands for. -/
def spreadProperties (argument : Node) : List Node :=
  let whole : List Node := [.made (.spread argument)]
  match argument.shape with
  | .objectLit properties => if setsPrototype properties then whole else properties
  | _ => whole

/-- An object of properties, of which some may be spreads. -/
def propsObject (properties : List Node) : MarkupM Node := do
  if properties.any isSpread then return spreadObject (← spreadHelper) properties
  return Build.object properties

mutual

/-- The value of an attribute. -/
def attributeValue : Nat → Option Node → MarkupM Node
  | 0, _ => return Build.bool true
  | _ + 1, none => return Build.bool true
  | k + 1, some v => do
    match v.shape with
    | .stringLit value _ => return .mk v.span (.stringLit (decodeEntities value) none)
    | .markupContainer inner => return inner
    | .markupElement .. | .markupFragment _ => element k v
    | _ => return v

/-- A child, unless it stands for nothing. -/
def child : Nat → Node → MarkupM (Option Node)
  | 0, n => return some n
  | k + 1, n => do
    match n.shape with
    | .markupText value => return (markupText? value).map fun s => .mk n.span (.stringLit s none)
    | .markupContainer inner =>
      match inner.shape with
      | .markupEmpty => return none
      | _ => return some inner
    | .markupSpreadChild inner => return some (.mk n.span (.spread inner))
    | .markupElement .. | .markupFragment _ => return some (← element k n)
    | _ => return some n

/-- The children that stand for something. -/
def children : Nat → List Node → MarkupM (List Node)
  | 0, _ => return []
  | _ + 1, [] => return []
  | k + 1, c :: cs => do
    let first ← child k c
    return first.toList ++ (← children k cs)

/-- The properties that the attributes stand for. -/
def properties : Nat → List Node → MarkupM (List Node)
  | 0, _ => return []
  | _ + 1, [] => return []
  | k + 1, a :: rest => do
    match a.shape with
    | .markupAttribute name value =>
      let v ← attributeValue k value
      return .mk a.span (.property .method false false false (attributeKey name) v) ::
        (← properties k rest)
    | .markupSpread argument => return spreadProperties argument ++ (← properties k rest)
    | _ => properties k rest

/-- The call an element or a fragment stands for; the expressions in it are compiled already. -/
def element : Nat → Node → MarkupM Node
  | 0, n => return n
  | k + 1, n => do
    let (target, _) ← read
    let (name, attributes, inner) :=
      match n.shape with
      | .markupElement name _ attributes children _ => (some name, attributes, children)
      | .markupFragment children => (none, [], children)
      | _ => (none, [], [])
    let keyed := keyBehindSpread attributes
    let automatic := target.automatic && !keyed
    let first ←
      match name with
      | some x => elementName x.span.stop.succ x
      | none =>
        if target.automatic then ofRuntime "Fragment"
        else pure (MarkupTarget.named target.fragment "Fragment")
    if automatic then
      let (keys, others) := attributes.partition isKey
      let props ← properties k others
      let cs ← children k inner
      let key ←
        match keys.getLast? with
        | some a =>
          match a.shape with
          | .markupAttribute _ value =>
            if value.isNone then
              refuse ("Please provide an explicit key value. Using \"key\" as a shorthand for " ++
                "\"key=\x7btrue\x7d\" is not allowed.")
            pure [← attributeValue k value]
          | _ => pure []
        | none => pure []
      let given : List Node :=
        match cs with
        | [] => []
        | [c] => [if isSpread c then Build.array [c] else c]
        | _ => [Build.array cs]
      let all := props ++ given.map (Build.prop (.made (.propertyName "children")))
      let object ← propsObject all
      let callee ← ofRuntime (if cs.length > 1 then "jsxs" else "jsx")
      return .mk n.span (.call callee none ([first, object] ++ key) false true)
    else
      let second ←
        match attributes with
        | [] => pure Build.null
        | [a] =>
          match a.shape with
          | .markupSpread argument =>
            match argument.shape with
            | .objectLit ps =>
              if setsPrototype ps then propsObject (← properties k attributes) else pure argument
            | _ => pure argument
          | _ => propsObject (← properties k attributes)
        | _ => propsObject (← properties k attributes)
      let cs ← children k inner
      let callee ←
        if target.automatic then keyedFactory
        else pure (MarkupTarget.named target.factory "createElement")
      return .mk n.span (.call callee none ([first, second] ++ cs) false true)

end

mutual

/-- A node with the markup in it compiled, some levels down. -/
def node : Nat → Node → MarkupM Node
  | 0, n => return n
  | k + 1, n => do
    match n.shape with
    | .markupElement .. | .markupFragment _ =>
      let prepared ← within k n
      element (4 * prepared.span.stop + 16) prepared
    | shape => return n.withShape (← shape.mapM (node k))

/-- Markup with the expressions in it compiled, some levels down. -/
def within : Nat → Node → MarkupM Node
  | 0, n => return n
  | k + 1, n => do
    match n.shape with
    | .markupContainer inner => return n.withShape (.markupContainer (← node k inner))
    | .markupSpread argument => return n.withShape (.markupSpread (← node k argument))
    | .markupSpreadChild inner => return n.withShape (.markupSpreadChild (← node k inner))
    | shape => return n.withShape (← shape.mapM (within k))

end

end MarkupM

/-- A program with its markup compiled. -/
def compileMarkup (options : CompilerOptions) (d : Draft) : Except TransformError Draft :=
  if options.jsx = .preserve then .ok d
  else
    let target := (MarkupTarget.ofOptions options).afterComments d.comments
    let start : MarkupState := { fresh := Fresh.ofProgram d.program }
    let compile := MarkupM.node d.program.depth d.program
    let (program, s) := (compile.run (target, d.isModule)).run start
    match s.faults with
    | message :: _ => .error ⟨"component-syntax", message⟩
    | [] =>
      let d := { d with program }
      .ok (d.withBody (behindImports (s.imports.statements d.isModule) d.body))

/-- Compiles the markup of a program. -/
def componentSyntax : PreEmit := ⟨"component-syntax", compileMarkup⟩

end Playground.Emit
