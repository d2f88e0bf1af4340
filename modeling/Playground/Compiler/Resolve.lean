import Playground.Compiler.Dialog
import Playground.Compiler.Options
import Playground.Json.Reader
import Playground.Text.Chars

/-!
# Resolving module specifiers

A specifier stands for the first of its candidates that exists.  The candidates come from bases:
a relative specifier has one, from the root; any other has the targets of the configured paths
and then the places where packages are.  `resolve` asks the host for one candidate after another.
-/

namespace Playground.Compiler

open Playground.Script Playground.Text

/-! ### Specifiers of a program -/

/-- A specifier and the byte its string literal starts at. -/
structure Specifier where
  value : String
  offset : Nat
deriving DecidableEq, Inhabited, Repr

/-- The specifier a string literal holds. -/
def Specifier.ofLiteral? (n : Node) : Option Specifier :=
  match n.shape with
  | .stringLit value _ => some ⟨value, n.span.start⟩
  | _ => none

/-- The specifier of a statement that names a module. -/
def Specifier.ofStatement? (n : Node) : Option Specifier :=
  match n.shape with
  | .importDecl _ _ _ source _ => ofLiteral? source
  | .exportAll _ _ source _ => ofLiteral? source
  | .exportNamed _ _ _ (some source) _ => ofLiteral? source
  | _ => none

/-- The statements of a program. -/
def programBody (program : Node) : List Node :=
  match program.shape with
  | .program _ _ body => body
  | _ => []

/-- The specifiers of a program, in the order of its statements. -/
def specifiers (program : Node) : List Specifier :=
  (programBody program).filterMap Specifier.ofStatement?

/-! ### Bases -/

/-- Walks the segments of a path from a directory, of which the innermost segment comes first;
above the root there is only the root. -/
def walk (directory : List (List Char)) : List (List Char) → List (List Char)
  | [] => directory
  | s :: rest =>
    if s = [] ∨ s = ['.'] then walk directory rest
    else if s = ['.', '.'] then walk directory.tail rest
    else walk (s :: directory) rest

/-- The path from the root that a path with segments to skip and steps up stands for. -/
def normalPath (path : List Char) : List Char :=
  joined '/' (walk [] (pieces '/' path)).reverse

/-- Whether a specifier is a path and not the name of a package. -/
def isRelative (specifier : List Char) : Bool :=
  startsWith ['.', '/'] specifier || startsWith ['.', '.', '/'] specifier ||
    startsWith ['/'] specifier

/-- The path from the root of a relative specifier. -/
def relativeBase? (specifier : String) : Option String :=
  if isRelative specifier.toList then some (String.ofList (normalPath specifier.toList))
  else none

/-- What a pattern that ends in a star leaves of a specifier. -/
def matchPattern? (pattern specifier : String) : Option String :=
  match beforeEnd? ['*'] pattern.toList with
  | some start => (afterStart? start specifier.toList).map String.ofList
  | none => none

/-- The bases that the configured paths give a specifier: the targets of its own entry if it has
one, or else those of every pattern it matches, with the first star filled in. -/
def mappedBases (paths : List (String × List String)) (specifier : String) : List String :=
  match paths.lookup specifier with
  | some targets => targets
  | none =>
    paths.flatMap fun (pattern, targets) =>
      match matchPattern? pattern specifier with
      | some rest =>
        targets.map fun t => String.ofList (replaceFirst '*' rest.toList t.toList)
      | none => []

/-- The name that declarations of a package are published by: `@scope/name` becomes
`scope__name`. -/
def typesName (specifier : String) : String :=
  match specifier.toList with
  | '@' :: name => String.ofList (replaceFirst '/' ['_', '_'] name)
  | _ => specifier

/-- The places a specifier may stand for, in the order they are tried. -/
def bases (paths : List (String × List String)) (specifier : String) : List String :=
  match relativeBase? specifier with
  | some base => [base]
  | none =>
    mappedBases paths specifier ++
      ["node_modules/" ++ specifier, "node_modules/@types/" ++ typesName specifier]

/-! ### Candidates -/

/-- The endings of files that declare something. -/
def extensions : List String := [".ts", ".tsx", ".d.ts"]

/-- A base without the slashes at its ends. -/
def trimmedBase (base : String) : String :=
  let cs := base.toList
  String.ofList (trimEnds ['/'] (trimStarts ['/'] (cs.length + 1) cs))

/-- A base as a file: itself, if it ends like one, and with each ending. -/
def fileCandidates (base : String) : List String :=
  (if extensions.any fun e => endsWith e.toList base.toList then [base] else []) ++
    extensions.map (base ++ ·)

/-- What the manifest of a package says about its declarations: the field `types`, or `typings`
where that is missing. -/
def typesField? (manifest : String) : Option String :=
  match Json.Value.parse? manifest with
  | some v =>
    -- a field `types` that is no text hides `typings` all the same
    match v.field? "types" with
    | some field => field.string?
    | none => (v.field? "typings").bind (·.string?)
  | none => none

/-- The files that a package's entry for declarations may stand for. -/
def entryCandidates (base types : String) : List String :=
  let cs := types.toList
  let entry := base ++ "/" ++ String.ofList (trimStarts ['.', '/'] (cs.length + 1) cs)
  entry :: extensions.map (String.ofList (trimEnds ['.', 'j', 's'] entry.toList) ++ ·)

/-- A base as a directory. -/
def indexCandidates (base : String) : List String :=
  extensions.map fun e => base ++ "/index" ++ e

/-! ### Resolving -/

/-- The first of some files that exists. -/
def firstExisting : List String → Dialog (Option String)
  | [] => return none
  | p :: ps => do
    if ← Dialog.askExists p then return some p else firstExisting ps

/-- The file a base stands for: tried as a file, as a package and as a directory. -/
def probe (base : String) : Dialog (Option String) := do
  let base := trimmedBase base
  match ← firstExisting (fileCandidates base) with
  | some p => return some p
  | none =>
    let manifest ← Dialog.askText (base ++ "/package.json")
    let entry ←
      -- a manifest that leads nowhere is as good as none
      match manifest.bind typesField? with
      | some types => firstExisting (entryCandidates base types)
      | none => pure none
    match entry with
    | some p => return some p
    | none => firstExisting (indexCandidates base)

/-- The file that the first of some bases to lead anywhere leads to. -/
def probeAll : List String → Dialog (Option String)
  | [] => return none
  | b :: bs => do
    match ← probe b with
    | some p => return some p
    | none => probeAll bs

/-- The file a specifier stands for. -/
def resolve (paths : List (String × List String)) (specifier : String) :
    Dialog (Option String) :=
  probeAll (bases paths specifier)

end Playground.Compiler
