import Playground.Emit.Build
import Playground.Emit.Fresh

/-!
# Imports a compiler adds

A compiled program may need functions from other modules.  A module imports them, and a script
asks for them with `require`; either way the statements stand behind the imports that the
program has itself.
-/

namespace Playground.Emit

open Playground.Script

/-- A name that is imported. -/
inductive Imported where
  /-- the default export, or the whole module in a script -/
  | whole (name : String)
  | named (exported name : String)
deriving DecidableEq, Inhabited

/-- The names that are imported, by the module they come from. -/
structure ModuleImports where
  entries : List (String × List Imported) := []
deriving Inhabited

namespace ModuleImports

/-- Adds a name; a module that is new comes last, or first if it is to stand in front. -/
def add (m : ModuleImports) (source : String) (name : Imported) (front : Bool) : ModuleImports :=
  match m.entries.lookup source with
  | some names => ⟨m.entries.map fun (s, ns) => (s, if s = source then names ++ [name] else ns)⟩
  | none =>
    ⟨if front then (source, [name]) :: m.entries else m.entries ++ [(source, [name])]⟩

/-- The specifier of a name. -/
def specifier : Imported → Node
  | .whole name => .made (.importDefault (Build.bind name))
  | .named exported name =>
    .made (.importNamed (.made (.propertyName exported)) (Build.bind name) false)

/-- The statements that import the names into a module. -/
def importStatements (m : ModuleImports) : List Node :=
  m.entries.map fun (source, names) =>
    .made (.importDecl none false (some (names.map specifier)) (Build.str source) none)

/-- The statements that ask for the modules in a script. -/
def requireStatements (m : ModuleImports) : List Node :=
  m.entries.flatMap fun (source, names) =>
    names.filterMap fun imported =>
      match imported with
      | .whole name =>
        some (Build.declare .asVar name
          (some (Build.call (Build.var "require") [Build.str source])))
      | .named .. => none

/-- The statements that make the names known. -/
def statements (m : ModuleImports) (isModule : Bool) : List Node :=
  if isModule then m.importStatements else m.requireStatements

end ModuleImports

/-- Whether a statement imports. -/
def isImport (n : Node) : Bool :=
  match n.shape with
  | .importDecl .. => true
  | _ => false

/-- Puts statements behind the last import. -/
def behindImports (added body : List Node) : List Node :=
  let after := (body.reverse.takeWhile fun n => !isImport n).reverse
  body.take (body.length - after.length) ++ added ++ after

/-- Where the helper functions of compiled programs are. -/
def helperModule (name : String) : String := "@oxc-project/runtime/helpers/" ++ name

/-! ### Objects with spreads -/

/-- Whether a property of an object literal is a spread. -/
def isSpread (n : Node) : Bool :=
  match n.shape with
  | .spread _ => true
  | _ => false

/-- An object that is built up by calls of a helper: what there is so far, and the properties
that still wait. -/
structure SpreadState where
  arguments : Option (List Node) := none
  waiting : List Node := []

/-- Passes the waiting properties on to the helper. -/
def SpreadState.flush (helper : String) (s : SpreadState) : SpreadState :=
  match s.arguments with
  | none => ⟨some [Build.object s.waiting], []⟩
  | some args =>
    let inner := Build.call (Build.var helper) args
    ⟨some (inner :: (if s.waiting.isEmpty then []
      else [Build.object [], Build.object s.waiting])), []⟩

/-- An object literal with spreads as calls of a helper. -/
def spreadObject (helper : String) (properties : List Node) : Node :=
  let s := properties.foldl (fun (s : SpreadState) p =>
    match p.shape with
    | .spread argument =>
      let s := s.flush helper
      { s with arguments := s.arguments.map (· ++ [argument]) }
    | _ => { s with waiting := s.waiting ++ [p] }) {}
  let s := if s.waiting.isEmpty then s else s.flush helper
  Build.call (Build.var helper) (s.arguments.getD [])

end Playground.Emit
