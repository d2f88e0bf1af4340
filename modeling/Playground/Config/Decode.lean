import Playground.Config.Options
import Playground.Decimal.Shortest
import Playground.Snapshot.Store
import Playground.Text.Visible
import Playground.Toml.Document

/-!
# Configurations in TOML

`PlaygroundOptions.ofToml` reads a configuration from a TOML text.  Keys that are not known are
collected.  A section may also be written as an array of its values in the order of its keys.
-/

namespace Playground.Config

open Playground.Toml
open Compiler (CompilerOptions MarkupMode ModuleKind Target)

/-- What a value looks like from outside. -/
inductive Shape where
  | string (s : String)
  | integer (n : Int)
  | float (x : Float)
  | boolean (b : Bool)
  | sequence (items : List Item)
  | map (entries : List (Key × Item))

/-- The key under which a date is found when it is taken for a map. -/
def dateKey : String := "$__toml_private_datetime"

/-- The shape of an item. -/
def shape : Item → Shape
  | .value (.string s _) => .string s
  | .value (.integer n _) => .integer n
  | .value (.float x _) => .float x
  | .value (.boolean b _) => .boolean b
  | .value (.datetime text s) => .map [(⟨dateKey, s⟩, .value (.string text s))]
  | .value (.array items _) => .sequence (items.map .value)
  | .value (.inlineTable t _) => .map t.entries
  | .table t => .map t.entries
  | .tables ts _ => .sequence (ts.map .table)

/-- The words for a shape. -/
def Shape.text : Shape → String
  | string s => "string " ++ Text.visible s
  | integer n => "integer \x60" ++ toString n ++ "\x60"
  | float x => "floating point \x60" ++ Decimal.positionalText x ++ "\x60"
  | boolean b => "boolean \x60" ++ (if b then "true" else "false") ++ "\x60"
  | sequence _ => "sequence"
  | map _ => "map"

/-! ### Decoding -/

/-- Decoding collects the paths of the keys that it ignores, latest first. -/
abbrev Decoding := StateT (List String) (Except Fault)

/-- Decodes an item under a path. -/
abbrev Decoder (α : Type) := List String → Item → Decoding α

/-- Stops at an item. -/
def refuse {α : Type} (item : Item) (message : String) : Decoding α :=
  throw ⟨message, item.span⟩

/-- Stops at an item that has not the expected shape. -/
def mismatch {α : Type} (item : Item) (expected : String) : Decoding α :=
  refuse item ("invalid type: " ++ (shape item).text ++ ", expected " ++ expected)

/-- Places a fault that has no place yet. -/
def placedAt {α : Type} (span : Span) (d : Decoding α) : Decoding α :=
  tryCatch d fun f => throw { f with span := f.span <|> some span }

/-- Places a fault that has no place yet where an item stands. -/
def placedAtItem {α : Type} (item : Item) (d : Decoding α) : Decoding α :=
  match item.span with
  | some span => placedAt span d
  | none => d

/-- A truth value. -/
def boolean : Decoder Bool := fun _ item =>
  match shape item with
  | .boolean b => return b
  | _ => mismatch item "a boolean"

/-- A text, described in some words. -/
def textAs (expected : String) : Decoder String := fun _ item =>
  match shape item with
  | .string s => return s
  | _ => mismatch item expected

/-- A text. -/
def text : Decoder String := textAs "a string"

/-- A path. -/
def path : Decoder String := textAs "path string"

/-- A number from 0 on. -/
def count : Decoder Nat := fun _ item =>
  match shape item with
  | .integer n =>
    if n < 0 then
      refuse item ("invalid value: " ++ (Shape.integer n).text ++ ", expected u64")
    else return n.toNat
  | _ => mismatch item "u64"

/-- Any number of items. -/
def sequence {α : Type} (element : Decoder α) : Decoder (List α) := fun at_ item =>
  match shape item with
  | .sequence items =>
    items.zipIdx.mapM fun (e, i) =>
      placedAtItem e (element (at_ ++ [toString i]) e)
  | _ => mismatch item "a sequence"

/-- Values by name, in the order of the names. -/
def mapping {α : Type} (element : Decoder α) : Decoder (List (String × α)) := fun at_ item =>
  match shape item with
  | .map entries => do
    let values ← entries.mapM fun (k, e) => do
      return (k.text, ← placedAt k.span (placedAtItem e (element (at_ ++ [k.text]) e)))
    return values.mergeSort fun a b => !Snapshot.Store.before b.1 a.1
  | _ => mismatch item "a map"

/-- The names that are allowed, in words. -/
def alternatives (names : List String) : String :=
  let quoted := names.map fun n => "\x60" ++ n ++ "\x60"
  match quoted with
  | [a, b] => a ++ " or " ++ b
  | _ => "one of " ++ ", ".intercalate quoted

/-- One of several names.  It may also be the only key of a table, over nothing. -/
def choice {α : Type} (all : List α) (name : α → String) : Decoder α := fun _ item => do
  let named (s : String) : Decoding α :=
    match all.find? fun a => name a = s with
    | some a => return a
    | none =>
      throw ⟨"unknown variant \x60" ++ s ++ "\x60, expected "
        ++ alternatives (all.map name), none⟩
  let tagged (entries : List (Key × Item)) : Decoding α :=
    match entries with
    | [] => refuse item "wanted exactly 1 element, found 0 elements"
    | [(k, e)] => do
      let a ← placedAt k.span (named k.text)
      match e with
      | .value (.array [] _) | .tables [] _ => return a
      | .value (.array ..) | .tables .. => refuse e "expected empty array"
      | .value (.inlineTable t _) | .table t =>
        if t.entries.isEmpty then return a else refuse e "expected empty table"
      | .value v => refuse e ("expected table, found " ++ v.kind)
    | _ => refuse item "wanted exactly 1 element, more than 1 element"
  match item with
  | .value (.string s _) => named s
  | .value (.inlineTable t _) | .table t => tagged t.entries
  | _ => refuse item "wanted string or table"

/-- A key of a section: how its value changes the section. -/
structure Field (α : Type) where
  name : String
  read : List String → Item → α → Decoding α

/-- A key with a decoder for its value. -/
def field {α β : Type} (name : String) (d : Decoder β) (put : β → α → α) : Field α :=
  ⟨name, fun at_ item a => do return put (← d at_ item) a⟩

/-- A section, given what it is without any keys. -/
def record {α : Type} (name : String) (start : α) (fields : List (Field α)) : Decoder α :=
  fun at_ item =>
    match shape item with
    | .map entries =>
      entries.foldlM (fun a (k, e) => do
        let here := at_ ++ [k.text]
        match fields.find? fun f => f.name = k.text with
        | some f => placedAt k.span (placedAtItem e (f.read here e a))
        | none =>
          modify (".".intercalate here :: ·)
          return a) start
    | .sequence items =>
      -- keys behind the end of the array stay as they were; items behind the last key are not read
      (fields.zip items).zipIdx.foldlM (fun a ((f, e), i) =>
        placedAtItem e (f.read (at_ ++ [toString i]) e a)) start
    | _ => mismatch item ("struct " ++ name)

/-! ### Sections -/

/-- The section on the compiler. -/
def compilerOptions : Decoder CompilerOptions :=
  record "CompilerOptions" {}
    [field "target" (choice Target.all Target.name) fun v o => { o with target := v },
     field "module" (choice ModuleKind.all ModuleKind.name) fun v o => { o with module := v },
     field "jsx" (choice MarkupMode.all MarkupMode.name) fun v o => { o with jsx := v },
     field "jsx_factory" text fun v o => { o with jsxFactory := v },
     field "jsx_fragment" text fun v o => { o with jsxFragment := v },
     field "jsx_import_source" text fun v o => { o with jsxImportSource := v },
     field "strict" boolean fun v o => { o with strict := v },
     field "minify" boolean fun v o => { o with minify := v },
     field "no_lib" boolean fun v o => { o with noLib := v },
     field "lib_root" text fun v o => { o with libRoot := v },
     field "paths" (mapping (sequence text)) fun v o => { o with paths := v }]

/-- A directory to take library files from. -/
def rootOptions : Decoder RootOptions := fun at_ item => do
  let (dir, filter) ← record "LibRootConfig" ((none, none) : Option String × Option String)
    [field "dir" path fun v o => (some v, o.2),
     field "filter" text fun v o => (o.1, some v)] at_ item
  match dir, shape item with
  | some dir, _ => return ⟨dir, filter⟩
  | none, .sequence _ =>
    refuse item "invalid length 0, expected struct LibRootConfig with 2 elements"
  | none, _ => refuse item "missing field \x60dir\x60"

/-- The section on library files. -/
def libsOptions : Decoder LibsOptions :=
  record "LibsConfig" {}
    [field "base" path fun v o => { o with base := v },
     field "roots" (sequence rootOptions) fun v o => { o with roots := v }]

/-- The section on when to compile. -/
def schedulerOptions : Decoder SchedulerOptions :=
  record "SchedulerConfig" {} [field "quiescence_ms" count fun v _ => ⟨v⟩]

/-- The section on links. -/
def shareOptions : Decoder ShareOptions :=
  record "ShareConfig" {} [field "base_url" text fun v _ => ⟨v⟩]

/-- The section on the sandbox. -/
def sandboxOptions : Decoder SandboxOptions :=
  record "SandboxConfig" {}
    [field "out" path fun v o => { o with out := v },
     field "title" text fun v o => { o with title := v },
     field "prelude" (sequence text) fun v o => { o with prelude := v }]

/-- A whole configuration. -/
def playgroundOptions : Decoder PlaygroundOptions :=
  record "PlaygroundConfig" {}
    [field "compiler" compilerOptions fun v o => { o with compiler := v },
     field "libs" libsOptions fun v o => { o with libs := v },
     field "scheduler" schedulerOptions fun v o => { o with scheduler := v },
     field "share" shareOptions fun v o => { o with share := v },
     field "sandbox" sandboxOptions fun v o => { o with sandbox := v }]

/-- The configuration in a TOML text, and the keys that were ignored. -/
def PlaygroundOptions.ofToml (source : String) :
    Except Fault (PlaygroundOptions × List String) := do
  let table ← parse source
  let (options, ignored) ← (playgroundOptions [] (.table table)).run []
  return (options, ignored.reverse)

end Playground.Config
