/-!
# Compiler options

Every pass of a session compiles with the same options.
-/

namespace Playground.Compiler

/-- Language levels a script can be emitted for. -/
inductive Target where
  | es5 | es2015 | es2016 | es2017 | es2018 | es2019 | es2020 | es2021 | es2022 | es2023
  | es2024 | esnext
deriving DecidableEq, Inhabited, Repr

namespace Target

/-- All levels, lowest first. -/
def all : List Target :=
  [es5, es2015, es2016, es2017, es2018, es2019, es2020, es2021, es2022, es2023, es2024, esnext]

/-- The name of a level in configurations. -/
def name : Target → String
  | es5 => "es5" | es2015 => "es2015" | es2016 => "es2016" | es2017 => "es2017"
  | es2018 => "es2018" | es2019 => "es2019" | es2020 => "es2020" | es2021 => "es2021"
  | es2022 => "es2022" | es2023 => "es2023" | es2024 => "es2024" | esnext => "esnext"

/-- The year of a level; the newest level is later than any year. -/
def year : Target → Nat
  | es5 => 2009 | es2015 => 2015 | es2016 => 2016 | es2017 => 2017 | es2018 => 2018
  | es2019 => 2019 | es2020 => 2020 | es2021 => 2021 | es2022 => 2022 | es2023 => 2023
  | es2024 => 2024 | esnext => 9999

/-- The file that declares the library of a level. -/
def libraryFile : Target → String
  | es5 => "lib.d.ts"
  | es2015 => "lib.es6.d.ts"
  | t => "lib." ++ t.name ++ ".full.d.ts"

end Target

/-- Whether the emitted script keeps module syntax. -/
inductive ModuleKind where
  /-- module syntax is stripped -/
  | none
  /-- module syntax is kept -/
  | es2015
deriving DecidableEq, Inhabited, Repr

namespace ModuleKind

/-- All kinds. -/
def all : List ModuleKind := [none, es2015]

/-- The name of a kind in configurations. -/
def name : ModuleKind → String
  | none => "none" | es2015 => "es2015"

end ModuleKind

/-- How markup is compiled. -/
inductive MarkupMode where
  /-- to calls of a factory -/
  | classic
  /-- to calls of a runtime that is imported -/
  | automatic
  /-- not at all -/
  | preserve
deriving DecidableEq, Inhabited, Repr

namespace MarkupMode

/-- All modes. -/
def all : List MarkupMode := [classic, automatic, preserve]

/-- The name of a mode in configurations. -/
def name : MarkupMode → String
  | classic => "classic" | automatic => "automatic" | preserve => "preserve"

end MarkupMode

/-- The options of the compiler. -/
structure CompilerOptions where
  target : Target := .es2015
  module : ModuleKind := .none
  jsx : MarkupMode := .classic
  /-- makes an element, in classic mode -/
  jsxFactory : String := "h"
  /-- stands for a fragment, in classic mode -/
  jsxFragment : String := "Fragment"
  /-- where the runtime is imported from, in automatic mode -/
  jsxImportSource : String := "reactive-tsx"
  strict : Bool := true
  minify : Bool := false
  /-- the default library need not be there -/
  noLib : Bool := false
  /-- the directory of the default libraries -/
  libRoot : String := "node_modules/typescript/lib"
  /-- where module specifiers lead to, in the order of the keys -/
  paths : List (String × List String) :=
    [("reactive-tsx", ["node_modules/reactive-tsx/lib/index"]),
     ("reactive-tsx/lib/mono", ["node_modules/reactive-tsx/lib/mono"])]
deriving DecidableEq, Inhabited, Repr

end Playground.Compiler
