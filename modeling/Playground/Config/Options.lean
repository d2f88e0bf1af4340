import Playground.Compiler.Options

/-!
# Configurations

A configuration has a section for each part of the playground; every key has a default.
-/

namespace Playground.Config

open Compiler (CompilerOptions)

/-- A directory to take library files from. -/
structure RootOptions where
  /-- the directory, below the base -/
  dir : String
  /-- the pattern of the files that are taken; without one all are -/
  filter : Option String := none
deriving DecidableEq, Inhabited, Repr

/-- Where the library files come from. -/
structure LibsOptions where
  base : String := "."
  roots : List RootOptions :=
    [⟨"node_modules/reactive-tsx", none⟩,
     ⟨"node_modules/typescript/lib", some "lib\\.[\\w\\.]*\\.d\\.ts$"⟩,
     ⟨"node_modules/csstype", some "\\.d\\.ts$"⟩]
deriving DecidableEq, Inhabited, Repr

/-- When the source is compiled again. -/
structure SchedulerOptions where
  /-- how long edits have to be quiet, in milliseconds -/
  quiescence : Nat := 2000
deriving DecidableEq, Inhabited, Repr

/-- How links are made. -/
structure ShareOptions where
  /-- the page that fragments are attached to -/
  baseUrl : String := "http://localhost:5277/"
deriving DecidableEq, Inhabited, Repr

/-- What the script runs in. -/
structure SandboxOptions where
  /-- the directory that is written to -/
  out : String := "out"
  title : String := "tsplay"
  /-- scripts that are loaded in front -/
  prelude : List String := []
deriving DecidableEq, Inhabited, Repr

/-- The configuration of a playground. -/
structure PlaygroundOptions where
  compiler : CompilerOptions := {}
  libs : LibsOptions := {}
  scheduler : SchedulerOptions := {}
  share : ShareOptions := {}
  sandbox : SandboxOptions := {}
deriving DecidableEq, Inhabited, Repr

end Playground.Config
