import Playground.Compiler.Service
import Playground.Sandbox.Document
import Playground.Session.Surroundings

/-!
# Rendering

A pass ends in a pane and a sandbox: either a script is shown and runs, or what is wrong is shown
and nothing runs.  The sandbox is changed only after the pane.
-/

namespace Playground.Session

open Compiler

/-- What a pass has shown. -/
inductive PassOutcome where
  /-- the script runs in the sandbox -/
  | emitted
  /-- so many diagnostics are shown, and the sandbox is empty -/
  | diagnostics (count : Nat)
  /-- why the pass failed is shown -/
  | failed
deriving DecidableEq, Inhabited, Repr

/-- Renders the results of passes. -/
structure Renderer where
  title : String
  prelude : List String
  strict : Bool
deriving DecidableEq, Inhabited, Repr

namespace Renderer

variable {σ : Type} (r : Renderer) (around : Surroundings σ)

/-- The page of a script. -/
def document (script : String) : String := Sandbox.document r.title r.prelude r.strict script

/-- Shows the result of a pass. -/
def render (result : CompileResult) : Act σ PassOutcome := do
  if result.diagnostics.isEmpty then
    let script := result.emitted.getD ""
    Act.request (around.setPane script)
    around.loadThen (r.document script) (Act.note [.detail "sandbox" "document loaded"])
    return .emitted
  else
    Act.request (around.setPane result.messages)
    Act.request around.clear
    return .diagnostics result.diagnostics.length

end Renderer

/-- Shows why a pass failed. -/
def renderFailure {σ : Type} (around : Surroundings σ) (message : String) : Act σ PassOutcome := do
  Act.request (around.setPane message)
  Act.request around.clear
  return .failed

end Playground.Session
