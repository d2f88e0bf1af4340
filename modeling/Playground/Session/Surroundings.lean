import Playground.Failure
import Playground.Log

/-!
# What a session talks to

A session drives an editor, a pane, a sandbox and a location.  Each of them answers a request by a
`Reply`; a request may fail.  `Act` is an activity of the session among them, which a failure ends.
-/

namespace Playground.Session

/-- How a request went: why it failed, if it did, and what was noted on the way. -/
structure Reply where
  failure : Option Failure := none
  remarks : List Remark := []
deriving DecidableEq, Inhabited, Repr

/-- The reply to a request that failed. -/
def Reply.failed (f : Failure) : Reply := ⟨some f, []⟩

/-- A request to one of the parts of a world. -/
abbrev Request (σ : Type) := σ → Reply × σ

/-- The parts of a world that a session talks to. -/
structure Surroundings (σ : Type) where
  /-- the text in the editor, if there is one -/
  editorText : σ → Option String
  setEditor : String → Request σ
  /-- shows the result of a pass -/
  setPane : String → Request σ
  /-- replaces the document in the sandbox -/
  load : String → Request σ
  /-- takes the document out of the sandbox -/
  clear : Request σ
  /-- the fragment of the location, if there is one -/
  fragment : σ → Option String
  setFragment : String → Request σ

/-- A world, and what was noted in it, latest first. -/
structure Scene (σ : Type) where
  world : σ
  remarks : List Remark := []

/-- A scene with something noted. -/
def Scene.noting {σ : Type} (s : Scene σ) (remarks : List Remark) : Scene σ :=
  { s with remarks := remarks.reverse ++ s.remarks }

/-- An activity in a scene, which a failure ends. -/
abbrev Act (σ : Type) := ExceptT Failure (StateM (Scene σ))

/-- Makes a request. -/
def Act.request {σ : Type} (r : Request σ) : Act σ Unit :=
  ExceptT.mk fun s =>
    let (reply, world) := r s.world
    let after := { s with world }.noting reply.remarks
    match reply.failure with
    | none => (.ok (), after)
    | some f => (.error f, after)

/-- Notes something. -/
def Act.note {σ : Type} (remarks : List Remark) : Act σ Unit :=
  ExceptT.mk fun s => (.ok (), s.noting remarks)

/-- Loads a document, and calls back once it is loaded. -/
def Surroundings.loadThen {σ : Type} (around : Surroundings σ) (document : String)
    (callback : Act σ Unit) : Act σ Unit := do
  Act.request (around.load document)
  callback

/-- A request whose failure is noted, under some words, and has no other consequence. -/
def Scene.attempt {σ : Type} (s : Scene σ) (words : String) (r : Request σ) : Scene σ :=
  let (reply, world) := r s.world
  let after := { s with world }.noting reply.remarks
  match reply.failure with
  | none => after
  | some f => after.noting [⟨"error", words ++ ": " ++ f.text, false⟩]

end Playground.Session
