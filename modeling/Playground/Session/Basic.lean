import Playground.Config.Options
import Playground.Session.Render
import Playground.Session.Scheduler
import Playground.Share.Location

/-!
# Sessions

A session holds the text being edited, compiles it when the edits have been quiet for a while,
renders the result, and publishes the text as a permalink after every pass.  `start`, `event` and
`tick` are the ways to drive it; whatever fails in a pass is shown in the pane, and the session
goes on.
-/

namespace Playground.Session

open Compiler Share Snapshot

/-- The source when neither a permalink nor the editor has one. -/
def defaultSource : String :=
  "import \x7b Component, run \x7d from 'reactive-tsx'\n\nconst App: Component = () => \x7b\n"
    ++ "    return <h1>hello!</h1>\n\x7d\n\nrun(document.body, App, \x7b\x7d)\n"

/-- What does not change during a session. -/
structure Setup (σ : Type) where
  service : Service
  options : CompilerOptions
  pipeline : Pipeline
  renderer : Renderer
  around : Surroundings σ

/-- The renderer that some options call for. -/
def rendererOf (o : Config.PlaygroundOptions) : Renderer :=
  ⟨o.sandbox.title, o.sandbox.prelude, o.compiler.strict⟩

/-- What comes in while a session runs. -/
inductive EditorEvent where
  /-- the editor holds this text now -/
  | contentChanged (text : String)
  | cursorMoved
  | selectionChanged
  /-- the fragment of the location is this one now -/
  | fragmentChanged (fragment : String)
deriving DecidableEq, Inhabited, Repr

/-- A session. -/
structure State (σ : Type) where
  host : VirtualHost
  scheduler : Scheduler
  sync : FragmentSync := {}
  passes : Nat := 0
  last : Option PassOutcome := none
  scene : Scene σ

/-- A session that has not been started. -/
def State.initial {σ : Type} (store : Store) (quiescence : Nat) (world : σ) : State σ :=
  { host := { store, buffer := "" }, scheduler := { quiescence }, scene := { world } }

namespace State

variable {σ : Type} (setup : Setup σ) (s : State σ)

/-- The text being edited. -/
def buffer : String := s.host.buffer

/-- The session with something noted. -/
def noting (remarks : List Remark) : State σ := { s with scene := s.scene.noting remarks }

/-- The session with what its host noted. -/
def takingHostRemarks (host : VirtualHost) : State σ :=
  { s.noting host.remarks.reverse with host := { host with remarks := [] } }

/-! ### Passes -/

/-- What is said about a service that broke down. -/
def crashText (message : Option String) : String := message.getD "compiler panicked"

/-- Compiles the text and renders the result; a failure is left to be shown. -/
def attempt : Except String PassOutcome × State σ :=
  let (result, host) := compile setup.service setup.options setup.pipeline s.host
  -- what the host noted stays, even if the service broke down
  let s := s.takingHostRemarks host
  match result with
  | .crashed message => (.error (crashText message), s)
  | .refused e => (.error e.text, s)
  | .compiled result =>
    match (setup.renderer.render setup.around result).run s.scene with
    | (.ok outcome, scene) => (.ok outcome, { s with scene })
    | (.error f, scene) => (.error f.text, { s with scene })

/-- Shows why a pass failed. -/
def showFailure (message : String) : State σ :=
  let scene := s.scene.noting [⟨"error", "compilation failed: " ++ message, false⟩]
  match (renderFailure setup.around message).run scene with
  | (.ok _, scene) => { s with scene }
  | (.error f, scene) =>
    { s with scene := scene.noting [⟨"error", "failed to show error: " ++ f.text, false⟩] }

/-- Publishes the text as a permalink. -/
def publish : State σ :=
  let (fragment, sync) := s.sync.write ⟨s.buffer⟩
  { s with
    sync
    scene := s.scene.attempt "failed to update permalink" (setup.around.setFragment fragment) }

/-- One pass over the text. -/
def compilePass : PassOutcome × State σ :=
  let (outcome, s) := match s.attempt setup with
    | (.ok outcome, s) => (outcome, s)
    | (.error message, s) => (PassOutcome.failed, s.showFailure setup message)
  -- the text is published whatever the outcome
  (outcome, { s with passes := s.passes + 1, last := some outcome }.publish setup)

/-! ### Driving a session -/

/-- Takes note of an activity. -/
def record (activity : Activity) (now : Nat) : State σ :=
  { s.noting (s.scheduler.remarks activity now) with
    scheduler := s.scheduler.record activity now }

/-- The session over another text. -/
def edit (text : String) : State σ := { s with host := s.host.edit text }

/-- Puts a text into the editor. -/
def setEditor (text : String) : State σ :=
  { s with scene := s.scene.attempt "failed to update editor" (setup.around.setEditor text) }

/-- What the fragment of the location turns out to be. -/
def arrive (fragment : String) : Option ShareState × State σ :=
  let (arrival, sync) := s.sync.arrive fragment
  (arrival.state?, { s.noting arrival.remarks with sync })

/-- The source to start from: that of the location, else the text in the editor unless it is
empty, else the default one. -/
def chooseSource : String × State σ :=
  let (state, s) := match setup.around.fragment s.scene.world with
    | some fragment => s.arrive fragment
    | none => (none, s)
  match state with
  | some state =>
    (state.source, s.noting [.detail "session" "restored source from permalink"])
  | none =>
    (((setup.around.editorText s.scene.world).filter (· ≠ "")).getD defaultSource, s)

/-- Chooses the source and compiles it at once. -/
def start (_now : Nat) : PassOutcome × State σ :=
  let (source, s) := s.chooseSource setup
  -- a source that came from the editor is not written back into it
  let s := if setup.around.editorText s.scene.world = some source then s
    else s.setEditor setup source
  let s := { s.edit source with scheduler := s.scheduler.cancel }
  (s.noting [.detail "session" "started at Instant"]).compilePass setup

/-- Takes in an event. -/
def event (e : EditorEvent) (now : Nat) : State σ :=
  match e with
  | .contentChanged text =>
    -- an edit that leaves the text as it was counts as a move of the cursor
    if s.buffer = text then s.record .cursorMoved now
    else (s.edit text).record .contentChanged now
  | .cursorMoved => s.record .cursorMoved now
  | .selectionChanged => s.record .selectionChanged now
  | .fragmentChanged fragment =>
    match s.arrive fragment with
    -- an echo, or a fragment that was refused
    | (none, s) => s
    | (some state, s) =>
      let s := s.noting [⟨"share", "navigated to a shared source", false⟩]
      ((s.setEditor setup state.source).edit state.source).record .contentChanged now

/-- Runs a pass if one is due. -/
def tick (now : Nat) : Option PassOutcome × State σ :=
  match s.scheduler.poll now with
  | (true, scheduler) =>
    let (outcome, s) := { s with scheduler }.compilePass setup
    (some outcome, s)
  | (false, _) => (none, s)

end State

end Playground.Session
