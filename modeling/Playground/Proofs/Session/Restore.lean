import Playground.Proofs.Session.Course
import Playground.Proofs.Session.Outcome
import Playground.Proofs.Share.Codec

/-!
# A permalink restores the same view

With parts that never fail, what a pass shows is a function of the files: of the store and of the
text being edited.  A session that was driven through any history and has no window open therefore
shows what a new session shows that starts from its fragment.

* `Surroundings.Reliable` — parts that never fail and hold what they were last given;
* `Setup.display` — what a pass over a text shows, and `compilePass_shows` — that it does;
* `Course.Displayed` — the invariant: what stands in the parts is what the last pass has shown;
* `start_restores` — a session that starts from the fragment of a text takes up that text.
-/

namespace Playground.Session

open Compiler Moment Share Snapshot

variable {σ τ α : Type}

/-! ### Parts that never fail -/

/-- Parts that never fail, each of which holds what it was last given. -/
structure Surroundings.Reliable (around : Surroundings σ) (views : Views σ) : Prop where
  succeeds : ∀ (e : Errand) w, (e.request around w).1.failure = none
  owns_editor : around.Owns .editor around.editorText
  owns_pane : around.Owns .pane views.pane
  owns_sandbox : around.Owns .sandbox views.document
  owns_location : around.Owns .location around.fragment
  editorText : ∀ text w, around.editorText (around.setEditor text w).2 = some text
  pane : ∀ text w, views.pane (around.setPane text w).2 = text
  load : ∀ document w, views.document (around.load document w).2 = some document
  clear : ∀ w, views.document (around.clear w).2 = none
  fragment : ∀ fragment w, around.fragment (around.setFragment fragment w).2 = some fragment

/-- Such parts hold the fragment they were last given. -/
theorem Surroundings.Reliable.holdsFragment {around : Surroundings σ} {views : Views σ}
    (h : around.Reliable views) : around.HoldsFragment :=
  ⟨h.owns_location, fun f w _ => h.fragment f w⟩

/-- Such parts are faithful. -/
theorem Surroundings.Reliable.faithful {around : Surroundings σ} {views : Views σ}
    (h : around.Reliable views) : around.Faithful views where
  owns_pane := h.owns_pane
  owns_sandbox := h.owns_sandbox
  pane text w _ := h.pane text w
  load document w _ := h.load document w
  clear w _ := h.clear w
  refused e w hrefused := absurd (h.succeeds e w) hrefused

/-! ### What a pass shows -/

/-- What a pass over a text shows. -/
def Setup.display (setup : Setup σ) (store : Store) (text : String) : Display :=
  .ofEnd setup.renderer (verdict setup.service setup.options setup.pipeline store text)

/-- Parts that never fail refuse no result. -/
theorem Surroundings.Reliable.refusal?_eq_none {around : Surroundings σ} {views : Views σ}
    (h : around.Reliable views) (r : Renderer) (result : CompileResult) (w : σ) :
    r.refusal? around result w = none := by
  have hpane (text : String) := h.succeeds (.setPane text)
  have hload (document : String) := h.succeeds (.load document)
  have hclear := h.succeeds .clear
  dsimp only [Errand.request] at hpane hload hclear
  unfold Renderer.refusal? refusal?
  split <;> simp only [hpane, hload, hclear, Option.or_none]

namespace State

variable {setup : Setup σ} {views : Views σ} (s : State σ)

/-- A call of the service ends as the files decide. -/
theorem emission_ending : (s.emission setup).ending =
    verdict setup.service setup.options setup.pipeline s.host.store s.buffer :=
  (compile_ending ..).symm.trans (compile_verdict ..)

/-- What a pass shows is decided by the files. -/
theorem compilePass_on (h : setup.around.Reliable views) :
    (s.compilePass setup).1 = (setup.display s.host.store s.buffer).outcome ∧
      views.On (s.compilePass setup).2.scene.world (setup.display s.host.store s.buffer) := by
  unfold Setup.display
  rw [← emission_ending]
  cases hf : s.firstFailure? setup with
  | none =>
    obtain ⟨result, hending, houtcome, hon⟩ := compilePass_shown h.faithful hf
    rw [hending]
    exact ⟨houtcome, hon⟩
  | some text =>
    obtain ⟨after, -, -, houtcome, hpane, hdocument⟩ := compilePass_failed h.faithful hf
    have htaken : (setup.around.setPane text after.scene.world).1.failure = none :=
      h.succeeds (.setPane text) _
    rw [showFailure_pane h.faithful htaken] at hpane
    rw [showFailure_document h.faithful htaken (h.succeeds .clear)] at hdocument
    -- nothing is refused, so the failure is one of the service
    have hdisplay : Display.ofEnd setup.renderer (s.emission setup).ending =
        ⟨.failed, text, none⟩ := by
      rw [firstFailure?_eq] at hf
      cases hending : (s.emission setup).ending with
      | crashed message =>
        simp only [hending, Option.some.injEq] at hf
        rw [← hf]
        rfl
      | refused e =>
        simp only [hending, Option.some.injEq] at hf
        rw [← hf]
        rfl
      | compiled result => simp [hending, h.refusal?_eq_none] at hf
    rw [hdisplay]
    exact ⟨houtcome, hpane, hdocument⟩

/-- A session that shows what a pass over a text shows, with the text published. -/
structure Shows (setup : Setup σ) (views : Views σ) (s : State σ) (store : Store)
    (text : String) : Prop where
  outcome : s.last = some (setup.display store text).outcome
  on : views.On s.scene.world (setup.display store text)
  fragment : setup.around.fragment s.scene.world = some (encode ⟨text⟩)

/-- **What a pass shows is a function of the files**: whatever was captured, remembered or put off
before, it is what a pass over the text shows. -/
theorem compilePass_shows (h : setup.around.Reliable views) :
    Shows setup views (s.compilePass setup).2 s.host.store s.buffer := by
  obtain ⟨houtcome, hon⟩ := s.compilePass_on h
  refine ⟨?_, hon, s.compilePass_fragment setup h.holdsFragment ?_⟩
  · rw [compilePass_last, houtcome]
  · exact h.succeeds (.setFragment _) _

end State

/-! ### What stands in the parts was shown by the last pass -/

namespace State

variable {setup : Setup σ} {views : Views σ} {s t : State σ} {store : Store} {text : String}

/-- A session shows the same as long as no pass is run and nobody but it uses its parts. -/
theorem Shows.of_event (hs : Shows setup views s store text) (h : setup.around.Reliable views)
    (e : EditorEvent) (now : Nat) : Shows setup views (s.event setup e now) store text where
  outcome := by
    refine Eq.trans ?_ hs.outcome
    cases hr : s.replacement? e with
    | none => exact (event_quiet hr now).last
    | some other => exact (event_replaces hr now).last
  on := ⟨(event_keeps h.owns_pane Part.noConfusion e now).trans hs.on.pane,
    (event_keeps h.owns_sandbox Part.noConfusion e now).trans hs.on.document⟩
  fragment := (event_keeps h.owns_location Part.noConfusion e now).trans hs.fragment

/-- No event changes the store. -/
theorem event_store (e : EditorEvent) (now : Nat) :
    (s.event setup e now).host.store = s.host.store := by
  cases hr : s.replacement? e with
  | none => rw [(event_quiet hr now).host]
  | some other => exact (event_replaces hr now).store

end State

namespace Course

variable {setup : Setup σ} {views : Views σ} {store : Store} {c : Course σ}

/-- The parts hold what the last pass has shown, and the store is the one of the start. -/
structure Displayed (setup : Setup σ) (views : Views σ) (store : Store) (c : Course σ) : Prop where
  files : c.state.host.store = store
  shows : ∀ before, lastPass? c.moments = some before →
    before.host.store = store ∧ c.state.Shows setup views store before.buffer

/-- A pass shows its text. -/
theorem displayed_of_pass (h : setup.around.Reliable views) (cause : PassCause) {before : State σ}
    (hstore : before.host.store = store) (moments : List (Moment σ)) :
    Displayed setup views store ⟨(before.compilePass setup).2, .passed cause before :: moments⟩ where
  files := (before.compilePass_store setup).trans hstore
  shows b hb := by
    obtain rfl : before = b := Option.some.inj hb
    have hshows := before.compilePass_shows h
    rw [hstore] at hshows
    exact ⟨hstore, hshows⟩

/-- Every step leaves what was shown in place, or is a pass that shows its text. -/
theorem Displayed.step (hc : Displayed setup views store c) (h : setup.around.Reliable views)
    (x : Step) : Displayed setup views store (c.step setup x) := by
  cases x with
  | event e now =>
    refine ⟨(State.event_store e now).trans hc.files, fun before hbefore => ?_⟩
    -- an event is no pass, so the last one is the same
    have hlast : lastPass? c.moments = some before := by
      have hmoments : (c.step setup (.event e now)).moments =
          ((c.state.replacement? e).map Moment.replaced).toList ++ c.moments := rfl
      rw [hmoments] at hbefore
      cases hr : c.state.replacement? e with
      | none => rwa [hr] at hbefore
      | some text => rwa [hr] at hbefore
    obtain ⟨hstore, hshows⟩ := hc.shows before hlast
    exact ⟨hstore, hshows.of_event h e now⟩
  | tick now =>
    show Displayed setup views store ⟨(c.state.tick setup now).2,
      (if (c.state.tick setup now).1.isSome then _ else none : Option (Moment σ)).toList
        ++ c.moments⟩
    rw [State.tick_eq]
    split
    · have hfiles : (c.state.polled now).host.store = store := hc.files
      exact displayed_of_pass h .tick hfiles _
    · exact hc
  | pass => exact displayed_of_pass h .request hc.files _

theorem Displayed.run (hc : Displayed setup views store c) (h : setup.around.Reliable views)
    (steps : List Step) : Displayed setup views store (c.run setup steps) := by
  induction steps generalizing c with
  | nil => exact hc
  | cons x steps ih => exact ih (hc.step h x)

theorem start_displayed (h : setup.around.Reliable views) {s : State σ}
    (hstore : s.host.store = store) (now : Nat) :
    Displayed setup views store (start setup s now) :=
  displayed_of_pass h .start
    ((congrArg VirtualHost.store (s.opened_keeps setup).2).trans hstore) []

end Course

/-! ### Starting from a fragment -/

namespace State

variable {setup : Setup σ} {views : Views σ} {s : State σ} {state : ShareState}

/-- A new session chooses the source of a fragment that can be read. -/
theorem chooseSource_fragment
    (hfragment : setup.around.fragment s.scene.world = some (encode state))
    (hsync : s.sync.current = none) (hdecode : tryDecode (encode state) = .ok state) :
    (s.chooseSource setup).1 = state.source := by
  have harrive : (s.arrive (encode state)).1 = some state :=
    arrive_accepted (by simp [hsync]) ((congrArg tryDecode (withoutHash_encode state)).trans hdecode)
  have heq : s.arrive (encode state) = (some state, (s.arrive (encode state)).2) := by
    rw [← harrive]
  unfold chooseSource
  rw [hfragment]
  dsimp only
  rw [heq]

/-- A new session over the fragment of a text takes up the text, puts it into the editor and shows
it. -/
theorem start_restores (setup : Setup σ) (h : setup.around.Reliable views) (store : Store)
    (quiescence now : Nat) {world : σ}
    (hfragment : setup.around.fragment world = some (encode state))
    (hdecode : tryDecode (encode state) = .ok state) :
    let b := ((State.initial store quiescence world).start setup now).2
    b.buffer = state.source ∧ setup.around.editorText b.scene.world = some state.source ∧
      b.Shows setup views store state.source := by
  intro b
  let s := State.initial store quiescence world
  have hsource : (s.chooseSource setup).1 = state.source :=
    chooseSource_fragment hfragment rfl hdecode
  have hhost := (s.opened_keeps setup).2
  have hbuffer : (s.opened setup).buffer = state.source := by
    rw [buffer, hhost, hsource]
    rfl
  have hstore : (s.opened setup).host.store = store := by
    rw [hhost]
    rfl
  have hb : b = ((s.opened setup).compilePass setup).2 := rfl
  rw [hb]
  refine ⟨(compilePass_buffer ..).trans hbuffer, ?_, ?_⟩
  · rw [compilePass_keeps_editor setup _ h.owns_editor, s.opened_editor setup h.editorText, hsource]
  · have hshows := (s.opened setup).compilePass_shows h
    rwa [hbuffer, hstore] at hshows

end State

/-! ### Restoring a view -/

/-- The same configuration and service, in other surroundings. -/
def Setup.within (setup : Setup σ) (around : Surroundings τ) : Setup τ :=
  { service := setup.service, options := setup.options, pipeline := setup.pipeline,
    renderer := setup.renderer, around }

/-- Two sessions with the same outcome of the last pass, the same text in the pane, the same
document in the sandbox and the same fragment in the location. -/
structure SameView (around : Surroundings σ) (views : Views σ) (s : State σ)
    (around' : Surroundings τ) (views' : Views τ) (t : State τ) : Prop where
  outcome : t.last = s.last
  pane : views'.pane t.scene.world = views.pane s.scene.world
  document : views'.document t.scene.world = views.document s.scene.world
  fragment : around'.fragment t.scene.world = around.fragment s.scene.world

/-- Sessions that show one text in one configuration look the same. -/
theorem State.Shows.sameView {setup : Setup σ} {views : Views σ} {s : State σ}
    {around : Surroundings τ} {views' : Views τ} {t : State τ} {store : Store} {text : String}
    (hs : s.Shows setup views store text) (ht : t.Shows (setup.within around) views' store text) :
    SameView setup.around views s around views' t where
  outcome := ht.outcome.trans hs.outcome.symm
  pane := ht.on.pane.trans hs.on.pane.symm
  document := ht.on.document.trans hs.on.document.symm
  fragment := ht.fragment.trans hs.fragment.symm

/-- **A permalink restores the same view.** A session that has no window open, after any history,
looks as its last pass left it.  A new session that starts from its fragment, in any surroundings,
takes up its text and looks the same; and so does any session after a pass over the same files,
whatever it has captured, remembered or put off. -/
theorem permalink_restores_view (setup : Setup σ) (around : Surroundings τ) {views : Views σ}
    {views' : Views τ} (ha : setup.around.Reliable views) (hb : around.Reliable views')
    (store : Store) (quiescence quiescence' now now' : Nat) (world : σ) (world' : τ)
    (steps : List Step) :
    let a := (Course.start setup (State.initial store quiescence world) now).run setup steps
    let b := ((State.initial store quiescence' world').start (setup.within around) now').2
    a.state.scheduler.state = .idle →
    (ShareState.toJson ⟨a.state.buffer⟩).toUTF8.size ≤ maxPayload →
    around.fragment world' = setup.around.fragment a.state.scene.world →
    ∃ before, lastPass? a.moments = some before ∧
      b.buffer = a.state.buffer ∧ around.editorText b.scene.world = some a.state.buffer ∧
      SameView setup.around views (before.compilePass setup).2 around views' b ∧
      SameView setup.around views a.state around views' b ∧
      ∀ other : State σ, other.host.store = store → other.buffer = a.state.buffer →
        SameView setup.around views (other.compilePass setup).2 around views' b := by
  intro a b hidle hsize hworld
  have hsound : Course.Sound setup a := (Course.start_sound rfl now).run steps
  have hfiles : (State.initial store quiescence world).host.store = store := rfl
  have hdisplayed : Course.Displayed setup views store a :=
    (Course.start_displayed ha hfiles now).run ha steps
  obtain ⟨before, hbefore, hbuffer⟩ := Option.map_eq_some_iff.1 (hsound.idle hidle).1
  obtain ⟨hstore, hshows⟩ := hdisplayed.shows before hbefore
  have hthen := before.compilePass_shows ha
  rw [hstore] at hthen
  rw [hbuffer] at hshows hthen
  -- the fragment of the first session carries its text
  have hdecode : tryDecode (encode ⟨a.state.buffer⟩) = .ok ⟨a.state.buffer⟩ := by
    rw [tryDecode_encode, if_neg (Nat.not_lt.2 hsize)]
  obtain ⟨htext, heditor, hrestored⟩ := State.start_restores (setup.within around) hb store
    quiescence' now' (hworld.trans hshows.fragment) hdecode
  refine ⟨before, hbefore, htext, heditor, hthen.sameView hrestored, hshows.sameView hrestored, ?_⟩
  intro other hother htext
  have hagain := other.compilePass_shows ha
  rw [hother, htext] at hagain
  exact hagain.sameView hrestored

/-- The parts of a board never fail. -/
theorem Board.reliable :
    Board.surroundings.Reliable { pane := Board.pane, document := Board.document } where
  succeeds e w := by cases e <;> rfl
  owns_editor := Board.owns_editor
  owns_pane := by
    rw [surroundings_eq]
    exact refusing_owns_pane _
  owns_sandbox := by
    rw [surroundings_eq]
    exact refusing_owns _ .sandbox
  owns_location := Board.holdsFragment.owns
  editorText _ _ := rfl
  pane _ _ := rfl
  load _ _ := rfl
  clear _ := rfl
  fragment _ _ := rfl

/-- The editor and the pane of a board have no part in its fragment. -/
theorem Board.fragment_eq (editor : Option String) (pane : String) (w : Board) :
    Board.surroundings.fragment { w with editor, pane } = Board.setup.around.fragment w := rfl

/-- A board whose editor was typed into until the pass that was put off ran, and another one with its
fragment. -/
theorem permalink_restores_view_on_board :
    let a := (Course.start Board.setup
      (State.initial .empty 1500 { editor := some "a" }) 0).run Board.setup
      [.event (.contentChanged "b") 10, .tick 1520]
    let b := ((State.initial .empty 1500
      { a.state.scene.world with editor := some "c", pane := "d" }).start
      (Board.setup.within Board.surroundings) 0).2
    b.buffer = a.state.buffer ∧ SameView Board.setup.around ⟨Board.pane, Board.document⟩ a.state
      Board.surroundings ⟨Board.pane, Board.document⟩ b := by
  intro a b
  have hbuffer : a.state.buffer = "b" := rfl
  have hidle : a.state.scheduler.state = .idle := rfl
  have hsize : (ShareState.toJson ⟨a.state.buffer⟩).toUTF8.size ≤ maxPayload := by
    rw [hbuffer]
    decide +kernel
  obtain ⟨before, _, htext, _, _, hview, _⟩ := permalink_restores_view Board.setup
    Board.surroundings Board.reliable Board.reliable .empty 1500 1500 0 0 { editor := some "a" }
    { a.state.scene.world with editor := some "c", pane := "d" }
    [.event (.contentChanged "b") 10, .tick 1520] hidle hsize (Board.fragment_eq _ _ _)
  exact ⟨htext, hview⟩

end Playground.Session
