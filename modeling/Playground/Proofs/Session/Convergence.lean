import Playground.Proofs.Session.Board
import Playground.Proofs.Session.Drive
import Playground.Session.FileEvents

/-!
# A watched session converges

While a source file is watched, its text travels to the session in three stages: as a notification,
as an event that was made of the text read then, and as a message in a channel.  Meanwhile the file
may be replaced from outside or by the session itself, and fragments may be pasted.  `Watched.Step`
says what may happen, in any order.

The invariant `Watched.Settling` says that the last text under way is the one that counts: unless a
change is still to be read, the last text in the channel or in hand is that of the file, and if
there is none, then the text of the session is.  `watched_converges` follows: once nothing is under
way, the session has the text of the file.
-/

namespace Playground.Session

open Snapshot

variable {σ : Type}

/-! ### The parts of a watch -/

/-- A session that is watched, and what is under way to it. -/
structure Watched (σ : Type) where
  session : State σ
  /-- what was notified about files and not taken yet, oldest first -/
  notified : List FileEvent := []
  /-- what was made of the notification that was taken last, if it was not sent yet -/
  inHand : Option EditorEvent := none
  /-- the messages to the session, oldest first -/
  channel : List EditorEvent := []
  started : Bool := false

/-- An editor whose text is that of a file: it holds the text that was written last, and nothing
else that the session does changes it. -/
structure Surroundings.HoldsText (around : Surroundings σ) : Prop where
  owns : around.Owns .editor around.editorText
  shows : ∀ text w, around.editorText (around.setEditor text w).2 = some text

namespace Watched

variable (setup : Setup σ) (target : String)

/-- The text of the source file. -/
def fileText (w : Watched σ) : Option String :=
  setup.around.editorText w.session.scene.world

/-- Notifications tell that the file was changed. -/
def Announce (events : List FileEvent) : Prop :=
  ∃ e ∈ events, e.signal? target = some .changed

/-- What is made of a notification, when the file has the given text: the text is read if it may
have changed, and there is nothing to send if it cannot be read. -/
def reading (text : Option String) (e : FileEvent) : Option EditorEvent :=
  match e.signal? target with
  | none => none
  | some .accessed => some .cursorMoved
  | some .changed => text.map .contentChanged

/-- The session goes on, and with it the world; what is notified meanwhile comes last. -/
def goOn (w : Watched σ) (session : State σ) (events : List FileEvent) : Watched σ :=
  { w with session, notified := w.notified ++ events }

/-- What may happen next.  Whoever changes the text of the file, the change is announced behind
what was notified before. -/
inductive Step : Watched σ → Watched σ → Prop
  /-- the file is replaced from outside -/
  | replace (w : Watched σ) (world : σ) (text : String) (events : List FileEvent)
      (hworld : setup.around.editorText world = some text)
      (hevents : setup.around.editorText world ≠ w.fileText setup → Announce target events) :
      Step w (w.goOn { w.session with scene := { w.session.scene with world } } events)
  /-- something is notified that changes nothing -/
  | stir (w : Watched σ) (events : List FileEvent) : Step w (w.goOn w.session events)
  /-- the oldest notification is taken, and the file is read as it is now -/
  | take (w : Watched σ) (e : FileEvent) (rest : List FileEvent)
      (hfree : w.inHand = none) (hnext : w.notified = e :: rest) :
      Step w { w with notified := rest, inHand := reading target (w.fileText setup) e }
  /-- what is in hand is sent to the session -/
  | send (w : Watched σ) (e : EditorEvent) (hhand : w.inHand = some e) :
      Step w { w with inHand := none, channel := w.channel ++ [e] }
  /-- a fragment is pasted -/
  | paste (w : Watched σ) (fragment : String) :
      Step w { w with channel := w.channel ++ [.fragmentChanged fragment] }
  /-- the session is started -/
  | start (w : Watched σ) (now : Nat) (events : List FileEvent) (hfresh : w.started = false)
      (hevents : setup.around.editorText (w.session.start setup now).2.scene.world
        ≠ w.fileText setup → Announce target events) :
      Step w { w.goOn (w.session.start setup now).2 events with started := true }
  /-- the session takes in the oldest message -/
  | handle (w : Watched σ) (e : EditorEvent) (rest : List EditorEvent) (now : Nat)
      (events : List FileEvent) (hstarted : w.started = true) (hnext : w.channel = e :: rest)
      (hevents : setup.around.editorText (w.session.event setup e now).scene.world
        ≠ w.fileText setup → Announce target events) :
      Step w { w.goOn (w.session.event setup e now) events with channel := rest }
  /-- the session looks whether a pass is due -/
  | tick (w : Watched σ) (now : Nat) (events : List FileEvent) (hstarted : w.started = true)
      (hevents : setup.around.editorText (w.session.tick setup now).2.scene.world
        ≠ w.fileText setup → Announce target events) :
      Step w (w.goOn (w.session.tick setup now).2 events)

/-- What can be reached from a session that has not been started, with nothing under way. -/
inductive Reachable (store : Store) (quiescence : Nat) (world : σ) : Watched σ → Prop
  | init : Reachable store quiescence world { session := State.initial store quiescence world }
  | step {w w' : Watched σ} (h : Reachable store quiescence world w)
      (hstep : Step setup target w w') : Reachable store quiescence world w'

/-- Nothing is under way. -/
def AtRest (w : Watched σ) : Prop := w.notified = [] ∧ w.inHand = none ∧ w.channel = []

end Watched

/-! ### Texts under way -/

/-- The text that a message carries. -/
def EditorEvent.content? : EditorEvent → Option String
  | .contentChanged text => some text
  | _ => none

/-- The last text among some messages. -/
def lastContent? (events : List EditorEvent) : Option String :=
  (events.filterMap EditorEvent.content?).getLast?

theorem lastContent?_cons_none {e : EditorEvent} (h : e.content? = none)
    (events : List EditorEvent) : lastContent? (e :: events) = lastContent? events := by
  rw [lastContent?, List.filterMap_cons_none h, lastContent?]

theorem lastContent?_cons_some {e : EditorEvent} {text : String} (h : e.content? = some text)
    (events : List EditorEvent) :
    lastContent? (e :: events) = some ((lastContent? events).getD text) := by
  rw [lastContent?, List.filterMap_cons_some h, List.getLast?_cons, lastContent?]

theorem lastContent?_append_none {l r : List EditorEvent} (h : lastContent? r = none) :
    lastContent? (l ++ r) = lastContent? l := by
  rw [lastContent?, List.filterMap_append, List.getLast?_append]
  rw [lastContent?] at h
  rw [h, Option.none_or, lastContent?]

theorem lastContent?_append_some {l r : List EditorEvent} {text : String}
    (h : lastContent? r = some text) : lastContent? (l ++ r) = some text := by
  rw [lastContent?, List.filterMap_append, List.getLast?_append]
  rw [lastContent?] at h
  rw [h, Option.some_or]

/-! ### What the session does to the file -/

namespace State

variable {setup : Setup σ} (s : State σ)

/-- The text of the file, as the world of a session has it. -/
theorem compilePass_text (h : setup.around.HoldsText) :
    setup.around.editorText (s.compilePass setup).2.scene.world =
      setup.around.editorText s.scene.world :=
  s.compilePass_keeps_editor setup h.owns

/-- The start leaves the file with the text of the session. -/
theorem start_text (h : setup.around.HoldsText) (now : Nat) :
    setup.around.editorText (s.start setup now).2.scene.world =
      some (s.start setup now).2.buffer := by
  rw [start_eq, compilePass_text _ h, compilePass_buffer]
  unfold opened
  obtain ⟨source, after⟩ := s.chooseSource setup
  dsimp only
  split
  · rename_i hsame
    exact hsame
  · show setup.around.editorText (Scene.attempt _ _ (setup.around.setEditor source)).world = _
    rw [Scene.attempt_world]
    exact h.shows source _

/-- An event either leaves the file alone, and then the session has the text that the event carries
or else the text it had; or the event carries no text, and leaves the file with the text of the
session. -/
theorem event_text (h : setup.around.HoldsText) (e : EditorEvent) (now : Nat) :
    (setup.around.editorText (s.event setup e now).scene.world =
        setup.around.editorText s.scene.world ∧
      (s.event setup e now).buffer = e.content?.getD s.buffer) ∨
    (e.content? = none ∧ setup.around.editorText (s.event setup e now).scene.world =
      some (s.event setup e now).buffer) := by
  -- only an edit and a fragment may replace the text, and only a fragment asks for the file
  cases hr : s.replacement? e with
  | none =>
    have hquiet : Quiet s (s.event setup e now) := event_quiet hr now
    refine .inl ⟨by rw [hquiet.world], ?_⟩
    rw [hquiet.buffer]
    cases e with
    | contentChanged text => simpa [replacement?, EditorEvent.content?] using hr
    | _ => rfl
  | some text =>
    have hreplaced : Replaced s (s.event setup e now) text := event_replaces hr now
    rw [hreplaced.buffer]
    cases e with
    | contentChanged other =>
      obtain ⟨hne, rfl⟩ : s.buffer ≠ other ∧ other = text := by simpa [replacement?] using hr
      refine .inl ⟨?_, rfl⟩
      simp only [event, if_neg hne]
      rfl
    | cursorMoved => cases hr
    | selectionChanged => cases hr
    | fragmentChanged fragment =>
      obtain ⟨state, harrive, rfl⟩ := Option.map_eq_some_iff.1 hr
      refine .inr ⟨rfl, ?_⟩
      rw [event_accepted setup harrive]
      show setup.around.editorText
        (Scene.attempt _ _ (setup.around.setEditor state.source)).world = _
      rw [Scene.attempt_world]
      exact h.shows state.source _

/-- A tick leaves the file and the text alone. -/
theorem tick_text (h : setup.around.HoldsText) (now : Nat) :
    setup.around.editorText (s.tick setup now).2.scene.world =
        setup.around.editorText s.scene.world ∧
      (s.tick setup now).2.buffer = s.buffer := by
  rw [tick_eq]
  split
  · exact ⟨(s.polled now).compilePass_text h, (s.polled now).compilePass_buffer setup⟩
  · exact ⟨rfl, rfl⟩

end State

/-! ### The invariant -/

namespace Watched

variable (setup : Setup σ) (target : String)

/-- The last text that was read and has not reached the session. -/
def carried? (w : Watched σ) : Option String := lastContent? (w.channel ++ w.inHand.toList)

/-- The last text under way is the one that counts. -/
structure Settling (w : Watched σ) : Prop where
  /-- while there is no file, no text of it is under way -/
  absent : w.fileText setup = none → w.carried? = none ∧ w.started = false
  /-- unless a change is still to be read, the last text under way is that of the file, and if
  there is none, the text of the session is -/
  settles : Announce target w.notified ∨
    (∀ text, w.carried? = some text → w.fileText setup = some text) ∧
    (w.started = true → w.carried? = none → w.fileText setup = some w.session.buffer)

variable {setup target}

theorem Announce.append {events : List FileEvent} (h : Announce target events)
    (more : List FileEvent) : Announce target (events ++ more) := by
  obtain ⟨e, he, hsignal⟩ := h
  exact ⟨e, List.mem_append_left _ he, hsignal⟩

theorem Announce.append_right {events : List FileEvent} (h : Announce target events)
    (before : List FileEvent) : Announce target (before ++ events) := by
  obtain ⟨e, he, hsignal⟩ := h
  exact ⟨e, List.mem_append_right _ he, hsignal⟩

theorem Announce.tail {e : FileEvent} {rest : List FileEvent} (h : Announce target (e :: rest))
    (he : e.signal? target ≠ some .changed) : Announce target rest := by
  obtain ⟨e', he', hsignal⟩ := h
  rcases List.mem_cons.1 he' with rfl | hrest
  · exact absurd hsignal he
  · exact ⟨e', hrest, hsignal⟩

/-- What happens to a file that is there keeps the invariant if it is announced, or else if the
texts under way still settle. -/
theorem Settling.of_present (before : Option String) {w : Watched σ} {old new : List FileEvent}
    (hpresent : w.fileText setup ≠ none) (hnotified : w.notified = old ++ new)
    (hnew : w.fileText setup ≠ before → Announce target new)
    (hsettles : w.fileText setup = before → Announce target old ∨
      (∀ text, w.carried? = some text → w.fileText setup = some text) ∧
      (w.started = true → w.carried? = none → w.fileText setup = some w.session.buffer)) :
    Settling setup target w where
  absent hnone := absurd hnone hpresent
  settles := by
    rw [hnotified]
    by_cases hsame : w.fileText setup = before
    · exact (hsettles hsame).imp (fun h => h.append new) id
    · exact .inl ((hnew hsame).append_right old)

namespace Settling

variable {w : Watched σ}

/-- A session that was started has a file. -/
theorem file_present (h : Settling setup target w) (hstarted : w.started = true) :
    w.fileText setup ≠ none := by
  intro hnone
  rw [(h.absent hnone).2] at hstarted
  cases hstarted

/-- Messages may move on as long as the last text under way stays the same. -/
theorem of_carried (h : Settling setup target w) {inHand : Option EditorEvent}
    {channel : List EditorEvent} (hcarried : carried? { w with inHand, channel } = w.carried?) :
    Settling setup target { w with inHand, channel } where
  absent hnone := by
    rw [hcarried]
    exact h.absent hnone
  settles := by
    rw [hcarried]
    exact h.settles

/-- A notification that carries no text is taken. -/
theorem skip (h : Settling setup target w) {e : FileEvent} {rest : List FileEvent}
    (hnext : w.notified = e :: rest) (he : e.signal? target ≠ some .changed)
    {read : Option EditorEvent} (hcarried : carried? { w with inHand := read } = w.carried?) :
    Settling setup target { w with notified := rest, inHand := read } := by
  have hmoved := h.of_carried hcarried
  exact ⟨hmoved.absent, hmoved.settles.imp (fun ha => (hnext ▸ ha).tail he) id⟩

/-- A change is read: the text of the file is the last one under way, and if there is no file, none
is. -/
theorem read (h : Settling setup target w) (hfree : w.inHand = none) (rest : List FileEvent) :
    Settling setup target
      { w with notified := rest, inHand := (w.fileText setup).map .contentChanged } := by
  cases htext : w.fileText setup with
  | none =>
    -- nothing was read before either
    obtain ⟨hnone, hfresh⟩ := h.absent htext
    have hempty : carried? { w with notified := rest, inHand := none } = none := by
      rw [← hnone, carried?, carried?, hfree]
    refine ⟨fun _ => ⟨hempty, hfresh⟩, .inr ⟨?_, ?_⟩⟩
    · intro text ht
      exact absurd (ht.symm.trans hempty) (Option.some_ne_none text)
    · intro hstarted
      exact absurd htext (h.file_present hstarted)
  | some text =>
    have hread : carried? { w with notified := rest, inHand := some (.contentChanged text) } =
        some text := lastContent?_append_some rfl
    refine ⟨fun hnone => ?_, .inr ⟨?_, ?_⟩⟩
    · exact absurd (htext.symm.trans hnone) (Option.some_ne_none text)
    · intro other hother
      exact htext.trans (hread.symm.trans hother)
    · intro _ hnone
      exact absurd (hread.symm.trans hnone) (Option.some_ne_none text)

/-- The oldest notification is taken. -/
theorem take (h : Settling setup target w) (hfree : w.inHand = none) {e : FileEvent}
    {rest : List FileEvent} (hnext : w.notified = e :: rest) :
    Settling setup target
      { w with notified := rest, inHand := reading target (w.fileText setup) e } := by
  -- what is made of the notification matters only if it carries a text
  have hidle (read : Option EditorEvent) (hread : lastContent? read.toList = none) :
      carried? { w with inHand := read } = w.carried? := by
    rw [carried?, carried?, hfree]
    exact (lastContent?_append_none hread).trans (lastContent?_append_none rfl).symm
  unfold reading
  cases hsignal : e.signal? target with
  | none => exact h.skip hnext (by simp [hsignal]) (hidle none rfl)
  | some signal =>
    cases signal with
    | accessed => exact h.skip hnext (by simp [hsignal]) (hidle (some .cursorMoved) rfl)
    | changed => exact h.read hfree rest

/-- The session takes in the oldest message. -/
theorem handle (held : setup.around.HoldsText) (h : Settling setup target w) {e : EditorEvent}
    {rest : List EditorEvent} {now : Nat} {events : List FileEvent} (hstarted : w.started = true)
    (hnext : w.channel = e :: rest)
    (hevents : setup.around.editorText (w.session.event setup e now).scene.world
      ≠ w.fileText setup → Announce target events) :
    Settling setup target
      { w.goOn (w.session.event setup e now) events with channel := rest } := by
  have hbefore : w.carried? = lastContent? (e :: (rest ++ w.inHand.toList)) := by
    rw [carried?, hnext, List.cons_append]
  rcases w.session.event_text held e now with ⟨htext, hbuffer⟩ | ⟨hcontent, htext⟩
  · refine .of_present (w.fileText setup) ?_ rfl hevents fun _ => ?_
    · exact fun hnone => h.file_present hstarted (htext.symm.trans hnone)
    refine h.settles.imp id fun ⟨hcarried, hnone⟩ => ?_
    cases hcontent : e.content? with
    | none =>
      rw [hcontent] at hbuffer
      rw [lastContent?_cons_none hcontent] at hbefore
      rw [hbefore] at hcarried hnone
      refine ⟨fun text ht => htext.trans (hcarried text ht), fun _ ht => ?_⟩
      exact htext.trans ((hnone hstarted ht).trans (congrArg some hbuffer.symm))
    | some text =>
      -- the message carries the text that counts, unless a later one is under way
      rw [hcontent] at hbuffer
      have hfinal := hcarried _ (hbefore.trans (lastContent?_cons_some hcontent _))
      refine ⟨fun other ht => ?_, fun _ ht => ?_⟩
      · rw [show lastContent? (rest ++ w.inHand.toList) = some other from ht] at hfinal
        exact htext.trans hfinal
      · rw [show lastContent? (rest ++ w.inHand.toList) = none from ht] at hfinal
        exact htext.trans (hfinal.trans (congrArg some hbuffer.symm))
  · -- the session replaced the file by its own text
    refine .of_present (w.fileText setup) ?_ rfl hevents fun hsame => ?_
    · exact fun hnone => Option.some_ne_none _ (htext.symm.trans hnone)
    refine h.settles.imp id fun ⟨hcarried, _⟩ => ⟨fun text ht => ?_, fun _ _ => htext⟩
    rw [hbefore, lastContent?_cons_none hcontent] at hcarried
    exact hsame.trans (hcarried text ht)

/-- Every step keeps the invariant. -/
theorem step (held : setup.around.HoldsText) {w' : Watched σ} (h : Settling setup target w)
    (hstep : Step setup target w w') : Settling setup target w' := by
  cases hstep with
  | replace world text events hworld hevents =>
    refine .of_present (w.fileText setup) ?_ rfl hevents fun hsame => ?_
    · show setup.around.editorText world ≠ none
      rw [hworld]
      exact Option.some_ne_none text
    · rw [hsame]
      exact h.settles
  | stir events => exact ⟨h.absent, h.settles.imp (fun ha => ha.append events) id⟩
  | take e rest hfree hnext => exact h.take hfree hnext
  | send e hhand => exact h.of_carried (by simp [carried?, hhand])
  | paste fragment =>
    -- a fragment carries no text
    exact h.of_carried (by simp [carried?, lastContent?, EditorEvent.content?])
  | start now events hfresh hevents =>
    have htext := w.session.start_text held now
    refine .of_present (w.fileText setup) ?_ rfl hevents fun hsame => ?_
    · exact fun hnone => Option.some_ne_none _ (htext.symm.trans hnone)
    · rcases h.settles with ha | ⟨hcarried, -⟩
      · exact .inl ha
      · exact .inr ⟨fun text ht => hsame.trans (hcarried text ht), fun _ _ => htext⟩
  | handle e rest now events hstarted hnext hevents => exact h.handle held hstarted hnext hevents
  | tick now events hstarted hevents =>
    obtain ⟨htext, hbuffer⟩ := w.session.tick_text held now
    refine .of_present (w.fileText setup) ?_ rfl hevents fun _ => ?_
    · exact fun hnone => h.file_present hstarted (htext.symm.trans hnone)
    · refine h.settles.imp id fun ⟨hcarried, hnone⟩ => ⟨fun text ht => ?_, fun _ ht => ?_⟩
      · exact htext.trans (hcarried text ht)
      · exact htext.trans ((hnone hstarted ht).trans (congrArg some hbuffer.symm))

end Settling

/-- Whatever can be reached settles. -/
theorem Reachable.settling (held : setup.around.HoldsText) {store : Store} {quiescence : Nat}
    {world : σ} {w : Watched σ} (h : Reachable setup target store quiescence world w) :
    Settling setup target w := by
  induction h with
  | init =>
    refine ⟨fun _ => ⟨rfl, rfl⟩, .inr ⟨fun text ht => ?_, Bool.noConfusion⟩⟩
    cases ht
  | step _ hstep ih => exact ih.step held hstep

end Watched

/-! ### Convergence -/

/-- **A watched session converges.** Once the session was started and nothing is under way to it,
it has the text of the source file, whatever was edited and pasted before, and in whatever order
the parts of the watch took their turns. -/
theorem watched_converges (setup : Setup σ) (held : setup.around.HoldsText) (target : String)
    (store : Store) (quiescence : Nat) (world : σ) (w : Watched σ)
    (h : w.Reachable setup target store quiescence world) (hstarted : w.started = true)
    (hrest : w.AtRest) :
    setup.around.editorText w.session.scene.world = some w.session.buffer := by
  obtain ⟨hnotified, hhand, hchannel⟩ := hrest
  rcases (h.settling held).settles with ⟨e, he, -⟩ | ⟨-, hnone⟩
  · rw [hnotified] at he
    cases he
  · refine hnone hstarted ?_
    rw [Watched.carried?, hhand, hchannel]
    rfl

/-- A file on a board is replaced twice; the first text is read before the second one is written,
and reaches the session after it.  In the end the session has the second text. -/
theorem watched_converges_on_board : ∃ w : Watched Board,
    w.Reachable Board.setup "index.tsx" .empty 1500 { editor := some "a" } ∧
      w.started = true ∧ w.AtRest ∧ w.session.buffer = "c" ∧
      Board.setup.around.editorText w.session.scene.world = some w.session.buffer := by
  let saved : FileEvent := ⟨.modified .content, ["index.tsx"]⟩
  have hsaved : Watched.Announce "index.tsx" [saved] := ⟨saved, List.mem_singleton_self _, rfl⟩
  have hheld : Board.setup.around.HoldsText := ⟨Board.owns_editor, fun _ _ => rfl⟩
  have hinit : Watched.Reachable Board.setup "index.tsx" .empty 1500 { editor := some "a" }
    { session := State.initial .empty 1500 { editor := some "a" } } := .init
  have h := ((((((((hinit.step
      (.start _ 0 [] rfl (absurd rfl))).step
      (.replace _ { editor := some "b" } "b" [saved] rfl fun _ => hsaved)).step
      (.take _ saved [] rfl rfl)).step
      (.replace _ { editor := some "c" } "c" [saved] rfl fun _ => hsaved)).step
      (.send _ (.contentChanged "b") rfl)).step
      (.handle _ (.contentChanged "b") [] 10 [] rfl rfl (absurd rfl))).step
      (.take _ saved [] rfl rfl)).step
      (.send _ (.contentChanged "c") rfl)).step
      (.handle _ (.contentChanged "c") [] 20 [] rfl rfl (absurd rfl))
  exact ⟨_, h, rfl, ⟨rfl, rfl, rfl⟩, rfl,
    watched_converges Board.setup hheld "index.tsx" .empty 1500 { editor := some "a" } _ h rfl
      ⟨rfl, rfl, rfl⟩⟩

end Playground.Session
