import Playground.Proofs.Session.Course
import Playground.Proofs.Share.Codec

/-!
# Navigation to a shared source

A fragment that can be read replaces the text being edited, unless it is the one that is remembered:
that one is taken for the echo of the session's own write, and nothing happens.  While no window is
open this is the same, since the fragment that is remembered is that of the text.  But a text that
waits for its pass has not been published yet, and then the fragment that is remembered carries
another text:

* `navigation_taken` — when a fragment replaces the text, and what happens when it does not;
* `navigation_ignored_after_edit` — the way back to what was published last is ignored.
-/

namespace Playground.Session

open Share

variable {σ : Type}

namespace State

variable {setup : Setup σ} {s : State σ} {fragment : String} {state : ShareState}

/-- The fragment that is remembered changes nothing; it is only noted that it came. -/
theorem event_echo (h : s.sync.current = some (withoutHash fragment)) (now : Nat) :
    s.event setup (.fragmentChanged fragment) now = s.noting Arrival.echo.remarks := by
  have harrive := arrive_echo h
  rw [event_ignored setup (congrArg Prod.fst harrive), harrive]

/-- Any other fragment that can be read replaces the text. -/
theorem event_navigates (h : s.sync.current ≠ some (withoutHash fragment))
    (hdecode : tryDecode (withoutHash fragment) = .ok state) (now : Nat) :
    (s.event setup (.fragmentChanged fragment) now).buffer = state.source := by
  rw [event_accepted setup (arrive_accepted h hdecode)]
  rfl

end State

/-- **Navigation takes effect, unless it leads back to the fragment that is remembered.** After a
fragment that can be read, the session has the text that it carries, except if this is the fragment
that is remembered and the text is another one.  This cannot happen unless a window is open; then
the fragment is noted as an echo, and the session goes on as if it had not come. -/
theorem navigation_taken (setup : Setup σ) (store : Snapshot.Store) (quiescence now : Nat)
    (world : σ) (steps : List Step) {fragment : String} {state : ShareState}
    (hdecode : decode (withoutHash fragment) = some state) (time : Nat) :
    let s := ((Course.start setup (State.initial store quiescence world) now).run setup steps).state
    let t := s.event setup (.fragmentChanged fragment) time
    (t.buffer = state.source ↔
      (s.sync.current = some (withoutHash fragment) → s.buffer = state.source)) ∧
    (t.buffer ≠ state.source →
      (∃ d, s.scheduler.state = .pending d) ∧ t = s.noting Arrival.echo.remarks) := by
  intro s t
  have hsound : Course.Sound setup
      ((Course.start setup (State.initial store quiescence world) now).run setup steps) :=
    (Course.start_sound rfl now).run steps
  have hread : tryDecode (withoutHash fragment) = .ok state := decode_eq_some.1 hdecode
  by_cases hcurrent : s.sync.current = some (withoutHash fragment)
  · have hecho : t = s.noting Arrival.echo.remarks := State.event_echo hcurrent time
    have hbuffer : t.buffer = s.buffer := by
      rw [hecho]
      rfl
    -- the fragment was ignored: right or wrong, depending on the text
    refine ⟨?_, fun hlost => ⟨?_, hecho⟩⟩
    · rw [hbuffer]
      exact ⟨fun h _ => h, fun h => h hcurrent⟩
    · cases hs : s.scheduler.state with
      | pending d => exact ⟨d, rfl⟩
      | idle =>
        -- with no window open, the fragment that is remembered is that of the text
        have hown : encode ⟨s.buffer⟩ = withoutHash fragment :=
          Option.some.inj ((hsound.idle hs).2.symm.trans hcurrent)
        rw [← hown] at hread
        have hsource : state.source = s.buffer := congrArg (·.source) (eq_of_tryDecode_encode hread)
        exact absurd (hbuffer.trans hsource.symm) hlost
  · have htaken : t.buffer = state.source := State.event_navigates hcurrent hread time
    exact ⟨⟨fun _ h => absurd h hcurrent, fun _ => htaken⟩, fun hlost => absurd htaken hlost⟩

/-- A board without an edit that waits for its pass navigates to another text. -/
theorem navigation_taken_on_board :
    let s := ((Course.start Board.setup
      (State.initial .empty 1500 { editor := some "a" }) 0).run Board.setup
      [.event (.contentChanged "b") 10, .tick 1520]).state
    decode (withoutHash (encode ⟨"a"⟩)) = some ⟨"a"⟩ ∧
      (s.event Board.setup (.fragmentChanged (encode ⟨"a"⟩)) 1600).buffer = "a" := by
  intro s
  have hidle : s.scheduler.state = .idle := rfl
  have hdecode : decode (withoutHash (encode ⟨"a"⟩)) = some ⟨"a"⟩ :=
    decode_withoutHash_encode (by decide +kernel)
  refine ⟨hdecode, Decidable.byContradiction fun hlost => ?_⟩
  obtain ⟨⟨d, hd⟩, -⟩ := (navigation_taken Board.setup .empty 1500 0 { editor := some "a" }
    [.event (.contentChanged "b") 10, .tick 1520] hdecode 1600).2 hlost
  exact SchedulerState.noConfusion (hidle.symm.trans hd)

/-- After an edit, a board ignores the way back to what was published last. -/
theorem navigation_ignored_after_edit :
    let s := ((Course.start Board.setup
      (State.initial .empty 1500 { editor := some "a" }) 0).run Board.setup
      [.event (.contentChanged "b") 10]).state
    decode (withoutHash (encode ⟨"a"⟩)) = some ⟨"a"⟩ ∧
      (s.event Board.setup (.fragmentChanged (encode ⟨"a"⟩)) 20).buffer = "b" := by
  intro s
  refine ⟨decode_withoutHash_encode (by decide +kernel), ?_⟩
  have hcurrent : s.sync.current = some (withoutHash (encode ⟨"a"⟩)) := by
    rw [withoutHash_encode]
    rfl
  rw [State.event_echo hcurrent]
  rfl

end Playground.Session
