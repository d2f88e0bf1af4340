import Playground.Proofs.Session.Resilience
import Playground.Proofs.Share.Codec

/-!
# What a session starts from

A session that is started takes up one text: the source that the fragment of its location carries,
else the text in its editor, else the default source.  The text is put into the editor unless it
stands there already, and one pass runs over it.

* `StartsFrom` — which text a session starts from, as its location and its editor stand;
* `Surroundings.ShowsTaken` — an editor that holds what it was last given;
* `chooseSource_startsFrom`, `opened_leads` — the text that is chosen, and what the editor is asked;
* `start_takes_up` — the start, whatever the service does and whichever parts refuse what they are
  given.
-/

namespace Playground.Session

open Share Snapshot

variable {σ : Type}

/-- The text that a session starts from, given the fragment of its location and the text in its
editor, where there are any.  What stands in the editor counts only if no fragment can be read, and
an empty text does not count at all. -/
inductive StartsFrom (fragment text : Option String) : String → Prop
  | shared {f : String} {state : ShareState} (hf : fragment = some f)
      (hdecode : decode (withoutHash f) = some state) : StartsFrom fragment text state.source
  | edited {t : String} (hf : ∀ f, fragment = some f → decode (withoutHash f) = none)
      (ht : text = some t) (hne : t ≠ "") : StartsFrom fragment text t
  | standard (hf : ∀ f, fragment = some f → decode (withoutHash f) = none)
      (ht : ∀ t, text = some t → t = "") : StartsFrom fragment text defaultSource

/-- There is only one such text. -/
theorem StartsFrom.unique {fragment text : Option String} {a b : String}
    (ha : StartsFrom fragment text a) (hb : StartsFrom fragment text b) : a = b := by
  -- each way to start says that the ones before it do not apply
  cases ha with
  | shared hf hdecode =>
    cases hb with
    | shared hf' hdecode' =>
      obtain rfl := Option.some.inj (hf.symm.trans hf')
      rw [Option.some.inj (hdecode.symm.trans hdecode')]
    | edited hnone => simp [hnone _ hf] at hdecode
    | standard hnone => simp [hnone _ hf] at hdecode
  | edited hnone ht hne =>
    cases hb with
    | shared hf hdecode => simp [hnone _ hf] at hdecode
    | edited _ ht' _ => exact Option.some.inj (ht.symm.trans ht')
    | standard _ hempty => exact absurd (hempty _ ht) hne
  | standard hnone hempty =>
    cases hb with
    | shared hf hdecode => simp [hnone _ hf] at hdecode
    | edited _ ht' hne => exact absurd (hempty _ ht') hne
    | standard => rfl

/-- An editor that holds the text it was last given, and that nothing else changes. -/
structure Surroundings.ShowsTaken (around : Surroundings σ) : Prop where
  owns : around.Owns .editor around.editorText
  shows : ∀ text w, (around.setEditor text w).1.failure = none →
    around.editorText (around.setEditor text w).2 = some text

namespace State

variable (setup : Setup σ) {s : State σ}

/-! ### The choice -/

/-- Without a fragment that can be read, the text in the editor counts, unless it is empty. -/
theorem startsFrom_editor {fragment : Option String} (text : Option String)
    (hf : ∀ f, fragment = some f → decode (withoutHash f) = none) :
    StartsFrom fragment text ((text.filter (· ≠ "")).getD defaultSource) := by
  cases text with
  | none => exact .standard hf nofun
  | some t =>
    by_cases ht : t = ""
    · subst ht
      exact .standard hf fun _ h => (Option.some.inj h).symm
    · have hfilter : (some t).filter (· ≠ "") = some t := Option.filter_some_pos (decide_eq_true ht)
      rw [hfilter]
      exact .edited hf rfl ht

/-- A session that remembers no fragment chooses the text it is to start from. -/
theorem chooseSource_startsFrom (hsync : s.sync.current = none) :
    StartsFrom (setup.around.fragment s.scene.world) (setup.around.editorText s.scene.world)
      (s.chooseSource setup).1 := by
  unfold chooseSource
  cases hfragment : setup.around.fragment s.scene.world with
  | none => exact startsFrom_editor _ nofun
  | some f =>
    dsimp only
    -- nothing is remembered, so what arrives is told by the fragment alone
    cases hdecode : decode (withoutHash f) with
    | some state =>
      have harrive : (s.arrive f).1 = some state :=
        arrive_accepted (by simp [hsync]) (decode_eq_some.1 hdecode)
      rw [show s.arrive f = (some state, (s.arrive f).2) by rw [← harrive]]
      exact .shared rfl hdecode
    | none =>
      have harrive : (s.arrive f).1 = none := by
        refine Option.eq_none_iff_forall_ne_some.2 fun state harrive => ?_
        have hread := (FragmentSync.state?_arrive_eq_some.1 harrive).2
        rw [hdecode] at hread
        cases hread
      rw [show s.arrive f = (none, (s.arrive f).2) by rw [← harrive]]
      show StartsFrom _ _ (((setup.around.editorText s.scene.world).filter _).getD _)
      refine startsFrom_editor _ fun g hg => ?_
      rwa [← Option.some.inj hg]

variable (s)

/-- Before its pass, the start asks the editor at most once, and for the text that was chosen. -/
theorem opened_leads : setup.around.Leads
    (if setup.around.editorText s.scene.world = some (s.chooseSource setup).1 then []
      else [.setEditor (s.chooseSource setup).1])
    s.scene.world (s.opened setup).scene.world := by
  rw [opened_world]
  split
  · exact .refl setup.around _
  · exact .errand setup.around (Errand.not_shows_of_part Part.noConfusion Part.noConfusion) _

/-- An editor that takes the text that was chosen, or held it, shows it during the pass. -/
theorem opened_shows (h : setup.around.ShowsTaken)
    (htaken : setup.around.editorText s.scene.world ≠ some (s.chooseSource setup).1 →
      (setup.around.setEditor (s.chooseSource setup).1 s.scene.world).1.failure = none) :
    setup.around.editorText (s.opened setup).scene.world = some (s.chooseSource setup).1 := by
  rw [opened_world]
  split
  · next hsame => exact hsame
  · next hother => exact h.shows _ _ (htaken hother)

end State

/-! ### The start -/

/-- **A new session takes up the text it is to start from.** Whatever the service does, and
whichever parts refuse what they are given: one pass has run, over this text; no window is open;
and the fragment that is remembered is that of the text, however the one that was found was
written.  The editor was asked once to show the text if it held another one, and not at all
otherwise; if it took the text, it shows it. -/
theorem start_takes_up (setup : Setup σ) (store : Store) (quiescence now : Nat) (world : σ) :
    let s := State.initial store quiescence world
    let t := (s.start setup now).2
    let text := setup.around.editorText world
    StartsFrom (setup.around.fragment world) text t.buffer ∧
    t.scheduler.state = .idle ∧ t.passes = 1 ∧
    (∃ before : State σ, before.buffer = t.buffer ∧ before.passes = 0 ∧
      s.start setup now = before.compilePass setup) ∧
    t.sync.current = some (encode ⟨t.buffer⟩) ∧
    setup.around.Leads
      ((if text = some t.buffer then [] else [.setEditor t.buffer]) ++
        [.setFragment (encode ⟨t.buffer⟩)]) world t.scene.world ∧
    (setup.around.ShowsTaken →
      (text ≠ some t.buffer → (setup.around.setEditor t.buffer world).1.failure = none) →
      setup.around.editorText t.scene.world = some t.buffer) := by
  intro s t text
  let before := s.opened setup
  obtain ⟨hpasses, hhost⟩ := s.opened_keeps setup
  have hbefore : before.buffer = (s.chooseSource setup).1 :=
    congrArg Compiler.VirtualHost.buffer hhost
  have hbuffer : t.buffer = (s.chooseSource setup).1 := s.start_buffer setup now
  have hsource : StartsFrom (setup.around.fragment world) text (s.chooseSource setup).1 :=
    State.chooseSource_startsFrom setup (s := s) rfl
  have hidle : t.scheduler.state = .idle :=
    congrArg Scheduler.state (before.compilePass_scheduler setup)
  have hcount : t.passes = 1 := by
    rw [show t.passes = before.passes + 1 from before.compilePass_passes setup, hpasses]
    rfl
  have hleads := (s.opened_leads setup).trans (before.compilePass_leads setup)
  rw [hbuffer]
  refine ⟨hsource, hidle, hcount, ⟨before, hbefore, hpasses, rfl⟩, ?_, ?_, fun hholds htaken => ?_⟩
  · rw [← hbefore]
    exact congrArg FragmentSync.current (before.compilePass_sync setup)
  · rw [hbefore] at hleads
    exact hleads
  · exact (before.compilePass_keeps_editor setup hholds.owns).trans
      (s.opened_shows setup hholds htaken)

/-- The editor of a board holds what it takes, also when what is asked is logged. -/
theorem Board.logged_showsTaken (refuses : Errand → Bool) :
    (Board.refusing refuses).logged.ShowsTaken where
  owns e he w := by
    rw [Surroundings.logged_request]
    exact Board.refusing_owns refuses .editor e he w.1
  shows text w htaken := congrArg Board.editor (Board.answer_taken refuses _ w.1 htaken)

/-- A board whose location holds a fragment that no session writes, with blanks in its JSON and
behind a `#`: its source replaces the text in the editor, and its own fragment the one found. -/
theorem start_takes_up_spaced :
    let spaced := fragmentOfBytes "\x7b \"source\": \"a\" \x7d".toUTF8
    let setup : Setup (Board × List Errand) :=
      { Board.setup with around := (Board.refusing fun _ => false).logged }
    let t := ((State.initial .empty 1500
      (({ editor := some "b", fragment := some ("#" ++ spaced) } : Board), [])).start setup 0).2
    t.buffer = "a" ∧ setup.around.editorText t.scene.world = some "a" ∧
      t.sync.current = some (encode ⟨"a"⟩) ∧
      Errand.keeping t.scene.world.2 = [.setEditor "a", .setFragment (encode ⟨"a"⟩)] := by
  intro spaced setup t
  have hjson : (stateOf "\x7b \"source\": \"a\" \x7d".toUTF8).toOption = some ⟨"a"⟩ := by
    decide +kernel
  have hcarried : decode (withoutHash ("#" ++ spaced)) = some ⟨"a"⟩ := by
    rw [FragmentSync.withoutHash_hash, decode, tryDecode_fragmentOfBytes,
      if_neg (by decide +kernel)]
    exact hjson
  obtain ⟨hsource, -, -, -, hsync, hleads, htext⟩ := start_takes_up setup .empty 1500 0
    (({ editor := some "b", fragment := some ("#" ++ spaced) } : Board), [])
  have hbuffer : t.buffer = "a" := hsource.unique (.shared rfl hcarried)
  have hlogged := hleads.logged (Surroundings.logged_logs _)
  rw [show State.buffer _ = "a" from hbuffer] at hsync htext hlogged
  exact ⟨hbuffer, htext (Board.logged_showsTaken _) fun _ => rfl, hsync, hlogged⟩

end Playground.Session
