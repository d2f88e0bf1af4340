import Playground.Proofs.Share.Codec

/-!
# What is remembered of the location

The fragment that is remembered stands for the state last handed over: the one that was last put
into the location, or that last arrived from there.  No other state is taken for an echo, whatever
fragments were written and whatever changes were reported before.

* `Call`, `run` — a sequence of calls, and what is remembered after it;
* `handedOver`, `last` — the states that such a sequence hands over, and the last of them;
* `Remembers` — the invariant: how what is remembered comes from the state last handed over;
* `Follows` — what it comes to for whoever asks.
-/

namespace Playground.Share.FragmentSync

variable {sync : FragmentSync} {fragment : String} {s : ShareState}

/-! ### One arrival -/

/-- The fragment that is remembered is taken for an echo. -/
theorem arrive_echo (h : sync.current = some (withoutHash fragment)) :
    sync.arrive fragment = (.echo, sync) := by
  simp only [arrive, if_pos h]

/-- An echo brings no state. -/
theorem state?_arrive_echo (h : sync.current = some (withoutHash fragment)) :
    (sync.arrive fragment).1.state? = none := by
  rw [arrive_echo h]
  rfl

/-- Another fragment that can be read is accepted, and remembered from then on. -/
theorem arrive_accepted (h : sync.current ≠ some (withoutHash fragment))
    (hdecode : tryDecode (withoutHash fragment) = .ok s) :
    sync.arrive fragment = (.accepted s, ⟨some (withoutHash fragment)⟩) := by
  simp only [arrive, if_neg h, hdecode]

/-- Another fragment that cannot be read changes nothing. -/
theorem arrive_rejected {e : ShareError} (h : sync.current ≠ some (withoutHash fragment))
    (hdecode : tryDecode (withoutHash fragment) = .error e) :
    sync.arrive fragment = (.rejected e, sync) := by
  simp only [arrive, if_neg h, hdecode]

/-- What arrives is what the fragment carries, unless it is the one that is remembered. -/
theorem state?_arrive_eq_some :
    (sync.arrive fragment).1.state? = some s ↔
      sync.current ≠ some (withoutHash fragment) ∧ decode (withoutHash fragment) = some s := by
  rw [decode_eq_some]
  by_cases h : sync.current = some (withoutHash fragment)
  · simp [arrive_echo h, h, Arrival.state?]
  · cases hdecode : tryDecode (withoutHash fragment) with
    | error e => simp [arrive_rejected h hdecode, Arrival.state?]
    | ok t => simp [arrive_accepted h hdecode, h, Arrival.state?]

/-- What brings no state leaves the fragment that is remembered alone. -/
theorem arrive_of_state?_eq_none (h : (sync.arrive fragment).1.state? = none) :
    (sync.arrive fragment).2 = sync := by
  by_cases hcurrent : sync.current = some (withoutHash fragment)
  · rw [arrive_echo hcurrent]
  · cases hdecode : tryDecode (withoutHash fragment) with
    | error e => rw [arrive_rejected hcurrent hdecode]
    | ok t =>
      rw [arrive_accepted hcurrent hdecode] at h
      cases h

/-- A fragment that brings a state is remembered. -/
theorem arrive_of_state?_eq_some (h : (sync.arrive fragment).1.state? = some s) :
    (sync.arrive fragment).2 = ⟨some (withoutHash fragment)⟩ := by
  obtain ⟨hcurrent, hdecode⟩ := state?_arrive_eq_some.1 h
  rw [arrive_accepted hcurrent (decode_eq_some.1 hdecode)]

/-- Only a fragment that is remembered brings no state although it carries one. -/
theorem current_of_state?_eq_none (h : (sync.arrive fragment).1.state? = none)
    (hdecode : decode (withoutHash fragment) = some s) :
    sync.current = some (withoutHash fragment) := by
  by_cases hcurrent : sync.current = some (withoutHash fragment)
  · exact hcurrent
  · have hsome := state?_arrive_eq_some.2 ⟨hcurrent, hdecode⟩
    rw [h] at hsome
    cases hsome

/-- A text is what it was before a `#` was put in front of it. -/
theorem withoutHash_hash (text : String) : withoutHash ("#" ++ text) = text := by
  have htext : ("#" ++ text).toList = '#' :: text.toList := String.toList_append
  unfold withoutHash
  rw [htext]
  exact String.ofList_toList

/-! ### Calls -/

/-- The two ways in which the location and the session keep in step. -/
inductive Call where
  /-- a state is put into the location -/
  | write (state : ShareState)
  /-- the location tells that it shows another fragment -/
  | change (fragment : String)

/-- A state handed over, and in which direction. -/
inductive Handover where
  | written (state : ShareState)
  | accepted (state : ShareState)

/-- The state that is handed over. -/
def Handover.state : Handover → ShareState
  | written s | accepted s => s

/-- What is remembered after a call. -/
def Call.step (sync : FragmentSync) : Call → FragmentSync
  | write s => (sync.write s).2
  | change fragment => (sync.arrive fragment).2

/-- What a call hands over, if anything. -/
def Call.handover? (sync : FragmentSync) : Call → Option Handover
  | write s => some (.written s)
  | change fragment => (sync.arrive fragment).1.state?.map .accepted

/-- What is remembered after some calls. -/
def runFrom (sync : FragmentSync) (calls : List Call) : FragmentSync := calls.foldl Call.step sync

/-- The states that some calls hand over, one after the other. -/
def handedOver (sync : FragmentSync) : List Call → List Handover
  | [] => []
  | call :: calls => (call.handover? sync).toList ++ handedOver (call.step sync) calls

/-- What is remembered after some calls, if nothing was before. -/
def run (calls : List Call) : FragmentSync := runFrom {} calls

/-- The state last handed over by some calls, if there is one. -/
def last (calls : List Call) : Option Handover := (handedOver {} calls).getLast?

/-! ### The invariant -/

/-- What is remembered is the fragment of the state last written, or one that the state last
accepted was read from. -/
inductive Remembers : FragmentSync → Option Handover → Prop
  | nothing : Remembers {} none
  | written (s : ShareState) : Remembers ⟨some (encode s)⟩ (some (.written s))
  | accepted {fragment : String} {s : ShareState} (h : decode fragment = some s) :
      Remembers ⟨some fragment⟩ (some (.accepted s))

namespace Remembers

variable {last : Option Handover}

/-- A call keeps the invariant: what it hands over comes last from then on. -/
theorem step (h : Remembers sync last) (call : Call) :
    Remembers (call.step sync) ((call.handover? sync).or last) := by
  cases call with
  | write s => exact .written s
  | change fragment =>
    cases harrive : (sync.arrive fragment).1.state? with
    | none =>
      have hsync := arrive_of_state?_eq_none harrive
      rw [Call.step, Call.handover?, harrive, hsync]
      exact h
    | some s =>
      have hsync := arrive_of_state?_eq_some harrive
      have hdecode := (state?_arrive_eq_some.1 harrive).2
      rw [Call.step, Call.handover?, harrive, hsync]
      exact .accepted hdecode

/-- The invariant holds after any number of calls. -/
theorem runFrom (h : Remembers sync last) (calls : List Call) :
    Remembers (sync.runFrom calls) ((sync.handedOver calls).getLast?.or last) := by
  -- what was handed over before the first of the calls varies with what is remembered there
  induction calls generalizing sync last with
  | nil => exact h
  | cons call calls ih =>
    have hlast : (sync.handedOver (call :: calls)).getLast?.or last =
        ((call.step sync).handedOver calls).getLast?.or ((call.handover? sync).or last) := by
      rw [handedOver, List.getLast?_append, Option.or_assoc]
      cases call.handover? sync <;> rfl
    rw [hlast]
    exact ih (h.step call)

/-- A fragment is remembered exactly if a state was handed over. -/
theorem isSome_current (h : Remembers sync last) : sync.current.isSome ↔ last.isSome := by
  cases h <;> simp

/-- The fragment that is remembered carries the state last handed over, if a fragment can. -/
theorem decode_current {handover : Handover} (h : Remembers sync (some handover))
    (hfits : handover = .accepted handover.state ∨
      handover.state.toJson.toUTF8.size ≤ maxPayload) :
    sync.current.bind decode = some handover.state := by
  cases h with
  | accepted hdecode => exact hdecode
  | written s =>
    obtain hcase | hsize := hfits
    · cases hcase
    · have hcarried := decode_withoutHash_encode hsize
      rwa [withoutHash_encode] at hcarried

/-- What the fragment that is remembered carries is the state last handed over. -/
theorem state_eq_of_decode (h : Remembers sync last) (hcurrent : sync.current = some fragment)
    (hdecode : decode fragment = some s) : last.map Handover.state = some s := by
  cases h with
  | nothing => cases hcurrent
  | written t =>
    -- a fragment that was written may be too large to be read, but not as anything else
    cases hcurrent
    rw [eq_of_tryDecode_encode (decode_eq_some.1 hdecode)]
    rfl
  | accepted h =>
    cases hcurrent
    exact h.symm.trans hdecode

end Remembers

/-! ### What is told apart -/

/-- What is remembered follows the state last handed over, and nothing else is held back. -/
structure Follows (sync : FragmentSync) (last : Option Handover) : Prop where
  /-- a fragment is remembered exactly if a state was handed over -/
  current : sync.current.isSome ↔ last.isSome
  /-- it carries that state, if the state arrived or its JSON is within the limit -/
  carries : ∀ handover, last = some handover →
    (handover = .accepted handover.state ∨ handover.state.toJson.toUTF8.size ≤ maxPayload) →
      sync.current.bind decode = some handover.state
  /-- only the fragment that is remembered is held back although it can be read, and what it
  carries is the state last handed over -/
  suppressed : ∀ fragment s, (sync.arrive fragment).1.state? = none →
    decode (withoutHash fragment) = some s →
      sync.current = some (withoutHash fragment) ∧ last.map Handover.state = some s
  /-- what brings no state changes nothing -/
  unchanged : ∀ fragment, (sync.arrive fragment).1.state? = none → (sync.arrive fragment).2 = sync
  /-- what arrives is what the fragment carries, and the same fragment brings it only once -/
  once : ∀ fragment s, (sync.arrive fragment).1.state? = some s →
    decode (withoutHash fragment) = some s ∧
      ((sync.arrive fragment).2.arrive fragment).1.state? = none
  /-- what was just written is not taken for navigation, be it behind `#` or not -/
  echo : ∀ s, ((sync.write s).2.arrive (sync.write s).1).1.state? = none ∧
    ((sync.write s).2.arrive ("#" ++ (sync.write s).1)).1.state? = none

/-- The invariant is all that following needs. -/
theorem Remembers.follows {last : Option Handover} (h : Remembers sync last) :
    Follows sync last where
  current := h.isSome_current
  carries handover hlast := by
    rw [hlast] at h
    exact h.decode_current
  suppressed fragment s harrive hdecode := by
    have hcurrent := current_of_state?_eq_none harrive hdecode
    exact ⟨hcurrent, h.state_eq_of_decode hcurrent hdecode⟩
  unchanged _ := arrive_of_state?_eq_none
  once fragment s harrive := by
    refine ⟨(state?_arrive_eq_some.1 harrive).2, state?_arrive_echo ?_⟩
    rw [arrive_of_state?_eq_some harrive]
  echo s := by
    refine ⟨state?_arrive_echo ?_, state?_arrive_echo ?_⟩
    · exact congrArg some (withoutHash_encode s).symm
    · exact congrArg some (withoutHash_hash (encode s)).symm

/-- **Whatever is written and whatever arrives, the fragment that is remembered follows the state
last handed over.** -/
theorem run_follows_last (calls : List Call) : Follows (run calls) (last calls) := by
  have hremembers := Remembers.nothing.runFrom calls
  rw [Option.or_none] at hremembers
  exact hremembers.follows

/-- A state that arrives after another one was written is the one that is remembered. -/
theorem run_follows_last_navigation :
    last [.write ⟨"a"⟩, .change (encode ⟨"b"⟩)] = some (.accepted ⟨"b"⟩) ∧
      (run [.write ⟨"a"⟩, .change (encode ⟨"b"⟩)]).current.bind decode = some ⟨"b"⟩ := by
  have hcarried : decode (withoutHash (encode ⟨"b"⟩)) = some ⟨"b"⟩ :=
    decode_withoutHash_encode (by decide)
  have hother : (some (encode ⟨"a"⟩) : Option String) ≠ some (withoutHash (encode ⟨"b"⟩)) := by
    intro heq
    rw [← Option.some.inj heq, decode_eq_some] at hcarried
    exact absurd (eq_of_tryDecode_encode hcarried) (by decide)
  have hlast : last [.write ⟨"a"⟩, .change (encode ⟨"b"⟩)] = some (.accepted ⟨"b"⟩) := by
    have harrive : ((FragmentSync.write {} ⟨"a"⟩).2.arrive (encode ⟨"b"⟩)).1.state? = some ⟨"b"⟩ :=
      state?_arrive_eq_some.2 ⟨hother, hcarried⟩
    simp only [last, handedOver, Call.handover?, Call.step, harrive]
    rfl
  exact ⟨hlast, (run_follows_last _).carries _ hlast (.inl rfl)⟩

end Playground.Share.FragmentSync
