import Playground.Proofs.Compiler.Isolation

/-!
# What a host answers about a file

Whether a file exists, what its text is, and what the file is once it is parsed are three questions
to a host.  They have one answer, which the store and the text being edited give; what is written
has no part in it.

* `Answers`, `answersAt` — the answers about one path;
* `Action`, `after` — what happens to a host between the questions;
* `latest` — the text being edited, told by the actions alone;
* `after_files` — no action but an edit changes what the answers are made of;
* `queries_agree` — the answers after any actions.
-/

namespace Playground.Compiler.VirtualHost

open Script Snapshot

/-- What a host answers about one path. -/
structure Answers where
  found : Bool
  text : Option String
  file : Option SourceFile

/-- The three answers about a path. -/
def answersAt (h : VirtualHost) (path : String) : Answers where
  found := (host.fileExists path h).1
  text := (host.readFile path h).1
  file := (host.sourceFile path h).1

/-- What happens to a host. -/
inductive Action where
  /-- the text being edited is replaced -/
  | edit (text : String)
  /-- a file is written -/
  | write (path data : String)
  /-- the output is taken -/
  | takeOutput
  /-- a compiler asks, writes and notes what it likes -/
  | converse (d : Dialog Unit)

namespace Action

/-- What an action makes of a host. -/
def run (h : VirtualHost) : Action → VirtualHost
  | edit text => h.edit text
  | write path data => host.writeFile path data h
  | takeOutput => h.takeOutput.2
  | converse d => (d.run host h).2

/-- The text that an action sets. -/
def text? : Action → Option String
  | edit text => some text
  | _ => none

end Action

/-- A host after some actions, the first of them first. -/
def after (h : VirtualHost) (actions : List Action) : VirtualHost := actions.foldl Action.run h

/-- The text that was set last. -/
def latest (text : String) (actions : List Action) : String :=
  (actions.filterMap Action.text?).getLast?.getD text

/-! ### The files of a host -/

/-- An action leaves the store alone, and replaces the text being edited only by one it sets. -/
theorem Action.run_files (h : VirtualHost) (action : Action) :
    (action.run h).store = h.store ∧ (action.run h).buffer = action.text?.getD h.buffer := by
  cases action with
  | edit text => exact ⟨rfl, rfl⟩
  | write path data => exact (host_keeps h.store h.buffer).writeFile path data h ⟨rfl, rfl⟩
  | takeOutput => exact ⟨rfl, rfl⟩
  | converse d => exact Dialog.run_keeps (host_keeps h.store h.buffer) d h ⟨rfl, rfl⟩

theorem latest_cons (text : String) (action : Action) (actions : List Action) :
    latest text (action :: actions) = latest (action.text?.getD text) actions := by
  unfold latest
  cases hset : action.text? with
  | none => rw [List.filterMap_cons_none hset, Option.getD_none]
  | some new =>
    rw [List.filterMap_cons_some hset, List.getLast?_cons, Option.getD_some, Option.getD_some]

/-- After any actions, the store is the one it was, and the text being edited is the latest. -/
theorem after_files (h : VirtualHost) (actions : List Action) :
    (h.after actions).store = h.store ∧ (h.after actions).buffer = latest h.buffer actions := by
  induction actions generalizing h with
  | nil => exact ⟨rfl, rfl⟩
  | cons action actions ih =>
    obtain ⟨hstore, hbuffer⟩ := action.run_files h
    obtain ⟨hstores, hbuffers⟩ := ih (action.run h)
    refine ⟨hstores.trans hstore, hbuffers.trans ?_⟩
    rw [hbuffer, latest_cons]

/-! ### The answers -/

/-- The answers are made of the store and the text being edited. -/
theorem answersAt_congr {h k : VirtualHost} (hstore : h.store = k.store)
    (hbuffer : h.buffer = k.buffer) (path : String) : h.answersAt path = k.answersAt path := by
  show Answers.mk (h.exists? path) (h.content? path) (h.sourceFile? path) = Answers.mk ..
  unfold exists? sourceFile? content?
  rw [hstore, hbuffer]
  rfl

/-- The answers are about the file of a path. -/
theorem answersAt_of_hostPath {p q : String} (hpq : hostPath p = hostPath q) (h : VirtualHost) :
    h.answersAt p = h.answersAt q := by
  show Answers.mk (h.exists? p) (h.content? p) (h.sourceFile? p) = Answers.mk ..
  unfold exists? sourceFile? content?
  rw [hpq]
  rfl

/-- A content is that of the store, or else the text being edited. -/
theorem content?_eq (h : VirtualHost) (path : String) :
    h.content? path = (h.store.get? (hostPath path)).or
      (if hostPath path = sourcePath then some h.buffer else none) := by
  unfold content?
  rw [Snapshot.Store.shared?_eq]
  cases h.store.get? (hostPath path) <;> rfl

/-- A path without a slash in front is the one that its file has in the store. -/
theorem hostPath_eq_self {path : String} (hpath : path.toList.head? ≠ some '/') :
    hostPath path = path := by
  obtain hslash | ⟨hself, -⟩ := hostPath_cases path
  · rw [hslash, String.toList_append] at hpath
    exact absurd rfl hpath
  · exact hself

theorem hostPath_slash (path : String) : hostPath ("/" ++ path) = path := by
  unfold hostPath
  rw [String.toList_append]
  exact String.ofList_toList

/-- **The questions about a path have one answer.** A file exists if and only if it can be read, and
if and only if it can be parsed, and it is parsed as it is read.  Its text is that of the store, or
else the latest text being edited.  One slash in front of a path is nothing, and whatever is done
but an edit leaves all answers as they are. -/
theorem queries_agree (start : VirtualHost) (actions : List Action) (path : String) :
    let h := start.after actions
    let a := h.answersAt path
    let key := hostPath path
    (path = "/" ++ key ∨ key = path ∧ path.toList.head? ≠ some '/') ∧
    a.text = (start.store.get? key).or
      (if key = sourcePath then some (latest start.buffer actions) else none) ∧
    a.found = a.text.isSome ∧ a.file.isSome = a.text.isSome ∧
    (∀ file, a.file = some file → a.text = some file.text ∧ file.path = key ∧
      file.parsed = Parsed.ofText (dialectOf key) file.text) ∧
    (path.toList.head? ≠ some '/' → h.answersAt ("/" ++ path) = a) ∧
    ∀ action : Action, action.text? = none → (action.run h).answersAt path = a := by
  intro h a key
  obtain ⟨hstore, hbuffer⟩ := start.after_files actions
  refine ⟨hostPath_cases path, ?_, ?_, Option.isSome_map, fun file hfile => ?_, fun hslash => ?_,
    fun action hset => ?_⟩
  · exact (h.content?_eq path).trans (by rw [hstore, hbuffer])
  · rw [Bool.eq_iff_iff, Option.isSome_iff_exists]
    exact exists?_iff
  · obtain ⟨text, htext, rfl⟩ := Option.map_eq_some_iff.1 hfile
    exact ⟨htext, rfl, rfl⟩
  · exact answersAt_of_hostPath (by rw [hostPath_slash, hostPath_eq_self hslash]) h
  · obtain ⟨hkept, htext⟩ := action.run_files h
    exact answersAt_congr hkept (by rw [htext, hset]; rfl) path

end Playground.Compiler.VirtualHost
