import Playground.Script.Fault
import Playground.Script.Letter
import Playground.Script.Token
import Playground.Text.Position

/-!
# The state of reading a program

`Parse` is the reader's monad: it sees the source and its dialect, carries the state below and
stops at the first fault after which reading cannot go on.  Faults that do not stop it are
collected.  `attempt` and `ahead` read on trial and go back.

An action comes with the proof that it reads forward: the cursor stays at boundaries of characters
and goes back neither behind a token that was taken nor behind the start of the current one.  So
whatever is put together from actions reads forward too.
-/

namespace Playground.Script

open Playground.Text

/-- Whether a text is read as a script, as a module, or as whichever its statements show. -/
inductive Goal where
  | script | module | either
deriving DecidableEq, Inhabited

/-- The dialect a source is written in. -/
structure Dialect where
  /-- type syntax is part of the language -/
  typed : Bool
  /-- markup is part of the language -/
  markup : Bool
  /-- the file only declares -/
  declarations : Bool := false
  /-- casts in angle brackets are reserved -/
  noAngleCast : Bool := false
  goal : Goal
deriving DecidableEq, Inhabited

/-- What the surroundings of a construct allow in it. -/
structure Context where
  /-- the operator `in` -/
  allowIn : Bool := true
  inGenerator : Bool := false
  inAsync : Bool := false
  inFunction : Bool := false
  /-- `extends` after a type does not open a conditional type -/
  noConditional : Bool := false
  /-- declarations without bodies -/
  ambient : Bool := false
  /-- outside of every function and class -/
  topLevel : Bool := false
  inDecorator : Bool := false
deriving DecidableEq, Inhabited

/-- The source and its dialect. -/
structure Source where
  text : String
  dialect : Dialect
deriving Inhabited

/-- The comments read so far and what decides where the next one belongs. -/
structure Trivia where
  comments : Array Comment := #[]
  /-- comments before this index belong to the code before them or have a place already -/
  settled : Nat := 0
  sawNewline : Bool := true
  /-- the token before was `=` or `(`, after which a comment leads what follows -/
  leadingOnly : Bool := false
  sawPure : Bool := false
deriving Inhabited

/-- Where reading stands. -/
structure Cursor where
  /-- the byte the scanner goes on from -/
  pos : Nat := 0
  /-- where the token starts that is being scanned -/
  mark : Nat := 0
  token : Token := default
  /-- where the last token taken ended -/
  lastStop : Nat := 0
deriving Inhabited

/-- What reading has found so far. -/
structure Notes where
  context : Context := {}
  scanFaults : Array Fault := #[]
  faults : Array Fault := #[]
  trivia : Trivia := {}
  /-- module syntax was seen -/
  sawModule : Bool := false
  /-- where `await` stands outside of functions in a text that may yet turn out to be a module -/
  awaitsOutside : List Nat := []
  /-- an object literal holds `name = value` at this byte, which only a pattern may -/
  coverInits : List Nat := []
  /-- where array and object literals start that end in a comma, and where the comma stands -/
  lastCommas : List (Nat × Nat) := []
deriving Inhabited

/-- The state of reading. -/
structure ParseState extends Cursor, Notes
deriving Inhabited

/-! ### Reading forward -/

namespace Cursor

/-- Whether a cursor fits a text: it stands at boundaries of characters, and what is scanned lies
behind what was taken. -/
structure InText (c : Cursor) (text : String) : Prop where
  pos : Boundary text c.pos
  mark : Boundary text c.mark
  start : Boundary text c.token.start
  stop : Boundary text c.token.stop
  lastStop : Boundary text c.lastStop
  lastStop_le_start : c.lastStop ≤ c.token.start
  start_le_stop : c.token.start ≤ c.token.stop
  start_le_mark : c.token.start ≤ c.mark
  mark_le_pos : c.mark ≤ c.pos

/-- The cursor before anything was read. -/
theorem inText_initial (text : String) : ({} : Cursor).InText text :=
  have h := boundary_zero text
  ⟨h, h, h, h, h, Nat.le_refl _, Nat.le_refl _, Nat.le_refl _, Nat.le_refl _⟩

/-- Whether a move stays in a text, and goes back neither behind the tokens that were taken nor
behind the start of the current one. -/
def Forward (text : String) (c c' : Cursor) : Prop :=
  c.InText text → c'.InText text ∧ c.lastStop ≤ c'.lastStop ∧ c.token.start ≤ c'.token.start

variable {text : String} {c c' c'' : Cursor}

theorem Forward.refl : Forward text c c := fun h => ⟨h, Nat.le_refl _, Nat.le_refl _⟩

theorem Forward.trans (h : Forward text c c') (h' : Forward text c' c'') : Forward text c c'' :=
  fun hc =>
    have ⟨hc', hstop, hstart⟩ := h hc
    have ⟨hc'', hstop', hstart'⟩ := h' hc'
    ⟨hc'', Nat.le_trans hstop hstop', Nat.le_trans hstart hstart'⟩

/-! #### Moves -/

/-- Passes the next character, if there is one. -/
def pass (text : String) (c : Cursor) : Cursor :=
  if c.pos < text.utf8ByteSize then
    { c with pos := c.pos + (String.Pos.Raw.get text ⟨c.pos⟩).utf8Size }
  else c

/-- A token starts here. -/
def begin (c : Cursor) : Cursor := { c with mark := c.pos }

/-- Goes back to where the current token starts, to scan it again. -/
def rewind (c : Cursor) : Cursor := { c with pos := c.token.start, mark := c.token.start }

/-- Goes on scanning the current token where it ends. -/
def resume (c : Cursor) : Cursor := { c with pos := c.token.stop, mark := c.token.start }

/-- Makes what was passed since the mark the current token. -/
def setToken (kind : TokenKind) (name : String) (onNewLine escaped : Bool) (value : String)
    (cooked : Option String) (c : Cursor) : Cursor :=
  { c with token := ⟨kind, name, c.mark, c.pos, onNewLine, escaped, value, cooked⟩ }

/-- Takes the current token; none is current then. -/
def take (c : Cursor) : Cursor :=
  { pos := c.token.stop, mark := c.token.stop, lastStop := c.token.stop
    token := { c.token with start := c.token.stop } }

theorem pass_forward : Forward text c (c.pass text) := by
  intro h
  unfold pass
  split
  · next hpos =>
    exact ⟨{ h with
      pos := h.pos.next hpos
      mark_le_pos := Nat.le_add_right_of_le h.mark_le_pos }, Nat.le_refl _, Nat.le_refl _⟩
  · exact ⟨h, Nat.le_refl _, Nat.le_refl _⟩

theorem begin_forward : Forward text c c.begin := fun h =>
  ⟨{ h with
    mark := h.pos
    start_le_mark := Nat.le_trans h.start_le_mark h.mark_le_pos
    mark_le_pos := Nat.le_refl _ }, Nat.le_refl _, Nat.le_refl _⟩

theorem rewind_forward : Forward text c c.rewind := fun h =>
  ⟨{ h with
    pos := h.start
    mark := h.start
    start_le_mark := Nat.le_refl _
    mark_le_pos := Nat.le_refl _ }, Nat.le_refl _, Nat.le_refl _⟩

theorem resume_forward : Forward text c c.resume := fun h =>
  ⟨{ h with
    pos := h.stop
    mark := h.start
    start_le_mark := Nat.le_refl _
    mark_le_pos := h.start_le_stop }, Nat.le_refl _, Nat.le_refl _⟩

theorem setToken_forward (kind : TokenKind) (name : String) (onNewLine escaped : Bool)
    (value : String) (cooked : Option String) :
    Forward text c (c.setToken kind name onNewLine escaped value cooked) := fun h =>
  ⟨{ h with
    start := h.mark
    stop := h.pos
    lastStop_le_start := Nat.le_trans h.lastStop_le_start h.start_le_mark
    start_le_stop := h.mark_le_pos
    start_le_mark := Nat.le_refl _ }, Nat.le_refl _, h.start_le_mark⟩

theorem take_forward : Forward text c c.take := fun h =>
  have hstop := h.stop
  ⟨⟨hstop, hstop, hstop, hstop, hstop, Nat.le_refl _, Nat.le_refl _, Nat.le_refl _, Nat.le_refl _⟩,
    Nat.le_trans h.lastStop_le_start h.start_le_stop, h.start_le_stop⟩

end Cursor

/-! ### The monad -/

/-- The reader's monad: actions that read forward. -/
structure Parse (α : Type) where
  run : Source → ParseState → EStateM.Result Fault ParseState α
  forward : ∀ {src s a s'}, run src s = .ok a s' → Cursor.Forward src.text s.toCursor s'.toCursor

namespace Parse

variable {α β : Type}

/-- Does nothing. -/
@[inline]
protected def pure (a : α) : Parse α where
  run _ s := .ok a s
  forward := by
    rintro _ _ _ _ ⟨⟩
    exact .refl

/-- One action after another. -/
@[inline]
protected def bind (p : Parse α) (f : α → Parse β) : Parse β where
  run src s :=
    match p.run src s with
    | .ok a t => (f a).run src t
    | .error e t => .error e t
  forward h := by
    split at h
    · next hp => exact (p.forward hp).trans ((f _).forward h)
    · cases h

instance : Monad Parse where
  pure := Parse.pure
  bind := Parse.bind

/-- Stops reading with a fault. -/
@[inline]
def stop (fault : Fault) : Parse α where
  run _ s := .error fault s
  forward h := by cases h

instance : Inhabited (Parse α) := ⟨stop ⟨.unexpectedToken, 0, false⟩⟩

/-- The source. -/
@[inline]
def read : Parse Source where
  run src s := .ok src s
  forward := by
    rintro _ _ _ _ ⟨⟩
    exact .refl

/-- The state. -/
@[inline]
def get : Parse ParseState where
  run _ s := .ok s s
  forward := by
    rintro _ _ _ _ ⟨⟩
    exact .refl

/-- Changes what is noted, and stays where it is. -/
@[inline]
def modify (f : Notes → Notes) : Parse Unit where
  run _ s := .ok () { s with toNotes := f s.toNotes }
  forward := by
    rintro _ _ _ _ ⟨⟩
    exact .refl

/-- Moves the cursor forward. -/
@[inline]
def move (f : String → Cursor → Cursor) (h : ∀ text c, Cursor.Forward text c (f text c)) :
    Parse Unit where
  run src s := .ok () { s with toCursor := f src.text s.toCursor }
  forward := by
    rintro _ _ _ _ ⟨⟩
    exact h _ _

/-- An action that is made only when it is needed. -/
@[inline]
def delay (p : Unit → Parse α) : Parse α where
  run src s := (p ()).run src s
  forward h := (p ()).forward h

/-- Stops reading. -/
def fail (cause : Cause) (start : Nat) : Parse α := stop ⟨cause, start, false⟩

/-- Notes a fault and goes on. -/
def note (cause : Cause) (start : Nat) : Parse Unit :=
  modify fun s => { s with faults := s.faults.push ⟨cause, start, false⟩ }

/-- Notes a fault of the characters themselves and goes on. -/
def noteScan (cause : Cause) (start : Nat) : Parse Unit :=
  modify fun s => { s with scanFaults := s.scanFaults.push ⟨cause, start, false⟩ }

/-! ### Reading on trial -/

/-- Reads on trial: after a fault everything is as before. -/
def attempt (p : Parse α) : Parse (Option α) where
  run src s :=
    match p.run src s with
    | .ok a s' => .ok (some a) s'
    | .error _ _ => .ok none s
  forward h := by
    split at h
    · next hp =>
      cases h
      exact p.forward hp
    · cases h
      exact .refl

/-- Reads on trial: where nothing comes of it everything is as before. -/
def orBack (p : Parse (Option α)) : Parse (Option α) where
  run src s :=
    match p.run src s with
    | .ok none _ => .ok none s
    | r => r
  forward h := by
    split at h
    · cases h
      exact .refl
    · exact p.forward h

/-- Looks at what follows without taking it; a fault counts as the given answer. -/
def preview (p : Parse α) (otherwise : α) : Parse α where
  run src s :=
    match p.run src s with
    | .ok a _ => .ok a s
    | .error _ _ => .ok otherwise s
  forward h := by
    split at h <;> cases h <;> exact .refl

/-- Asks a question about what follows without taking it; a fault counts as no. -/
def ahead (p : Parse Bool) : Parse Bool := preview p false

/-! ### Asking -/

/-- The current token. -/
def token : Parse Token := return (← get).token

/-- The dialect of the source. -/
def dialect : Parse Dialect := return (← read).dialect

/-- The context of the construct being read. -/
def context : Parse Context := return (← get).context

/-- Reads a construct in another context. -/
def within (f : Context → Context) (p : Parse α) : Parse α := do
  let old := (← get).context
  modify fun s => { s with context := f old }
  let a ← p
  modify fun s => { s with context := old }
  return a

/-- The character at a byte offset, if the text goes on that far. -/
def charAt (i : Nat) : Parse (Option Char) := do
  let text := (← read).text
  return if i < text.utf8ByteSize then some (String.Pos.Raw.get text ⟨i⟩) else none

/-- The next character. -/
def peek : Parse (Option Char) := do charAt (← get).pos

/-- The text between two byte offsets. -/
def slice (start stop : Nat) : Parse String := do
  return String.Pos.Raw.extract (← read).text ⟨start⟩ ⟨stop⟩

/-- A bound on the number of steps that what is left can take: two for every character, and
some for the current token. -/
def left : Parse Nat := do
  return 2 * ((← read).text.utf8ByteSize - (← get).pos) + 8

/-! ### Moving -/

/-- Passes the next character, if there is one. -/
def pass : Parse Unit := move Cursor.pass fun _ _ => Cursor.pass_forward

/-- Passes some characters. -/
def skip : Nat → Parse Unit
  | 0 => return ()
  | n + 1 => do
    pass
    skip n

/-- Marks the start of a token and answers where it is. -/
def begin : Parse Nat := do
  move (fun _ => Cursor.begin) fun _ _ => Cursor.begin_forward
  return (← get).mark

/-- Goes back to where the current token starts, to scan it again. -/
def rewind : Parse Unit := move (fun _ => Cursor.rewind) fun _ _ => Cursor.rewind_forward

/-- Goes on scanning the current token where it ends. -/
def resume : Parse Unit := move (fun _ => Cursor.resume) fun _ _ => Cursor.resume_forward

/-- Makes what was passed since the mark the current token. -/
def setToken (kind : TokenKind) (name : String) (onNewLine escaped : Bool) (value : String)
    (cooked : Option String) : Parse Unit :=
  move (fun _ => Cursor.setToken kind name onNewLine escaped value cooked) fun _ _ =>
    Cursor.setToken_forward kind name onNewLine escaped value cooked

/-- Takes the current token; none is current then. -/
def take : Parse Unit := move (fun _ => Cursor.take) fun _ _ => Cursor.take_forward

end Parse

end Playground.Script
