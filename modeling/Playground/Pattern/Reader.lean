import Playground.Pattern.Fault
import Playground.Pattern.Node
import Playground.Pattern.Property
import Playground.Text.Chars
import Playground.Text.Entities

/-!
# Reading patterns

`Node.ofText` reads the written form of a pattern.  Faults of form come first; that a set of
characters cannot be used as it is written shows only when all of the pattern has been read.
-/

namespace Playground.Pattern

open Text (Position)
open Unicode (CharSet)

/-- The switches that change what the rest of a group means. -/
structure Flags where
  ignoreCase : Bool := false
  multiLine : Bool := false
  dotAll : Bool := false
  swapGreed : Bool := false
  unicode : Bool := true
  anyBreak : Bool := false
  spaced : Bool := false
deriving DecidableEq, Inhabited, Repr

/-- How far the reading has come. -/
structure State where
  rest : List Char
  position : Position
  flags : Flags
  names : List (String × Span)
  /-- the first fault that is held back until the end -/
  late : Option Fault

/-- A reading step. -/
abbrev Reader := StateT State (Except Fault)

namespace Reader

/-! ### Single characters -/

/-- The next character. -/
def peek : Reader (Option Char) := do return (← get).rest.head?

/-- The position of the next character. -/
def here : Reader Position := do return (← get).position

/-- Goes behind the next character. -/
def bump : Reader Unit :=
  modify fun s =>
    match s.rest with
    | [] => s
    | c :: rest => { s with rest, position := s.position.after c }

/-- Whether nothing is left. -/
def atEnd : Reader Bool := do return (← get).rest.isEmpty

/-- Stops for a fault in a stretch. -/
def fail {α : Type} (cause : Cause) (first last : Position) : Reader α :=
  throw ⟨cause, ⟨first, last⟩, none⟩

/-- Stops for a fault at the next character. -/
def failAtChar {α : Type} (cause : Cause) : Reader α := do
  let p ← here
  let q := match ← peek with
    | some c => p.after c
    | none => p
  fail cause p q

/-- Stops for a fault where the reading has come to. -/
def failHere {α : Type} (cause : Cause) : Reader α := do
  let p ← here
  fail cause p p

/-- Holds a fault back. -/
def blame (cause : Cause) (span : Span) : Reader Unit :=
  modify fun s => if s.late.isNone then { s with late := some ⟨cause, span, none⟩ } else s

/-- What is left without blanks and comments at its start, and the position of it. -/
def behindBlanks : Bool → List Char → Position → List Char × Position
  | _, [], p => ([], p)
  | true, c :: rest, p => behindBlanks (c != '\n') rest (p.after c)
  | false, c :: rest, p =>
    if Text.isBlank c then behindBlanks false rest (p.after c)
    else if c = '#' then behindBlanks true rest (p.after c)
    else (c :: rest, p)

/-- Goes behind blanks and comments, if they have no meaning. -/
def skipBlanks : Reader Unit :=
  modify fun s =>
    if s.flags.spaced then
      let (rest, position) := behindBlanks false s.rest s.position
      { s with rest, position }
    else s

/-- Goes behind the next character and the blanks behind it; whether anything is left. -/
def advance : Reader Bool := do
  bump
  if ← atEnd then return false
  skipBlanks
  return !(← atEnd)

/-- Goes behind a text if it comes next. -/
def eat (text : String) : Reader Bool := do
  match Text.afterStart? text.toList (← get).rest with
  | none => return false
  | some _ =>
    for _ in text.toList do bump
    return true

/-- The characters up to the first one that fails a test, blanks left out. -/
def takeWhile (test : Char → Bool) : Nat → Reader (List Char)
  | 0 => return []
  | fuel + 1 => do
    match ← peek with
    | some c =>
      if test c then
        discard advance
        return c :: (← takeWhile test fuel)
      else return []
    | none => return []

/-- More steps than the rest of the pattern allows. -/
def fuel : Reader Nat := do return (← get).rest.length + 1

/-! ### Escapes -/

/-- What is matched by a single character, a set or a condition. -/
inductive Primitive where
  /-- a character; `isByte` if it was written as the number of a byte -/
  | literal (c : Char) (isByte : Bool)
  | dot
  | look (l : Look)
  | class (s : CharSet) (negated : Bool)
  | property (s : CharSet) (negated : Bool)

/-- Characters that have a meaning outside of classes or in them. -/
def isMeta (c : Char) : Bool := "\\.+*?()|[]\x7b\x7d^$#&-~".toList.contains c

/-- The value of some hexadecimal digits, if it is a character. -/
def charOfHex? (digits : List Char) : Option Char :=
  (Text.baseNumber? 16 digits).bind Text.character?

/-- Whether a character is a hexadecimal digit. -/
def isHex (c : Char) : Bool := (Text.baseNumber? 16 [c]).isSome

/-- A fixed number of hexadecimal digits. -/
def hexDigits : Nat → Reader (List Char)
  | 0 => return []
  | n + 1 => do
    if ← atEnd then failHere .escapeUnfinished
    match ← peek with
    | some c =>
      if !isHex c then failAtChar .hexDigit
      discard advance
      return c :: (← hexDigits n)
    | none => return []

/-- The hexadecimal digits up to a brace. -/
def bracedDigits : Nat → Reader (List Char)
  | 0 => return []
  | n + 1 => do
    match ← peek with
    | some '\x7d' => return []
    | some c =>
      if !isHex c then failAtChar .hexDigit
      discard advance
      return c :: (← bracedDigits n)
    | none => return []

/-- A character by its number, from the letter that starts it, and whether the number stands
between braces. -/
def hex (digits : Nat) : Reader (Char × Bool) := do
  if !(← advance) then failHere .escapeUnfinished
  let start ← here
  if (← peek) = some '\x7b' then
    discard advance
    let first := start.after '\x7b'
    let ds ← bracedDigits (← fuel)
    let stop ← here
    if ← atEnd then fail .escapeUnfinished start stop
    discard advance
    if ds.isEmpty then fail .hexEmpty start (← here)
    match charOfHex? ds with
    | some c => return (c, true)
    | none => fail .hexInvalid first stop
  else
    let ds ← hexDigits digits
    match charOfHex? ds with
    | some c => return (c, false)
    | none => fail .hexInvalid start (← here)

/-- A property, from the letter that starts it; `start` is where the escape starts. -/
def property (start : Position) (negated : Bool) : Reader Primitive := do
  if !(← advance) then failHere .escapeUnfinished
  let name ←
    if (← peek) = some '\x7b' then
      discard advance
      let name ← takeWhile (· != '\x7d') (← fuel)
      if ← atEnd then failHere .escapeUnfinished
      bump
      pure name
    else
      match ← peek with
      | some '\\' => failAtChar .propertyInvalid
      | some c =>
        discard advance
        pure [c]
      | none => pure []
  let span : Span := ⟨start, ← here⟩
  if !(← get).flags.unicode then
    blame .unicodeOff span
    return .property .none negated
  match propertySet name with
  | .ok s => return .property s negated
  | .error .unknownProperty =>
    blame .propertyUnknown span
    return .property .none negated
  | .error .unknownValue =>
    blame .propertyValueUnknown span
    return .property .none negated

/-- The characters of words. -/
def wordSet : Reader CharSet := do
  return if (← get).flags.unicode then Unicode.wordCharacters else .asciiWord

/-- The rest of a word boundary that may be a special one; `start` is where the escape starts. -/
def boundary (start : Position) : Reader Look := do
  let word ← wordSet
  if (← peek) != some '\x7b' then return .boundary word
  let before ← get
  let brace ← here
  if !(← advance) then fail .boundaryUnfinished start (← here)
  let isNameChar (c : Char) : Bool := c.isAlpha || c = '-'
  let first ← here
  if !((← peek).any isNameChar) then
    -- the brace starts a repetition
    set before
    return .boundary word
  let name ← takeWhile isNameChar (← fuel)
  let stop ← here
  if (← peek) != some '\x7d' then fail .boundaryUnclosed brace stop
  bump
  match String.ofList name with
  | "start" => return .wordStart word
  | "end" => return .wordStop word
  | "start-half" => return .noWordBefore word
  | "end-half" => return .noWordAfter word
  | _ => fail .boundaryUnknown first stop

/-- A set that an escape stands for. -/
def perlClass (letter : Char) : Reader Primitive := do
  bump
  let unicode := (← get).flags.unicode
  let s := match letter.toLower with
    | 'd' => if unicode then Unicode.category "Nd" else .digits
    | 's' => if unicode then Unicode.flag "White_Space" else .asciiBlank
    | _ => if unicode then Unicode.wordCharacters else .asciiWord
  return .class s letter.isUpper

/-- What starts with a backslash. -/
def escape : Reader Primitive := do
  let start ← here
  bump
  match ← peek with
  | none => fail .escapeUnfinished start (← here)
  | some c =>
    if c.isDigit then fail .backreference start ((← here).after c)
    match c with
    | 'x' =>
      let (d, braced) ← hex 2
      return .literal d !braced
    | 'u' => return .literal (← hex 4).1 false
    | 'U' => return .literal (← hex 8).1 false
    | 'p' => property start false
    | 'P' => property start true
    | 'd' | 's' | 'w' | 'D' | 'S' | 'W' => perlClass c
    | _ =>
      bump
      if isMeta c then return .literal c false
      if c.toNat < 128 && !c.isAlphanum && c != '<' && c != '>' then return .literal c false
      match c with
      | 'a' => return .literal '\x07' false
      | 'f' => return .literal '\x0c' false
      | 't' => return .literal '\t' false
      | 'n' => return .literal '\n' false
      | 'r' => return .literal '\r' false
      | 'v' => return .literal '\x0b' false
      | 'A' => return .look .start
      | 'z' => return .look .stop
      | 'b' => return .look (← boundary start)
      | 'B' => return .look (.noBoundary (← wordSet))
      | '<' => return .look (.wordStart (← wordSet))
      | '>' => return .look (.wordStop (← wordSet))
      | _ => fail .escapeUnknown start (← here)

/-- A single character or an escape. -/
def primitive : Reader Primitive := do
  match ← peek with
  | some '\\' => escape
  | some '.' =>
    bump
    return .dot
  | some '^' =>
    bump
    let f := (← get).flags
    return .look (if f.multiLine then .lineStart f.anyBreak else .start)
  | some '$' =>
    bump
    let f := (← get).flags
    return .look (if f.multiLine then .lineStop f.anyBreak else .stop)
  | some c =>
    bump
    return .literal c false
  | none => failHere .escapeUnfinished

/-! ### Sets -/

/-- A set with regard to case as the switches say. -/
def folding (s : CharSet) : Reader CharSet := do
  let f := (← get).flags
  if !f.ignoreCase then return s
  return if f.unicode then .anyCase s else .inter .ascii (.anyCase (.inter .ascii s))

/-- A set, or all that it lacks.  Where characters are bytes it must not have a part of one. -/
def finished (s : CharSet) (negated : Bool) (span : Span) : Reader CharSet := do
  let s := if negated then s.complement else s
  if (← get).flags.unicode then return s
  if !s.isAscii then blame .bytesOnly span
  return .inter .ascii s

/-- Checks a character that stands for itself. -/
def checkLiteral (c : Char) (isByte : Bool) (inClass : Bool) (span : Span) : Reader Unit := do
  if (← get).flags.unicode || c.toNat < 128 then return
  if isByte && c.toNat < 256 then blame .bytesOnly span
  else if inClass then blame .unicodeOff span

/-- The set of an item of a class. -/
def itemSet (p : Primitive) (span : Span) : Reader CharSet := do
  match p with
  | .literal c isByte =>
    checkLiteral c isByte true span
    return .single c
  | .class s negated => finished s negated span
  | .property s negated => finished (← folding s) negated span
  | .dot | .look _ => fail .classEscape span.first span.last

/-- The character of an end of a range. -/
def rangeEnd (p : Primitive) (span : Span) : Reader (Char × Bool) := do
  match p with
  | .literal c isByte => return (c, isByte)
  | _ => fail .classRangeEnd span.first span.last

/-- A character or an escape in a class, and its place. -/
def classItem : Reader (Primitive × Span) := do
  let first ← here
  let p ←
    match ← peek with
    | some '\\' => escape
    | some c =>
      bump
      pure (.literal c false)
    | none => pure .dot
  return (p, ⟨first, ← here⟩)

/-- The character behind the next one and behind blanks. -/
def peekBehind : Reader (Option Char) := do
  let s ← get
  let behind := s.rest.drop 1
  if !s.flags.spaced then return behind.head?
  let behind := behind.dropWhile Text.isBlank
  match behind with
  | '#' :: more => return (more.dropWhile Text.isBlank).head?
  | _ => return behind.head?

/-- A set that was read, and the part of the pattern that it is. -/
abbrev ReadSet := CharSet × Shape

/-- An item of a class, or a range of characters; `opening` is where the class starts. -/
def classRange (opening : Span) : Reader ReadSet := do
  let (p, place) ← classItem
  skipBlanks
  if ← atEnd then fail .classUnclosed opening.first opening.last
  -- a hyphen at the end of a class, or in front of another one, makes no range
  let behind ← peekBehind
  if (← peek) != some '-' || behind = some ']' || behind = some '-' then
    return (← itemSet p place, .flat place)
  else
    if !(← advance) then fail .classUnclosed opening.first opening.last
    let (q, place') ← classItem
    let (c, cByte) ← rangeEnd p place
    let (d, dByte) ← rangeEnd q place'
    if d < c then fail .classRange place.first place'.last
    checkLiteral c cByte true place
    checkLiteral d dByte true place'
    return (.range c.toNat d.toNat, .flat ⟨place.first, place'.last⟩)

/-- A class by its name between colons, if there is one. -/
def colonClass? : Reader (Option ReadSet) := do
  let before ← get
  let start ← here
  match Text.afterStart? ['[', ':'] before.rest with
  | none => return none
  | some inner =>
    let (negated, inner) := match inner with
      | '^' :: more => (true, more)
      | _ => (false, inner)
    let name := inner.takeWhile (· != ':')
    let behind := inner.drop name.length
    match Text.afterStart? [':', ']'] behind, namedClass? (String.ofList name) with
    | some rest, some s =>
      for _ in List.range (before.rest.length - rest.length) do bump
      let span : Span := ⟨start, ← here⟩
      return some (← finished (← folding s) negated span, .flat span)
    | _, _ => return none

/-- The operations on the sets of a class. -/
inductive SetOp where
  | inter
  | minus
  | exactlyOne

/-- What was read of one side of an operation: its set, and its items, latest first. -/
structure Side where
  set : CharSet := .none
  items : List Shape := []

namespace Side

/-- A side with one more item. -/
def add (side : Side) (item : ReadSet) : Side :=
  ⟨match side.items with
    | [] => item.1
    | _ => .union side.set item.1, item.2 :: side.items⟩

/-- The part of the pattern that a side is, which is empty at a place if it has no items. -/
def shape (side : Side) (place : Position) : Shape :=
  match side.items.getLast?, side.items.head? with
  | some first, some last =>
    .row ⟨first.span.first, last.span.last⟩ side.items.reverse
  | _, _ => .flat ⟨place, place⟩

end Side

/-- The value of an operation waiting for its right side. -/
def combine (pending : Option (SetOp × ReadSet)) (side : Side) : Reader ReadSet := do
  let right := side.shape (← here)
  match pending with
  | none => return (side.set, right)
  | some (op, left, leftShape) =>
    let left ← folding left
    let s ← folding side.set
    let both := match op with
      | .inter => .inter left s
      | .minus => left.minus s
      | .exactlyOne => left.exactlyOne s
    return (both, .nest ⟨leftShape.span.first, right.span.last⟩ [leftShape, right])

/-- The start of a class: its place, whether it is negated, and the characters that stand for
themselves only there. -/
def classOpen : Reader (Span × Bool × Side) := do
  let start ← here
  if !(← advance) then fail .classUnclosed start (← here)
  let negated := (← peek) = some '^'
  if negated then
    if !(← advance) then fail .classUnclosed start (← here)
  let rec hyphens : Nat → Side → Reader Side
    | 0, s => return s
    | n + 1, s => do
      if (← peek) != some '-' then return s
      let first ← here
      if !(← advance) then fail .classUnclosed start start
      hyphens n (s.add (.single '-', .flat ⟨first, first.after '-'⟩))
  let side ← hyphens (← fuel) {}
  if side.items.isEmpty && (← peek) = some ']' then
    let first ← here
    if !(← advance) then fail .classUnclosed start (← here)
    return (⟨start, ← here⟩, negated, side.add (.single ']', .flat ⟨first, first.after ']'⟩))
  return (⟨start, ← here⟩, negated, side)

/-- The rest of a class, given what was read of it. -/
def classRest : Nat → Span → Bool → Option (SetOp × ReadSet) → Side → Reader ReadSet
  | 0, opening, _, _, _ => fail .classUnclosed opening.first opening.last
  | n + 1, opening, negated, pending, side => do
    skipBlanks
    match ← peek, (← get).rest.tail.head? with
    | none, _ => fail .classUnclosed opening.first opening.last
    | some '[', _ =>
      match ← colonClass? with
      | some item => classRest n opening negated pending (side.add item)
      | none =>
        let (inner, innerNegated, first) ← classOpen
        let item ← classRest n inner innerNegated none first
        classRest n opening negated pending (side.add item)
    | some ']', _ =>
      let (s, inner) ← combine pending side
      bump
      let span : Span := ⟨opening.first, ← here⟩
      return (← finished (← folding s) negated span, .nest span [inner])
    | some '&', some '&' =>
      discard (eat "&&")
      classRest n opening negated (some (.inter, ← combine pending side)) {}
    | some '-', some '-' =>
      discard (eat "--")
      classRest n opening negated (some (.minus, ← combine pending side)) {}
    | some '~', some '~' =>
      discard (eat "~~")
      classRest n opening negated (some (.exactlyOne, ← combine pending side)) {}
    | _, _ =>
      let item ← classRange opening
      classRest n opening negated pending (side.add item)

/-- A class between brackets. -/
def bracketed : Reader ReadSet := do
  let (opening, negated, first) ← classOpen
  classRest (← fuel) opening negated none first

/-! ### Repetitions -/

/-- A number, in front of and behind which blanks may stand. -/
def decimal (empty : Cause) : Reader Nat := do
  let rec blanks : Nat → Reader Unit
    | 0 => return
    | n + 1 => do
      if (← peek).any Text.isBlank then
        bump
        blanks n
  blanks (← fuel)
  let first ← here
  let digits ← takeWhile Char.isDigit (← fuel)
  let stop ← here
  blanks (← fuel)
  match Text.baseNumber? 10 digits with
  | none => fail empty first stop
  | some n => if n < 1 <<< 32 then return n else fail .numberTooLarge first stop

/-- The bounds of a repetition between braces. -/
def counted : Reader (Nat × Option Nat) := do
  let start ← here
  let unclosed {α : Type} : Reader α := do fail .repetitionUnclosed start (← here)
  if !(← advance) then unclosed
  let before ← get
  let low : Except Fault (Nat × State) := (decimal .repetitionNumber).run before
  match low with
  | .ok (_, after) => set after
  | .error _ =>
    -- the number is missing or too large; what follows decides which fault is reported
    modify fun s => { s with
      rest := s.rest.dropWhile fun c => Text.isBlank c || c.isDigit
      position := (s.rest.takeWhile fun c => Text.isBlank c || c.isDigit).foldl Position.after
        s.position }
  if ← atEnd then unclosed
  let lowValue : Reader Nat :=
    match low with
    | .ok (n, _) => pure n
    | .error f => throw f
  let bounds ←
    if (← peek) = some ',' then
      if !(← advance) then unclosed
      if (← peek) != some '\x7d' then
        let n ← lowValue
        let m ← decimal .repetitionNumber
        pure (n, some m)
      else pure (← lowValue, none)
    else
      let n ← lowValue
      pure (n, some n)
  if (← peek) != some '\x7d' then unclosed
  if (← advance) && (← peek) = some '?' then bump
  if bounds.2.any (· < bounds.1) then fail .repetitionRange start (← here)
  return bounds

/-! ### Groups -/

/-- The switch of a letter. -/
def Flags.turn? (f : Flags) (on : Bool) : Char → Option Flags
  | 'i' => some { f with ignoreCase := on }
  | 'm' => some { f with multiLine := on }
  | 's' => some { f with dotAll := on }
  | 'U' => some { f with swapGreed := on }
  | 'u' => some { f with unicode := on }
  | 'R' => some { f with anyBreak := on }
  | 'x' => some { f with spaced := on }
  | _ => none

/-- The switches up to a colon or a parenthesis: the letters and hyphens read so far with their
places, latest first, and what they change. -/
def flagsFrom : Nat → List (Char × Span) → Flags → Reader (List (Char × Span) × Flags)
  | 0, _, _ => failHere .flagUnfinished
  | n + 1, seen, flags => do
    match ← peek with
    | none => failHere .flagUnfinished
    | some c =>
      let start ← here
      let place : Span := ⟨start, start.after c⟩
      if c = ':' || c = ')' then
        match seen with
        | ('-', last) :: _ => throw ⟨.flagNegatedNone, last, none⟩
        | _ => return (seen, flags)
      let changed ←
        if c = '-' then pure flags
        else
          match Flags.turn? flags (!seen.any fun e => e.1 = '-') c with
          | some flags => pure flags
          | none => throw ⟨.flagUnknown, place, none⟩
      match seen.find? fun e => e.1 = c with
      | some (_, other) =>
        throw ⟨if c = '-' then .flagNegatedTwice else .flagTwice, place, some other⟩
      | none =>
        bump
        if ← atEnd then failHere .flagUnfinished
        flagsFrom n ((c, place) :: seen) changed

/-- Whether a character may stand in the name of a group. -/
def isNameChar (isFirst : Bool) (c : Char) : Bool :=
  c = '_' || Unicode.alphabetic.has c.toNat
    || (!isFirst && (c = '.' || c = '[' || c = ']' || Unicode.numbers.has c.toNat))

/-- The characters of the name of a group. -/
def nameChars : Nat → Bool → Reader (List Char)
  | 0, _ => return []
  | n + 1, isFirst => do
    match ← peek with
    | none => return []
    | some '>' => return []
    | some c =>
      if !isNameChar isFirst c then failAtChar .groupNameInvalid
      bump
      return c :: (← nameChars n false)

/-- The name of a group, behind the bracket that opens it. -/
def groupName : Reader Unit := do
  if ← atEnd then failHere .groupNameUnclosed
  let first ← here
  let name := String.ofList (← nameChars (← fuel) true)
  let stop ← here
  if ← atEnd then failHere .groupNameUnclosed
  bump
  if name.isEmpty then fail .groupNameEmpty first first
  let place : Span := ⟨first, stop⟩
  match (← get).names.lookup name with
  | some other => throw ⟨.groupNameTwice, place, some other⟩
  | none => modify fun s => { s with names := (name, place) :: s.names }

/-- What a parenthesis opens. -/
inductive Opening where
  /-- switches for the rest of the enclosing group -/
  | switches
  /-- a group, and the switches in front of it -/
  | group (outer : Flags)

/-- The start of a group, and where its parenthesis stands. -/
def groupOpen : Reader (Span × Opening) := do
  let start ← here
  let place : Span := ⟨start, start.after '('⟩
  let outer := (← get).flags
  bump
  skipBlanks
  for look in ["?=", "?!", "?<=", "?<!"] do
    if ← eat look then fail .lookAround start (← here)
  let inner ← here
  if ← eat "?P<" then
    groupName
    return (place, .group outer)
  if ← eat "?<" then
    groupName
    return (place, .group outer)
  if ← eat "?" then
    if ← atEnd then throw ⟨.groupUnclosed, place, none⟩
    let (seen, flags) ← flagsFrom (← fuel) [] outer
    let isSwitch := (← peek) = some ')'
    bump
    if isSwitch && seen.isEmpty then fail .repetitionMissing inner inner
    modify fun s => { s with flags }
    return (place, if isSwitch then .switches else .group outer)
  return (place, .group outer)

/-! ### Whole patterns -/

/-- A character, set or condition outside of classes. -/
def primitiveNode (p : Primitive) (span : Span) : Reader Node := do
  match p with
  | .literal c isByte =>
    checkLiteral c isByte false span
    return .one (← if (← get).flags.unicode || c.toNat < 128 then folding (.single c)
      else pure (.single c))
  | .dot =>
    let f := (← get).flags
    if !f.unicode then blame .bytesOnly span
    return .one <|
      if f.dotAll then .any
      else if f.anyBreak then CharSet.any.minus (CharSet.ofRanges [(10, 10), (13, 13)])
      else CharSet.any.minus (.single '\n')
  | .look l => return .look l
  | .class s negated => return .one (← finished s negated span)
  | .property s negated => return .one (← finished (← folding s) negated span)

/-- A piece of a sequence.  Switches are pieces that match nothing themselves. -/
structure Piece where
  node : Option Node
  shape : Shape

/-- What was read of a sequence: where it starts, and its pieces, latest first. -/
structure Sequence where
  first : Position
  pieces : List Piece := []

namespace Sequence

/-- A sequence with one more piece. -/
def add (s : Sequence) (piece : Piece) : Sequence := { s with pieces := piece :: s.pieces }

/-- The piece that a sequence is, given where it stops. -/
def finish (s : Sequence) (stop : Position) : Node × Shape :=
  let node := match s.pieces.filterMap (·.node) with
    | [] => .empty
    | last :: front => front.foldl (fun behind piece => .append piece behind) last
  (node, .row ⟨s.first, stop⟩ (s.pieces.reverse.map (·.shape)))

end Sequence

/-- A pattern up to a parenthesis that it does not open, given the alternatives in front, latest
first, and what was read of the current one. -/
def body : Nat → List (Node × Shape) → Sequence → Reader (Node × Shape)
  | 0, _, _ => failHere .groupUnclosed
  | n + 1, alternatives, current => do
    let finish (stop : Position) : Node × Shape :=
      let (node, shape) := current.finish stop
      let shapes := (shape :: alternatives.map (·.2)).reverse
      let start := match shapes with
        | first :: _ :: _ => first.span.first
        | _ => current.first
      (alternatives.foldl (fun behind a => .either a.1 behind) node, .row ⟨start, stop⟩ shapes)
    let repeated (bounds : Reader (Nat × Option Nat)) : Reader (Node × Shape) := do
      match current.pieces with
      | ⟨some node, shape⟩ :: front =>
        let (low, high) ← bounds
        let shape := .nest ⟨shape.span.first, ← here⟩ [shape]
        body n alternatives ⟨current.first, ⟨some (.many node low high), shape⟩ :: front⟩
      | _ => failHere .repetitionMissing
    let simple (low : Nat) (high : Option Nat) : Reader (Node × Shape) :=
      repeated do
        bump
        discard (eat "?")
        return (low, high)
    skipBlanks
    match ← peek with
    | none => return finish (← here)
    | some ')' => return finish (← here)
    | some '|' =>
      let stop ← here
      bump
      body n (current.finish stop :: alternatives) ⟨← here, []⟩
    | some '(' =>
      let start ← here
      match ← groupOpen with
      | (_, .switches) =>
        body n alternatives (current.add ⟨none, .flat ⟨start, ← here⟩⟩)
      | (opening, .group outer) =>
        let (inner, shape) ← body n [] ⟨← here, []⟩
        if ← atEnd then throw ⟨.groupUnclosed, opening, none⟩
        modify fun s => { s with flags := outer }
        bump
        body n alternatives (current.add ⟨some inner, .nest ⟨start, ← here⟩ [shape]⟩)
    | some '[' =>
      let (s, shape) ← bracketed
      body n alternatives (current.add ⟨some (.one s), shape⟩)
    | some '?' => simple 0 (some 1)
    | some '*' => simple 0 none
    | some '+' => simple 1 none
    | some '\x7b' => repeated counted
    | some _ =>
      let start ← here
      let p ← primitive
      let span : Span := ⟨start, ← here⟩
      let node ← primitiveNode p span
      body n alternatives (current.add ⟨some node, .flat span⟩)

/-- All of a pattern. -/
def whole : Reader Node := do
  let (node, shape) ← body (2 * (← fuel)) [] ⟨← here, []⟩
  if !(← atEnd) then failAtChar .groupUnopened
  if let some span := shape.tooDeep? depthLimit then throw ⟨.nestedTooDeep, span, none⟩
  match (← get).late with
  | some f => throw f
  | none => return node

end Reader

/-- Why a text cannot be used as a pattern. -/
inductive Refusal where
  | malformed (fault : Fault)
  | tooLarge
deriving DecidableEq, Inhabited, Repr

/-- The report on a text that cannot be used as a pattern. -/
def Refusal.report (pattern : String) : Refusal → String
  | .malformed f => f.report pattern
  | .tooLarge => "Compiled regex exceeds size limit of " ++ toString sizeLimit ++ " bytes."

/-- The pattern that a text describes. -/
def Node.ofText (pattern : String) : Except Refusal Node :=
  match Reader.whole.run ⟨pattern.toList, .start, {}, [], none⟩ with
  | .error f => .error (.malformed f)
  | .ok (node, _) => if node.bytes > sizeLimit then .error .tooLarge else .ok node

end Playground.Pattern
