import Playground.Json.Reader

/-!
# Shared states

Everything a link restores, and its form in JSON.
-/

namespace Playground.Share

open Playground.Json

/-- What a link carries. -/
structure ShareState where
  source : String
deriving DecidableEq, Inhabited, Repr

namespace ShareState

/-! ### Writing -/

/-- A digit of base 16. -/
def hexDigit (n : Nat) : Char := if n < 10 then Char.ofNat (n + 48) else Char.ofNat (n + 87)

/-- A character of a quoted text: quotes, backslashes and control characters are escaped. -/
def quotedChar (c : Char) : List Char :=
  if c = '\x22' then ['\\', '\x22']
  else if c = '\\' then ['\\', '\\']
  else if c = '\x08' then ['\\', 'b']
  else if c = '\x0c' then ['\\', 'f']
  else if c = '\n' then ['\\', 'n']
  else if c = '\r' then ['\\', 'r']
  else if c = '\t' then ['\\', 't']
  else if c.toNat < 32 then
    ['\\', 'u', '0', '0', hexDigit (c.toNat / 16), hexDigit (c.toNat % 16)]
  else [c]

/-- A quoted text. -/
def quoted (s : String) : String :=
  "\"" ++ String.ofList (s.toList.flatMap quotedChar) ++ "\""

/-- The state as JSON without blanks. -/
def toJson (s : ShareState) : String := "\x7b\"source\":" ++ quoted s.source ++ "\x7d"

/-! ### Reading -/

/-- What is expected where a state is read. -/
def expected : String := "struct ShareState"

/-- The end of an object. -/
def endObject : Reader Unit := do
  match ← Reader.blanks with
  | none => Reader.failNext .eofObject
  | some b =>
    if Reader.is b '\x7d' then Reader.pass
    else if Reader.is b ',' then Reader.failNext .trailingComma
    else Reader.failNext .trailingCharacters

/-- The end of an array. -/
def endArray : Reader Unit := do
  match ← Reader.blanks with
  | none => Reader.failNext .eofList
  | some b =>
    if Reader.is b ']' then Reader.pass
    else if Reader.is b ',' then
      Reader.pass
      match ← Reader.blanks with
      | none => Reader.failNext .eofList
      | some c =>
        if Reader.is c ']' then Reader.failNext .trailingComma
        else Reader.failNext .trailingCharacters
    else Reader.failNext .trailingCharacters

/-- Stops for a reason that is placed behind the value it is about, if that value ends as it
should. -/
def failAfter {α : Type} (cause : Cause) (ending : Reader Unit) : Reader α := do
  -- a fault behind the value does not replace the reason
  try ending catch _ => pure ()
  Reader.fail cause

/-- The fields of a state, of which others are passed over. -/
def readFields : Nat → Bool → Option String → Reader (Option String)
  | 0, _, source => return source
  | n + 1, isFirst, source => do
    match ← Reader.nextKey isFirst with
    | none => return source
    | some "source" =>
      -- refused by its name, whatever the value is
      if source.isSome then failAfter (.duplicateField "source") endObject
      Reader.colon
      readFields n false (some (← Reader.stringValue))
    | some _ =>
      Reader.colon
      Reader.skipValue
      readFields n false source

/-- The first item of an array, if there is one. -/
def readFirst : Reader (Option String) := do
  match ← Reader.blanks with
  | none => Reader.failNext .eofList
  | some b => if Reader.is b ']' then return none else return some (← Reader.stringValue)

/-- A state: an object with the field `source`, or an array with just the source. -/
def read : Reader ShareState := do
  match ← Reader.blanks with
  | none => Reader.failNext .eofValue
  | some b =>
    if Reader.is b '\x7b' then
      Reader.pass
      match ← readFields (← Reader.left) true none with
      | none => failAfter (.missingField "source") endObject
      | some source =>
        endObject
        return ⟨source⟩
    else if Reader.is b '[' then
      Reader.pass
      match ← readFirst with
      | none => failAfter (.invalidLength 0 (expected ++ " with 1 element")) endArray
      | some source =>
        endArray
        return ⟨source⟩
    else Reader.wrongType b expected

/-- The state of some bytes. -/
def ofJson (bytes : ByteArray) : Except Fault ShareState :=
  let reader : Reader ShareState := do
    let s ← read
    Reader.finish
    return s
  match reader bytes 0 with
  | .ok s _ => .ok s
  | .error e _ => .error e

end ShareState

end Playground.Share
