import Playground.Base64
import Playground.Deflate.Encode
import Playground.Deflate.Inflate
import Playground.Failure
import Playground.Share.State

/-!
# Fragments

A fragment is a shared state as it stands in a link: JSON, compressed, in the base64 symbols that
are safe in a URL.  Reading takes a fragment apart in the opposite order, and stops with the
reason as soon as a layer is not what it should be.
-/

namespace Playground.Share

open Playground.Deflate

/-- The largest JSON text, in bytes, that is accepted. -/
def maxPayload : Nat := 8 * 1024 * 1024

/-- Why a fragment is refused. -/
inductive ShareError where
  /-- no padding can complete so many bytes -/
  | length (bytes : Nat)
  | base64 (fault : Base64.Fault)
  | inflate (ending : Ending)
  | tooLarge
  | json (fault : Json.Fault) (payload : ByteArray)

/-- The wording of each reason. -/
def ShareError.message : ShareError → String
  | length bytes => "invalid fragment length " ++ toString bytes
  | base64 fault => "invalid base64: " ++ fault.message
  | inflate .corrupt => "invalid deflate stream: corrupt deflate stream"
  | inflate _ => "invalid deflate stream: incomplete deflate stream"
  | tooLarge => "payload exceeds " ++ toString maxPayload ++ " bytes"
  | json fault payload => "invalid payload: " ++ fault.message payload

/-- The fault that a reason was caused by, where it is one of another format. -/
def ShareError.cause? : ShareError → Option String
  | length _ | inflate _ | tooLarge => none
  | base64 fault => some fault.message
  | json fault payload => some (fault.message payload)

/-- A reason as a failure. -/
def ShareError.failure (e : ShareError) : Failure := ⟨e.message, e.cause?.toList⟩

/-! ### Writing -/

/-- The fragment of some bytes. -/
def fragmentOfBytes (payload : ByteArray) : String :=
  String.ofList (Base64.encode (deflate payload).toList)

/-- The fragment of a state. -/
def encode (s : ShareState) : String := fragmentOfBytes s.toJson.toUTF8

/-! ### Reading -/

/-- A symbol of the standard alphabet for one of the URL alphabet. -/
def standardSymbol (b : UInt8) : UInt8 := if b = 45 then 43 else if b = 95 then 47 else b

/-- The symbols of a fragment in the standard alphabet, with the padding that was left off. -/
def restorePadding (fragment : String) : Except ShareError (List UInt8) :=
  let symbols := fragment.toUTF8.toList.map standardSymbol
  match symbols.length % 4 with
  | 0 => .ok symbols
  | 2 => .ok (symbols ++ [Base64.pad, Base64.pad])
  | 3 => .ok (symbols ++ [Base64.pad])
  -- a single symbol is left over, which is less than a byte
  | _ => .error (.length symbols.length)

/-- The compressed bytes of a fragment. -/
def compressedBytes (fragment : String) : Except ShareError ByteArray := do
  match Base64.decode (← restorePadding fragment) with
  | .ok bytes => return ⟨bytes.toArray⟩
  | .error fault => throw (.base64 fault)

/-- The JSON of compressed bytes; what exceeds the largest size is refused unseen. -/
def payloadOf (compressed : ByteArray) : Except ShareError ByteArray :=
  let (output, ending) := inflate compressed
  -- a stream that is too large is refused for that, even if it also turns out corrupt
  if handedOn output ending > maxPayload then .error .tooLarge
  else if ending = .complete then .ok output
  else .error (.inflate ending)

/-- The state of a JSON text. -/
def stateOf (payload : ByteArray) : Except ShareError ShareState :=
  match ShareState.ofJson payload with
  | .ok s => .ok s
  | .error fault => .error (.json fault payload)

/-- The state that a fragment carries, or why it carries none. -/
def tryDecode (fragment : String) : Except ShareError ShareState := do
  stateOf (← payloadOf (← compressedBytes fragment))

/-- The state that a fragment carries, if any. -/
def decode (fragment : String) : Option ShareState := (tryDecode fragment).toOption

end Playground.Share
