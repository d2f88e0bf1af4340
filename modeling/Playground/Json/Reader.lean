import Playground.Decimal.Shortest
import Playground.Text.Visible

/-!
# Reading JSON

A reader over bytes that stops at the first fault and knows where it is.  `Reader.skipValue`
passes a value without looking at it closely, `Reader.value` reads one, and the remaining
actions let a caller read a value of a shape it expects.
-/

namespace Playground.Json

/-- Why a text is refused. -/
inductive Cause where
  | eofList | eofObject | eofString | eofValue
  | expectedColon | expectedListEnd | expectedObjectEnd | expectedIdent | expectedValue
  | invalidEscape | invalidNumber | outOfRange | invalidUnicode | controlCharacter
  | keyNotString | loneSurrogate | trailingComma | trailingCharacters | endOfHexEscape
  | recursion
  /-- a value of another kind than the one expected -/
  | invalidType (found expected : String)
  | invalidLength (found : Nat) (expected : String)
  | missingField (name : String)
  | duplicateField (name : String)
deriving DecidableEq, Inhabited

/-- The wording of each reason. -/
def Cause.message : Cause → String
  | eofList => "EOF while parsing a list"
  | eofObject => "EOF while parsing an object"
  | eofString => "EOF while parsing a string"
  | eofValue => "EOF while parsing a value"
  | expectedColon => "expected `:`"
  | expectedListEnd => "expected `,` or `]`"
  | expectedObjectEnd => "expected `,` or `\x7d`"
  | expectedIdent => "expected ident"
  | expectedValue => "expected value"
  | invalidEscape => "invalid escape"
  | invalidNumber => "invalid number"
  | outOfRange => "number out of range"
  | invalidUnicode => "invalid unicode code point"
  | controlCharacter => "control character (\\u0000-\\u001F) found while parsing a string"
  | keyNotString => "key must be a string"
  | loneSurrogate => "lone leading surrogate in hex escape"
  | trailingComma => "trailing comma"
  | trailingCharacters => "trailing characters"
  | endOfHexEscape => "unexpected end of hex escape"
  | recursion => "recursion limit exceeded"
  | invalidType found expected => "invalid type: " ++ found ++ ", expected " ++ expected
  | invalidLength found expected =>
    "invalid length " ++ toString found ++ ", expected " ++ expected
  | missingField name => "missing field `" ++ name ++ "`"
  | duplicateField name => "duplicate field `" ++ name ++ "`"

/-- A reason, and the number of bytes read when it was found. -/
structure Fault where
  cause : Cause
  offset : Nat
deriving DecidableEq, Inhabited

/-- The line of a byte offset, and the number of bytes in front of it on that line. -/
def lineAndColumn (bytes : ByteArray) (offset : Nat) : Nat × Nat :=
  let step (place : Nat × Nat) (b : UInt8) : Nat × Nat :=
    if b == 10 then (place.1 + 1, 0) else (place.1, place.2 + 1)
  (bytes.extract 0 offset).foldl step (1, 0)

/-- The wording of a fault with its place. -/
def Fault.message (f : Fault) (bytes : ByteArray) : String :=
  let (line, column) := lineAndColumn bytes f.offset
  f.cause.message ++ " at line " ++ toString line ++ " column " ++ toString column

/-- The reader: it sees the bytes, counts those it has read and may stop. -/
abbrev Reader := ReaderT ByteArray (EStateM Fault Nat)

/-- A JSON value. -/
inductive Value where
  | null
  | bool (b : Bool)
  | number (text : String)
  | string (s : String)
  | array (items : List Value)
  | object (fields : List (String × Value))
deriving Inhabited

namespace Reader

/-! ### Bytes -/

/-- Stops after what was read. -/
def fail {α : Type} (cause : Cause) : Reader α := do throw ⟨cause, ← get⟩

/-- Stops at the next byte. -/
def failNext {α : Type} (cause : Cause) : Reader α := do
  throw ⟨cause, min (← read).size ((← get) + 1)⟩

/-- The next byte, if there is one. -/
def peek : Reader (Option UInt8) := do return (← read)[← get]?

/-- Passes the next byte. -/
def pass : Reader Unit := modify (· + 1)

/-- Takes the next byte. -/
def next : Reader (Option UInt8) := do
  let b ← peek
  if b.isSome then pass
  return b

/-- A bound on the number of bytes left. -/
def left : Reader Nat := do return (← read).size + 1 - (← get)

/-- Whether a byte is the given ASCII character. -/
def is (b : UInt8) (c : Char) : Bool := b.toNat == c.toNat

/-- Whether a byte is an ASCII digit. -/
def isDigit (b : UInt8) : Bool := 48 ≤ b && b ≤ 57

/-- Passes bytes that satisfy a test. -/
def skipWhile (test : UInt8 → Bool) : Nat → Reader Unit
  | 0 => return ()
  | n + 1 => do
    match ← peek with
    | some b => if test b then do pass; skipWhile test n
    | none => return ()

/-- Passes blanks; the byte behind them. -/
def blanks : Reader (Option UInt8) := do
  skipWhile (fun b => b == 32 || b == 9 || b == 10 || b == 13) (← left)
  peek

/-- Passes the rest of a word of which the first letter is passed. -/
def ident : List Char → Reader Unit
  | [] => return ()
  | c :: cs => do
    match ← next with
    | none => fail .eofValue
    | some b => if is b c then ident cs else fail .expectedIdent

/-! ### Numbers -/

/-- A number as the reader takes it. -/
inductive Number where
  | whole (n : Int)
  | fraction (x : Float)
deriving Inhabited

/-- The largest whole number kept exactly. -/
def maxWhole : Nat := (1 <<< 64) - 1

/-- The value of digits and an exponent. -/
def fraction (positive : Bool) (digits : Nat) (exponent : Int) : Reader Number := do
  let x ← go 20 digits.toFloat exponent
  return .fraction (if positive then x else -x)
where
  /-- Scales by powers of ten that a double can hold. -/
  go : Nat → Float → Int → Reader Float
    | 0, x, _ => return x
    | n + 1, x, e =>
      if e.natAbs ≤ 308 then
        let pow := Float.ofScientific 1 false e.natAbs
        if e ≥ 0 then
          let y := x * pow
          if y.isInf then fail .outOfRange else return y
        else return x / pow
      else if x == 0 then return x
      else if e ≥ 0 then fail .outOfRange
      else go n (x / Float.ofScientific 1 false 308) (e + 308)

/-- The digits of an exponent; a huge one ends the number. -/
def exponentDigits (positive zero positiveExp : Bool) :
    Nat → Nat → Reader (Nat ⊕ Number)
  | 0, e => return .inl e
  | n + 1, e => do
    match ← peek with
    | some b =>
      if isDigit b then
        pass
        let e := e * 10 + (b.toNat - 48)
        if e > 2147483647 then
          -- what is too large is refused; zero stays zero, and what is too small becomes zero
          if !zero && positiveExp then fail .outOfRange
          skipWhile isDigit (← left)
          return .inr (.fraction (if positive then 0.0 else -0.0))
        exponentDigits positive zero positiveExp n e
      else return .inl e
    | none => return .inl e

/-- The exponent of a number, from its `e` on. -/
def exponent (positive : Bool) (digits : Nat) (scale : Int) : Reader Number := do
  pass
  let positiveExp ← do
    match ← peek with
    | some b =>
      if is b '+' then do pass; pure true
      else if is b '-' then do pass; pure false
      else pure true
    | none => pure true
  match ← next with
  | none => fail .eofValue
  | some b =>
    if !isDigit b then fail .invalidNumber
    match ← exponentDigits positive (digits == 0) positiveExp (← left) (b.toNat - 48) with
    | .inr n => return n
    | .inl e => fraction positive digits (if positiveExp then scale + e else scale - e)

/-- What ends a number with digits behind the point. -/
def afterDecimal (positive : Bool) (digits : Nat) (scale : Int) : Reader Number := do
  match ← peek with
  | some b =>
    if is b 'e' || is b 'E' then exponent positive digits scale
    else fraction positive digits scale
  | none => fraction positive digits scale

/-- Digits behind the point, as many as are kept. -/
def decimalDigits : Nat → Nat → Int → Reader (Nat × Int)
  | 0, digits, places => return (digits, places)
  | n + 1, digits, places => do
    match ← peek with
    | some b =>
      if isDigit b then
        let more := digits * 10 + (b.toNat - 48)
        if more > maxWhole then
          -- the digits that do not fit are not rounded
          skipWhile isDigit (← left)
          return (digits, places)
        pass
        decimalDigits n more (places - 1)
      else return (digits, places)
    | none => return (digits, places)

/-- The part of a number behind its point. -/
def decimal (positive : Bool) (digits : Nat) (scale : Int) : Reader Number := do
  pass
  match ← peek with
  | none => failNext .eofValue
  | some b =>
    if !isDigit b then failNext .invalidNumber
    let (digits, places) ← decimalDigits (← left) digits 0
    afterDecimal positive digits (scale + places)

/-- What ends a whole number. -/
def afterWhole (positive : Bool) (digits : Nat) : Reader Number := do
  let whole : Number :=
    if positive then .whole digits
    -- minus zero, or below the smallest whole number of 64 bits
    else if digits == 0 || digits > 1 <<< 63 then .fraction (-digits.toFloat)
    else .whole (-digits)
  match ← peek with
  | some b =>
    if is b '.' then decimal positive digits 0
    else if is b 'e' || is b 'E' then exponent positive digits 0
    else return whole
  | none => return whole

/-- The digits of a whole number that are too many to be kept. -/
def longWhole (positive : Bool) (digits : Nat) : Nat → Int → Reader Number
  | 0, places => fraction positive digits places
  | n + 1, places => do
    match ← peek with
    | some b =>
      if isDigit b then
        pass
        longWhole positive digits n (places + 1)
      else if is b '.' then decimal positive digits places
      else if is b 'e' || is b 'E' then exponent positive digits places
      else fraction positive digits places
    | none => fraction positive digits places

/-- The digits of a whole number. -/
def wholeDigits (positive : Bool) : Nat → Nat → Reader Number
  | 0, digits => afterWhole positive digits
  | n + 1, digits => do
    match ← peek with
    | some b =>
      if isDigit b then
        let more := digits * 10 + (b.toNat - 48)
        if more > maxWhole then longWhole positive digits (n + 1) 0
        else
          pass
          wholeDigits positive n more
      else afterWhole positive digits
    | none => afterWhole positive digits

/-- A number after its sign. -/
def number (positive : Bool) : Reader Number := do
  match ← next with
  | none => fail .eofValue
  | some b =>
    if is b '0' then
      match ← peek with
      | some d => if isDigit d then failNext .invalidNumber else afterWhole positive 0
      | none => afterWhole positive 0
    else if isDigit b then wholeDigits positive (← left) (b.toNat - 48)
    else fail .invalidNumber

/-- Passes a number after its sign. -/
def skipNumber : Reader Unit := do
  match ← next with
  | none => fail .invalidNumber
  | some b =>
    if is b '0' then
      match ← peek with
      | some d => if isDigit d then failNext .invalidNumber
      | none => pure ()
    else if isDigit b then skipWhile isDigit (← left)
    else fail .invalidNumber
  if (← peek).any (is · '.') then
    pass
    if !(← peek).any isDigit then failNext .invalidNumber
    skipWhile isDigit (← left)
  if (← peek).any (fun b => is b 'e' || is b 'E') then
    pass
    if (← peek).any (fun b => is b '+' || is b '-') then pass
    match ← next with
    | some b => if !isDigit b then fail .invalidNumber
    | none => fail .invalidNumber
    skipWhile isDigit (← left)

/-! ### Strings -/

/-- The value of a hexadecimal digit. -/
def hexDigit (b : UInt8) : Option Nat :=
  if isDigit b then some (b.toNat - 48)
  else if 97 ≤ b && b ≤ 102 then some (b.toNat - 87)
  else if 65 ≤ b && b ≤ 70 then some (b.toNat - 55)
  else none

/-- Four hexadecimal digits. -/
def hexEscape : Reader Nat := do
  let bytes ← read
  let here ← get
  if here + 4 > bytes.size then
    set bytes.size
    fail .eofString
  set (here + 4)
  let digits := (bytes.extract here (here + 4)).toList.map hexDigit
  match digits with
  | [some a, some b, some c, some d] => return ((a * 16 + b) * 16 + c) * 16 + d
  | _ => fail .invalidEscape

/-- Passes the given byte of the second half of an escaped pair. -/
def expectHalf (c : Char) : Reader Unit := do
  match ← peek with
  | none => fail .eofString
  | some b =>
    pass
    if !is b c then fail .endOfHexEscape

/-- The character of a `\u` escape, which may be written in two halves. -/
def unicodeEscape : Reader Char := do
  let high ← hexEscape
  if 0xdc00 ≤ high && high ≤ 0xdfff then fail .loneSurrogate
  if high < 0xd800 || 0xdbff < high then return Char.ofNat high
  expectHalf '\\'
  expectHalf 'u'
  let low ← hexEscape
  if low < 0xdc00 || 0xdfff < low then fail .loneSurrogate
  return Char.ofNat (0x10000 + (high - 0xd800) * 0x400 + (low - 0xdc00))

/-- An escape after its backslash. -/
def escape : Reader Char := do
  match ← next with
  | none => fail .eofString
  | some b =>
    if is b '"' then return '"'
    else if is b '\\' then return '\\'
    else if is b '/' then return '/'
    else if is b 'b' then return '\x08'
    else if is b 'f' then return '\x0c'
    else if is b 'n' then return '\n'
    else if is b 'r' then return '\r'
    else if is b 't' then return '\t'
    else if is b 'u' then unicodeEscape
    else fail .invalidEscape

/-- Passes an escape after its backslash, of which only the form is looked at. -/
def skipEscape : Reader Unit := do
  match ← next with
  | none => fail .eofString
  | some b =>
    if is b 'u' then
      let _ ← hexEscape
    else if !("\"\\/bfnrt".toList.any (is b)) then fail .invalidEscape

/-- The bytes of a string up to its closing quote, with the place of each in the source. -/
def stringBytes : Nat → Array (UInt8 × Nat) → Reader (Array (UInt8 × Nat))
  | 0, _ => fail .eofString
  | n + 1, acc => do
    match ← peek with
    | none => fail .eofString
    | some b =>
      if is b '"' then
        pass
        return acc
      else if is b '\\' then
        let here ← get
        pass
        let c ← escape
        stringBytes n (c.toString.toUTF8.toList.foldl (fun a x => a.push (x, here)) acc)
      else if b < 32 then
        pass
        fail .controlCharacter
      else
        let here ← get
        pass
        stringBytes n (acc.push (b, here))

/-- How many bytes of well-formed text a run of bytes starts with. -/
def validBytes : Nat → List UInt8 → Nat → Nat
  | 0, _, k => k
  | _ + 1, [], k => k
  | n + 1, b :: bs, k =>
    let tail (lo hi : UInt8) (more : Nat) : Option (List UInt8) :=
      match bs with
      | c :: cs =>
        if lo ≤ c && c ≤ hi && (cs.take more).length == more &&
            (cs.take more).all (fun d => 0x80 ≤ d && d ≤ 0xbf)
        then some (cs.drop more) else none
      | [] => none
    let go (width : Nat) (rest : Option (List UInt8)) : Nat :=
      match rest with
      | some r => validBytes n r (k + width)
      | none => k
    if b < 0x80 then validBytes n bs (k + 1)
    else if 0xc2 ≤ b && b ≤ 0xdf then go 2 (tail 0x80 0xbf 0)
    else if b == 0xe0 then go 3 (tail 0xa0 0xbf 1)
    else if b == 0xed then go 3 (tail 0x80 0x9f 1)
    else if 0xe1 ≤ b && b ≤ 0xef then go 3 (tail 0x80 0xbf 1)
    else if b == 0xf0 then go 4 (tail 0x90 0xbf 2)
    else if 0xf1 ≤ b && b ≤ 0xf3 then go 4 (tail 0x80 0xbf 2)
    else if b == 0xf4 then go 4 (tail 0x80 0x8f 2)
    else k

/-- A string after its opening quote. -/
def string : Reader String := do
  let marked ← stringBytes (← left) #[]
  let bytes : ByteArray := ⟨marked.map (·.1)⟩
  match String.fromUTF8? bytes with
  | some s => return s
  | none =>
    let good := validBytes (bytes.size + 1) bytes.toList 0
    throw ⟨.invalidUnicode, ((marked[good]?).map (·.2 + 1)).getD (← get)⟩

/-- Passes a string after its opening quote. -/
def skipString : Nat → Reader Unit
  | 0 => fail .eofString
  | n + 1 => do
    match ← peek with
    | none => fail .eofString
    | some b =>
      pass
      if is b '"' then return ()
      else if is b '\\' then do skipEscape; skipString n
      else if b < 32 then fail .controlCharacter
      else skipString n

/-! ### Values passed over -/

mutual

/-- Passes a value, and then what encloses it: the brackets that are open, innermost first. -/
def skipFrom : Nat → List Char → Reader Unit
  | 0, _ => failNext .eofValue
  | n + 1, frames => do
    match ← blanks with
    | none => failNext .eofValue
    | some b =>
      if is b '[' then
        pass
        closeFrames n false ('[' :: frames)
      else if is b '\x7b' then
        pass
        closeFrames n false ('\x7b' :: frames)
      else
        if is b 'n' then do pass; ident "ull".toList
        else if is b 't' then do pass; ident "rue".toList
        else if is b 'f' then do pass; ident "alse".toList
        else if is b '-' then do pass; skipNumber
        else if isDigit b then skipNumber
        else if is b '"' then do pass; skipString (← left)
        else failNext .expectedValue
        closeFrames n true frames

/-- Closes brackets as long as they close, and goes on with the next value of the innermost one
that does not. -/
def closeFrames : Nat → Bool → List Char → Reader Unit
  | 0, _, _ => failNext .eofValue
  | _ + 1, _, [] => return ()
  | n + 1, afterValue, frame :: frames => do
    let isList := frame == '['
    match ← blanks with
    | none => failNext (if isList then .eofList else .eofObject)
    | some b =>
      if is b (if isList then ']' else '\x7d') then
        pass
        closeFrames n true frames
      else
        if afterValue then
          if is b ',' then pass
          else failNext (if isList then .expectedListEnd else .expectedObjectEnd)
        if !isList then
          match ← blanks with
          | none => failNext .eofObject
          | some q =>
            if !is q '"' then failNext .keyNotString
            pass
            skipString (← left)
          match ← blanks with
          | none => failNext .eofObject
          | some q =>
            if !is q ':' then failNext .expectedColon
            pass
        skipFrom n (frame :: frames)

end

/-- Passes a value. -/
def skipValue : Reader Unit := do skipFrom (2 * (← left) + 2) []

/-! ### Values of an expected shape -/

/-- How a number is called in a message. -/
def Number.described : Number → String
  | .whole n => "integer `" ++ toString n ++ "`"
  | .fraction x => "floating point `" ++ Decimal.plainText x ++ "`"

/-- Stops because the value that starts with the given byte is of another kind than the one
expected. -/
def wrongType {α : Type} (b : UInt8) (expected : String) : Reader α := do
  if is b 'n' then
    pass
    ident "ull".toList
    fail (.invalidType "null" expected)
  else if is b 't' then
    pass
    ident "rue".toList
    fail (.invalidType "boolean `true`" expected)
  else if is b 'f' then
    pass
    ident "alse".toList
    fail (.invalidType "boolean `false`" expected)
  else if is b '-' then
    pass
    let n ← number false
    fail (.invalidType n.described expected)
  else if isDigit b then
    let n ← number true
    fail (.invalidType n.described expected)
  else if is b '"' then
    pass
    let s ← string
    fail (.invalidType ("string " ++ Text.visible s) expected)
  else if is b '[' then fail (.invalidType "sequence" expected)
  else if is b '\x7b' then fail (.invalidType "map" expected)
  else failNext .expectedValue

/-- A string where one is expected. -/
def stringValue : Reader String := do
  match ← blanks with
  | none => failNext .eofValue
  | some b =>
    if is b '"' then
      pass
      string
    else wrongType b "a string"

/-- The colon behind a key. -/
def colon : Reader Unit := do
  match ← blanks with
  | some b => if is b ':' then pass else failNext .expectedColon
  | none => failNext .eofObject

/-- The next key of an object, if there is one. -/
def nextKey (isFirst : Bool) : Reader (Option String) := do
  match ← blanks with
  | none => failNext .eofObject
  | some b =>
    if is b '\x7d' then return none
    let b ←
      if is b ',' && !isFirst then do
        pass
        match ← blanks with
        | none => failNext .eofValue
        | some c => pure (c, true)
      else if isFirst then pure (b, false)
      else failNext .expectedObjectEnd
    if is b.1 '"' then
      pass
      return some (← string)
    else if is b.1 '\x7d' && b.2 then failNext .trailingComma
    else failNext .keyNotString

/-- Nothing but blanks may follow. -/
def finish : Reader Unit := do
  match ← blanks with
  | some _ => failNext .trailingCharacters
  | none => return ()

/-! ### Values of any shape -/

/-- The text between two places. -/
def textFrom (start : Nat) : Reader String := do
  let bytes ← read
  return (String.fromUTF8? (bytes.extract start (← get))).getD ""

mutual

/-- A value, nested at most as deep as the first number says. -/
def valueAt : Nat → Nat → Reader Value
  | 0, _ => failNext .eofValue
  | n + 1, depth => do
    match ← blanks with
    | none => failNext .eofValue
    | some b =>
      if is b 'n' then
        pass
        ident "ull".toList
        return .null
      else if is b 't' then
        pass
        ident "rue".toList
        return .bool true
      else if is b 'f' then
        pass
        ident "alse".toList
        return .bool false
      else if is b '-' then
        let start ← get
        pass
        let _ ← number false
        return .number (← textFrom start)
      else if isDigit b then
        let start ← get
        let _ ← number true
        return .number (← textFrom start)
      else if is b '"' then
        pass
        return .string (← string)
      else if is b '[' then
        if depth == 0 then failNext .recursion
        pass
        return .array (← items n (depth - 1) true [])
      else if is b '\x7b' then
        if depth == 0 then failNext .recursion
        pass
        return .object (← fields n (depth - 1) true [])
      else failNext .expectedValue

/-- The items of an array up to its closing bracket. -/
def items : Nat → Nat → Bool → List Value → Reader (List Value)
  | 0, _, _, _ => failNext .eofList
  | n + 1, depth, isFirst, acc => do
    match ← blanks with
    | none => failNext .eofList
    | some b =>
      if is b ']' then
        pass
        return acc.reverse
      if !isFirst then
        if !is b ',' then failNext .expectedListEnd
        pass
        match ← blanks with
        | none => failNext .eofValue
        | some c => if is c ']' then failNext .trailingComma
      let v ← valueAt n depth
      items n depth false (v :: acc)

/-- The fields of an object up to its closing brace. -/
def fields : Nat → Nat → Bool → List (String × Value) → Reader (List (String × Value))
  | 0, _, _, _ => failNext .eofObject
  | n + 1, depth, isFirst, acc => do
    match ← nextKey isFirst with
    | none =>
      pass
      return acc.reverse
    | some k =>
      colon
      let v ← valueAt n depth
      fields n depth false ((k, v) :: acc)

end

/-- A value, nested less deep than 128. -/
def value : Reader Value := do valueAt (2 * (← left) + 2) 127

end Reader

namespace Value

/-- The value of a text. -/
def parse? (text : String) : Option Value :=
  let reader : Reader Value := do
    let v ← Reader.value
    Reader.finish
    return v
  match reader text.toUTF8 0 with
  | .ok v _ => some v
  | .error _ _ => none

/-- The value of a field of an object; the last one of a name counts. -/
def field? (v : Value) (name : String) : Option Value :=
  match v with
  | .object fields => fields.reverse.lookup name
  | _ => none

/-- The text of a string. -/
def string? : Value → Option String
  | .string s => some s
  | _ => none

end Value

end Playground.Json
