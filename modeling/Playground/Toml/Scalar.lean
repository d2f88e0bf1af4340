import Playground.Toml.Reader

/-!
# Strings, numbers and times

The four kinds of strings, whole numbers in four bases, floating point numbers, and dates and
times, whose parts must be in range.
-/

namespace Playground.Toml.Reader

/-! ### Strings -/

/-- The complaint about a number outside its range. -/
def outOfRange : String := "value is out of range"

/-- Whether a byte may stand for itself in a basic string. -/
def isBasic (b : UInt8) : Bool :=
  b == 9 || b == 32 || b == 33 || (35 ≤ b && b ≤ 91) || (93 ≤ b && b ≤ 126) || 128 ≤ b

/-- Whether a byte may stand in a literal string. -/
def isLiteral (b : UInt8) : Bool :=
  b == 9 || (32 ≤ b && b ≤ 38) || (40 ≤ b && b ≤ 126) || 128 ≤ b

/-- Whether a byte is a digit. -/
def isDigit (b : UInt8) : Bool := 48 ≤ b && b ≤ 57

/-- The value of a digit of base 16. -/
def digitValue (b : UInt8) : Nat :=
  if b ≤ 57 then b.toNat - 48 else if b ≤ 70 then b.toNat - 55 else b.toNat - 87

/-- Whether a byte is a digit of base 16. -/
def isHexDigit (b : UInt8) : Bool :=
  isDigit b || (65 ≤ b && b ≤ 70) || (97 ≤ b && b ≤ 102)

/-- The number that digits make up. -/
def numberOf (base : Nat) (digits : String) : Nat :=
  digits.toUTF8.toList.foldl (fun n b => n * base + digitValue b) 0

/-- A character given by so many digits of base 16. -/
def hexChar (count : Nat) : Reader String :=
  tryMap (verify (takeUpTo count isHexDigit) (·.length = count)) fun digits =>
    let n := numberOf 16 digits
    if n.isValidChar then .ok (String.singleton (Char.ofNat n)) else .error outOfRange

/-- What may follow a backslash. -/
def escapes : List String :=
  ["\x60b\x60", "\x60f\x60", "\x60n\x60", "\x60r\x60", "\x60t\x60", "\x60u\x60", "\x60U\x60",
    "\x60\\\x60", "\x60\"\x60"]

/-- An escaped character. -/
def escaped : Reader String := do
  char '\\'
  match ← peek with
  | none => fail
  | some b =>
    modify (· + 1)
    if is 'b' b then return "\x08"
    else if is 'f' b then return "\x0c"
    else if is 'n' b then return "\n"
    else if is 'r' b then return "\r"
    else if is 't' b then return "\t"
    else if is 'u' b then label "unicode 4-digit hex code" (final (hexChar 4))
    else if is 'U' b then label "unicode 8-digit hex code" (final (hexChar 8))
    else if is '\\' b then return "\\"
    else if is '"' b then return "\""
    else expecting escapes (label "escape sequence" (final fail))

/-- A string on one line, with escapes. -/
def basicString : Reader String := do
  char '"'
  let parts ← repeated (alt [takeSome isBasic, escaped])
  label "basic string" (final (char '"'))
  return String.join parts

/-- A string on one line, as it stands. -/
def literalString : Reader String :=
  label "literal string" do
    char '\''
    let start ← get
    skipWhile isLiteral (← left)
    let text ← textFrom start
    final (char '\'')
    return text

/-- One or two quotes in front of something. -/
def quotesBefore (quote : Char) (next : Reader Unit) : Reader String := do
  let start ← get
  let two : Reader String := do
    char quote
    char quote
    ahead next
    return String.ofList [quote, quote]
  try two
  catch s =>
    if s.isFinal then throw s
    set start
    char quote
    ahead next
    return String.singleton quote

/-- Anything but a quote. -/
def noneOf (quote : Char) : Reader Unit := do
  let _ ← oneOf (!is quote ·)

/-- Three quotes. -/
def threeQuotes (quote : Char) : Reader Unit := word (String.ofList [quote, quote, quote])

/-- The content of a string over several lines: pieces, and one or two quotes between them or at
the end. -/
def longBody (quote : Char) (piece : Reader String) : Reader String := do
  let first ← repeated piece
  let more ← repeated do
    let quotes ← quotesBefore quote (noneOf quote)
    let p ← piece
    let ps ← repeated piece
    return quotes ++ p ++ String.join ps
  let last ← opt (quotesBefore quote (threeQuotes quote))
  return String.join first ++ String.join more ++ last.getD ""

/-- The end of a line that is taken back by a backslash. -/
def hiddenNewline : Reader Unit := do
  char '\\'
  blanks
  newline
  blanksAndNewlines

/-- A string over several lines, with escapes. -/
def longBasicString : Reader String :=
  label "multiline basic string" do
    threeQuotes '"'
    let _ ← opt newline
    let piece : Reader String := alt
      [takeSome isBasic, do hiddenNewline; return "", escaped, do newline; return "\n"]
    let text ← final (longBody '"' piece)
    final (threeQuotes '"')
    return text

/-- A string over several lines, as it stands. -/
def longLiteralString : Reader String :=
  label "multiline literal string" do
    threeQuotes '\''
    let _ ← opt newline
    let piece : Reader String := alt [takeSome isLiteral, do newline; return "\n"]
    let text ← final (longBody '\'' piece)
    final (threeQuotes '\'')
    return text

/-- A string. -/
def string : Reader String :=
  alt [longBasicString, basicString, longLiteralString, literalString]

/-! ### Whole numbers -/

/-- Digits behind the first one; an underscore stands between two digits. -/
def moreDigits (isDigit : UInt8 → Bool) : Reader Unit := do
  let one : Reader Unit := do let _ ← oneOf isDigit
  let _ ← repeated (alt [one, do char '_'; expecting ["digit"] (final one)])

/-- A sign, if there is one. -/
def sign : Reader Unit := do
  let _ ← opt (oneOf fun b => is '+' b || is '-' b)

/-- The text of a decimal number; more than one digit does not start with a zero. -/
def decimalText : Reader String :=
  label "integer" <| passed do
    sign
    let many : Reader Unit := do
      let _ ← oneOf fun b => 49 ≤ b && b ≤ 57
      moreDigits isDigit
    alt [many, do let _ ← oneOf isDigit]

/-- Digits without underscores. -/
def plainDigits (s : String) : String := String.ofList (s.toList.filter (· ≠ '_'))

/-- The number of a text with a sign, if it fits. -/
def fitting (negative : Bool) (n : Nat) : Except String Int :=
  if negative then
    if n ≤ 1 <<< 63 then .ok (-(n : Int)) else .error "number too small to fit in target type"
  else if n < 1 <<< 63 then .ok n else .error "number too large to fit in target type"

/-- A decimal number. -/
def decimal : Reader Int :=
  final' do
    tryMap decimalText fun s =>
      let digits := String.ofList ((plainDigits s).toList.filter fun c => c ≠ '+' && c ≠ '-')
      fitting (s.startsWith "-") (numberOf 10 digits)
where
  /-- A complaint about the value is final, one about the form is not. -/
  final' (p : Reader Int) : Reader Int := do
    try p catch s => throw { s with isFinal := s.isFinal || s.cause.isSome }

/-- A number in another base, behind its mark. -/
def based (mark name : String) (base : Nat) (isDigit : UInt8 → Bool) : Reader Int :=
  final do
    tryMap (label name do
      word mark
      final (passed do
        let _ ← oneOf isDigit
        moreDigits isDigit)) fun s => fitting false (numberOf base (plainDigits s))

/-- A whole number. -/
def integer : Reader Int :=
  label "integer" do
    if ← sees "0x" then based "0x" "hexadecimal integer" 16 isHexDigit
    else if ← sees "0o" then based "0o" "octal integer" 8 (fun b => 48 ≤ b && b ≤ 55)
    else if ← sees "0b" then based "0b" "binary integer" 2 (fun b => 48 ≤ b && b ≤ 49)
    else decimal

/-! ### Floating point numbers -/

/-- Digits, perhaps with zeros in front. -/
def anyDigits : Reader Unit := do
  let _ ← oneOf isDigit
  moreDigits isDigit

/-- An exponent. -/
def exponent : Reader Unit := do
  let _ ← oneOf fun b => is 'e' b || is 'E' b
  sign
  final anyDigits

/-- The digits behind the point. -/
def fraction : Reader Unit := do
  char '.'
  expecting ["digit"] (final anyDigits)

/-- The text of a floating point number. -/
def floatText : Reader String :=
  passed do
    let _ ← decimalText
    let rest : Reader Unit := do
      fraction
      let _ ← opt exponent
    alt [exponent, rest]

/-- The number of a decimal text. -/
def floatOf (s : String) : Float :=
  let cs := (plainDigits s).toList
  let negative := cs.head? = some '-'
  let cs := if cs.head? = some '-' || cs.head? = some '+' then cs.drop 1 else cs
  let mantissa := cs.takeWhile fun c => c ≠ 'e' && c ≠ 'E'
  let power := cs.drop (mantissa.length + 1)
  let behind := (mantissa.dropWhile (· ≠ '.')).drop 1
  let digits := numberOf 10 (String.ofList (mantissa.filter (· ≠ '.')))
  let powerDigits := numberOf 10 (String.ofList (power.filter fun c => c ≠ '+' && c ≠ '-'))
  let e : Int := if power.head? = some '-' then -(powerDigits : Int) else powerDigits
  let e := max (-100000) (min 100000 (e - behind.length))
  let x := Float.ofScientific digits (e < 0) e.natAbs
  if negative then -x else x

/-- Infinity, or what is not a number. -/
def specialFloat : Reader Float := do
  let minus ← opt (oneOf fun b => is '+' b || is '-' b)
  let x ← alt [do word "inf"; return 1.0 / 0.0, do word "nan"; return 0.0 / 0.0]
  return if minus = some 45 then -x else x

/-- A floating point number; one that is too large is refused. -/
def float : Reader Float :=
  let finite : Reader Float := do
    let start ← get
    let x := floatOf (← floatText)
    if x == 1.0 / 0.0 then
      set start
      final fail
    return x
  label "floating-point number" (alt [finite, specialFloat])

/-! ### Dates and times -/

/-- So many digits, in a range. -/
def ranged (count low high : Nat) : Reader Nat :=
  tryMap (verify (takeUpTo count isDigit) (·.length = count)) fun s =>
    let n := numberOf 10 s
    if low ≤ n && n ≤ high then .ok n else .error outOfRange

/-- The number of days of a month. -/
def daysIn (year month : Nat) : Nat :=
  if month = 2 then
    if year % 4 = 0 && (year % 100 ≠ 0 || year % 400 = 0) then 29 else 28
  else if [4, 6, 9, 11].contains month then 30
  else 31

/-- A date. -/
def date : Reader Unit := do
  let year ← ranged 4 0 9999
  char '-'
  let month ← final (ranged 2 1 12)
  final (char '-')
  let start ← get
  let day ← final (ranged 2 1 31)
  if day > daysIn year month then
    set start
    failFor outOfRange

/-- A time of the day. -/
def time : Reader Unit := do
  let _ ← ranged 2 0 23
  char ':'
  final do
    let _ ← ranged 2 0 59
    char ':'
    let _ ← ranged 2 0 60
    let _ ← opt do
      char '.'
      takeSome isDigit

/-- The distance of a time from the standard one. -/
def timeOffset : Reader Unit :=
  label "time offset" <| alt
    [do let _ ← oneOf fun b => is 'Z' b || is 'z' b,
     do
      let _ ← oneOf fun b => is '+' b || is '-' b
      final do
        let _ ← ranged 2 0 23
        char ':'
        let _ ← ranged 2 0 59]

/-- A date, a time, or both. -/
def datetime : Reader Unit :=
  let dated : Reader Unit := do
    date
    let _ ← opt do
      let _ ← oneOf fun b => is 'T' b || is 't' b || is ' ' b
      time
      opt timeOffset
  alt [label "date-time" dated, label "time" time]

/-- A fraction of a second as it is shown, point included: nine digits at most, and no zeros at the
end. -/
def fractionText (digits : List Char) : List Char :=
  let kept := ((digits.take 9).reverse.dropWhile (· = '0')).reverse
  if kept.isEmpty then [] else '.' :: kept

/-- A date or time as it is shown: with large letters between its parts, and without a minus where
it does not differ from the standard one. -/
def datetimeText (written : String) : String :=
  let cs := written.toList.map fun c =>
    if c = 't' || c = ' ' then 'T' else if c = 'z' then 'Z' else c
  let seconds := cs.takeWhile (· ≠ '.')
  let behind := cs.drop (seconds.length + 1)
  let digits := behind.takeWhile Char.isDigit
  let cs := seconds ++ fractionText digits ++ behind.drop digits.length
  match Text.beforeEnd? "-00:00".toList cs with
  | some front => String.ofList (front ++ "+00:00".toList)
  | none => String.ofList cs

end Playground.Toml.Reader
