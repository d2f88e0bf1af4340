import Playground.Script.Parse.State
import Playground.Script.Surrogate

/-!
# The scanner

Turns characters into tokens.  `Parse.scan` reads the next ordinary token; what looks alike but
means something else in its place (patterns, stretches of templates, text and names of markup) is
read again from the start of the token by its own function.  Loops are bounded by the number of
characters left.
-/

namespace Playground.Script.Parse

/-! ### Comments -/

/-- Whether the text holds one of the words that mark licence terms. -/
def holdsLicence (s : String) : Bool :=
  (s.splitOn "@license").length > 1 || (s.splitOn "@preserve").length > 1

/-- How a comment counts, from its text between the marks. -/
def commentKind (isBlock : Bool) (content : String) : CommentKind :=
  if content.startsWith "!" then .legal
  else if isBlock && content.startsWith "*" && content.any (· != '*') then
    if holdsLicence content then .legal else .documentation
  else
    let s := content.trimAsciiStart.toString
    let marked (word : String) := s.startsWith ("@" ++ word) || s.startsWith ("#" ++ word)
    if marked "__PURE__" then .pure
    else if marked "__NO_SIDE_EFFECTS__" then .pure
    else if s.startsWith "@license" || s.startsWith "@preserve" then .legal
    else if s.startsWith "@vite" || s.startsWith "webpack" || s.startsWith "v8 ignore" ||
        s.startsWith "c8 ignore" || s.startsWith "node:coverage" ||
        s.startsWith "istanbul ignore" then .remark
    else if holdsLicence content then .legal
    else .normal

/-- Adds a comment.  A line comment that follows code on its line belongs to that code. -/
def addComment (start stop : Nat) (isBlock : Bool) (content : String) : Parse Unit :=
  modify fun s =>
    let t := s.trivia
    let kind := commentKind isBlock content
    let comment : Comment :=
      ⟨start, stop, isBlock, "", kind, t.sawNewline, !isBlock, none⟩
    let trailing := !isBlock && !t.sawNewline && !t.leadingOnly
    { s with trivia :=
        { t with
          comments := t.comments.push comment
          settled := if trailing then t.comments.size + 1 else t.settled
          sawNewline := if isBlock then t.sawNewline else true
          sawPure := t.sawPure || kind == .pure } }

/-- Notes the end of a line.  Comments that stand before it on a line with code belong to that
code. -/
def addNewline : Parse Unit :=
  modify fun s =>
    let t := s.trivia
    let open_ := t.settled < t.comments.size
    { s with trivia :=
        { t with
          comments :=
            if open_ then t.comments.modify (t.comments.size - 1) ({ · with newlineAfter := true })
            else t.comments
          settled := if open_ && !t.sawNewline then t.comments.size else t.settled
          sawNewline := true } }

/-- Gives the comments without a place to the token that starts here. -/
def settleComments (start : Nat) (leadingOnly : Bool) : Parse Unit :=
  modify fun s =>
    let t := s.trivia
    let comments :=
      if t.settled < t.comments.size then
        (List.range' t.settled (t.comments.size - t.settled)).foldl
          (fun cs i => cs.modify i ({ · with leads := some start })) t.comments
      else t.comments
    { s with trivia :=
        { t with comments, settled := comments.size, sawNewline := false, leadingOnly } }

/-- Passes the characters that satisfy a test. -/
def passRun (test : Char → Bool) : Nat → Parse Unit
  | 0 => return ()
  | n + 1 => do
    match ← peek with
    | some c =>
      if test c then
        pass
        passRun test n
    | none => return ()

/-- Passes a run of characters that satisfy a test and returns it. -/
def takeRun (test : Char → Bool) : Parse String := do
  let start := (← get).pos
  passRun test (← left)
  slice start (← get).pos

/-- Passes a comment that runs to the end of the line; the marks, of the given width, are still
ahead. -/
def lineComment (marks : Nat) : Parse Unit := do
  let start := (← get).pos
  skip marks
  let content ← takeRun (!isLineEnd ·)
  addComment start (← get).pos false content

/-- Looks for the end of a block comment; answers whether a line ended in it. -/
def blockCommentEnd : Nat → Bool → Parse (Option Bool)
  | 0, _ => return none
  | n + 1, sawLine => do
    match ← peek with
    | none => return none
    | some c =>
      pass
      if c == '*' && (← peek) == some '/' then
        pass
        return some sawLine
      else blockCommentEnd n (sawLine || isLineEnd c)

/-- Passes a block comment; answers whether a line ended in it, or nothing if it does not end. -/
def blockComment : Parse (Option Bool) := do
  let start := (← get).pos
  skip 2
  match ← blockCommentEnd (← left) false with
  | none => return none
  | some sawLine =>
    let stop := (← get).pos
    let content ← slice (start + 2) (stop - 2)
    addComment start stop true content
    return some sawLine

/-! ### Escapes -/

/-- Passes a hexadecimal digit. -/
def hexDigit : Parse (Option Nat) := do
  match ← peek with
  | some c =>
    match hexValue c with
    | some v => pass; return some v
    | none => return none
  | none => return none

/-- Passes a fixed number of hexadecimal digits. -/
def hexDigits : Nat → Nat → Parse (Option Nat)
  | 0, value => return some value
  | n + 1, value => do
    match ← hexDigit with
    | some v => hexDigits n (value * 16 + v)
    | none => return none

/-- Passes hexadecimal digits up to a closing brace. -/
def bracedDigits : Nat → Nat → Parse (Option Nat)
  | 0, _ => return none
  | n + 1, value => do
    match ← hexDigit with
    | some v =>
      let value := value * 16 + v
      if value > 0x10ffff then return none else bracedDigits n value
    | none =>
      if (← peek) == some '\x7d' then
        pass
        return some value
      else return none

/-- The code points a `\u` escape stands for; the `u` is passed already. -/
def unicodeEscape : Parse (Option (List Nat)) := do
  if (← peek) == some '\x7b' then
    pass
    match ← hexDigit with
    | none => return none
    | some v => return (← bracedDigits (← left) v).map ([·])
  else
    match ← hexDigits 4 0 with
    | none => return none
    | some high =>
      let here := (← get).pos
      -- this escape and the next one may be the halves of one character
      if 0xd800 ≤ high && high ≤ 0xdbff && (← charAt here) == some '\\' &&
          (← charAt (here + 1)) == some 'u' then
        skip 2
        match ← hexDigits 4 0 with
        | none => return none
        | some low =>
          if 0xdc00 ≤ low && low ≤ 0xdfff then
            return some [(high - 0xd800) * 0x400 + (low - 0xdc00) + 0x10000]
          else return some [high, low]
      else return some [high]

/-- Passes an escape after its backslash: the text it stands for, nothing if it is invalid. -/
def escape (inTemplate : Bool) (tokenStart : Nat) : Parse (Option String) := do
  match ← peek with
  | none =>
    noteScan .unterminatedString tokenStart
    return some ""
  | some c =>
    pass
    let nextDigit := ((← peek).map Char.isDigit).getD false
    if c == '\r' then
      if (← peek) == some '\n' then pass
      return some ""
    else if isLineEnd c then return some ""
    else if c == 'b' then return some "\x08"
    else if c == 'f' then return some "\x0c"
    else if c == 'n' then return some "\n"
    else if c == 'r' then return some "\r"
    else if c == 't' then return some "\t"
    else if c == 'v' then return some "\x0b"
    else if c == 'x' then
      return (← hexDigits 2 0).map fun v => (Char.ofNat v).toString
    else if c == 'u' then
      return (← unicodeEscape).map fun vs => String.join (vs.map textOfCode)
    else if c == '0' && !nextDigit then return some "\x00"
    -- templates have no octal escapes
    else if inTemplate && c.isDigit then return none
    else if '0' ≤ c && c ≤ '7' then
      -- up to three octal digits with a value below 256
      let digit (c : Char) := c.toNat - '0'.toNat
      let isOctal (c : Char) := '0' ≤ c && c ≤ '7'
      let first := digit c
      match ← peek with
      | some d =>
        if isOctal d then
          pass
          let second := first * 8 + digit d
          match ← peek with
          | some e =>
            if isOctal e && first ≤ 3 then
              pass
              return some (Char.ofNat (second * 8 + digit e)).toString
            else return some (Char.ofNat second).toString
          | none => return some (Char.ofNat second).toString
        else return some (Char.ofNat first).toString
      | none => return some (Char.ofNat first).toString
    else return some c.toString

/-! ### Names -/

/-- Passes an escape in a name, after its backslash. -/
def nameEscape (atStart : Bool) : Parse String := do
  let start := (← get).pos
  match ← peek with
  | some c =>
    pass
    if c != 'u' then
      noteScan .invalidUnicodeEscape start
      return ""
    match ← unicodeEscape with
    | some [v] =>
      if !v.isValidChar then
        noteScan .invalidUnicodeEscape start
        return ""
      let ch := Char.ofNat v
      if (if atStart then isIdentStart ch else isIdentPart ch) then return ch.toString
      else
        noteScan (.invalidCharacter ch) (← get).pos
        return ""
    | _ =>
      noteScan .invalidUnicodeEscape start
      return ""
  | none =>
    noteScan .invalidUnicodeEscape start
    return ""

/-- Passes the rest of a name; answers its text and whether it holds escapes. -/
def nameTail : Nat → String → Bool → Parse (String × Bool)
  | 0, acc, escaped => return (acc, escaped)
  | n + 1, acc, escaped => do
    match ← peek with
    | some c =>
      if isIdentPart c then
        pass
        nameTail n (acc.push c) escaped
      else if c == '\\' then
        pass
        let s ← nameEscape false
        nameTail n (acc ++ s) true
      else return (acc, escaped)
    | none => return (acc, escaped)

/-! ### Numbers -/

/-- Notes that the next character cannot stand here. -/
def noteNext : Parse Unit := do
  let here := (← get).pos
  match ← peek with
  | some c => noteScan (.invalidCharacter c) here
  | none => noteScan .unexpectedEnd here

/-- Passes digits, of which single underscores may separate two. -/
def digitRun (test : Char → Bool) : Nat → Parse Unit
  | 0 => return ()
  | n + 1 => do
    match ← peek with
    | some c =>
      if test c then
        pass
        digitRun test n
      else if c == '_' then
        pass
        match ← peek with
        | some d => if test d then digitRun test n else noteNext
        | none => noteNext
    | none => return ()

/-- A number must not run into a name: the class of the token, given what was read so far. -/
def numberEnd (kind : TokenKind) (text : String) : Parse (TokenKind × String) := do
  match ← peek with
  | some c =>
    if c.isDigit || isIdentStart c then
      let start := (← get).pos
      pass
      let _ ← takeRun isIdentStart
      noteScan .invalidNumberEnd start
      return (.unknown, "Unknown")
    else return (kind, text)
  | none => return (kind, text)

/-- Passes an exponent after its `e`. -/
def exponentPart : Parse (TokenKind × String) := do
  match ← peek with
  | some '+' => pass
  | some '-' => pass
  | _ => pure ()
  match ← peek with
  | some c => if c.isDigit then digitRun Char.isDigit (← left) else noteNext
  | none => noteNext
  numberEnd .number "exponential"

/-- Passes what may follow the point of a number. -/
def fractionPart : Parse (TokenKind × String) := do
  match ← peek with
  | some c => if c.isDigit then digitRun Char.isDigit (← left)
  | none => pure ()
  match ← peek with
  | some c =>
    if c == 'e' || c == 'E' then
      pass
      exponentPart
    else numberEnd .number "float"
  | none => numberEnd .number "float"

/-- Passes the digits after `0x`, `0o` or `0b`. -/
def radixPart (test : Char → Bool) (text : String) : Parse (TokenKind × String) := do
  match ← peek with
  | some _ =>
    pass
    match ← peek with
    | some d => if test d then digitRun test (← left) else noteNext
    | none => noteNext
    if (← peek) == some 'n' then
      pass
      numberEnd .bigInt "bigint"
    else numberEnd .number text
  | none => numberEnd .number text

/-- Passes a number with a leading zero and more digits. -/
def leadingZeroPart : Parse (TokenKind × String) := do
  let digits ← takeRun Char.isDigit
  let isDecimal := digits.any (fun c => c == '8' || c == '9')
  match ← peek with
  | some '.' =>
    if isDecimal then
      pass
      fractionPart
    else numberEnd .number "octal"
  | some 'e' =>
    if isDecimal then
      pass
      exponentPart
    else numberEnd .number "octal"
  | _ => numberEnd .number (if isDecimal then "decimal" else "octal")

/-- Passes a number that starts with a digit. -/
def number (first : Char) : Parse (TokenKind × String) := do
  pass
  if first == '0' then
    match ← peek with
    | some c =>
      if c == 'b' || c == 'B' then radixPart (fun d => d == '0' || d == '1') "binary"
      else if c == 'o' || c == 'O' then radixPart (fun d => '0' ≤ d && d ≤ '7') "octal"
      else if c == 'x' || c == 'X' then radixPart (fun d => (hexValue d).isSome) "hex"
      else if c == 'e' || c == 'E' then
        pass
        exponentPart
      else if c == '.' then
        pass
        fractionPart
      else if c == 'n' then
        pass
        numberEnd .bigInt "bigint"
      else if c.isDigit then leadingZeroPart
      else numberEnd .number "decimal"
    | none => return (.number, "decimal")
  else
    digitRun Char.isDigit (← left)
    match ← peek with
    | some c =>
      if c == '.' then
        pass
        fractionPart
      else if c == 'e' || c == 'E' then
        pass
        exponentPart
      else if c == 'n' then
        pass
        numberEnd .bigInt "bigint"
      else numberEnd .number "decimal"
    | none => return (.number, "decimal")

/-! ### Strings and templates -/

/-- Passes a string up to its closing quote; nothing if it does not close. -/
def stringBody (quote : Char) (tokenStart : Nat) : Nat → String → Parse (Option String)
  | 0, _ => return none
  | n + 1, acc => do
    match ← peek with
    | none => return none
    | some c =>
      if c == quote then
        pass
        return some (settleReplacements (← slice tokenStart (← get).pos) acc)
      else if c == '\n' || c == '\r' then return none
      else if c == '\\' then
        let start := (← get).pos
        pass
        match ← escape false tokenStart with
        | some s => stringBody quote tokenStart n (acc ++ s)
        | none =>
          noteScan .invalidEscape start
          stringBody quote tokenStart n acc
      else
        pass
        stringBody quote tokenStart n (pushChar acc c)

/-- How a stretch of a template ends. -/
inductive StretchEnd where
  | closing | hole | missing
deriving DecidableEq

/-- Passes a stretch of a template; its value is lost once an escape is invalid. -/
def stretch (tokenStart : Nat) : Nat → Option String → Parse (StretchEnd × Option String)
  | 0, acc => return (.missing, acc)
  | n + 1, acc => do
    match ← peek with
    | none => return (.missing, acc)
    | some c =>
      pass
      let soFar : Parse String := do slice tokenStart (← get).pos
      if c == '\x60' then return (.closing, acc.map (settleReplacements (← soFar)))
      else if c == '$' && (← peek) == some '\x7b' then
        pass
        return (.hole, acc.map (settleReplacements (← soFar)))
      else if c == '\\' then
        match ← escape true tokenStart with
        | some s => stretch tokenStart n (acc.map (· ++ s))
        | none => stretch tokenStart n none
      else if c == '\r' then
        if (← peek) == some '\n' then pass
        stretch tokenStart n (acc.map (·.push '\n'))
      else stretch tokenStart n (acc.map (pushChar · c))

/-! ### Tokens -/

/-- Marks of punctuation, longest first, for each first character.  A `>` is always read alone
and joined with what follows where an operator is expected. -/
def marks : Char → List String
  | '=' => ["===", "==", "=>", "="]
  | '!' => ["!==", "!=", "!"]
  | '+' => ["++", "+=", "+"]
  | '-' => ["--", "-=", "-"]
  | '*' => ["**=", "**", "*=", "*"]
  | '%' => ["%=", "%"]
  | '<' => ["<<=", "<<", "<=", "<"]
  | '>' => [">"]
  | '&' => ["&&=", "&&", "&=", "&"]
  | '|' => ["||=", "||", "|=", "|"]
  | '^' => ["^=", "^"]
  | '?' => ["??=", "??", "?.", "?"]
  | '/' => ["/=", "/"]
  | '.' => ["...", "."]
  | '\x7b' => ["\x7b"]
  | '\x7d' => ["\x7d"]
  | '(' => ["("]
  | ')' => [")"]
  | '[' => ["["]
  | ']' => ["]"]
  | ';' => [";"]
  | ',' => [","]
  | ':' => [":"]
  | '~' => ["~"]
  | '@' => ["@"]
  | _ => []

/-- Whether the text goes on with the given ASCII mark. -/
def continuesWith (mark : String) : Parse Bool := do
  let here := (← get).pos
  return (← slice here (here + mark.utf8ByteSize)) == mark

/-- The first of some marks the text goes on with. -/
def firstMark : List String → Parse (Option String)
  | [] => return none
  | m :: ms => do if ← continuesWith m then return some m else firstMark ms

/-- Reads the next token of the ordinary kind, from the current place; `onNewLine` tells whether
a line has ended since the last token. -/
def scanFrom : Nat → Bool → Parse Unit
  | 0, onNewLine => do
    let _ ← begin
    setToken .eof "EOF" onNewLine false "" none
  | n + 1, onNewLine => do
    let start ← begin
    match ← peek with
    | none => setToken .eof "EOF" onNewLine false "" none
    | some c =>
      if c == ' ' || c == '\t' then
        pass
        scanFrom n onNewLine
      else if isLineEnd c then
        pass
        addNewline
        scanFrom n true
      else if isRareBlank c then
        pass
        scanFrom n onNewLine
      else if c == '/' && (← charAt (start + 1)) == some '/' then
        lineComment 2
        scanFrom n onNewLine
      else if c == '/' && (← charAt (start + 1)) == some '*' then
        match ← blockComment with
        | some sawLine => scanFrom n (onNewLine || sawLine)
        | none =>
          noteScan .unterminatedComment start
          setToken .eof "EOF" onNewLine false "" none
      else if isIdentStart c || c == '\\' then
        let (name, escaped) ←
          if c == '\\' then do
            pass
            let s ← nameEscape true
            nameTail (← left) s true
          else nameTail (← left) "" false
        if isKeyword name then setToken .word name onNewLine escaped name none
        else setToken .ident "Identifier" onNewLine escaped name none
      else if c.isDigit then
        let (kind, text) ← number c
        setToken kind text onNewLine false (← slice start (← get).pos) none
      else if c == '\x22' || c == '\x27' then
        pass
        match ← stringBody c start (← left) "" with
        | some value => setToken .string "string" onNewLine false value none
        | none =>
          noteScan .unterminatedString start
          setToken .unknown "Unknown" onNewLine false "" none
      else if c == '\x60' then
        pass
        match ← stretch start (← left) (some "") with
        | (.closing, cooked) =>
          setToken .template "no substitution template" onNewLine false "" cooked
        | (.hole, cooked) =>
          setToken .templateHead "template head" onNewLine false "" cooked
        | (.missing, _) =>
          noteScan .unterminatedString start
          setToken .unknown "Unknown" onNewLine false "" none
      else if c == '#' then
        pass
        match ← peek with
        | some d =>
          if isIdentStart d then
            let (name, escaped) ← nameTail (← left) "" false
            setToken .privateIdent "#identifier" onNewLine escaped name none
          else if d == '\\' then
            pass
            let s ← nameEscape true
            let (name, _) ← nameTail (← left) s true
            setToken .privateIdent "#identifier" onNewLine true name none
          else
            pass
            noteScan (.invalidCharacter d) (start + 1)
            setToken .unknown "Unknown" onNewLine false "" none
        | none =>
          noteScan .unexpectedEnd (start + 1)
          setToken .unknown "Unknown" onNewLine false "" none
      else if c == '.' && ((← charAt (start + 1)).map Char.isDigit).getD false then
        pass
        let (kind, text) ← fractionPart
        setToken kind text onNewLine false (← slice start (← get).pos) none
      else if c == '<' && (← continuesWith "<!--") then
        if (← dialect).goal == .module then
          noteScan .htmlComment start
        lineComment 4
        scanFrom n onNewLine
      else if c == '-' && onNewLine && (← dialect).goal != .module &&
          (← continuesWith "-->") then
        lineComment 3
        scanFrom n onNewLine
      else
        match ← firstMark (marks c) with
        | some mark =>
          let mark ←
            if mark == "?." && ((← charAt (start + 2)).map Char.isDigit).getD false then pure "?"
            else pure mark
          skip mark.length
          setToken .punct mark onNewLine false mark none
        | none =>
          pass
          noteScan (.invalidCharacter c) start
          setToken .unknown "Unknown" onNewLine false "" none

/-- Reads the next token. -/
def scan : Parse Unit := do
  modify fun s => { s with trivia := { s.trivia with sawPure := false } }
  scanFrom (← left) ((← get).pos == 0)
  let t ← token
  settleComments t.start (t.isText "=" || t.isText "(")

/-- Takes the current token and reads the next. -/
def bump : Parse Unit := do
  take
  scan

/-! ### Tokens that depend on their place -/

/-- Reads the current `<<` or `<<=` again as a single `<`. -/
def splitLeftAngle : Parse Unit := do
  let t ← token
  if t.isText "<<" || t.isText "<<=" then
    rewind
    pass
    setToken .punct "<" t.onNewLine false "<" none

/-- Joins the current `>` with the marks right behind it into an operator. -/
def joinRightAngle : Parse Unit := do
  let t ← token
  if t.isText ">" then
    rewind
    let mark := (← firstMark [">>>=", ">>>", ">>=", ">>", ">=", ">"]).getD ">"
    skip mark.length
    setToken .punct mark t.onNewLine false mark none

/-- Goes back to a single `>`. -/
def splitRightAngle : Parse Unit := do
  let t ← token
  if t.kind == .punct && t.text.startsWith ">" && t.text != ">" then
    rewind
    pass
    setToken .punct ">" t.onNewLine false ">" none

/-- The end of a pattern's body; nothing if it does not close on its line. -/
def patternEnd : Nat → Bool → Bool → Parse (Option Nat)
  | 0, _, _ => return none
  | n + 1, escaped, inClass => do
    let here := (← get).pos
    match ← peek with
    | none => return none
    | some c =>
      pass
      if isLineEnd c then return none
      else if escaped then patternEnd n false inClass
      else if c == '/' && !inClass then return some here
      else patternEnd n (c == '\\') (if c == '[' then true else if c == ']' then false else inClass)

/-- Passes the flags of a pattern, each allowed once. -/
def patternFlags : Nat → String → Parse String
  | 0, acc => return acc
  | n + 1, acc => do
    let here := (← get).pos
    match ← peek with
    | some c =>
      if isAsciiWord c then
        pass
        if !("dgimsuvy".contains c) then
          noteScan (.unknownFlag c) here
          patternFlags n acc
        else if acc.contains c then
          noteScan (.repeatedFlag c) here
          patternFlags n acc
        else patternFlags n (acc.push c)
      else return acc
    | none => return acc

/-- Reads the current `/` or `/=` again as a pattern; answers its body and flags. -/
def scanPattern : Parse (String × String) := do
  let t ← token
  rewind
  pass
  match ← patternEnd (← left) false false with
  | none =>
    noteScan .unterminatedPattern t.start
    setToken .regex "/regexp/" t.onNewLine false "" none
    return ("", "")
  | some stop =>
    let flags ← patternFlags (← left) ""
    setToken .regex "/regexp/" t.onNewLine false "" none
    return (← slice (t.start + 1) stop, flags)

/-- Reads the stretch of a template after a hole, from the current closing brace. -/
def scanStretch : Parse Unit := do
  let t ← token
  rewind
  pass
  match ← stretch t.start (← left) (some "") with
  | (.closing, cooked) =>
    setToken .templateTail "template tail" t.onNewLine false "" cooked
  | (.hole, cooked) =>
    setToken .templateMiddle "template middle" t.onNewLine false "" cooked
  | (.missing, _) =>
    noteScan .unterminatedString t.start
    setToken .unknown "Unknown" t.onNewLine false "" none

/-- Passes the text of markup; answers the mark it ended at, if it did so before the source. -/
def markupText : Nat → Parse (Option Char)
  | 0 => return none
  | n + 1 => do
    match ← peek with
    | none => return none
    | some c =>
      if c == '<' || c == '\x7b' || c == '>' || c == '\x7d' then return some c
      pass
      markupText n

/-- Reads a token inside the children of markup: text, a `<` or an opening brace. -/
def scanMarkupChild : Parse Unit := do
  take
  let start ← begin
  match ← peek with
  | none => setToken .eof "EOF" false false "" none
  | some c =>
    if c == '<' then
      pass
      setToken .punct "<" false false "<" none
    else if c == '\x7b' then
      pass
      setToken .punct "\x7b" false false "\x7b" none
    else
      match ← markupText (← left) with
      | none => setToken .eof "EOF" false false "" none
      | some d =>
        if d == '<' || d == '\x7b' then
          setToken .markupText "jsx" false false (← slice start (← get).pos) none
        else
          let entity := if d == '\x7d' then "rbrace" else "gt"
          noteScan (.strayMarkupText d.toString entity) (← get).pos
          setToken .unknown "Unknown" false false "" none

/-- Lets the current name run on over hyphens, as names in markup may. -/
def extendMarkupName : Parse Unit := do
  let t ← token
  resume
  let more ← takeRun (fun c => c == '-' || isIdentPart c)
  setToken t.kind t.text t.onNewLine t.escaped (t.value ++ more) none

/-- The rest of a quoted attribute value, which has no escapes. -/
def quotedValue (quote : Char) : Nat → String → Parse (Option String)
  | 0, _ => return none
  | n + 1, acc => do
    match ← peek with
    | none => return none
    | some c =>
      pass
      if c == quote then return some acc else quotedValue quote n (acc.push c)

/-- Takes the current `=` and reads the value of an attribute. -/
def scanMarkupValue : Parse Unit := do
  take
  let start ← begin
  match ← peek with
  | some c =>
    if c == '\x22' || c == '\x27' then
      pass
      match ← quotedValue c (← left) "" with
      | some value => setToken .string "string" false false value none
      | none =>
        noteScan .unterminatedString start
        setToken .unknown "Unknown" false false "" none
    else scan
  | none => scan

end Playground.Script.Parse
