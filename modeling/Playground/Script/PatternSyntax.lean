import Playground.Script.Letter
import Playground.Script.Surrogate
import Playground.Unicode.Property

/-!
# The syntax of patterns

The pattern of a regular expression literal is a text of its own.  `Pattern.read` checks it and
says which newer forms it uses: named groups, looking behind, and classes of Unicode properties.

A pattern is read twice.  `Pattern.survey` finds its groups, since an escape may refer to a group
that comes later.  There a name is the text that is written.  Then the terms are read.  In Unicode
mode more is refused, since there a sign that has a meaning may not stand alone; without it a
pattern is a row of halves of pairs.

Between `\p{` and `}` a pattern may have the names of general categories, of flags and of scripts,
exactly as the language lists them.
-/

namespace Playground.Script

/-- What is wrong with a pattern. -/
inductive PatternProblem where
  | unterminated (form : String)
  | loneQuantifier (wanted : String)
  | braced
  | bracesOutOfOrder
  | rangeOutOfOrder
  | rangeOfClass
  | classAtom
  | groupName
  | repeatedName
  | indexedReference
  | namedReference
  | property (name : String)
  | unicodeEscape
  | surrogatePair
  | repeatedModifier
  | modifiers
  | unknownModifiers
  | numberTooLarge (digits : String)
  | incomplete
deriving DecidableEq, Inhabited, Repr

/-- The wording of a problem. -/
def PatternProblem.message : PatternProblem → String
  | unterminated form => "Unterminated " ++ form
  | loneQuantifier wanted => "Lone quantifier found, expected with \x60" ++ wanted ++ "\x60"
  | braced => "Invalid braced quantifier"
  | bracesOutOfOrder => "Numbers out of order in braced quantifier"
  | rangeOutOfOrder => "Character class atom range out of order"
  | rangeOfClass => "Character class range with invalid atom"
  | classAtom => "Invalid class atom"
  | groupName => "Group specifier is empty"
  | repeatedName => "Duplicated capturing group names"
  | indexedReference => "Invalid indexed reference"
  | namedReference => "Invalid named reference"
  | property name => "Invalid unicode property \x60" ++ name ++ "\x60"
  | unicodeEscape => "Invalid unicode escape sequence"
  | surrogatePair => "Invalid surrogate pair"
  | repeatedModifier => "Duplicated modifier"
  | modifiers => "Invalid modifiers"
  | unknownModifiers => "Unknown modifiers"
  | numberTooLarge digits => "Number is too large in " ++ digits ++ " digits"
  | incomplete => "Could not parse the entire pattern"

namespace Pattern

/-- A problem and the byte of the pattern it is found at. -/
structure Located where
  problem : PatternProblem
  offset : Nat
deriving DecidableEq, Inhabited, Repr

/-! ### Names of properties -/

/-- Whether a name is one of a general category. -/
def isCategory (name : String) : Bool :=
  name = "Surrogate" || name = "Cs" || (Unicode.category? (· == name)).isSome

/-- Whether a name is one of a script. -/
def isScript (name : String) : Bool := (Unicode.script? (· == name)).isSome

/-- The properties that a character has or has not. -/
def flagNames : List String :=
  ["ASCII", "ASCII_Hex_Digit", "AHex", "Alphabetic", "Alpha", "Any", "Assigned", "Bidi_Control",
   "Bidi_C", "Bidi_Mirrored", "Bidi_M", "Case_Ignorable", "CI", "Cased", "Changes_When_Casefolded",
   "CWCF", "Changes_When_Casemapped", "CWCM", "Changes_When_Lowercased", "CWL",
   "Changes_When_NFKC_Casefolded", "CWKCF", "Changes_When_Titlecased", "CWT",
   "Changes_When_Uppercased", "CWU", "Dash", "Default_Ignorable_Code_Point", "DI", "Deprecated",
   "Dep", "Diacritic", "Dia", "Emoji", "Emoji_Component", "EComp", "Emoji_Modifier", "EMod",
   "Emoji_Modifier_Base", "EBase", "Emoji_Presentation", "EPres", "Extended_Pictographic",
   "ExtPict", "Extender", "Ext", "Grapheme_Base", "Gr_Base", "Grapheme_Extend", "Gr_Ext",
   "Hex_Digit", "Hex", "IDS_Binary_Operator", "IDSB", "IDS_Trinary_Operator", "IDST",
   "ID_Continue", "IDC", "ID_Start", "IDS", "Ideographic", "Ideo", "Join_Control", "Join_C",
   "Logical_Order_Exception", "LOE", "Lowercase", "Lower", "Math", "Noncharacter_Code_Point",
   "NChar", "Pattern_Syntax", "Pat_Syn", "Pattern_White_Space", "Pat_WS", "Quotation_Mark",
   "QMark", "Radical", "Regional_Indicator", "RI", "Sentence_Terminal", "STerm", "Soft_Dotted",
   "SD", "Terminal_Punctuation", "Term", "Unified_Ideograph", "UIdeo", "Uppercase", "Upper",
   "Variation_Selector", "VS", "White_Space", "space", "XID_Continue", "XIDC", "XID_Start",
   "XIDS"]

/-- Whether a name stands for a property alone. -/
def isLoneProperty (name : String) : Bool := isCategory name || flagNames.contains name

/-- Whether a property has a value, both by their names. -/
def isPropertyValue (name value : String) : Bool :=
  match name with
  | "General_Category" | "gc" => isCategory value
  | "Script" | "sc" | "Script_Extensions" | "scx" => isScript value
  | _ => false

/-! ### The signs of a pattern -/

/-- A code point or half of a pair, and the byte of the pattern it is at. -/
structure Sign where
  code : Nat
  offset : Nat
deriving DecidableEq, Inhabited, Repr

/-- Whether a sign is a character. -/
def Sign.is (s : Sign) (c : Char) : Bool := s.code = c.toNat

/-- The signs of a pattern from a byte on.  Without Unicode mode a character may be two of them. -/
def signs (unicode : Bool) : Nat → List Char → List Sign
  | _, [] => []
  | offset, c :: rest =>
    let behind := signs unicode (offset + c.utf8Size) rest
    let n := c.toNat
    if unicode || n < 0x10000 then ⟨n, offset⟩ :: behind
    else
      ⟨0xd800 + (n - 0x10000) / 0x400, offset⟩ :: ⟨0xdc00 + (n - 0x10000) % 0x400, offset⟩
        :: behind

/-- Whether a text stands at the start of some signs. -/
def standsAt (text : String) (signs : List Sign) : Bool :=
  text.toList.map Char.toNat == (signs.take text.length).map (·.code)

/-- The code point of two halves of a pair. -/
def ofHalves (high low : Nat) : Nat := 0x10000 + (high - 0xd800) * 0x400 + (low - 0xdc00)

/-- The text of some signs. -/
def textOf : List Sign → String
  | [] => ""
  | s :: t :: rest =>
    if isHighHalf s.code && isLowHalf t.code then
      String.singleton (Char.ofNat (ofHalves s.code t.code)) ++ textOf rest
    else String.singleton (Char.ofNat s.code) ++ textOf (t :: rest)
  | [s] => String.singleton (Char.ofNat s.code)

/-! ### The groups of a pattern -/

/-- A choice that a place is in: its number, and the number of the alternative. -/
structure Branch where
  choice : Nat
  alternative : Nat
deriving DecidableEq, Inhabited, Repr

/-- A named group: its name as it is written, where that stands, and the alternatives that the
group is in, innermost first. -/
structure NamedGroup where
  name : String
  offset : Nat
  branches : List Branch
deriving Inhabited, Repr

/-- Whether at most one of two groups can take part: they are in different alternatives. -/
def NamedGroup.excludes (g h : NamedGroup) : Bool :=
  g.branches.any fun b =>
    h.branches.any fun b' => b.choice = b'.choice && b.alternative ≠ b'.alternative

/-- The groups that a pattern has. -/
structure Groups where
  count : Nat := 0
  named : List NamedGroup := []
deriving Inhabited, Repr

/-- Where the survey is: the groups so far, latest first; the alternatives it is in; the number of
the next choice; whether a class is open, and whether a backslash stands in front. -/
structure Survey where
  groups : Groups := {}
  branches : List Branch := [⟨0, 0⟩]
  nextChoice : Nat := 1
  inClass : Bool := false
  escaped : Bool := false

/-- The survey behind a parenthesis that opens a group, given what comes next. -/
def Survey.opened (s : Survey) (behind : List Sign) : Survey :=
  let inner := { s with
    branches := ⟨s.nextChoice, 0⟩ :: s.branches
    nextChoice := s.nextChoice + 1 }
  let isNamed := standsAt "?<" behind && !standsAt "?<=" behind && !standsAt "?<!" behind
  if standsAt "?" behind && !isNamed || standsAt "?<=" behind || standsAt "?<!" behind then inner
  else
    let name := (behind.drop 2).takeWhile fun t => !t.is '>'
    let isClosed := (behind.drop (2 + name.length)).head?.any (·.is '>')
    let offset := ((behind.drop 2).head?.map (·.offset)).getD 0
    let named :=
      if isNamed && isClosed then ⟨textOf name, offset, s.branches⟩ :: s.groups.named
      else s.groups.named
    { inner with groups := ⟨s.groups.count + 1, named⟩ }

/-- Goes over a pattern. -/
def surveyFrom : List Sign → Survey → Survey
  | [], s => s
  | t :: rest, s =>
    surveyFrom rest <|
      if s.escaped then { s with escaped := false }
      else if t.is '\\' then { s with escaped := true }
      else if t.is '[' then { s with inClass := true }
      else if t.is ']' then { s with inClass := false }
      else if s.inClass then s
      else if t.is '(' then s.opened rest
      else if t.is '|' then
        match s.branches with
        | b :: outer => { s with branches := ⟨b.choice, b.alternative + 1⟩ :: outer }
        | [] => s
      else if t.is ')' then
        match s.branches with
        | _ :: b :: outer => { s with branches := b :: outer }
        | _ => s
      else s

/-- The groups of a pattern in order; refused if two that can both take part have the same name. -/
def survey (pattern : List Sign) : Except Located Groups :=
  let found := (surveyFrom pattern {}).groups
  let named := found.named.reverse
  let repeated (later : List NamedGroup) (g : NamedGroup) : Bool :=
    later.any fun h => h.name = g.name && !g.excludes h
  match named.zipIdx.find? fun (g, i) => repeated (named.drop (i + 1)) g with
  | some (g, _) => .error ⟨.repeatedName, g.offset⟩
  | none => .ok ⟨found.count, named⟩

/-! ### Reading -/

/-- What holds for all of a pattern. -/
structure Mode where
  unicode : Bool
  groups : Groups
  /-- the byte behind the pattern -/
  stop : Nat

/-- Whether escapes may refer to names. -/
def Mode.hasNames (m : Mode) : Bool := m.unicode || !m.groups.named.isEmpty

/-- What is left of a pattern, and whether it uses a newer form so far. -/
structure Reading where
  rest : List Sign
  usesNewForms : Bool := false
deriving Inhabited

/-- The monad of reading a pattern. -/
abbrev Read := ReaderT Mode (StateT Reading (Except Located))

namespace Read

/-- The next sign. -/
def peek : Read (Option Nat) := return (← get).rest.head?.map (·.code)

/-- Whether the next sign is a character. -/
def isNext (c : Char) : Read Bool := return (← peek) == some c.toNat

/-- The byte the reader is at. -/
def offset : Read Nat := do
  return ((← get).rest.head?.map (·.offset)).getD (← read).stop

/-- Goes on by some signs. -/
def skip (n : Nat) : Read Unit := modify fun s => { s with rest := s.rest.drop n }

/-- Goes on if the text comes next. -/
def eat (text : String) : Read Bool := do
  if standsAt text (← get).rest then
    skip text.length
    return true
  return false

/-- Refuses the pattern. -/
def refuse {α : Type} (problem : PatternProblem) (offset : Nat) : Read α :=
  throw ⟨problem, offset⟩

/-- Notes a newer form. -/
def noteNew : Read Unit := modify fun s => { s with usesNewForms := true }

/-- Reads; if there is nothing the reader stays where it is. -/
def attempt {α : Type} (r : Read (Option α)) : Read (Option α) := do
  let before ← get
  match ← r with
  | some a => return some a
  | none =>
    modify fun s => { s with rest := before.rest }
    return none

/-- Reads signs while they belong to a class. -/
def takeWhile (p : Nat → Bool) : Read (List Sign) := do
  let cs := (← get).rest.takeWhile fun s => p s.code
  skip cs.length
  return cs

/-! ### Numbers -/

/-- The value of a digit of a base. -/
def digitValue? (base n : Nat) : Option Nat :=
  (if n < 128 then hexValue (Char.ofNat n) else none).bind fun d =>
    if d < base then some d else none

/-- The number that digits of a base write. -/
def number (base : Nat) (digits : List Sign) : Nat :=
  digits.foldl (fun n s => n * base + (digitValue? base s.code).getD 0) 0

/-- Reads the digits of a number; nothing if there are none. -/
def digits (base : Nat) (kind : String) : Read (Option Nat) := do
  let start ← offset
  let ds ← takeWhile fun n => (digitValue? base n).isSome
  if ds.isEmpty then return none
  let n := number base ds
  if 0xffffffffffffffff < n then refuse (.numberTooLarge kind) start
  return some n

/-- Reads a decimal number. -/
def decimal : Read (Option Nat) := digits 10 "decimal"

/-- Reads a fixed number of hexadecimal digits. -/
def fixedHex (length : Nat) : Read (Option Nat) := do
  let ds := (← get).rest.take length
  if ds.length = length && ds.all fun s => (digitValue? 16 s.code).isSome then
    skip length
    return some (number 16 ds)
  return none

/-! ### Quantifiers -/

/-- A quantifier in braces. -/
def braces : Read (Option Unit) := attempt do
  let start ← offset
  if !(← eat "\x7b") then return none
  let some low ← decimal | return none
  if ← eat "\x7d" then return some ()
  if !(← eat ",") then return none
  if ← eat "\x7d" then return some ()
  let some high ← decimal | return none
  if !(← eat "\x7d") then return none
  if high < low then refuse .bracesOutOfOrder start
  return some ()

/-- A quantifier, if one comes next. -/
def quantifier : Read Bool := do
  let plain ← (do
    if ← eat "*" then return true
    if ← eat "+" then return true
    eat "?")
  let found ← if plain then pure true else pure (← braces).isSome
  if found then discard (eat "?")
  return found

/-! ### Escapes -/

/-- A code point between braces. -/
def bracedCode : Read (Option Nat) := attempt do
  if !(← eat "\x7b") then return none
  let some n ← digits 16 "hex" | return none
  if 0x10ffff < n || !(← eat "\x7d") then return none
  return some n

/-- The code point behind `\u`, given whether pairs and braces may be used. -/
def unicodeEscape (unicode : Bool) : Read (Option Nat) := attempt do
  if !(← eat "u") then return none
  match ← fixedHex 4 with
  | some high =>
    let low ←
      if unicode && isHighHalf high then
        attempt do
          if !(← eat "\\u") then return none
          return (← fixedHex 4).filter isLowHalf
      else pure none
    return some (match low with
      | some low => ofHalves high low
      | none => high)
  | none => if unicode then bracedCode else return none

/-- A number in base 8, as older programs write characters. -/
def octal : Read (Option Nat) := do
  match (← get).rest.map fun s => digitValue? 8 s.code with
  | some a :: some b :: some c :: _ =>
    if a < 4 then
      skip 3
      return some ((a * 8 + b) * 8 + c)
    skip 2
    return some (a * 8 + b)
  | some a :: some b :: _ =>
    skip 2
    return some (a * 8 + b)
  | some a :: _ =>
    skip 1
    return some a
  | _ => return none

/-- Signs that have a meaning. -/
def isSyntax (n : Nat) : Bool := "^$\\.*+?()[]\x7b\x7d|".toList.any fun c => c.toNat = n

/-- Whether a sign stands for itself behind a backslash. -/
def isSelf (mode : Mode) (n : Nat) : Bool :=
  if mode.unicode then isSyntax n || n = '/'.toNat
  else n ≠ 'c'.toNat && !(mode.hasNames && n = 'k'.toNat)

/-- The character of a letter behind a backslash. -/
def control? (n : Nat) : Option Nat :=
  if n = 'f'.toNat then some 12
  else if n = 'n'.toNat then some 10
  else if n = 'r'.toNat then some 13
  else if n = 't'.toNat then some 9
  else if n = 'v'.toNat then some 11
  else none

/-- Whether a sign is an ASCII letter. -/
def isLetter (n : Nat) : Bool := n < 128 && (Char.ofNat n).isAlpha

/-- Whether a sign is a decimal digit. -/
def isDigit (n : Nat) : Bool := (digitValue? 10 n).isSome

/-- A character by its escape, behind the backslash. -/
def characterEscape : Read (Option Nat) := do
  let mode ← read
  let some n ← peek | return none
  let next := (← get).rest.tail.head?.map (·.code)
  if let some c := control? n then
    skip 1
    return some c
  if n = 'c'.toNat then
    match next.filter isLetter with
    | some l =>
      skip 2
      return some (l % 32)
    | none => return none
  if n = '0'.toNat && !next.any isDigit then
    skip 1
    return some 0
  let hex ← attempt do
    if ← eat "x" then fixedHex 2 else return none
  if hex.isSome then return hex
  let code ← unicodeEscape mode.unicode
  if code.isSome then return code
  if !mode.unicode then
    let old ← octal
    if old.isSome then return old
  if isSelf mode n then
    skip 1
    return some n
  return none

/-- The name of a property, between braces. -/
def property : Read (Option Unit) := attempt do
  if !(← read).unicode then return none
  let start ← offset
  let isPlain ← eat "p\x7b"
  let isNegated ← if isPlain then pure false else eat "P\x7b"
  if !isPlain && !isNegated then return none
  let isWord (n : Nat) : Bool := n < 128 && ((Char.ofNat n).isAlphanum || n = '_'.toNat)
  let nameStart ← offset
  let name ← takeWhile isWord
  let unclosed {α : Type} : Read α := refuse (.unterminated "unicode property escape") (start - 1)
  if name.isEmpty then unclosed
  if ← eat "=" then
    let value ← takeWhile isWord
    if value.isEmpty then unclosed
    if !isPropertyValue (textOf name) (textOf value) then
      refuse (.property "name and/or value") nameStart
  else if !isLoneProperty (textOf name) then refuse (.property (textOf name)) nameStart
  if !(← eat "\x7d") then unclosed
  noteNew
  return some ()

/-- A class of characters by its escape, behind the backslash. -/
def classEscape : Read (Option Unit) := do
  for letter in ["d", "D", "s", "S", "w", "W"] do
    if ← eat letter then return some ()
  property

/-! ### Names -/

/-- One character of the name of a group, of those that satisfy a test. -/
def nameCharacter (test : Char → Bool) : Read (Option Char) := do
  let some n ← peek | return none
  let start ← offset
  let good? (n : Nat) : Option Char :=
    if 0xd800 ≤ n && n ≤ 0xdfff then none else some (Char.ofNat n) |>.filter test
  if let some c := good? n then
    skip 1
    return some c
  if n = '\\'.toNat then
    skip 1
    match ← unicodeEscape true with
    | some m =>
      let some c := good? m | refuse .unicodeEscape start
      return some c
    | none => return none
  if isHighHalf n then
    match (← get).rest.tail.head?.map (·.code) |>.filter isLowHalf with
    | some low =>
      let some c := good? (ofHalves n low) | refuse .surrogatePair start
      skip 2
      return some c
    | none => return none
  return none

/-- The rest of the name of a group. -/
def nameRest : Nat → Read (List Char)
  | 0 => return []
  | k + 1 => do
    match ← nameCharacter isIdentPart with
    | some c => return c :: (← nameRest k)
    | none => return []

/-- The name of a group between angle brackets, escapes read. -/
def groupName : Read (Option String) := do
  let start ← offset
  if !(← eat "<") then return none
  match ← nameCharacter isIdentStart with
  | some c =>
    let name := String.ofList (c :: (← nameRest ((← get).rest.length)))
    if ← eat ">" then return some name
  | none => pure ()
  refuse (.unterminated "capturing group name") start

/-! ### Classes -/

/-- One member of a character class: a character, or a class of them. -/
def classAtom : Read (Option (Option Nat)) := do
  let mode ← read
  let start ← offset
  let some n ← peek | return none
  if n = ']'.toNat then return none
  skip 1
  if n ≠ '\\'.toNat then return some (some n)
  if ← eat "b" then return some (some 8)
  if mode.unicode then
    if ← eat "-" then return some (some '-'.toNat)
  let next := (← get).rest.tail.head?.map (·.code)
  if !mode.unicode && (← isNext 'c') then
    match next.filter fun l => isDigit l || l = '_'.toNat with
    | some l =>
      skip 2
      return some (some (l % 32))
    | none => pure ()
  if (← classEscape).isSome then return some none
  match ← characterEscape with
  | some c => return some (some c)
  | none =>
    if !mode.unicode && (← isNext 'c') then return some (some n)
    refuse .classAtom start

/-- The members of a character class, behind its opening bracket. -/
def classMembers : Nat → Read Unit
  | 0 => return
  | k + 1 => do
    let start ← offset
    let some low ← classAtom | return
    let dash ← offset
    if !(← eat "-") then return ← classMembers k
    let some high ← classAtom | return
    match low, high with
    | some a, some b => if b < a then refuse .rangeOutOfOrder dash
    | _, _ => if (← read).unicode then refuse .rangeOfClass start
    classMembers k

/-- A character class, if one comes next. -/
def characterClass : Read Bool := do
  let start ← offset
  if !(← eat "[") then return false
  discard (eat "^")
  classMembers ((← get).rest.length + 1)
  if !(← eat "]") then refuse (.unterminated "character class") start
  return true

/-! ### Terms -/

/-- What stands behind the backslash of an escape outside of classes. -/
def atomEscape (start : Nat) : Read Bool := do
  let mode ← read
  let index ← attempt do
    match ← decimal with
    | some 0 | none => return none
    | some n =>
      if n ≤ mode.groups.count then return some ()
      if mode.unicode then refuse .indexedReference start
      return none
  if index.isSome then return true
  if (← classEscape).isSome then return true
  if (← characterEscape).isSome then return true
  if mode.hasNames then
    if ← eat "k" then
      match ← groupName with
      | some name =>
        if mode.groups.named.any fun g => g.name = name then return true
        refuse .namedReference start
      | none => refuse .namedReference start
  return false

/-- The modifiers of a group, behind `(?`. -/
def modifiers : Read Unit := do
  let start ← offset
  let isEnd (n : Nat) : Bool := n = ':'.toNat || n = ')'.toNat || n = '<'.toNat
  let letters := (← takeWhile fun n => !isEnd n && n ≠ '-'.toNat).map (·.code)
  let isNegated ← eat "-"
  let behind ← if isNegated then takeWhile fun n => !isEnd n else pure []
  let negated := behind.map (·.code)
  let isKnown (n : Nat) : Bool := ['i', 'm', 's'].any fun c => c.toNat = n
  if !(letters ++ negated).all isKnown then refuse .unknownModifiers start
  if letters.eraseDups ≠ letters || negated.eraseDups ≠ negated then
    refuse .repeatedModifier start
  if letters.any negated.contains || (isNegated && letters.isEmpty && negated.isEmpty) then
    refuse .modifiers start

/-- What a parenthesis opens. -/
inductive Opening where
  | capturing
  | plain
  | ahead
  | behind

/-- The form of syntax that a group is. -/
def Opening.form : Opening → String
  | capturing => "capturing group"
  | plain => "ignore group"
  | ahead | behind => "lookaround assertion"

/-- The opening of a group, behind its parenthesis. -/
def opening : Read Opening := do
  if ← eat "?=" then return .ahead
  if ← eat "?!" then return .ahead
  for sign in ["?<=", "?<!"] do
    if ← eat sign then
      noteNew
      return .behind
  let plain ← attempt do
    if !(← eat "?") then return none
    modifiers
    if ← eat ":" then return some ()
    return none
  if plain.isSome then return .plain
  let start ← offset
  if ← eat "?" then
    match ← groupName with
    | some _ => noteNew
    | none => refuse .groupName start
  return .capturing

mutual

/-- The choices of a group or of the pattern. -/
def choices : Nat → Read Unit
  | 0 => return ()
  | k + 1 => do
    terms k
    if ← eat "|" then choices k

/-- Terms, as many as there are. -/
def terms : Nat → Read Unit
  | 0 => return ()
  | k + 1 => do if ← term k then terms k

/-- A term; nothing if none comes next. -/
def term : Nat → Read Bool
  | 0 => return false
  | k + 1 => do
    let unicode := (← read).unicode
    let start ← offset
    for condition in ["^", "$", "\\b", "\\B"] do
      if ← eat condition then return true
    if ← eat "(" then
      let o ← opening
      choices k
      if !(← eat ")") then refuse (.unterminated o.form) start
      match o with
      | .behind => return true
      | .ahead => if unicode then return true
      | _ => pure ()
      discard quantifier
      return true
    let atom ← (do
      if ← eat "." then return true
      if ← eat "\\" then
        if ← atomEscape start then return true
        if !unicode && (← isNext 'c') then return true
      if ← characterClass then return true
      match ← peek with
      | none => return false
      | some n =>
        let inner ← offset
        if !unicode then
          if ← quantifier then refuse .braced inner
        if if unicode then isSyntax n else isSyntax n && n ≠ ']'.toNat
            && n ≠ '\x7b'.toNat && n ≠ '\x7d'.toNat then
          return false
        -- what is left of an escape in Unicode mode is no character of its own
        if unicode && inner ≠ start then return false
        skip 1
        return true)
    let isQuantified ← quantifier
    if !atom && isQuantified then
      refuse (.loneQuantifier (if unicode then "Atom" else "ExtendedAtom")) start
    return atom

end

/-- The whole of a pattern. -/
def whole : Read Unit := do
  choices (3 * (← get).rest.length + 6)
  if (← peek).isSome then refuse .incomplete (← offset)

end Read

/-- Checks a pattern: whether it uses newer forms, or what is wrong with it. -/
def read (pattern : String) (unicode : Bool) : Except Located Bool := do
  let signs := signs unicode 0 pattern.toList
  let groups ← survey signs
  let (_, s) ← (Read.whole.run ⟨unicode, groups, pattern.utf8ByteSize⟩).run { rest := signs }
  return s.usesNewForms

end Pattern

end Playground.Script
