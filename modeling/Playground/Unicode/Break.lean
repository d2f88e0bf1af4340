import Playground.Unicode.Property

/-!
# Where text may break

What each character is when text is cut into the characters that a reader sees, into words, and
into sentences.  The classes mostly follow from other properties; the rest is listed here.

* `clusterBreak?` – classes of characters as a reader sees them;
* `wordBreak?` – classes for words;
* `sentenceBreak?` – classes for sentences.
-/

namespace Playground.Unicode

/-- A class of characters by the names of the class. -/
structure BreakClass where
  names : List String
  set : Unit → CharSet

/-- The set of a class. -/
def BreakClass.find? (classes : List BreakClass) (same : String → Bool) : Option CharSet :=
  (classes.find? fun c => c.names.any same).map fun c => c.set ()

/-- Some ranges of a table. -/
def listed (lines : List String) : CharSet := .table (Ranges.ofText lines)

/-! ### Characters as a reader sees them -/

/-- Marks that stand in front of what they belong to. -/
def prependedMarks : CharSet :=
  listed ["600-605 6dd 70f 890-891 8e2 d4e 110bd 110cd 111c2-111c3 113d1 1193f 11941 11a3a",
    "11a84-11a89 11d46 11f02"]

/-- Marks with a width of their own that do not belong to the character before them. -/
def looseMarks : CharSet :=
  listed ["102b-102c 1038 1062-1064 1067-106d 1083 1087-108c 108f 109a-109c 1a61 1a63-1a64 aa7b",
    "aa7d 11720-11721"]

/-- The syllables of Hangul without a consonant at the end. -/
def openSyllables : CharSet :=
  .table ((List.range 399).map fun i => (0xac00 + 28 * i, 0xac00 + 28 * i)).toArray

/-- Characters that control how text is laid out. -/
def layoutControls : CharSet :=
  .union (categories ["Zl", "Zp", "Cc", "Cf"])
    ((flag "Default_Ignorable_Code_Point").minus assigned)

/-- The classes of characters as a reader sees them. -/
def clusterBreaks : List BreakClass :=
  [⟨["CR"], fun _ => .single '\r'⟩,
   ⟨["LF"], fun _ => .single '\n'⟩,
   ⟨["Control", "CN"],
    fun _ => ((layoutControls.minus (.ofCodes [10, 13, 0x200c, 0x200d])).minus
      (flag "Prepended_Concatenation_Mark")).minus graphemeExtend⟩,
   ⟨["Extend", "EX"], fun _ => .union graphemeExtend (flag "Emoji_Modifier")⟩,
   ⟨["ZWJ"], fun _ => .ofCodes [0x200d]⟩,
   ⟨["Regional_Indicator", "RI"], fun _ => flag "Regional_Indicator"⟩,
   ⟨["Prepend", "PP"], fun _ => prependedMarks⟩,
   ⟨["SpacingMark", "SM"],
    fun _ => .union (.ofCodes [0xe33, 0xeb3])
      (((category "Mc").minus graphemeExtend).minus looseMarks)⟩,
   ⟨["L"], fun _ => listed ["1100-115f a960-a97c"]⟩,
   ⟨["V"], fun _ => listed ["1160-11a7 d7b0-d7c6 16d63 16d67-16d6a"]⟩,
   ⟨["T"], fun _ => listed ["11a8-11ff d7cb-d7fb"]⟩,
   ⟨["LV"], fun _ => openSyllables⟩,
   ⟨["LVT"], fun _ => (CharSet.range 0xac00 0xd7a3).minus openSyllables⟩]

/-- The set of a class of characters as a reader sees them. -/
def clusterBreak? (same : String → Bool) : Option CharSet := BreakClass.find? clusterBreaks same

/-! ### Words -/

/-- Marks that belong to the word before them. -/
def wordMarks : CharSet :=
  (CharSet.unions [graphemeExtend, category "Mc", flag "Emoji_Modifier"]).minus
    (.ofCodes [0x200d])

/-- Letters of Katakana, and signs that are used with them. -/
def katakanaWords : CharSet :=
  listed ["3031-3035 309b-309c 30a0-30fa 30fc-30ff 31f0-31ff 32d0-32fe 3300-3357 ff66-ff9d",
    "1aff0-1aff3 1aff5-1affb 1affd-1affe 1b000 1b120-1b122 1b155 1b164-1b167"]

/-- Letters of scripts in which words are told apart by a dictionary. -/
def dictionaryScripts : CharSet :=
  listed ["e01-e3a e40-e4e e81-e82 e84 e86-e8a e8c-ea3 ea5 ea7-ebd ec0-ec4 ec6 ec8-ece edc-edf",
    "1000-103f 1050-108f 109a-109f 1780-17d3 17d7 17dc-17dd 1950-196d 1970-1974 1980-19ab",
    "19b0-19c9 19da 19de-19df 1a20-1a5e 1a60-1a7c 1aa0-1aad a9e0-a9ef a9fa-a9fe aa60-aac2",
    "aadb-aadf 11700-1171a 1171d-1172b 1173a-1173b 1173f-11746"]

/-- Letters of Hebrew. -/
def hebrewLetters : CharSet :=
  listed ["5d0-5ea 5ef-5f2 fb1d fb1f-fb28 fb2a-fb36 fb38-fb3c fb3e fb40-fb41 fb43-fb44 fb46-fb4f"]

/-- Signs that are used as letters. -/
def letterSigns : CharSet :=
  listed ["2c2-2c5 2d2-2d7 2de-2df 2e5-2eb 2ed 2ef-2ff 55a-55c 55e 58a 5f3 a708-a716 a720-a721",
    "a789-a78a ab5b"]

/-- Letters that words are made of. -/
def wordLetters : CharSet :=
  .union letterSigns
    ([flag "Ideographic", katakanaWords, dictionaryScripts, tableSet scriptTable "Hiragana",
      wordMarks, hebrewLetters].foldl .minus alphabetic)

/-- The classes for words. -/
def wordBreaks : List BreakClass :=
  [⟨["CR"], fun _ => .single '\r'⟩,
   ⟨["LF"], fun _ => .single '\n'⟩,
   ⟨["Newline", "NL"], fun _ => .ofRanges [(0xb, 0xc), (0x85, 0x85), (0x2028, 0x2029)]⟩,
   ⟨["Extend"], fun _ => wordMarks⟩,
   ⟨["ZWJ"], fun _ => .ofCodes [0x200d]⟩,
   ⟨["Regional_Indicator", "RI"], fun _ => flag "Regional_Indicator"⟩,
   ⟨["Format", "FO"],
    fun _ => ((category "Cf").minus graphemeExtend).minus (.ofCodes [0x200b, 0x200c, 0x200d])⟩,
   ⟨["Katakana", "KA"], fun _ => katakanaWords⟩,
   ⟨["Hebrew_Letter", "HL"], fun _ => hebrewLetters⟩,
   ⟨["ALetter", "LE"], fun _ => wordLetters⟩,
   ⟨["Single_Quote", "SQ"], fun _ => .ofCodes [0x27]⟩,
   ⟨["Double_Quote", "DQ"], fun _ => .ofCodes [0x22]⟩,
   ⟨["MidNumLet", "MB"], fun _ => listed ["2e 2018-2019 2024 fe52 ff07 ff0e"]⟩,
   ⟨["MidLetter", "ML"], fun _ => listed ["3a b7 387 55f 5f4 2027 fe13 fe55 ff1a"]⟩,
   ⟨["MidNum", "MN"],
    fun _ => listed ["2c 3b 37e 589 60c-60d 66c 7f8 2044 fe10 fe14 fe50 fe54 ff0c ff1b"]⟩,
   ⟨["Numeric", "NU"], fun _ => .union (category "Nd") (.ofCodes [0x66b])⟩,
   ⟨["ExtendNumLet", "EX"], fun _ => listed ["5f 202f 203f-2040 2054 fe33-fe34 fe4d-fe4f ff3f"]⟩,
   ⟨["WSegSpace"], fun _ => listed ["20 1680 2000-2006 2008-200a 205f 3000"]⟩]

/-- The set of a class for words. -/
def wordBreak? (same : String → Bool) : Option CharSet := BreakClass.find? wordBreaks same

/-! ### Sentences -/

/-- Marks that belong to the sentence before them. -/
def sentenceMarks : CharSet := .unions [graphemeExtend, category "Mc", .ofCodes [0x200d]]

/-- Letters of Georgian, which have no case in running text. -/
def georgianLetters : CharSet := listed ["10d0-10fa 10fd-10ff 1c90-1cba 1cbd-1cbf"]

/-- Full stops that may also end an abbreviation. -/
def fullStops : CharSet := listed ["2e 2024 fe52 ff0e"]

/-- Small letters in a sentence. -/
def smallLetters : CharSet := (lowercase.minus graphemeExtend).minus georgianLetters

/-- Capital letters in a sentence. -/
def capitalLetters : CharSet := (CharSet.union uppercase (category "Lt")).minus georgianLetters

/-- The classes for sentences. -/
def sentenceBreaks : List BreakClass :=
  [⟨["CR"], fun _ => .single '\r'⟩,
   ⟨["LF"], fun _ => .single '\n'⟩,
   ⟨["Extend", "EX"], fun _ => sentenceMarks⟩,
   ⟨["Sep", "SE"], fun _ => .ofRanges [(0x85, 0x85), (0x2028, 0x2029)]⟩,
   ⟨["Format", "FO"],
    fun _ => ((category "Cf").minus graphemeExtend).minus (.ofCodes [0x200c, 0x200d])⟩,
   ⟨["Sp"], fun _ => listed ["9 b-c 20 a0 1680 2000-200a 202f 205f 3000"]⟩,
   ⟨["Lower", "LO"], fun _ => smallLetters⟩,
   ⟨["Upper", "UP"], fun _ => capitalLetters⟩,
   ⟨["OLetter", "LE"],
    fun _ => [smallLetters, capitalLetters, sentenceMarks].foldl .minus
      (.union alphabetic (.ofCodes [0x5f3]))⟩,
   ⟨["Numeric", "NU"], fun _ => .union (category "Nd") (.ofCodes [0x66b, 0x66c])⟩,
   ⟨["ATerm", "AT"], fun _ => fullStops⟩,
   ⟨["SContinue", "SC"],
    fun _ => listed ["2c-2d 3a 55d 60c-60d 7f8 1802 1808 2013-2014 3001 fe10-fe11 fe13 fe31-fe32",
      "fe50-fe51 fe55 fe58 fe63 ff0c-ff0d ff1a ff64"]⟩,
   ⟨["STerm", "ST"], fun _ => (flag "Sentence_Terminal").minus fullStops⟩,
   ⟨["Close", "CL"],
    fun _ => .union (categories ["Ps", "Pe", "Pi", "Pf"])
      (listed ["22 27 275b-2760 2e00-2e01 2e06-2e08 2e0b 1f676-1f678"])⟩]

/-- The set of a class for sentences. -/
def sentenceBreak? (same : String → Bool) : Option CharSet :=
  BreakClass.find? sentenceBreaks same

end Playground.Unicode
