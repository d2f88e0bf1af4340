import Playground.Unicode.AgeTable
import Playground.Unicode.CategoryTable
import Playground.Unicode.CharSet
import Playground.Unicode.FlagTable
import Playground.Unicode.ScriptTable

/-!
# Properties of characters

The sets of characters that the properties of the Unicode standard describe, by the names of the
properties and their values.  How a name is compared is up to the caller: `same` says whether a
name of the standard is the one that is meant.

* `category?` – general categories and the groups of them;
* `flag?` – properties that a character has or has not;
* `script?`, `scriptExtension?` – the characters of a script, and those it uses;
* `age?` – the characters that a version of the standard knows.
-/

namespace Playground.Unicode

/-- The set of some ranges with names. -/
def NamedRanges.set (e : NamedRanges) : CharSet := .table (Ranges.ofText e.ranges)

/-- The set that a table has under a name. -/
def tableSet (table : List NamedRanges) (name : String) : CharSet :=
  ((NamedRanges.find? table (· == name)).map NamedRanges.set).getD .none

/-! ### Categories -/

/-- The characters of a category, by its short name. -/
def category (name : String) : CharSet := tableSet categoryTable name

/-- The characters of some categories. -/
def categories (names : List String) : CharSet := .unions (names.map category)

/-- The categories that there are, by their short names. -/
def categoryNames : List String := categoryTable.flatMap fun e => e.names.drop 1 |>.take 1

/-- All characters that are assigned. -/
def assigned : CharSet := categories categoryNames

/-- A group of categories: its names, and the short names of its members. -/
structure CategoryGroup where
  names : List String
  members : List String

/-- The groups of categories. -/
def categoryGroups : List CategoryGroup :=
  [⟨["Cased_Letter", "LC"], ["Lu", "Ll", "Lt"]⟩,
   ⟨["Letter", "L"], ["Lu", "Ll", "Lt", "Lm", "Lo"]⟩,
   ⟨["Mark", "M", "Combining_Mark"], ["Mn", "Mc", "Me"]⟩,
   ⟨["Number", "N"], ["Nd", "Nl", "No"]⟩,
   ⟨["Punctuation", "P", "punct"], ["Pc", "Pd", "Ps", "Pe", "Pi", "Pf", "Po"]⟩,
   ⟨["Symbol", "S"], ["Sm", "Sc", "Sk", "So"]⟩,
   ⟨["Separator", "Z"], ["Zs", "Zl", "Zp"]⟩]

/-- The names of what is no letter, mark, number, sign or blank, and of what is not assigned. -/
def otherNames : List String × List String := (["Other", "C"], ["Unassigned", "Cn"])

/-- The set of a category or of a group of them. -/
def category? (same : String → Bool) : Option CharSet :=
  if otherNames.1.any same then
    some (.union (categories ["Cc", "Cf", "Co"]) assigned.complement)
  else if otherNames.2.any same then some assigned.complement
  else
    match categoryGroups.find? fun g => g.names.any same with
    | some g => some (categories g.members)
    | none => (NamedRanges.find? categoryTable same).map NamedRanges.set

/-! ### Flags -/

/-- The characters that have a flag, by its first name. -/
def flag (name : String) : CharSet := tableSet flagTable name

/-- Letters of all cases and kinds. -/
def letters : CharSet := categories ["Lu", "Ll", "Lt", "Lm", "Lo"]

/-- Numbers of all kinds. -/
def numbers : CharSet := categories ["Nd", "Nl", "No"]

/-- Small letters, and what counts as such. -/
def lowercase : CharSet := .union (category "Ll") (flag "Other_Lowercase")

/-- Capital letters, and what counts as such. -/
def uppercase : CharSet := .union (category "Lu") (flag "Other_Uppercase")

/-- Letters, and what counts as such. -/
def alphabetic : CharSet := .unions [letters, category "Nl", flag "Other_Alphabetic"]

/-- Characters that extend the one before them. -/
def graphemeExtend : CharSet :=
  .unions [category "Mn", category "Me", flag "Other_Grapheme_Extend"]

/-- Characters that a name may start with. -/
def nameStart : CharSet :=
  (CharSet.unions [letters, category "Nl", flag "Other_ID_Start"]).minus
    (flag "Pattern_Syntax")

/-- Characters that a name may go on with. -/
def nameContinue : CharSet :=
  .unions [nameStart, categories ["Mn", "Mc", "Nd", "Pc"], flag "Other_ID_Continue"]

/-- Characters of names whose compatible forms are none. -/
def unstableNames : CharSet :=
  .ofRanges
    [(0x37a, 0x37a), (0x309b, 0x309c), (0xfc5e, 0xfc63), (0xfdfa, 0xfdfb), (0xfe70, 0xfe70),
     (0xfe72, 0xfe72), (0xfe74, 0xfe74), (0xfe76, 0xfe76), (0xfe78, 0xfe78), (0xfe7a, 0xfe7a),
     (0xfe7c, 0xfe7c), (0xfe7e, 0xfe7e)]

/-- Characters that words are made of. -/
def wordCharacters : CharSet :=
  .unions [alphabetic, categories ["Mn", "Mc", "Me", "Nd", "Pc"], flag "Join_Control"]

/-- Punctuation within words, which is passed over when case is looked at. -/
def wordPunctuation : CharSet :=
  .ofCodes
    [0x27, 0x2e, 0x3a, 0xb7, 0x387, 0x55f, 0x5f4, 0x2018, 0x2019, 0x2024, 0x2027, 0xfe13, 0xfe52,
     0xfe55, 0xff07, 0xff0e, 0xff1a]

/-- A flag that follows from other properties. -/
structure DerivedFlag where
  names : List String
  set : Unit → CharSet

/-- The flags that follow from other properties. -/
def derivedFlags : List DerivedFlag :=
  [⟨["Alphabetic", "Alpha"], fun _ => alphabetic⟩,
   ⟨["Lowercase", "Lower"], fun _ => lowercase⟩,
   ⟨["Uppercase", "Upper"], fun _ => uppercase⟩,
   ⟨["Math"], fun _ => .union (category "Sm") (flag "Other_Math")⟩,
   ⟨["Cased"], fun _ => .unions [lowercase, uppercase, category "Lt"]⟩,
   ⟨["Case_Ignorable", "CI"],
    fun _ => .union (categories ["Mn", "Me", "Cf", "Lm", "Sk"]) wordPunctuation⟩,
   ⟨["Changes_When_Casemapped", "CWCM"],
    fun _ => .unions
      [flag "Changes_When_Lowercased", flag "Changes_When_Titlecased",
       flag "Changes_When_Uppercased"]⟩,
   ⟨["Grapheme_Extend", "Gr_Ext"], fun _ => graphemeExtend⟩,
   ⟨["Grapheme_Base", "Gr_Base"],
    fun _ => (assigned.minus (categories ["Cc", "Cf", "Co", "Zl", "Zp"])).minus graphemeExtend⟩,
   ⟨["ID_Start", "IDS"], fun _ => nameStart⟩,
   ⟨["ID_Continue", "IDC"], fun _ => nameContinue⟩,
   ⟨["XID_Start", "XIDS"],
    fun _ => (nameStart.minus unstableNames).minus (.ofCodes [0xe33, 0xeb3, 0xff9e, 0xff9f])⟩,
   ⟨["XID_Continue", "XIDC"], fun _ => nameContinue.minus unstableNames⟩]

/-- The set of a flag. -/
def flag? (same : String → Bool) : Option CharSet :=
  match derivedFlags.find? fun d => d.names.any same with
  | some d => some (d.set ())
  | none => (NamedRanges.find? flagTable same).map NamedRanges.set

/-! ### Scripts -/

/-- The set of a script. -/
def script? (same : String → Bool) : Option CharSet :=
  (NamedRanges.find? scriptTable same).map NamedRanges.set

/-- The set of the characters that are used in a script. -/
def scriptExtension? (same : String → Bool) : Option CharSet :=
  (NamedRanges.find? scriptTable same).map fun e =>
    let (used, others) := sharedTable.partition fun s => s.names.any e.names.contains
    .union (e.set.minus (.unions (others.map NamedRanges.set)))
      (.unions (used.map NamedRanges.set))

/-! ### Ages -/

/-- The set of the characters that a version knows: its own, and those of the ones before. -/
def age? (same : String → Bool) : Option CharSet :=
  (ageTable.findIdx? fun e => e.names.any same).map fun i =>
    .unions ((ageTable.take (i + 1)).map NamedRanges.set)

end Playground.Unicode
