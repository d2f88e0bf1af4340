import Playground.Text.Chars
import Playground.Unicode.Break

/-!
# Named sets of characters

The bracketed names of classes, and the properties of characters by name: general categories,
scripts and more.  The names of properties are compared without regard to case, blanks, hyphens and
underscores.
-/

namespace Playground.Pattern

open Unicode (CharSet)

/-- The classes with a name between colons. -/
def namedClass? (name : String) : Option CharSet :=
  let ranges := match name with
    | "alnum" => some [(48, 57), (65, 90), (97, 122)]
    | "alpha" => some [(65, 90), (97, 122)]
    | "ascii" => some [(0, 127)]
    | "blank" => some [(9, 9), (32, 32)]
    | "cntrl" => some [(0, 31), (127, 127)]
    | "digit" => some [(48, 57)]
    | "graph" => some [(33, 126)]
    | "lower" => some [(97, 122)]
    | "print" => some [(32, 126)]
    | "punct" => some [(33, 47), (58, 64), (91, 96), (123, 126)]
    | "space" => some [(9, 13), (32, 32)]
    | "upper" => some [(65, 90)]
    | "word" => some [(48, 57), (65, 90), (95, 95), (97, 122)]
    | "xdigit" => some [(48, 57), (65, 70), (97, 102)]
    | _ => none
  ranges.map CharSet.ofRanges

/-- A name as it is compared. -/
def plainName (name : List Char) : String :=
  let small := name.map Char.toLower
  let (hasIs, small) := match small with
    | 'i' :: 's' :: rest => (true, rest)
    | _ => (false, small)
  let kept := small.filter fun c => c != ' ' && c != '-' && c != '_' && c.toNat < 128
  String.ofList (if hasIs && kept == ['c'] then ['i', 's', 'c'] else kept)

/-- Whether a name is the one that is meant, which is given as it is compared. -/
def isNamed (meant name : String) : Bool := plainName name.toList == meant

/-- Why a property does not name a set. -/
inductive PropertyFault where
  | unknownProperty
  | unknownValue
deriving DecidableEq, Inhabited, Repr

/-- The text in front of the first occurrence of a separator, and the text behind it. -/
def cutAt (separator : List Char) : List Char → Option (List Char × List Char)
  | [] => none
  | c :: rest =>
    match Text.afterStart? separator (c :: rest) with
    | some behind => some ([], behind)
    | none => (cutAt separator rest).map fun (front, behind) => (c :: front, behind)

/-- Names of categories that have no set: halves of pairs are no characters. -/
def isSurrogate (name : String) : Bool := name == "cs" || name == "surrogate"

/-- The set of a category, by a name as it is compared. -/
def categorySet? (name : String) : Option CharSet :=
  match name with
  | "any" => some .any
  | "ascii" => some .ascii
  | "assigned" => some Unicode.assigned
  | _ => Unicode.category? (isNamed name)

/-- Names that are short for a category although another property has them too. -/
def categoryFirst : List String := ["cf", "sc", "lc"]

/-- The set that a name alone stands for: a flag, a category or a script. -/
def loneSet (name : String) : Except PropertyFault CharSet :=
  let asFlag := if categoryFirst.contains name then none else Unicode.flag? (isNamed name)
  match asFlag <|> categorySet? name <|> Unicode.script? (isNamed name) with
  | some s => .ok s
  | none => .error (if isSurrogate name then .unknownValue else .unknownProperty)

/-- Names of properties, as they are compared, none of whose values have a set. -/
def valueless : List String :=
  ["bidiclass", "bc", "bidimirroringglyph", "bmg", "bidipairedbracket", "bpb",
   "bidipairedbrackettype", "bpt", "block", "blk", "canonicalcombiningclass", "ccc", "casefolding",
   "cf", "decompositionmapping", "dm", "decompositiontype", "dt", "eastasianwidth", "ea",
   "equivalentunifiedideograph", "equideo", "fcnfkcclosure", "fcnfkc", "hangulsyllabletype", "hst",
   "indicconjunctbreak", "incb", "indicpositionalcategory", "inpc", "indicsyllabiccategory",
   "insc", "isocomment", "isc", "jamoshortname", "jsn", "joininggroup", "jg", "joiningtype", "jt",
   "linebreak", "lb", "lowercasemapping", "lc", "name", "na", "namealias", "nfcquickcheck",
   "nfcqc", "nfdquickcheck", "nfdqc", "nfkccasefold", "nfkccf", "nfkcquickcheck", "nfkcqc",
   "nfkcsimplecasefold", "nfkcscf", "nfkdquickcheck", "nfkdqc", "numerictype", "nt",
   "numericvalue", "nv", "simplecasefolding", "scf", "sfc", "simplelowercasemapping", "slc",
   "simpletitlecasemapping", "stc", "simpleuppercasemapping", "suc", "titlecasemapping", "tc",
   "unicode1name", "na1", "uppercasemapping", "uc", "verticalorientation", "vo",
   "changeswhennfkccasefolded", "cwkcf", "compositionexclusion", "ce", "fullcompositionexclusion",
   "compex", "expandsonnfc", "xonfc", "expandsonnfd", "xonfd", "expandsonnfkc", "xonfkc",
   "expandsonnfkd", "xonfkd", "graphemelink", "grlink"]

/-- The set of a property with a value, both by their names as they are compared. -/
def valueSet (name value : String) : Except PropertyFault CharSet :=
  let found (s : Option CharSet) : Except PropertyFault CharSet :=
    match s with
    | some s => .ok s
    | none => .error .unknownValue
  let same := isNamed value
  match name with
  | "generalcategory" | "gc" => found (categorySet? value)
  | "script" | "sc" => found (Unicode.script? same)
  | "scriptextensions" | "scx" => found (Unicode.scriptExtension? same)
  | "age" => found (Unicode.age? same)
  | "wordbreak" | "wb" => found (Unicode.wordBreak? same)
  | "sentencebreak" | "sb" => found (Unicode.sentenceBreak? same)
  | "graphemeclusterbreak" | "gcb" => found (Unicode.clusterBreak? same)
  | _ =>
    -- flags have no values either
    if valueless.contains name || (Unicode.flag? (isNamed name)).isSome then .error .unknownValue
    else .error .unknownProperty

/-- The set that a property names, given the text in its braces. -/
def propertySet (text : List Char) : Except PropertyFault CharSet :=
  match cutAt ['!', '='] text, cutAt [':'] text, cutAt ['='] text with
  | some (name, value), _, _ => (valueSet (plainName name) (plainName value)).map .complement
  | none, some (name, value), _ => valueSet (plainName name) (plainName value)
  | none, none, some (name, value) => valueSet (plainName name) (plainName value)
  | none, none, none => loneSet (plainName text)

end Playground.Pattern
