/-!
# Cutting texts

Splitting, joining and trimming, on lists of characters.  Blanks are the white space characters of
all scripts.
-/

namespace Playground.Text

/-- The pieces between the occurrences of a character; there is always one more of them than
there are occurrences. -/
def pieces (separator : Char) : List Char → List (List Char)
  | [] => [[]]
  | c :: cs =>
    match pieces separator cs with
    | [] => [[]]
    | p :: ps => if c = separator then [] :: p :: ps else (c :: p) :: ps

/-- The pieces one after another, with a character in between. -/
def joined (separator : Char) : List (List Char) → List Char
  | [] => []
  | [p] => p
  | p :: ps => p ++ separator :: joined separator ps

/-- What follows a given start. -/
def afterStart? : List Char → List Char → Option (List Char)
  | [], cs => some cs
  | _ :: _, [] => none
  | s :: ss, c :: cs => if s = c then afterStart? ss cs else none

/-- What comes before a given end. -/
def beforeEnd? (stop cs : List Char) : Option (List Char) :=
  (afterStart? stop.reverse cs.reverse).map List.reverse

/-- Whether a text starts with another. -/
def startsWith (start cs : List Char) : Bool := (afterStart? start cs).isSome

/-- Whether a text ends with another. -/
def endsWith (stop cs : List Char) : Bool := (beforeEnd? stop cs).isSome

/-- A text without any number of copies of another at its start. -/
def trimStarts (start : List Char) : Nat → List Char → List Char
  | 0, cs => cs
  | n + 1, cs =>
    if start.isEmpty then cs
    else
      match afterStart? start cs with
      | some rest => trimStarts start n rest
      | none => cs

/-- A text without any number of copies of another at its end. -/
def trimEnds (stop cs : List Char) : List Char :=
  (trimStarts stop.reverse (cs.length + 1) cs.reverse).reverse

/-- The text with the first occurrence of a character replaced. -/
def replaceFirst (c : Char) (replacement : List Char) : List Char → List Char
  | [] => []
  | d :: ds => if d = c then replacement ++ ds else d :: replaceFirst c replacement ds

/-! ### Blanks -/

/-- Whether a character is white space. -/
def isBlank (c : Char) : Bool :=
  let n := c.toNat
  (9 ≤ n && n ≤ 13) || n = 32 || n = 0x85 || n = 0xa0 || n = 0x1680
    || (0x2000 ≤ n && n ≤ 0x200a) || n = 0x2028 || n = 0x2029 || n = 0x202f || n = 0x205f
    || n = 0x3000

/-- A text without blanks at its ends. -/
def trimBlanks (cs : List Char) : List Char :=
  ((cs.dropWhile isBlank).reverse.dropWhile isBlank).reverse

end Playground.Text
