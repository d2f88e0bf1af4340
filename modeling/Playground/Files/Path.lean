import Playground.Text.Chars

/-!
# Paths

Paths are texts whose parts stand between slashes; a path that starts with a slash is absolute.
Empty parts and dots have no meaning, except for a dot in front.  Nothing is looked up: two dots
stay where they are.
-/

namespace Playground.Files

open Text

/-- The texts between the slashes of a path, the last one first. -/
def partsReversed (path : String) : List (List Char) := (pieces '/' path.toList).reverse

/-- Whether a path does not depend on a directory. -/
def isAbsolute (path : String) : Bool := startsWith ['/'] path.toList

/-- Whether a text between slashes means nothing. -/
def isIdle (part : List Char) : Bool := part.isEmpty || part = ['.']

/-- The parts that mean something, and a dot in front. -/
def components (path : String) : List String :=
  match pieces '/' path.toList with
  | ['.'] :: rest => "." :: (rest.filter fun p => !isIdle p).map String.ofList
  | parts => (parts.filter fun p => !isIdle p).map String.ofList

/-- Whether two paths have the same parts. -/
def samePath (p q : String) : Bool :=
  isAbsolute p == isAbsolute q && components p == components q

/-- A path below another; an absolute path stands alone. -/
def join (base path : String) : String :=
  if isAbsolute path then path
  else if base.isEmpty || endsWith ['/'] base.toList then base ++ path
  else base ++ "/" ++ path

/-- Parts without those at the end that mean nothing; the first part stays. -/
def trimIdle : List (List Char) → List (List Char)
  | [] => []
  | [p] => [p]
  | p :: rest => if isIdle p then trimIdle rest else p :: rest

/-- The directory that a path lies in; the root, and the empty path, lie in none. -/
def parent? (path : String) : Option String :=
  match trimIdle (partsReversed path) with
  | [] => none
  | [[]] => none
  | [_] => some ""
  | _ :: rest =>
    match trimIdle rest with
    | [[]] => some "/"
    | front => some (String.ofList (joined '/' front.reverse))

/-- The last part of a path, unless it leads upwards. -/
def lastPart? (path : String) : Option String :=
  (components path).getLast?.filter fun p => p ≠ ".." && p ≠ "."

/-- A path with another ending behind the last dot of its last part. -/
def withEnding (ending path : String) : String :=
  match (pieces '/' path.toList).reverse with
  | [] => path
  | last :: front =>
    let stem := match (pieces '.' last).reverse with
      | _ :: s :: ss => if ss.isEmpty && s.isEmpty then last else joined '.' (s :: ss).reverse
      | _ => last
    String.ofList (joined '/' ((stem ++ '.' :: ending.toList) :: front).reverse)

/-- What is left of a path behind its first parts, as they are written. -/
def dropParts : Nat → List (List Char) → List (List Char)
  | n, p :: rest =>
    if isIdle p then dropParts n rest
    else
      match n with
      | 0 => p :: rest
      | n + 1 => dropParts n rest
  | _, [] => []

/-- A path below a directory, as it is written, if it lies there. -/
def below? (base path : String) : Option String :=
  if isAbsolute base == isAbsolute path && (components base).isPrefixOf (components path) then
    let count := (components base).length
    let parts := pieces '/' path.toList
    let rest := match parts, count with
      | ['.'] :: rest, count + 1 => dropParts count rest
      | parts, count => dropParts count parts
    some (String.ofList (joined '/' rest))
  else none

end Playground.Files
