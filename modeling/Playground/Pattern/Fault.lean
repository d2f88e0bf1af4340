import Playground.Text.Chars
import Playground.Text.Position

/-!
# Faults of patterns

Why a text is not a pattern, and the report that shows the place.
-/

namespace Playground.Pattern

open Text (Position)

/-- A stretch of a pattern. -/
structure Span where
  first : Position
  last : Position
deriving DecidableEq, Inhabited, Repr

/-- How deep parts of a pattern may stand in each other. -/
def depthLimit : Nat := 250

/-- How the parts of a pattern stand in each other. -/
inductive Shape where
  | flat (span : Span)
  | nest (span : Span) (inner : List Shape)
deriving Inhabited, Repr

namespace Shape

/-- The stretch of a part. -/
def span : Shape → Span
  | flat s | nest s _ => s

/-- Parts in a row: nothing more than the part if there is only one. -/
def row (span : Span) : List Shape → Shape
  | [] => flat span
  | [s] => s
  | inner => nest span inner

/-- The first part that stands too deep, given how deep another one may. -/
def tooDeep? : Nat → Shape → Option Span
  | _, flat _ => none
  | 0, nest s _ => some s
  | depth + 1, nest _ inner => inner.findSome? (tooDeep? depth)

end Shape

/-- What is wrong with a pattern. -/
inductive Cause where
  | groupUnclosed
  | groupUnopened
  | groupNameEmpty
  | groupNameInvalid
  | groupNameUnclosed
  | groupNameTwice
  | lookAround
  | backreference
  | classUnclosed
  | classEscape
  | classRange
  | classRangeEnd
  | repetitionMissing
  | repetitionRange
  | repetitionNumber
  | repetitionUnclosed
  | numberTooLarge
  | escapeUnfinished
  | escapeUnknown
  | hexDigit
  | hexEmpty
  | hexInvalid
  | flagUnknown
  | flagTwice
  | flagNegatedTwice
  | flagNegatedNone
  | flagUnfinished
  | boundaryUnclosed
  | boundaryUnknown
  | boundaryUnfinished
  | propertyInvalid
  | propertyUnknown
  | propertyValueUnknown
  | unicodeOff
  | bytesOnly
  | nestedTooDeep
deriving DecidableEq, Inhabited, Repr

/-- The words for what is wrong. -/
def Cause.message : Cause → String
  | .groupUnclosed => "unclosed group"
  | .groupUnopened => "unopened group"
  | .groupNameEmpty => "empty capture group name"
  | .groupNameInvalid => "invalid capture group character"
  | .groupNameUnclosed => "unclosed capture group name"
  | .groupNameTwice => "duplicate capture group name"
  | .lookAround => "look-around, including look-ahead and look-behind, is not supported"
  | .backreference => "backreferences are not supported"
  | .classUnclosed => "unclosed character class"
  | .classEscape => "invalid escape sequence found in character class"
  | .classRange => "invalid character class range, the start must be <= the end"
  | .classRangeEnd => "invalid range boundary, must be a literal"
  | .repetitionMissing => "repetition operator missing expression"
  | .repetitionRange => "invalid repetition count range, the start must be <= the end"
  | .repetitionNumber => "repetition quantifier expects a valid decimal"
  | .repetitionUnclosed => "unclosed counted repetition"
  | .numberTooLarge => "decimal literal invalid"
  | .escapeUnfinished => "incomplete escape sequence, reached end of pattern prematurely"
  | .escapeUnknown => "unrecognized escape sequence"
  | .hexDigit => "invalid hexadecimal digit"
  | .hexEmpty => "hexadecimal literal empty"
  | .hexInvalid => "hexadecimal literal is not a Unicode scalar value"
  | .flagUnknown => "unrecognized flag"
  | .flagTwice => "duplicate flag"
  | .flagNegatedTwice => "flag negation operator repeated"
  | .flagNegatedNone => "dangling flag negation operator"
  | .flagUnfinished => "expected flag but got end of regex"
  | .boundaryUnclosed =>
    "special word boundary assertion is either unclosed or contains an invalid character"
  | .boundaryUnknown =>
    "unrecognized special word boundary assertion, valid choices are: start, end, "
      ++ "start-half or end-half"
  | .boundaryUnfinished =>
    "found either the beginning of a special word boundary or a bounded repetition on a \\b "
      ++ "with an opening brace, but no closing brace"
  | .propertyInvalid => "invalid Unicode character class"
  | .propertyUnknown => "Unicode property not found"
  | .propertyValueUnknown => "Unicode property value not found"
  | .unicodeOff => "Unicode not allowed here"
  | .bytesOnly => "pattern can match invalid UTF-8"
  | .nestedTooDeep =>
    "exceed the maximum number of nested parentheses/brackets (" ++ toString depthLimit ++ ")"

/-- Something wrong at a place; `other` is an earlier place that it clashes with. -/
structure Fault where
  cause : Cause
  span : Span
  other : Option Span := none
deriving DecidableEq, Inhabited, Repr

namespace Fault

/-- Whether one position is before another. -/
def isBefore (p q : Position) : Bool := p.line < q.line || (p.line = q.line && p.column < q.column)

/-- The places of a fault, the first one in front. -/
def spans (f : Fault) : List Span :=
  match f.other with
  | none => [f.span]
  | some other => if isBefore f.span.first other.first then [f.span, other] else [other, f.span]

/-- Marks under some stretches of a line, given the column that comes next. -/
def marks : Nat → List Span → List Char
  | _, [] => []
  | column, s :: rest =>
    let width := max 1 (s.last.column - s.first.column)
    List.replicate (s.first.column - column) ' ' ++ List.replicate width '^'
      ++ marks (max column s.first.column + width) rest

/-- The lines of a pattern; a line break at the end starts no further line. -/
def linesOf (pattern : String) : List (List Char) :=
  let lines := Text.pieces '\n' pattern.toList
  let lines := if lines.getLast? = some [] then lines.dropLast else lines
  lines.map fun l => (Text.beforeEnd? ['\r'] l).getD l

/-- A number with blanks in front, up to a width. -/
def padded (width n : Nat) : List Char :=
  let digits := (toString n).toList
  List.replicate (width - digits.length) ' ' ++ digits

/-- The lines of a pattern with the places of a fault marked below them, given how a line with a
number starts. -/
def notated (f : Fault) (margin : Nat → List Char) : Nat → List (List Char) → List Char
  | _, [] => []
  | n, line :: rest =>
    let here := f.spans.filter fun s => s.first.line = n && s.last.line = n
    let below :=
      if here.isEmpty then []
      else List.replicate (margin n).length ' ' ++ marks 1 here ++ ['\n']
    margin n ++ line ++ ['\n'] ++ below ++ notated f margin (n + 1) rest

/-- The report of a fault in a pattern. -/
def report (f : Fault) (pattern : String) : String :=
  let lines := linesOf pattern
  let stop := "error: " ++ f.cause.message
  if pattern.toList.contains '\n' then
    let count := if pattern.toList.getLast? = some '\n' then lines.length + 1 else lines.length
    let width := (toString count).length
    let divider := String.ofList (List.replicate 79 '~') ++ "\n"
    let margin (n : Nat) : List Char := padded width n ++ [':', ' ']
    let long := (f.spans.filter fun s => s.first.line != s.last.line).map fun s =>
      "on line " ++ toString s.first.line ++ " (column " ++ toString s.first.column
        ++ ") through line " ++ toString s.last.line ++ " (column "
        ++ toString (s.last.column - 1) ++ ")"
    let notes := if long.isEmpty then "" else "\n".intercalate long ++ "\n"
    "regex parse error:\n" ++ divider ++ String.ofList (f.notated margin 1 lines) ++ divider
      ++ notes ++ stop
  else
    "regex parse error:\n" ++ String.ofList (f.notated (fun _ => "    ".toList) 1 lines) ++ stop

end Fault

end Playground.Pattern
