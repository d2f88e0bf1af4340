import Playground.Text.Chars

/-!
# The sandbox document

The page that a script runs in: scripts that are loaded in front, and the script itself inside of
a function.  The page is made from a template with markers.  The text of the script goes in last,
so that it is never searched for markers, and it cannot close the element that it stands in.
-/

namespace Playground.Sandbox

open Text

/-- A text with every occurrence of a pattern replaced, from the left. -/
def replaceFrom (pattern replacement : List Char) : Nat → List Char → List Char
  | _, [] => []
  | skipped + 1, _ :: cs => replaceFrom pattern replacement skipped cs
  | 0, c :: cs =>
    if startsWith pattern (c :: cs) then
      replacement ++ replaceFrom pattern replacement (pattern.length - 1) cs
    else c :: replaceFrom pattern replacement 0 cs

/-- A text with every occurrence of a pattern replaced, from the left. -/
def replaceAll (pattern replacement cs : List Char) : List Char :=
  if pattern.isEmpty then cs else replaceFrom pattern replacement 0 cs

/-! ### Escapes -/

/-- A character of a text between tags. -/
def escapeTextChar (c : Char) : List Char :=
  if c = '&' then "&amp;".toList
  else if c = '<' then "&lt;".toList
  else if c = '>' then "&gt;".toList
  else [c]

/-- A character of a value between double quotes. -/
def escapeAttrChar (c : Char) : List Char :=
  if c = '\x22' then "&quot;".toList else escapeTextChar c

/-- A text as it is written between tags. -/
def escapeText (text : List Char) : List Char := text.flatMap escapeTextChar

/-- A value as it is written between double quotes. -/
def escapeAttr (value : List Char) : List Char := value.flatMap escapeAttrChar

/-- A script without the start of the tag that would end it. -/
def escapeScript (script : List Char) : List Char :=
  replaceAll "</script".toList "<\\/script".toList script

/-! ### The template -/

/-- Where the title goes. -/
def titleMarker : List Char := "__TSPLAY_TITLE__".toList

/-- Where the scripts go that are loaded in front. -/
def preludeMarker : List Char := "__TSPLAY_PRELUDE__".toList

/-- Where the script goes. -/
def scriptMarker : List Char := "__TSPLAY_SCRIPT__".toList

/-- The page, with markers in it. -/
def template : List Char :=
  "<!DOCTYPE html>\n<html>\n<head>\n<meta charset=\"utf-8\">\n".toList
    ++ "<meta name=\"viewport\" content=\"width=device-width, initial-scale=1\">\n".toList
    ++ "<title>".toList ++ titleMarker ++ "</title>\n".toList
    ++ preludeMarker ++ "\n</head>\n<body>\n<div id=\"root\"></div>\n<script>\n".toList
    ++ "(function () \x7b\n".toList ++ scriptMarker
    ++ "\n\x7d)();\n</script>\n</body>\n</html>\n".toList

/-- The tag that loads a script. -/
def preludeTag (source : String) : List Char :=
  "<script src=\"".toList ++ escapeAttr source.toList ++ "\"></script>".toList

/-- The tags that load scripts, one on a line. -/
def preludeTags (prelude : List String) : List Char := joined '\n' (prelude.map preludeTag)

/-- What the function holds: the script, behind the line that makes it strict. -/
def scriptBody (strict : Bool) (script : String) : List Char :=
  (if strict then "\"use strict\";\n".toList else []) ++ escapeScript script.toList

/-- The page of a script. -/
def document (title : String) (prelude : List String) (strict : Bool) (script : String) :
    String :=
  -- markers in the title are found by the steps behind it, those in the script by none
  let titled := replaceAll titleMarker (escapeText title.toList) template
  let loaded := replaceAll preludeMarker (preludeTags prelude) titled
  String.ofList (replaceAll scriptMarker (scriptBody strict script) loaded)

end Playground.Sandbox
