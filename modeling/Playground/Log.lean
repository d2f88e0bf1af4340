/-!
# Log lines

A remark has a topic, whose colour it is shown in.  Details are shown only on request.
-/

namespace Playground

/-- Something noted while the program runs. -/
structure Remark where
  topic : String
  message : String
  /-- shown only on request -/
  isDetail : Bool := false
deriving DecidableEq, Inhabited, Repr

namespace Remark

/-- The escape character. -/
def escape : String := "\x1b"

/-- Text in a colour. -/
def inColour (colour text : String) : String :=
  escape ++ "[" ++ colour ++ "m" ++ text ++ escape ++ "[39m"

/-- Text in bold. -/
def inBold (text : String) : String := escape ++ "[1m" ++ text ++ escape ++ "[0m"

/-- Text that stands back. -/
def dimmed (text : String) : String := escape ++ "[2m" ++ text ++ escape ++ "[0m"

/-- The colour of a topic, whatever the case of its letters. -/
def colour (topic : String) : String :=
  match topic.map Char.toLower with
  | "watch" => "92"
  | "share" => "94"
  | "error" => "91"
  | "host" | "sandbox" => "90"
  | _ => "93"

/-- The line of a remark. -/
def line (r : Remark) : String :=
  escape ++ "[K" ++ inBold (inColour (colour r.topic) ("[" ++ r.topic ++ "]")) ++ " "
    ++ r.message ++ "\n"

/-- A detail. -/
def detail (topic message : String) : Remark := ⟨topic, message, true⟩

/-- What is shown of some remarks. -/
def shown (verbose : Bool) (remarks : List Remark) : String :=
  String.join ((remarks.filter fun r => verbose || !r.isDetail).map line)

end Remark

end Playground
