import ColorSpans.Json.Basic
import ColorSpans.Numeral.Shortest
import ColorSpans.Text.Quoted

/-! The text of a value inside a message. -/
namespace ColorSpans.Json

mutual

def display : Json → String
  | .null => "None"
  | .bool b => if b then "True" else "False"
  | .int n => toString n
  | .float x => Numeral.writeFloat x
  | .str s => Text.quoted s
  | .arr items => "[" ++ String.intercalate ", " (displayItems items) ++ "]"
  | .obj members => "\x7b" ++ String.intercalate ", " (displayMembers members) ++ "\x7d"

def displayItems : List Json → List String
  | [] => []
  | item :: rest => display item :: displayItems rest

def displayMembers : Members → List String
  | [] => []
  | (key, value) :: rest => (Text.quoted key ++ ": " ++ display value) :: displayMembers rest

end

end ColorSpans.Json
