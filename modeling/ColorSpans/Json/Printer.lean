import ColorSpans.Json.Basic
import ColorSpans.Numeral.Hexadecimal
import ColorSpans.Numeral.Shortest

/-! Writing JSON documents, on one line or indented by two blanks a level. -/
namespace ColorSpans.Json
open Numeral

def writeChar (c : Char) : List Char :=
  match c with
  | '"' => ['\\', '"']
  | '\\' => ['\\', '\\']
  | '\n' => ['\\', 'n']
  | '\r' => ['\\', 'r']
  | '\t' => ['\\', 't']
  | '\x08' => ['\\', 'b']
  | '\x0c' => ['\\', 'f']
  | _ => if c.toNat < 0x20 then '\\' :: 'u' :: paddedHex 4 c.toNat else [c]

def writeString (s : String) : String :=
  String.ofList ('"' :: s.toList.flatMap writeChar ++ ['"'])

def writeNumber (x : Float) : String :=
  if x.isNaN then "NaN"
  else if x.isInf then if x < 0 then "-Infinity" else "Infinity"
  else writeFloat x

/-- `line` is the break between items at the depth of the opening bracket. -/
def enclose (opening closing line inner : String) (items : List String) : String :=
  if items.isEmpty then opening ++ closing
  else opening ++ inner ++ String.intercalate ("," ++ inner) items ++ line ++ closing

mutual

def pretty (line : String) : Json → String
  | .null => "null"
  | .bool b => if b then "true" else "false"
  | .int n => toString n
  | .float x => writeNumber x
  | .str s => writeString s
  | .arr items => enclose "[" "]" line (line ++ "  ") (prettyItems (line ++ "  ") items)
  | .obj members => enclose "\x7b" "\x7d" line (line ++ "  ") (prettyMembers (line ++ "  ") members)

def prettyItems (line : String) : List Json → List String
  | [] => []
  | item :: rest => pretty line item :: prettyItems line rest

def prettyMembers (line : String) : Members → List String
  | [] => []
  | (key, value) :: rest =>
      (writeString key ++ ": " ++ pretty line value) :: prettyMembers line rest

end

mutual

def compact : Json → String
  | .null => "null"
  | .bool b => if b then "true" else "false"
  | .int n => toString n
  | .float x => writeNumber x
  | .str s => writeString s
  | .arr items => "[" ++ String.intercalate "," (compactItems items) ++ "]"
  | .obj members => "\x7b" ++ String.intercalate "," (compactMembers members) ++ "\x7d"

def compactItems : List Json → List String
  | [] => []
  | item :: rest => compact item :: compactItems rest

def compactMembers : Members → List String
  | [] => []
  | (key, value) :: rest => (writeString key ++ ":" ++ compact value) :: compactMembers rest

end

end ColorSpans.Json
