import ColorSpans.Color.Rgb
import ColorSpans.Json.Basic
import ColorSpans.Text.Blank

/-! The color values a host may give for a name: a 24-bit number, or three or six hexadecimal digits
with or without a number sign. -/
namespace ColorSpans

/-- Three or six hexadecimal digits after an optional number sign. -/
def bareHexDigits? (cs : List Char) : Option (List Char) :=
  let digits := match cs with
    | '#' :: rest => rest
    | _ => cs
  if (digits.length = 3 ∨ digits.length = 6) ∧ digits.all isHexDigit then some digits else none

def isHexText (text : String) : Bool := (bareHexDigits? text.toList).isSome

def colorOfNumber (n : Int) : Option String :=
  if 0 ≤ n ∧ n ≤ 0xffffff then some (String.ofList (Numeral.paddedHex 6 n.toNat)) else none

/-- Blanks around the digits are ignored. -/
def colorOfText (text : String) : Option String :=
  (bareHexDigits? (Text.trim text.toList)).map fun digits =>
    String.ofList (doubled (digits.map Char.toLower))

/-- The color of a host value, as six lowercase digits. -/
def normalizeColor : Json → Option String
  | .int n => colorOfNumber n
  | .str s => colorOfText s
  | _ => none

end ColorSpans
