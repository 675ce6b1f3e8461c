import ColorSpans.Color.Arithmetic
import ColorSpans.Color.Channel
import ColorSpans.Literal.Reading
import ColorSpans.Text.Category
import ColorSpans.Text.Columns

/-! Functional literals `rgb()`, `rgba()`, `hsl()` and `hsla()`. Their arguments are separated
throughout by commas or throughout by blanks. -/
namespace ColorSpans
open Numeral Text

inductive Argument
  | channel
  | degrees
  | percent
  | opacity
  deriving DecidableEq, Repr

inductive Separator
  | comma
  | gap
  deriving DecidableEq, Repr

/-- The text of an argument that stands at a column, without the sign of a mandatory percentage, and
the column behind it. -/
def Argument.readAt (a : Argument) (chars : List Char) (column : Nat) : Option (List Char × Nat) :=
  let stop := runEnd isDigit chars column
  match a with
  | .channel =>
      if stop = column then none
      else if chars[stop]? = some '%' then some (between chars column (stop + 1), stop + 1)
      else some (between chars column stop, stop)
  | .degrees => if stop = column then none else some (between chars column stop, stop)
  | .percent =>
      if stop = column then none
      else if chars[stop]? = some '%' then some (between chars column stop, stop + 1)
      else none
  | .opacity =>
      let stop := runEnd (fun c => c == '.' || isDigit c) chars column
      if stop = column then none else some (between chars column stop, stop)

/-- The column behind a separator. -/
def Separator.skipAt? (sep : Separator) (chars : List Char) (column : Nat) : Option Nat :=
  let stop := runEnd isBlank chars column
  match sep with
  | .comma => if chars[stop]? = some ',' then some (runEnd isBlank chars (stop + 1)) else none
  | .gap => if stop = column then none else some stop

def readArgumentsAt (sep : Separator) (chars : List Char) :
    List Argument → Nat → Option (List (List Char) × Nat)
  | [], column => some ([], column)
  | [a], column => (a.readAt chars column).map fun (text, stop) => ([text], stop)
  | a :: more, column => do
      let (text, stop) ← a.readAt chars column
      let next ← sep.skipAt? chars stop
      let (texts, stop) ← readArgumentsAt sep chars more next
      return (text :: texts, stop)

inductive ColorFunction
  | rgb
  | rgba
  | hsl
  | hsla
  deriving DecidableEq, Repr

namespace ColorFunction

def keyword : ColorFunction → String
  | .rgb => "rgb"
  | .rgba => "rgba"
  | .hsl => "hsl"
  | .hsla => "hsla"

def arguments : ColorFunction → List Argument
  | .rgb => [.channel, .channel, .channel]
  | .rgba => [.channel, .channel, .channel, .opacity]
  | .hsl => [.degrees, .percent, .percent]
  | .hsla => [.degrees, .percent, .percent, .opacity]

/-- The shortest call of a function. -/
def shortest : ColorFunction → String
  | .rgb => "rgb(0,0,0)"
  | .rgba => "rgba(0,0,0,0)"
  | .hsl => "hsl(0,0%,0%)"
  | .hsla => "hsla(0,0%,0%,0)"

/-- The keyword and its bracket. -/
def opening (f : ColorFunction) : List Char := f.keyword.toList ++ ['(']

def callWithAt? (f : ColorFunction) (sep : Separator) (chars : List Char) (column : Nat) :
    Option (List (List Char) × Nat) := do
  if standsAt f.opening chars column then
    let first := runEnd isBlank chars (column + f.opening.length)
    let (texts, stop) ← readArgumentsAt sep chars f.arguments first
    let stop := runEnd isBlank chars stop
    if chars[stop]? = some ')' then some (texts, stop + 1) else none
  else none

/-- The argument texts of a call that stands at a column, and the column behind it. -/
def callAt? (f : ColorFunction) (chars : List Char) (column : Nat) :
    Option (List (List Char) × Nat) :=
  (f.callWithAt? .comma chars column).or (f.callWithAt? .gap chars column)

end ColorFunction

/-- An opacity of zero to one. -/
def readOpacity (text : List Char) : Option Float :=
  (readFloat text).filter fun alpha => 0 ≤ alpha && alpha ≤ 1

def rgbOfTexts (red green blue : List Char) : Except NumeralError (Option Rgb) := do
  let some red ← readChannel red | return none
  let some green ← readChannel green | return none
  let some blue ← readChannel blue | return none
  return some ⟨red, green, blue⟩

def readNatural (text : List Char) : Except NumeralError Nat :=
  (readInt text).map fun n => (n.getD 0).toNat

def hslOfTexts (a : Arithmetic) (hue saturation lightness : List Char) :
    Except NumeralError (Option Rgb) := do
  let hue ← readNatural hue
  let saturation ← readNatural saturation
  let lightness ← readNatural lightness
  if 360 < hue ∨ 100 < saturation ∨ 100 < lightness then return none
  else a.ofHsl (Hsl.ofDegrees hue saturation lightness)

def withOpacity (a : Arithmetic) (alpha : List Char) (color : Except NumeralError (Option Rgb)) :
    Except NumeralError (Option Rgb) := do
  let some alpha := readOpacity alpha | return none
  let some rgb ← color | return none
  return some (← a.premultiply rgb alpha)

/-- The color that a call's arguments name; `none` for arguments out of range. -/
def ColorFunction.color (a : Arithmetic) (f : ColorFunction) (texts : List (List Char)) :
    Except NumeralError (Option Rgb) :=
  match f, texts with
  | .rgb, [red, green, blue] => rgbOfTexts red green blue
  | .rgba, [red, green, blue, alpha] => withOpacity a alpha (rgbOfTexts red green blue)
  | .hsl, [hue, saturation, lightness] => hslOfTexts a hue saturation lightness
  | .hsla, [hue, saturation, lightness, alpha] =>
      withOpacity a alpha (hslOfTexts a hue saturation lightness)
  | _, _ => .ok none

/-- Where less is left of the line than any call of the function takes, none is looked for. A call
is met at the start of the line at the earliest; its length counts from the column. -/
def readFunctionAt (a : Arithmetic) (f : ColorFunction) (chars : List Char) (column : Int) :
    Except NumeralError (Option Reading) :=
  if chars.length - column < f.shortest.length then .ok none
  else match f.callAt? chars column.toNat with
    | none => .ok none
    | some (texts, stop) =>
        (f.color a texts).map fun color =>
          color.map fun c => ⟨(stop - column).toNat, c.hexText⟩

end ColorSpans
