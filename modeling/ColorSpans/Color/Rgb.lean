import ColorSpans.Numeral.Binary
import ColorSpans.Numeral.Hexadecimal
import ColorSpans.Text.Lowercase
import ColorSpans.Token

/-! Colors as three channels, and their text of six hexadecimal digits. -/
namespace ColorSpans
open Numeral

structure Rgb where
  red : Int
  green : Int
  blue : Int
  deriving DecidableEq, Repr, Inhabited

namespace Rgb

/-- Every channel is a byte. -/
def InRange (c : Rgb) : Prop :=
  (0 ≤ c.red ∧ c.red ≤ 255) ∧ (0 ≤ c.green ∧ c.green ≤ 255) ∧ (0 ≤ c.blue ∧ c.blue ≤ 255)

instance (c : Rgb) : Decidable c.InRange := by unfold InRange; infer_instance

def hexChars (c : Rgb) : List Char :=
  paddedHexInt 2 c.red ++ paddedHexInt 2 c.green ++ paddedHexInt 2 c.blue

def hexText (c : Rgb) : String := String.ofList c.hexChars

/-- The channels of a 24-bit number. -/
def ofNat (n : Nat) : Rgb :=
  ⟨(n / 0x10000 % 0x100 : Nat), (n / 0x100 % 0x100 : Nat), (n % 0x100 : Nat)⟩

theorem inRange_ofNat (n : Nat) : (ofNat n).InRange := by
  simp only [ofNat, InRange]
  omega

/-- Folds an opacity into every channel, rounding down. -/
def premultiply (c : Rgb) (alpha : Float) : Except NumeralError Rgb := do
  let red ← Numeral.floor ((← ofInt c.red) * alpha)
  let green ← Numeral.floor ((← ofInt c.green) * alpha)
  let blue ← Numeral.floor ((← ofInt c.blue) * alpha)
  return ⟨red, green, blue⟩

def scaleByte (channel alpha : Int) : Int := Int.fdiv (channel * alpha) 255

/-- Folds an opacity of 0 to 255 into every channel, rounding down. -/
def premultiplyByte (c : Rgb) (alpha : Int) : Rgb :=
  ⟨scaleByte c.red alpha, scaleByte c.green alpha, scaleByte c.blue alpha⟩

theorem scaleByte_mem {channel alpha : Int} (hc : 0 ≤ channel ∧ channel ≤ 255)
    (ha : 0 ≤ alpha ∧ alpha ≤ 255) :
    0 ≤ scaleByte channel alpha ∧ scaleByte channel alpha ≤ 255 := by
  have low : 0 ≤ channel * alpha := Int.mul_nonneg hc.1 ha.1
  have high : channel * alpha ≤ 255 * 255 := Int.mul_le_mul hc.2 ha.2 ha.1 (by omega)
  rw [scaleByte, Int.fdiv_eq_ediv_of_nonneg _ (by omega)]
  omega

theorem inRange_premultiplyByte {c : Rgb} {alpha : Int} (h : c.InRange)
    (ha : 0 ≤ alpha ∧ alpha ≤ 255) :
    (c.premultiplyByte alpha).InRange :=
  ⟨scaleByte_mem h.1 ha, scaleByte_mem h.2.1 ha, scaleByte_mem h.2.2 ha⟩

def brightnessThreshold : Float := 0.5

/-- Whether dark text reads better on the color; green weighs most. -/
def isBright (c : Rgb) : Except NumeralError Bool := do
  let red ← ofInt c.red
  let green ← ofInt c.green
  let blue ← ofInt c.blue
  return (0.299 * red + 0.587 * green + 0.114 * blue) / 255 > brightnessThreshold

end Rgb

/-- Three digits are doubled, six are kept. -/
def doubled (digits : List Char) : List Char :=
  if digits.length = 3 then digits.flatMap fun c => [c, c] else digits

def expandShortHex (text : String) : String :=
  String.ofList (doubled (Text.lower text).toList)

def hexNumber (digits : List Char) : Nat := digits.foldl (fun n c => 16 * n + hexValue c) 0

theorem hexNumber_append (a b : List Char) :
    hexNumber (a ++ b) = b.foldl (fun n c => 16 * n + hexValue c) (hexNumber a) := by
  simp [hexNumber]

structure InvalidHexText where
  text : String

def InvalidHexText.message (e : InvalidHexText) : String :=
  "\"" ++ e.text ++ "\" is not a valid hexadecimal color value."

/-- A number sign with three or six digits; a line feed may close the text. -/
def Rgb.ofHashText (text : String) : Except InvalidHexText Rgb :=
  match text.toList with
  | '#' :: rest =>
      let digits := if rest.getLast? == some '\n' then rest.dropLast else rest
      if (digits.length = 3 ∨ digits.length = 6) ∧ digits.all isHexDigit then
        .ok (Rgb.ofNat (hexNumber (doubled digits)))
      else .error ⟨text⟩
  | _ => .error ⟨text⟩

/-- The number sign may be missing. -/
def Rgb.ofHexText (text : String) : Except InvalidHexText Rgb :=
  if text.startsWith "#" then Rgb.ofHashText text else Rgb.ofHashText ("#" ++ text)

end ColorSpans
