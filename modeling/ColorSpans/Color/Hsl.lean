import ColorSpans.Color.Rgb

/-! Hue, saturation and lightness, each between zero and one. -/
namespace ColorSpans
open Numeral

/-- One channel of a hue: the circle is cut into sixths. -/
def hueChannel (p q t : Float) : Float :=
  let t := if t < 0 then t + 1 else t
  let t := if t > 1 then t - 1 else t
  if t < 1 / 6 then p + (q - p) * 6 * t
  else if t < 1 / 2 then q
  else if t < 2 / 3 then p + (q - p) * (2 / 3 - t) * 6
  else p

structure Hsl where
  hue : Float
  saturation : Float
  lightness : Float

namespace Hsl

def unitInterval (x : Float) : Bool := 0 ≤ x && x ≤ 1

def inRange (c : Hsl) : Bool :=
  unitInterval c.hue && unitInterval c.saturation && unitInterval c.lightness

/-- The channels before they are rounded down. -/
def channels (c : Hsl) : Float × Float × Float :=
  if c.saturation == 0 then (c.lightness * 255, c.lightness * 255, c.lightness * 255)
  else
    let q := if c.lightness < 0.5 then c.lightness * (1 + c.saturation)
      else c.lightness + c.saturation - c.lightness * c.saturation
    let p := 2 * c.lightness - q
    (255 * hueChannel p q (c.hue + 1 / 3), 255 * hueChannel p q c.hue,
      255 * hueChannel p q (c.hue - 1 / 3))

/-- `none` outside the range. -/
def toRgb (c : Hsl) : Except NumeralError (Option Rgb) :=
  if c.inRange then do
    let (red, green, blue) := c.channels
    return some ⟨← Numeral.floor red, ← Numeral.floor green, ← Numeral.floor blue⟩
  else .ok none

/-- A hue in degrees, the rest in percent. -/
def ofDegrees (hue saturation lightness : Nat) : Hsl :=
  ⟨hue.toFloat / 360, saturation.toFloat / 100, lightness.toFloat / 100⟩

end Hsl

end ColorSpans
