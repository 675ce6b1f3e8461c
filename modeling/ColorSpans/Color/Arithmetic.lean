import ColorSpans.Color.Hsl

/-! What functional literals need of doubles. Decoders are given it, so that what they make of its
results can be said of every arithmetic. -/
namespace ColorSpans
open Numeral

structure Arithmetic where
  /-- Folds an opacity of zero to one into every channel, rounding down. -/
  premultiply : Rgb → Float → Except NumeralError Rgb
  /-- The channels of a hue, a saturation and a lightness; `none` outside the range. -/
  ofHsl : Hsl → Except NumeralError (Option Rgb)

namespace Arithmetic

def double : Arithmetic := ⟨Rgb.premultiply, Hsl.toRgb⟩

end Arithmetic

end ColorSpans
