import ColorSpans.Numeral.Binary
import ColorSpans.Span
import ColorSpans.Viewport
import Std.Data.ExtTreeMap

/-! Colors that another program reports for the places of a document. -/
namespace ColorSpans
open Numeral

/-- Channels and opacity run from 0 to 1. -/
structure ExternalColor where
  line : Int
  start : Int
  stop : Int
  red : Float
  green : Float
  blue : Float
  alpha : Float

/-- Spans by line. -/
abbrev SpanMap := Std.ExtTreeMap Int (List Span)

namespace ExternalColor

/-- A channel on black, rounded down and kept within a byte. -/
def channel (value alpha : Float) : Except NumeralError Int :=
  (floor (value * alpha * 255)).map fun n => min 255 (max 0 n)

def rgb (c : ExternalColor) : Except NumeralError Rgb := do
  return ⟨← channel c.red c.alpha, ← channel c.green c.alpha, ← channel c.blue c.alpha⟩

def span (c : ExternalColor) : Except NumeralError Span :=
  c.rgb.map fun rgb => ⟨c.start, c.stop, rgb.hexText⟩

/-- Puts a span behind those of its line. -/
def addSpan (spans : SpanMap) (line : Int) (span : Span) : SpanMap :=
  spans.insert line (spans[line]?.getD [] ++ [span])

/-- The spans of the colors within a range, if one is given, each line's sorted by start. -/
def spans (colors : List ExternalColor) (range : Option LineRange) :
    Except NumeralError SpanMap := do
  let kept := colors.filter fun c => range.all (·.contains c.line)
  let byLine ← kept.foldlM (fun out c => c.span.map (addSpan out c.line)) ∅
  return byLine.map fun _ spans => Span.sorted spans

end ExternalColor

end ColorSpans
