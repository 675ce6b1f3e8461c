import ColorSpans.Color.Rgb

/-! Spans of a line and their colors. -/
namespace ColorSpans

/-- The columns from `start` up to `stop`, and their color as six hexadecimal digits. -/
structure Span where
  start : Int
  stop : Int
  color : String
  deriving DecidableEq, Repr

/-- Lines with their spans. -/
abbrev LineSpans := List (Int × List Span)

namespace Span

def length (s : Span) : Int := s.stop - s.start

def rgb (s : Span) : Except InvalidHexText Rgb := Rgb.ofHashText ("#" ++ s.color)

def overlaps (a b : Span) : Bool := a.start < b.stop && b.start < a.stop

def sorted (spans : List Span) : List Span := spans.mergeSort fun a b => a.start ≤ b.start

/-- Scanned spans and those external ones that overlap none of them, by start; of two spans with one
start the scanned one comes first. -/
def merge (scanned external : List Span) : List Span :=
  sorted (scanned ++ external.filter fun e => !scanned.any e.overlaps)

theorem sorted_perm (spans : List Span) : (sorted spans).Perm spans := List.mergeSort_perm ..

end Span

end ColorSpans
