import ColorSpans.Numeral.Reading

/-! A channel's text: an integer of 0 to 255, or a share of 255 in percent. -/
namespace ColorSpans
open Numeral

def percentChannel (x : Float) : Except NumeralError (Option Int) :=
  match Numeral.floor (x / 100 * 255) with
  | .ok n => .ok (some n)
  | .error .notANumber => .ok none
  | .error e => .error e

def integerChannel (text : List Char) : Option Int :=
  match readInt text with
  | .ok n => n
  | .error _ => none

def byteOnly (n : Int) : Option Int := if 0 ≤ n ∧ n ≤ 255 then some n else none

theorem byteOnly_eq_some {n m : Int} (h : byteOnly n = some m) : m = n ∧ 0 ≤ m ∧ m ≤ 255 := by
  simp only [byteOnly] at h
  split at h
  · simp only [Option.some.injEq] at h; omega
  · simp at h

/-- An infinite percentage is an error; any other text that is no channel reads as `none`. -/
def readChannel (text : List Char) : Except NumeralError (Option Int) :=
  if text.getLast? == some '%' then
    match readFloat text.dropLast with
    | none => .ok none
    | some x => (percentChannel x).map (·.bind byteOnly)
  else .ok ((integerChannel text).bind byteOnly)

end ColorSpans
