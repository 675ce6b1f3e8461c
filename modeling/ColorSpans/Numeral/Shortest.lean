import ColorSpans.Numeral.Binary

/-! The fewest decimal digits that read back as a given double, and their written form. -/
namespace ColorSpans.Numeral

/-- A positive fraction with the bounds between which a text reads back as it. -/
structure Interval where
  low : Nat
  value : Nat
  high : Nat
  den : Nat
  closed : Bool

def Interval.ofParts (significand exponent : Nat) : Interval :=
  let narrow := significand == fractionBits && 1 < exponent
  let low := 4 * significand - if narrow then 1 else 2
  let high := 4 * significand + 2
  let closed := significand % 2 == 0
  if 1077 ≤ exponent then
    let scale := Nat.pow 2 (exponent - 1077)
    ⟨low * scale, 4 * significand * scale, high * scale, 1, closed⟩
  else ⟨low, 4 * significand, high, Nat.pow 2 (1077 - exponent), closed⟩

def digitCount (n : Nat) : Nat := (Nat.toDigits 10 n).length

/-- The floor of the decimal logarithm of `num / den`. -/
def log10Ratio (num den : Nat) : Int :=
  if den ≤ num then (digitCount (num / den) : Int) - 1 else -(digitCount ((den - 1) / num) : Int)

/-- `n * 10 ^ scale` lies in the interval. -/
def Interval.holds (i : Interval) (n : Nat) (scale : Int) : Bool :=
  let x := if 0 ≤ scale then n * Nat.pow 10 scale.toNat * i.den else n * i.den
  let unit := if 0 ≤ scale then 1 else Nat.pow 10 (-scale).toNat
  if i.closed then i.low * unit ≤ x && x ≤ i.high * unit else i.low * unit < x && x < i.high * unit

/-- The point of the grid `10 ^ scale` in the interval that is nearest to the value. -/
def Interval.onGrid (i : Interval) (scale : Int) : Option Nat :=
  let num := if 0 ≤ scale then i.value else i.value * Nat.pow 10 (-scale).toNat
  let den := if 0 ≤ scale then i.den * Nat.pow 10 scale.toNat else i.den
  let below := num / den
  let nearest := divNearest num den
  let other := if nearest == below then below + 1 else below
  if i.holds nearest scale then some nearest
  else if i.holds other scale then some other
  else none

/-- Digits and scale of the shortest form: the grids from one digit up are tried in turn. -/
def Interval.shortest (i : Interval) : Nat × Int :=
  let top := log10Ratio i.value i.den
  let grids := (List.range 17).map fun (n : Nat) => top - (n : Int)
  (grids.findSome? fun scale => (i.onGrid scale).map fun n => (n, scale)).getD (0, 0)

/-- Positional from 10⁻⁴ up to 10¹⁶, otherwise with an exponent of at least two digits. -/
def writeDecimal (digits : List Char) (point : Int) : List Char :=
  let trimmed := (digits.reverse.dropWhile (· == '0')).reverse
  if -4 < point && point ≤ 16 then
    if point ≤ 0 then '0' :: '.' :: List.replicate (-point).toNat '0' ++ trimmed
    else
      let whole := trimmed.take point.toNat
      let part := trimmed.drop point.toNat
      whole ++ List.replicate (point.toNat - whole.length) '0' ++
        '.' :: (if part.isEmpty then ['0'] else part)
  else
    let exponent := point - 1
    let sign := if exponent < 0 then '-' else '+'
    let size := (Nat.toDigits 10 exponent.natAbs)
    let head := match trimmed with
      | [] => ['0']
      | [d] => [d]
      | d :: rest => d :: '.' :: rest
    head ++ 'e' :: sign :: (if size.length < 2 then '0' :: size else size)

def writeFloat (x : Float) : String :=
  match parts x with
  | .notANumber => "nan"
  | .infinite negative => if negative then "-inf" else "inf"
  | .finite negative significand exponent =>
      let body :=
        if significand == 0 then ['0', '.', '0']
        else
          let (n, scale) := (Interval.ofParts significand exponent).shortest
          let digits := Nat.toDigits 10 n
          writeDecimal digits (scale + digits.length)
      String.ofList (if negative then '-' :: body else body)

end ColorSpans.Numeral
