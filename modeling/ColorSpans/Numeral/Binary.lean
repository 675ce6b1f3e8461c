/-! Doubles as exact fractions: reading their parts, rounding down to an integer, and rounding a
fraction to the nearest double. -/
namespace ColorSpans.Numeral

inductive NumeralError
  | infinite
  | notANumber
  | tooLarge
  | tooManyDigits (count : Nat)
  deriving DecidableEq, Repr

def NumeralError.message : NumeralError → String
  | .infinite => "cannot convert float infinity to integer"
  | .notANumber => "cannot convert float NaN to integer"
  | .tooLarge => "int too large to convert to float"
  | .tooManyDigits count =>
      "Exceeds the limit (4300 digits) for integer string conversion: value has " ++
        toString count ++ " digits; use sys.set_int_max_str_digits() to increase the limit"

/-- A finite double is `± significand * 2 ^ (exponent - 1075)`, with the exponent counted from 1. -/
inductive Parts
  | finite (negative : Bool) (significand exponent : Nat)
  | infinite (negative : Bool)
  | notANumber

def fractionBits : Nat := Nat.pow 2 52

def parts (x : Float) : Parts :=
  let bits := x.toBits.toNat
  let negative := bits / Nat.pow 2 63 == 1
  let field := bits / fractionBits % Nat.pow 2 11
  let fraction := bits % fractionBits
  if field == 2047 then if fraction == 0 then .infinite negative else .notANumber
  else if field == 0 then .finite negative fraction 1
  else .finite negative (fractionBits + fraction) field

def floorParts (negative : Bool) (significand exponent : Nat) : Int :=
  let signed : Int := if negative then -(significand : Int) else significand
  if 1075 ≤ exponent then signed * (Nat.pow 2 (exponent - 1075) : Nat)
  else Int.fdiv signed (Nat.pow 2 (1075 - exponent) : Nat)

def floor (x : Float) : Except NumeralError Int :=
  match parts x with
  | .finite negative significand exponent => .ok (floorParts negative significand exponent)
  | .infinite _ => .error .infinite
  | .notANumber => .error .notANumber

/-- The quotient to the nearest integer; a half goes to the even neighbour. -/
def divNearest (num den : Nat) : Nat :=
  let q := num / den
  let r := num % den
  if 2 * r < den || (2 * r == den && q % 2 == 0) then q else q + 1

/-- The floor of the base-2 logarithm of a positive fraction. -/
def log2Ratio (num den : Nat) : Int :=
  let e : Int := (num.log2 : Int) - (den.log2 : Int)
  let reached := if 0 ≤ e then den <<< e.toNat ≤ num else den ≤ num <<< (-e).toNat
  if reached then e else e - 1

/-- The bits of the double nearest to a fraction; a half goes to the even neighbour. -/
def nearestBits (num den : Nat) : Nat :=
  if num == 0 then 0
  else
    let scale := max (log2Ratio num den - 52) (-1074)
    let q := if 0 ≤ scale then divNearest num (den <<< scale.toNat)
      else divNearest (num <<< (-scale).toNat) den
    if q < fractionBits then q
    else
      let bits := (scale + 1075).toNat * fractionBits + (q - fractionBits)
      min bits (2047 * fractionBits)

def ofRatio (negative : Bool) (num den : Nat) : Float :=
  Float.ofBits (UInt64.ofNat (nearestBits num den + if negative then Nat.pow 2 63 else 0))

/-- The nearest double, unless it is past the largest finite one. -/
def ofInt (n : Int) : Except NumeralError Float :=
  let x := ofRatio (n < 0) n.natAbs 1
  if x.isInf then .error .tooLarge else .ok x

end ColorSpans.Numeral
