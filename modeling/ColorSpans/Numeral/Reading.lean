import ColorSpans.Numeral.Binary
import ColorSpans.Text.Blank
import ColorSpans.Text.Category

/-! Reading integers and doubles from text. Digits of every script count, blanks around the number
are ignored unless they are information separators, and a single underscore may stand between two
digits. -/
namespace ColorSpans.Numeral
open Text

def digitLimit : Nat := 4300

def digitsValue (digits : List Nat) : Nat := digits.foldl (fun n d => 10 * n + d) 0

/-- Digits of any script become the ten ASCII ones. -/
def plainDigit (c : Char) : Char :=
  match digitValue? c with
  | some d => Nat.digitChar d
  | none => c

/-- A blank that may stand before or after a number. -/
def isPadding (c : Char) : Bool := isBlank c && !isInformationSeparator c

def plain (cs : List Char) : List Char := (dropAround isPadding cs).map plainDigit

def splitSign : List Char → Bool × List Char
  | '-' :: rest => (true, rest)
  | '+' :: rest => (false, rest)
  | rest => (false, rest)

/-- Removes the underscores; `none` if one does not stand between two digits. -/
def joinDigits (afterDigit : Bool) : List Char → Option (List Char)
  | [] => some []
  | '_' :: rest =>
      match rest with
      | d :: _ => if afterDigit && d.isDigit then joinDigits false rest else none
      | [] => none
  | c :: rest => (joinDigits c.isDigit rest).map (c :: ·)

def decimalDigits (cs : List Char) : List Nat := cs.map fun c => c.toNat - '0'.toNat

/-- `none` for a text that is no integer. -/
def readInt (text : List Char) : Except NumeralError (Option Int) :=
  let (negative, body) := splitSign (plain text)
  match joinDigits false body with
  | none => .ok none
  | some digits =>
      if digits.isEmpty || !digits.all Char.isDigit then .ok none
      else if digitLimit < digits.length then .error (.tooManyDigits digits.length)
      else
        let n : Int := digitsValue (decimalDigits digits)
        .ok (some (if negative then -n else n))

/-- `± whole.part * 10 ^ exponent`. -/
structure Scientific where
  negative : Bool
  whole : List Char
  part : List Char
  exponent : Int

/-- Fractions this far from one are infinite or zero, whatever their digits. -/
def exponentBound : Int := 400

def Scientific.toFloat (x : Scientific) : Float :=
  let digits := (decimalDigits (x.whole ++ x.part)).dropWhile (· == 0)
  let exponent : Int := x.exponent - x.part.length
  let top : Int := exponent + digits.length
  if digits.isEmpty || top < -exponentBound then ofRatio x.negative 0 1
  else if exponentBound < top then ofRatio x.negative (Nat.pow 10 exponentBound.toNat) 1
  else
    let n := digitsValue digits
    if 0 ≤ exponent then ofRatio x.negative (n * Nat.pow 10 exponent.toNat) 1
    else ofRatio x.negative n (Nat.pow 10 (-exponent).toNat)

/-- The exponent after its letter; `none` if no digit follows. -/
def readExponent (cs : List Char) : Option Int :=
  let (negative, digits) := splitSign cs
  if digits.isEmpty || !digits.all Char.isDigit then none
  else
    let n : Int := digitsValue (decimalDigits digits)
    some (if negative then -n else n)

def readScientific (negative : Bool) (cs : List Char) : Option Scientific :=
  let whole := cs.takeWhile Char.isDigit
  let rest := cs.dropWhile Char.isDigit
  let (part, rest) := match rest with
    | '.' :: more => (more.takeWhile Char.isDigit, more.dropWhile Char.isDigit)
    | _ => ([], rest)
  if whole.isEmpty && part.isEmpty then none
  else match rest with
    | [] => some ⟨negative, whole, part, 0⟩
    | e :: more =>
        if e == 'e' || e == 'E' then (readExponent more).map fun n => ⟨negative, whole, part, n⟩
        else none

def readFloat (text : List Char) : Option Float := do
  let joined ← joinDigits false (plain text)
  let (negative, body) := splitSign joined
  let word := String.ofList (body.map Char.toLower)
  if word == "inf" || word == "infinity" then
    return if negative then -1.0 / 0.0 else 1.0 / 0.0
  else if word == "nan" then return 0.0 / 0.0
  else return (← readScientific negative body).toFloat

end ColorSpans.Numeral
