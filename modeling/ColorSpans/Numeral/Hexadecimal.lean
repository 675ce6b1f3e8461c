/-! Hexadecimal digits in lowercase. -/
namespace ColorSpans.Numeral

def hexDigits (n : Nat) : List Char := Nat.toDigits 16 n

/-- At least `width` digits, with leading zeros. -/
def paddedHex (width n : Nat) : List Char :=
  let digits := hexDigits n
  List.replicate (width - digits.length) '0' ++ digits

/-- A sign counts towards the width. -/
def paddedHexInt (width : Nat) : Int → List Char
  | .ofNat n => paddedHex width n
  | .negSucc n => '-' :: paddedHex (width - 1) (n + 1)

end ColorSpans.Numeral
