/-! Classes of single characters by code point. Only the digits and letters of ASCII have a class;
every other code, negative ones included, is `other`. -/
namespace ColorSpans

inductive Token
  | digit (value : Nat)
  | hexLetter (value : Nat)
  | letter
  | other
  deriving DecidableEq, Repr

namespace Token

def ofCode (code : Int) : Token :=
  if 0x30 ≤ code ∧ code ≤ 0x39 then .digit (code - 0x30).toNat
  else if 0x41 ≤ code ∧ code ≤ 0x46 then .hexLetter (code - 0x37).toNat
  else if 0x61 ≤ code ∧ code ≤ 0x66 then .hexLetter (code - 0x57).toNat
  else if (0x47 ≤ code ∧ code ≤ 0x5a) ∨ (0x67 ≤ code ∧ code ≤ 0x7a) then .letter
  else .other

def isAlphanumeric : Token → Bool
  | .other => false
  | _ => true

def hexValue? : Token → Option Nat
  | .digit value => some value
  | .hexLetter value => some value
  | _ => none

def isHex (t : Token) : Bool := t.hexValue?.isSome

/-- Zero for what is no hexadecimal digit. -/
def hexValue (t : Token) : Nat := t.hexValue?.getD 0

theorem isAlphanumeric_of_isHex {t : Token} (h : t.isHex = true) : t.isAlphanumeric = true := by
  cases t <;> simp_all [isHex, hexValue?, isAlphanumeric]

theorem hexValue_ofCode_lt (code : Int) : (ofCode code).hexValue < 16 := by
  unfold ofCode
  split
  · simp only [hexValue, hexValue?, Option.getD_some]; omega
  · split
    · simp only [hexValue, hexValue?, Option.getD_some]; omega
    · split
      · simp only [hexValue, hexValue?, Option.getD_some]; omega
      · split <;> decide

end Token

def isAlphanumericCode (code : Int) : Bool := (Token.ofCode code).isAlphanumeric

/-- A character of a color name: alphanumeric or a dash. -/
def isIdentifierCode (code : Int) : Bool := code == 0x2d || isAlphanumericCode code

def tokenOf (c : Char) : Token := Token.ofCode c.toNat

def isAlphanumeric (c : Char) : Bool := isAlphanumericCode c.toNat

def isIdentifier (c : Char) : Bool := isIdentifierCode c.toNat

def isHexDigit (c : Char) : Bool := (tokenOf c).isHex

def hexValue (c : Char) : Nat := (tokenOf c).hexValue

theorem isAlphanumeric_of_isHexDigit {c : Char} (h : isHexDigit c = true) :
    isAlphanumeric c = true :=
  Token.isAlphanumeric_of_isHex h

/-- The code point at a position of a text; zero outside it. -/
def codeAt (text : List Char) (index : Int) : Nat :=
  if index < 0 then 0 else ((text[index.toNat]?).map Char.toNat).getD 0

end ColorSpans
