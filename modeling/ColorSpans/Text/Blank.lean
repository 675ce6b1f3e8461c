/-! Blank characters and the texts without them at either end. -/
namespace ColorSpans.Text

/-- The blanks of every script, the four information separators among them. -/
def isBlank (c : Char) : Bool :=
  let n := c.toNat
  (9 ≤ n && n ≤ 13) || (28 ≤ n && n ≤ 32) || n == 0x85 || n == 0xa0 || n == 0x1680 ||
    (0x2000 ≤ n && n ≤ 0x200a) || n == 0x2028 || n == 0x2029 || n == 0x202f || n == 0x205f ||
    n == 0x3000

/-- The information separators stand between the units of a record. -/
def isInformationSeparator (c : Char) : Bool := 28 ≤ c.toNat && c.toNat ≤ 31

def dropBlanks (cs : List Char) : List Char := cs.dropWhile isBlank

/-- Without the characters of a class at either end. -/
def dropAround (p : Char → Bool) (cs : List Char) : List Char :=
  ((cs.dropWhile p).reverse.dropWhile p).reverse

def trim (cs : List Char) : List Char := dropAround isBlank cs

def trimText (text : String) : String := String.ofList (trim text.toList)

end ColorSpans.Text
