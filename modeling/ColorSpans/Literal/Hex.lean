import ColorSpans.Color.Rgb
import ColorSpans.Literal.Reading
import ColorSpans.Text.Columns

/-! Hexadecimal literals: a number sign with three, six or eight digits, the last pair of eight
being the opacity, and `0x` with eight digits, the first pair being the opacity. -/
namespace ColorSpans

/-- The numbers of digits that a number sign may take. -/
structure HexLengths where
  three : Bool
  six : Bool
  eight : Bool
  deriving DecidableEq, Repr

namespace HexLengths

def none : HexLengths := ⟨false, false, false⟩

def contains (l : HexLengths) (n : Nat) : Bool :=
  (l.three && n == 3) || (l.six && n == 6) || (l.eight && n == 8)

def toList (l : HexLengths) : List Nat := [3, 6, 8].filter l.contains

def ofList (lengths : List Int) : HexLengths :=
  ⟨lengths.contains 3, lengths.contains 6, lengths.contains 8⟩

def isEmpty (l : HexLengths) : Bool := !(l.three || l.six || l.eight)

def least (l : HexLengths) : Nat := l.toList.head?.getD 0

def greatest (l : HexLengths) : Nat := l.toList.getLast?.getD 0

theorem mem_toList {l : HexLengths} {n : Nat} : n ∈ l.toList ↔ l.contains n = true := by
  rw [toList, List.mem_filter]
  refine ⟨And.right, fun h => ⟨?_, h⟩⟩
  simp only [contains, Bool.or_eq_true, Bool.and_eq_true, beq_iff_eq] at h
  rcases h with (⟨_, rfl⟩ | ⟨_, rfl⟩) | ⟨_, rfl⟩ <;> decide

theorem length_of_contains {l : HexLengths} {n : Nat} (h : l.contains n = true) :
    n = 3 ∨ n = 6 ∨ n = 8 := by
  simpa [toList] using (List.mem_filter.1 (mem_toList.2 h)).1

theorem least_le {l : HexLengths} {n : Nat} (h : l.contains n = true) : l.least ≤ n := by
  obtain ⟨three, six, eight⟩ := l
  rcases length_of_contains h with rfl | rfl | rfl <;> revert three six eight <;> decide

theorem le_greatest {l : HexLengths} {n : Nat} (h : l.contains n = true) : n ≤ l.greatest := by
  obtain ⟨three, six, eight⟩ := l
  rcases length_of_contains h with rfl | rfl | rfl <;> revert three six eight <;> decide

end HexLengths

/-- Eight digits `rrggbbaa`. -/
def colorWithAlphaLast (digits : List Char) : Rgb :=
  let n := hexNumber digits
  (Rgb.ofNat (n / 0x100)).premultiplyByte (n % 0x100 : Nat)

/-- Eight digits `aarrggbb`. -/
def colorWithAlphaFirst (digits : List Char) : Rgb :=
  let n := hexNumber digits
  (Rgb.ofNat (n % 0x1000000)).premultiplyByte (n / 0x1000000 : Nat)

def hashColor (digits : List Char) : String :=
  if digits.length = 8 then (colorWithAlphaLast digits).hexText
  else String.ofList (doubled (digits.map Char.toLower))

/-- Where a run of hexadecimal digits ends, as far as the columns up to `limit` show it. -/
def hexRunEnd (line : List Char) (stop limit : Int) : Int :=
  if stop < limit ∧ (Token.ofCode (codeAt line stop)).isHex then hexRunEnd line (stop + 1) limit
  else stop
termination_by (limit - stop).toNat

/-- One digit past the longest form is looked at, so that longer runs are seen and refused. An
alphanumeric character may not touch the literal on either side. -/
def readHashAt (lengths : HexLengths) (line : List Char) (column : Int) : Option Reading :=
  let start := column + 1
  if line.length < start + lengths.least then none
  else if 0 < column && isAlphanumericCode (codeAt line (column - 1)) then none
  else
    let stop := hexRunEnd line start (min (start + lengths.greatest + 1) line.length)
    let count := (stop - start).toNat
    if isAlphanumericCode (codeAt line stop) then none
    else if lengths.contains count then
      some ⟨count + 1, hashColor (Text.between line start stop)⟩
    else none

/-- Only the character after the literal matters. -/
def readArgbAt (line : List Char) (column : Int) : Option Reading :=
  if line.length - column < 10 then none
  else
    let start := column + 2
    let stop := hexRunEnd line start (min (start + 9) line.length)
    if isAlphanumericCode (codeAt line stop) then none
    else if stop - column = 10 then
      some ⟨10, (colorWithAlphaFirst (Text.between line start stop)).hexText⟩
    else none

end ColorSpans
