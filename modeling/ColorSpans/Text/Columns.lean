/-! Columns of a text. They may be counted from either end: a negative column lies as far before the
end, so -1 is the last one. -/
namespace ColorSpans.Text

variable {α : Type}

/-- The part from `start` up to `stop`. -/
def between (xs : List α) (start stop : Int) : List α :=
  let place (n : Int) : Nat := (if n < 0 then n + xs.length else n).toNat
  (xs.take (place stop)).drop (place start)

def charAt? (xs : List α) (column : Int) : Option α :=
  if 0 ≤ column then xs[column.toNat]?
  else if column.natAbs ≤ xs.length then xs[xs.length - column.natAbs]?
  else none

/-- Columns are counted in 64 bits. -/
def isCountable (column : Int) : Bool := -0x8000000000000000 ≤ column && column < 0x8000000000000000

/-- The column behind the characters of a class that stand from a column on. -/
def runEnd (p : α → Bool) (xs : List α) (column : Nat) : Nat :=
  if xs[column]?.any p then runEnd p xs (column + 1) else column
termination_by xs.length - column
decreasing_by
  have inside : column < xs.length := by
    apply Nat.lt_of_not_le
    intro outside
    simp_all
  omega

def standsAt [DecidableEq α] : List α → List α → Nat → Bool
  | [], _, _ => true
  | x :: word, xs, column => xs[column]? == some x && standsAt word xs (column + 1)

theorem between_natCast (xs : List α) (start stop : Nat) :
    between xs start stop = (xs.take stop).drop start := by
  have pos (n : Nat) : ¬((n : Int) < 0) := by omega
  simp [between, pos]

@[simp] theorem charAt?_natCast (xs : List α) (column : Nat) : charAt? xs column = xs[column]? := by
  simp [charAt?]

end ColorSpans.Text
