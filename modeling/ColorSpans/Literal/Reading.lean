/-! What a decoder reads at a column of a line. -/
namespace ColorSpans

/-- A literal of `length` characters and its color. -/
structure Reading where
  length : Nat
  color : String
  deriving DecidableEq, Repr

end ColorSpans
