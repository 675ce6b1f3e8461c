import ColorSpans.Numeral.Reading
import ColorSpans.Text.Columns
import ColorSpans.Text.Quoted

/-! What can go wrong at a column. -/
namespace ColorSpans
open Numeral

inductive ColumnError
  | outsideLine
  | uncountable
  /-- A pattern cannot be looked for there. -/
  | uncountableStart
  /-- What was read from the end of the line on is no entry of the table it was looked up in. -/
  | noEntry (key : String)
  | numeral (e : NumeralError)

namespace ColumnError

def message : ColumnError → String
  | .outsideLine => "string index out of range"
  | .uncountable => "cannot fit 'int' into an index-sized integer"
  | .uncountableStart => "Python int too large to convert to C ssize_t"
  | .noEntry key => Text.quoted key
  | .numeral e => e.message

def outside (column : Int) : ColumnError :=
  if Text.isCountable column then .outsideLine else .uncountable

end ColumnError

end ColorSpans
