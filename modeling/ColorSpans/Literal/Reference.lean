import ColorSpans.Literal.Reading
import ColorSpans.Text.Category
import ColorSpans.Text.Columns
import Std.Data.ExtTreeMap

/-! References `$name` to variables. -/
namespace ColorSpans

/-- The resolved color of every variable. -/
abbrev Definitions := Std.ExtTreeMap String String

/-- The longest name after the sign; a name that has no color yields nothing. A reference is met at
the start of the line at the earliest; its length counts from the column. -/
def readReferenceAt (definitions : Definitions) (chars : List Char) (column : Int) :
    Option Reading :=
  let first := column.toNat
  if chars[first]? = some '$' then
    let stop := Text.runEnd Text.isNameChar chars (first + 1)
    if stop = first + 1 then none
    else definitions[String.ofList (Text.between chars (first + 1) stop)]?.map fun color =>
      ⟨(stop - column).toNat, color⟩
  else none

end ColorSpans
