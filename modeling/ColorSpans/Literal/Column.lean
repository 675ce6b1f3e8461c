import ColorSpans.Literal.Functional
import ColorSpans.Literal.Hex
import ColorSpans.Literal.Reference
import ColorSpans.Names.Table

/-! Reading at any column, with what can go wrong there. Patterns are looked for at countable
columns only. At a negative column a word is read on from the end of the line, so what comes up need
not be a word. -/
namespace ColorSpans
open Numeral

def readFunctionFrom (a : Arithmetic) (f : ColorFunction) (line : List Char) (column : Int) :
    Except ColumnError (Option Reading) :=
  if column < 0 && !Text.isCountable column then .error .uncountableStart
  else (readFunctionAt a f line column).mapError .numeral

def readReferenceFrom (definitions : Definitions) (line : List Char) (column : Int) :
    Except ColumnError (Option Reading) :=
  if !Text.isCountable column then .error .uncountableStart
  else .ok (readReferenceAt definitions line column)

def readNameFromEnd (table : NameTable) (line : List Char) (column : Int) :
    Except ColumnError (Option Reading) := do
  if table.colors.isEmpty || line.length - column < table.minLength then return none
  let some name ← table.trie.longestFrom line column | return none
  if isIdentifierCode (codeAt line (column + name.length)) then return none
  match table.lookup? (String.ofList name) with
  | some color => return some ⟨name.length, color⟩
  | none => throw (.noEntry (String.ofList name))

def readNameAt (table : NameTable) (line : List Char) (column : Int) :
    Except ColumnError (Option Reading) :=
  if column < 0 then readNameFromEnd table line column
  else .ok (table.readAt line column.toNat)

end ColorSpans
