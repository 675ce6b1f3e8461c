import ColorSpans.Numeral.Hexadecimal
import ColorSpans.Text.Printable

/-! Texts shown between quotes. Single quotes are used unless the text holds one and no double
quote. -/
namespace ColorSpans.Text

def escapedChar (quote c : Char) : List Char :=
  let n := c.toNat
  if c == quote || c == '\\' then ['\\', c]
  else if c == '\n' then ['\\', 'n']
  else if c == '\r' then ['\\', 'r']
  else if c == '\t' then ['\\', 't']
  else if isPrintable c then [c]
  else if n ≤ 0xff then '\\' :: 'x' :: Numeral.paddedHex 2 n
  else if n ≤ 0xffff then '\\' :: 'u' :: Numeral.paddedHex 4 n
  else '\\' :: 'U' :: Numeral.paddedHex 8 n

def quoteFor (cs : List Char) : Char :=
  if cs.contains '\'' && !cs.contains '"' then '"' else '\''

def quoted (text : String) : String :=
  let cs := text.toList
  let quote := quoteFor cs
  String.ofList (quote :: cs.flatMap (escapedChar quote) ++ [quote])

end ColorSpans.Text
