import ColorSpans.Json.Strict

/-! The relaxed dialect: comments, closing commas, bare keys, single quotes, a sign before a number,
bare points and hexadecimal integers. -/
namespace ColorSpans.Json
open Numeral Text

def isBreak (c : Char) : Bool := c == '\n' || c == '\r' || c == '\u2028' || c == '\u2029'

def isGap (c : Char) : Bool :=
  c == ' ' || c == '\t' || c == '\x0b' || c == '\x0c' || c == '\ufeff' || isBreak c ||
    isSpaceSeparator c

/-- The rest after a block comment, of which `cs` follows the opening. -/
def afterBlock? : Rest → Option Rest
  | [] => none
  | '*' :: '/' :: rest => some rest
  | _ :: rest => afterBlock? rest

/-- Blanks and comments; `fuel` bounds their number. A comment that is never closed is left
standing. -/
def skipGaps : Nat → Rest → Rest
  | 0, cs => cs
  | fuel + 1, '/' :: '/' :: rest => skipGaps fuel (rest.dropWhile fun c => !isBreak c)
  | fuel + 1, '/' :: '*' :: rest =>
      match afterBlock? rest with
      | some after => skipGaps fuel after
      | none => '/' :: '*' :: rest
  | fuel + 1, c :: rest => if isGap c then skipGaps fuel rest else c :: rest
  | _ + 1, [] => []

def skipRelaxed (cs : Rest) : Rest := skipGaps (cs.length + 1) cs

inductive Escape
  | char (c : Char)
  | nothing

/-- What stands after a backslash, with the rest. -/
def readEscape (cs : Rest) : Option (Escape × Rest) :=
  match cs with
  | [] => none
  | 'b' :: rest => some (.char '\x08', rest)
  | 'f' :: rest => some (.char '\x0c', rest)
  | 'n' :: rest => some (.char '\n', rest)
  | 'r' :: rest => some (.char '\r', rest)
  | 't' :: rest => some (.char '\t', rest)
  | 'v' :: rest => some (.char '\x0b', rest)
  | 'x' :: rest => (readHex 2 rest).map fun (n, rest) => (.char (Char.ofNat n), rest)
  | 'u' :: rest => (readUnicodeEscape rest).map fun (c, rest) => (.char c, rest)
  | '\r' :: '\n' :: rest => some (.nothing, rest)
  | '0' :: rest =>
      match rest with
      | d :: _ => if d.isDigit then none else some (.char '\x00', rest)
      | [] => some (.char '\x00', rest)
  | c :: rest =>
      if isBreak c then some (.nothing, rest)
      else if c.isDigit then none
      else some (.char c, rest)

/-- The characters up to the closing quote. Of the line breaks only a line feed and a carriage
return need a backslash before them. -/
def readQuoted (quote : Char) : Nat → Rest → Except ReadError (List Char × Rest)
  | 0, _ => .error .malformed
  | _ + 1, [] => .error .malformed
  | fuel + 1, c :: rest =>
      if c == quote then .ok ([], rest)
      else if c == '\\' then
        match readEscape rest with
        | some (.char e, rest) => (readQuoted quote fuel rest).map fun (cs, rest) => (e :: cs, rest)
        | some (.nothing, rest) => readQuoted quote fuel rest
        | none => .error .malformed
      else if c == '\n' || c == '\r' then .error .malformed
      else (readQuoted quote fuel rest).map fun (cs, rest) => (c :: cs, rest)

def relaxedString (quote : Char) (rest : Rest) : Except ReadError (String × Rest) :=
  (readQuoted quote (rest.length + 1) rest).map fun (cs, rest) => (String.ofList cs, rest)

def startsKey (c : Char) : Bool := c == '$' || c == '_' || isLetter c || isLetterNumber c

def continuesKey (c : Char) : Bool :=
  startsKey c || isDigit c || isMark c || isConnector c || c == '\u200c' || c == '\u200d'

/-- A bare key may spell its characters as escapes. -/
def readBareKey (accepts : Char → Bool) : Nat → Rest → List Char × Rest
  | 0, cs => ([], cs)
  | fuel + 1, '\\' :: 'u' :: rest =>
      match readUnicodeEscape rest with
      | some (c, after) =>
          let (cs, rest) := readBareKey continuesKey fuel after
          (c :: cs, rest)
      | none => ([], '\\' :: 'u' :: rest)
  | fuel + 1, c :: rest =>
      if accepts c then
        let (cs, rest) := readBareKey continuesKey fuel rest
        (c :: cs, rest)
      else ([], c :: rest)
  | _ + 1, [] => ([], [])

def relaxedKey (cs : Rest) : Except ReadError (String × Rest) :=
  match cs with
  | '"' :: rest => relaxedString '"' rest
  | '\'' :: rest => relaxedString '\'' rest
  | _ =>
      match readBareKey startsKey (cs.length + 1) cs with
      | ([], _) => .error .malformed
      | (key, rest) => .ok (String.ofList key, rest)

def relaxedHex (negative : Bool) (digits : Rest) : Except ReadError (Json × Rest) :=
  let run := digits.takeWhile fun c => (hexDigitValue? c).isSome
  if run.isEmpty then .error .malformed
  else
    let n : Nat := (run.filterMap hexDigitValue?).foldl (fun n d => 16 * n + d) 0
    .ok (.int (if negative then -(n : Int) else n), digits.drop run.length)

def relaxedDecimal (negative : Bool) (cs : Rest) : Except ReadError (Json × Rest) :=
  let whole := cs.takeWhile Char.isDigit
  let rest := cs.dropWhile Char.isDigit
  let (part, rest) := match rest with
    | '.' :: more => (some (more.takeWhile Char.isDigit), more.dropWhile Char.isDigit)
    | _ => (none, rest)
  let (exponent, rest) := match rest with
    | e :: more =>
        if e == 'e' || e == 'E' then
          let (sign, digits) := match more with
            | s :: after => if s == '-' || s == '+' then ([s], after) else ([], more)
            | [] => ([], [])
          (some (sign ++ digits.takeWhile Char.isDigit), digits.dropWhile Char.isDigit)
        else (none, rest)
    | [] => (none, rest)
  let glued := match rest with
    | c :: _ => startsKey c
    | [] => false
  if (1 < whole.length && whole.head? == some '0') || (whole.isEmpty && part.isNone) || glued then
    .error .malformed
  else (NumberText.value ⟨negative, whole, part, exponent⟩).map fun value => (value, rest)

/-- A number has at most one sign, whatever its spelling. -/
def relaxedNumber (cs : Rest) : Except ReadError (Json × Rest) :=
  let (negative, cs) := splitSign cs
  match cs with
  | '0' :: 'x' :: digits => relaxedHex negative digits
  | '0' :: 'X' :: digits => relaxedHex negative digits
  | _ =>
      let words := [("Infinity", .float (if negative then -1.0 / 0.0 else 1.0 / 0.0)),
        ("NaN", .float (0.0 / 0.0))]
      match readWord words cs with
      | some result => .ok result
      | none => relaxedDecimal negative cs

def relaxedSingle (cs : Rest) : Except ReadError (Json × Rest) :=
  match cs with
  | '"' :: rest => (relaxedString '"' rest).map fun (s, rest) => (.str s, rest)
  | '\'' :: rest => (relaxedString '\'' rest).map fun (s, rest) => (.str s, rest)
  | _ =>
      match readWord [("null", .null), ("true", .bool true), ("false", .bool false)] cs with
      | some result => .ok result
      | none => relaxedNumber cs

def relaxed : Dialect := ⟨skipRelaxed, relaxedSingle, relaxedKey, true⟩

def readRelaxed (text : List Char) : Except ReadError Json := read relaxed text

end ColorSpans.Json
