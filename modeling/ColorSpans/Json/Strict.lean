import ColorSpans.Json.Reader

/-! The strict dialect: double quotes only, no comments and no closing comma. The words for
infinities and not-a-number are accepted. -/
namespace ColorSpans.Json

def skipBlanks (cs : Rest) : Rest :=
  cs.dropWhile fun c => c == ' ' || c == '\t' || c == '\n' || c == '\r'

def plainEscape? : Char → Option Char
  | '"' => some '"'
  | '\\' => some '\\'
  | '/' => some '/'
  | 'b' => some '\x08'
  | 'f' => some '\x0c'
  | 'n' => some '\n'
  | 'r' => some '\r'
  | 't' => some '\t'
  | _ => none

/-- What stands after a backslash, with the rest. -/
def readPlainEscape (cs : Rest) : Option (Char × Rest) :=
  match cs with
  | [] => none
  | 'u' :: rest => readUnicodeEscape rest
  | e :: rest => (plainEscape? e).map fun c => (c, rest)

theorem length_readPlainEscape {c : Char} {cs rest : Rest}
    (h : readPlainEscape cs = some (c, rest)) :
    rest.length ≤ cs.length := by
  unfold readPlainEscape at h
  split at h
  · cases h
  · have := length_readUnicodeEscape h
    simp only [List.length_cons]; omega
  · obtain ⟨_, _, found⟩ := Option.map_eq_some_iff.1 h
    cases found
    simp

/-- The characters up to the closing quote. -/
def readStringBody (cs : Rest) : Except ReadError (List Char × Rest) :=
  match cs with
  | [] => .error .malformed
  | c :: rest =>
      if c == '"' then .ok ([], rest)
      else if c == '\\' then
        match _h : readPlainEscape rest with
        | some (e, after) => (readStringBody after).map fun (cs, rest) => (e :: cs, rest)
        | none => .error .malformed
      else if c.toNat < 0x20 then .error .malformed
      else (readStringBody rest).map fun (cs, rest) => (c :: cs, rest)
termination_by cs.length
decreasing_by
  · have := length_readPlainEscape _h
    simp only [List.length_cons]; omega
  · simp

def readString : Rest → Except ReadError (String × Rest)
  | '"' :: rest => (readStringBody rest).map fun (cs, rest) => (String.ofList cs, rest)
  | _ => .error .malformed

/-- A zero stands alone before the fraction. -/
def readWhole (cs : Rest) : List Char × Rest :=
  match cs with
  | '0' :: rest => (['0'], rest)
  | _ => (cs.takeWhile Char.isDigit, cs.dropWhile Char.isDigit)

/-- A point counts only before a digit, an exponent letter only before digits. -/
def readNumber (negative : Bool) (cs : Rest) : Except ReadError (Json × Rest) :=
  let (whole, rest) := readWhole cs
  if whole.isEmpty then .error .malformed
  else
    let (part, rest) := match rest with
      | '.' :: more =>
          let digits := more.takeWhile Char.isDigit
          if digits.isEmpty then (none, rest) else (some digits, more.dropWhile Char.isDigit)
      | _ => (none, rest)
    let (exponent, rest) := match rest with
      | e :: more =>
          if e == 'e' || e == 'E' then
            let (sign, digits) := match more with
              | s :: after => if s == '-' || s == '+' then ([s], after) else ([], more)
              | [] => ([], [])
            let run := digits.takeWhile Char.isDigit
            if run.isEmpty then (none, rest)
              else (some (sign ++ run), digits.dropWhile Char.isDigit)
          else (none, rest)
      | [] => (none, rest)
    (NumberText.value ⟨negative, whole, part, exponent⟩).map fun value => (value, rest)

def strictWords : List (String × Json) :=
  [("null", .null), ("true", .bool true), ("false", .bool false), ("NaN", .float (0.0 / 0.0)),
   ("Infinity", .float (1.0 / 0.0)), ("-Infinity", .float (-1.0 / 0.0))]

def readWord (words : List (String × Json)) (cs : Rest) : Option (Json × Rest) :=
  words.findSome? fun (word, value) => (afterWord? word.toList cs).map fun rest => (value, rest)

def strictSingle (cs : Rest) : Except ReadError (Json × Rest) :=
  match cs with
  | '"' :: _ => (readString cs).map fun (s, rest) => (.str s, rest)
  | _ =>
      match readWord strictWords cs with
      | some result => .ok result
      | none =>
          match cs with
          | '-' :: rest => readNumber true rest
          | _ => readNumber false cs

def strict : Dialect := ⟨skipBlanks, strictSingle, readString, false⟩

/-- A document that opens with a byte order mark is malformed. -/
def readStrict (text : List Char) : Except ReadError Json := read strict text

end ColorSpans.Json
