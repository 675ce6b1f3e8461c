import ColorSpans.Json.Basic
import ColorSpans.Numeral.Reading

/-! Reading JSON documents. Arrays and objects are read alike in every dialect; a dialect says what
stands between values, how keys and single values are spelled, and whether a comma may close a
list. -/
namespace ColorSpans.Json
open Numeral

inductive ReadError
  | malformed
  | unreadableNumber (reason : NumeralError)

abbrev Rest := List Char

structure Dialect where
  skip : Rest → Rest
  single : Rest → Except ReadError (Json × Rest)
  key : Rest → Except ReadError (String × Rest)
  closingComma : Bool

mutual

def readValue (d : Dialect) : Nat → Rest → Except ReadError (Json × Rest)
  | 0, _ => .error .malformed
  | fuel + 1, '[' :: rest =>
      match d.skip rest with
      | ']' :: rest => .ok (.arr [], rest)
      | rest => (readItems d fuel rest).map fun (items, rest) => (.arr items, rest)
  | fuel + 1, '\x7b' :: rest =>
      match d.skip rest with
      | '\x7d' :: rest => .ok (.obj [], rest)
      | rest => (readMembers d fuel rest).map fun (members, rest) => (ofMembers members, rest)
  | _ + 1, cs => d.single cs

def readItems (d : Dialect) : Nat → Rest → Except ReadError (List Json × Rest)
  | 0, _ => .error .malformed
  | fuel + 1, cs => do
      let (item, rest) ← readValue d fuel cs
      match d.skip rest with
      | ']' :: rest => .ok ([item], rest)
      | ',' :: rest =>
          match d.closingComma, d.skip rest with
          | true, ']' :: rest => .ok ([item], rest)
          | _, rest => (readItems d fuel rest).map fun (items, rest) => (item :: items, rest)
      | _ => .error .malformed

def readMembers (d : Dialect) : Nat → Rest → Except ReadError (Members × Rest)
  | 0, _ => .error .malformed
  | fuel + 1, cs => do
      let (key, rest) ← d.key cs
      match d.skip rest with
      | ':' :: rest =>
          let (value, rest) ← readValue d fuel (d.skip rest)
          match d.skip rest with
          | '\x7d' :: rest => .ok ([(key, value)], rest)
          | ',' :: rest =>
              match d.closingComma, d.skip rest with
              | true, '\x7d' :: rest => .ok ([(key, value)], rest)
              | _, rest =>
                  (readMembers d fuel rest).map fun (members, rest) =>
                    ((key, value) :: members, rest)
          | _ => .error .malformed
      | _ => .error .malformed

end

/-- Every level of nesting and every item takes a character, so the fuel suffices. -/
def read (d : Dialect) (text : List Char) : Except ReadError Json := do
  let (value, rest) ← readValue d (2 * text.length + 2) (d.skip text)
  match d.skip rest with
  | [] => .ok value
  | _ => .error .malformed

/-- The rest of `cs` after a fixed word. -/
def afterWord? : List Char → Rest → Option Rest
  | [], cs => some cs
  | _ :: _, [] => none
  | w :: word, c :: cs => if w == c then afterWord? word cs else none

def hexDigitValue? (c : Char) : Option Nat :=
  let n := c.toNat
  if c.isDigit then some (n - 0x30)
  else if 0x61 ≤ n && n ≤ 0x66 then some (n - 0x57)
  else if 0x41 ≤ n && n ≤ 0x46 then some (n - 0x37)
  else none

/-- The value of exactly `count` hexadecimal digits. -/
def readHex (count : Nat) (cs : Rest) : Option (Nat × Rest) :=
  let digits := (cs.take count).filterMap hexDigitValue?
  if digits.length == count then some (digits.foldl (fun n d => 16 * n + d) 0, cs.drop count)
  else none

theorem length_readHex {count n : Nat} {cs rest : Rest} (h : readHex count cs = some (n, rest)) :
    rest.length ≤ cs.length := by
  simp only [readHex] at h
  split at h
  · simp only [Option.some.injEq, Prod.mk.injEq] at h
    rw [← h.2, List.length_drop]; omega
  · simp at h

/-- The second half of a pair of surrogates. -/
def readLowSurrogate : Rest → Option (Nat × Rest)
  | '\\' :: 'u' :: rest => (readHex 4 rest).filter fun unit => 0xdc00 ≤ unit.1 && unit.1 < 0xe000
  | _ => none

theorem length_readLowSurrogate {n : Nat} {cs rest : Rest}
    (h : readLowSurrogate cs = some (n, rest)) :
    rest.length ≤ cs.length := by
  unfold readLowSurrogate at h
  split at h
  · have := length_readHex (Option.filter_eq_some_iff.1 h).1
    simp only [List.length_cons]; omega
  · cases h

/-- The character of a `\u` escape, of which `cs` is the rest. A high surrogate takes a low one with
it; one that stands alone is replaced. -/
def readUnicodeEscape (cs : Rest) : Option (Char × Rest) :=
  match readHex 4 cs with
  | none => none
  | some (unit, rest) =>
      if 0xd800 ≤ unit && unit < 0xdc00 then
        match readLowSurrogate rest with
        | some (low, after) =>
            some (Char.ofNat (0x10000 + (unit - 0xd800) * 0x400 + (low - 0xdc00)), after)
        | none => some ('\ufffd', rest)
      else if 0xdc00 ≤ unit && unit < 0xe000 then some ('\ufffd', rest)
      else some (Char.ofNat unit, rest)

theorem length_readUnicodeEscape {c : Char} {cs rest : Rest}
    (h : readUnicodeEscape cs = some (c, rest)) :
    rest.length ≤ cs.length := by
  unfold readUnicodeEscape at h
  split at h
  · cases h
  · rename_i unit more hex
    have first := length_readHex hex
    split at h
    · split at h
      · rename_i low
        simp only [Option.some.injEq, Prod.mk.injEq] at h
        exact h.2 ▸ Nat.le_trans (length_readLowSurrogate low) first
      · simp only [Option.some.injEq, Prod.mk.injEq] at h
        exact h.2 ▸ first
    · split at h <;> (simp only [Option.some.injEq, Prod.mk.injEq] at h; exact h.2 ▸ first)

/-- The spelling of a number: sign, digits and what follows them. -/
structure NumberText where
  negative : Bool
  whole : List Char
  part : Option (List Char)
  exponent : Option (List Char)

def NumberText.value (n : NumberText) : Except ReadError Json :=
  match n.part, n.exponent with
  | none, none =>
      if digitLimit < n.whole.length then .error (.unreadableNumber (.tooManyDigits n.whole.length))
      else
        let m : Int := digitsValue (decimalDigits n.whole)
        .ok (.int (if n.negative then -m else m))
  | part, exponent =>
      let part := part.getD []
      if n.whole.isEmpty && part.isEmpty then .error .malformed
      else match exponent with
        | none => .ok (.float (Scientific.toFloat ⟨n.negative, n.whole, part, 0⟩))
        | some text =>
            match readExponent text with
            | some e => .ok (.float (Scientific.toFloat ⟨n.negative, n.whole, part, e⟩))
            | none => .error .malformed

end ColorSpans.Json
