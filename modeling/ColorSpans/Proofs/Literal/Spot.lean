import ColorSpans.Matcher
import ColorSpans.Proofs.Literal.Ahead
import ColorSpans.Proofs.Trie

/-! What a decoder sees of a line: the text from a column on and the one character before it. Every
decoder goes along the whole line by columns, and each of its steps is shown to be one on what lies
ahead, so the decoders of spots read the same. -/
namespace ColorSpans
open Numeral

structure Spot where
  before : Option Char
  ahead : List Char
  deriving DecidableEq, Repr

namespace Spot

def inLine (cs : List Char) (column : Nat) : Spot :=
  ⟨if column = 0 then none else cs[column - 1]?, cs.drop column⟩

def hexRun (s : Spot) (skip : Nat) : List Char := (s.ahead.drop skip).takeWhile isHexDigit

def hexRunUpTo (s : Spot) (skip limit : Nat) : List Char :=
  ((s.ahead.drop skip).take limit).takeWhile isHexDigit

def followedBy (s : Spot) (n : Nat) (p : Char → Bool) : Bool := s.ahead[n]?.any p

def precededBy (s : Spot) (p : Char → Bool) : Bool := s.before.any p

@[simp] theorem inLine_zero (chars : List Char) : Spot.inLine chars 0 = ⟨none, chars⟩ := by
  simp [Spot.inLine]

theorem length_hexRun_le (s : Spot) (skip : Nat) :
    (s.hexRun skip).length ≤ s.ahead.length - skip := by
  have shorter := (List.takeWhile_prefix (l := s.ahead.drop skip) isHexDigit).length_le
  rwa [List.length_drop] at shorter

theorem hexRunUpTo_eq (s : Spot) (skip limit : Nat) :
    s.hexRunUpTo skip limit = (s.hexRun skip).take limit :=
  List.take_takeWhile.symm

theorem followedBy_hexRunUpTo (s : Spot) (skip limit : Nat)
    (longer : limit < (s.hexRun skip).length) :
    s.followedBy ((s.hexRunUpTo skip limit).length + skip) isAlphanumeric = true := by
  have digit : (s.hexRun skip)[limit]? = s.ahead[skip + limit]? := by
    obtain ⟨behind, whole⟩ := List.takeWhile_prefix (l := s.ahead.drop skip) isHexDigit
    rw [← List.getElem?_drop, ← whole]
    exact (List.getElem?_append_left longer).symm
  have looked : (s.hexRunUpTo skip limit).length + skip = skip + limit := by
    rw [hexRunUpTo_eq, List.length_take]
    omega
  have isDigit : isHexDigit (s.hexRun skip)[limit] = true :=
    List.all_eq_true.1 List.all_takeWhile _ (List.getElem_mem longer)
  rw [followedBy, looked, ← digit, List.getElem?_eq_getElem longer]
  exact isAlphanumeric_of_isHexDigit isDigit

theorem ahead_inLine (chars : List Char) (column : Nat) :
    (Spot.inLine chars column).ahead = chars.drop column := rfl

end Spot

/-- One digit past the longest form is looked at, so that longer runs are seen and refused. An
alphanumeric character may not touch the literal on either side. -/
def readHash (lengths : HexLengths) (s : Spot) : Option Reading :=
  if s.ahead.length < lengths.least + 1 || s.precededBy isAlphanumeric then none
  else
    let digits := s.hexRunUpTo 1 (lengths.greatest + 1)
    let stop := digits.length + 1
    if s.followedBy stop isAlphanumeric then none
    else if lengths.contains digits.length then some ⟨stop, hashColor digits⟩
    else none

def readArgb (s : Spot) : Option Reading :=
  if s.ahead.length < 10 then none
  else
    let digits := s.hexRunUpTo 2 9
    let stop := digits.length + 2
    if s.followedBy stop isAlphanumeric then none
    else if digits.length = 8 then some ⟨stop, (colorWithAlphaFirst digits).hexText⟩
    else none

theorem readHash_eq (lengths : HexLengths) (s : Spot) :
    readHash lengths s =
      if s.precededBy isAlphanumeric || s.followedBy ((s.hexRun 1).length + 1) isAlphanumeric
        then none
      else if lengths.contains (s.hexRun 1).length then
        some ⟨(s.hexRun 1).length + 1, hashColor (s.hexRun 1)⟩
      else none := by
  have room := s.length_hexRun_le 1
  have short (few : s.ahead.length < lengths.least + 1) :
      lengths.contains (s.hexRun 1).length = false := by
    refine Bool.eq_false_iff.2 fun enabled => ?_
    have := HexLengths.least_le enabled
    have := HexLengths.length_of_contains enabled
    omega
  have seen (fits : (s.hexRun 1).length ≤ lengths.greatest + 1) :
      s.hexRunUpTo 1 (lengths.greatest + 1) = s.hexRun 1 := by
    rw [Spot.hexRunUpTo_eq, List.take_of_length_le fits]
  by_cases few : s.ahead.length < lengths.least + 1
  · simp [readHash, few, short few]
  · by_cases fits : (s.hexRun 1).length ≤ lengths.greatest + 1
    · cases before : s.precededBy isAlphanumeric <;> simp [readHash, few, seen fits, before]
    · have unknown : lengths.contains (s.hexRun 1).length = false := by
        refine Bool.eq_false_iff.2 fun enabled => ?_
        have := HexLengths.le_greatest enabled
        omega
      have glued := s.followedBy_hexRunUpTo 1 (lengths.greatest + 1) (by omega)
      simp [readHash, glued, unknown]

theorem readArgb_eq (s : Spot) :
    readArgb s =
      if s.followedBy ((s.hexRun 2).length + 2) isAlphanumeric then none
      else if (s.hexRun 2).length = 8 then
        some ⟨(s.hexRun 2).length + 2, (colorWithAlphaFirst (s.hexRun 2)).hexText⟩
      else none := by
  have room := s.length_hexRun_le 2
  by_cases few : s.ahead.length < 10
  · have short : (s.hexRun 2).length ≠ 8 := by omega
    simp [readArgb, few, short]
  · by_cases fits : (s.hexRun 2).length ≤ 9
    · have seen : s.hexRunUpTo 2 9 = s.hexRun 2 := by
        rw [Spot.hexRunUpTo_eq, List.take_of_length_le fits]
      simp [readArgb, few, seen]
    · have glued := s.followedBy_hexRunUpTo 2 9 (by omega)
      have unknown : (s.hexRun 2).length ≠ 8 := by omega
      simp [readArgb, glued, unknown]

def readFunction (a : Arithmetic) (f : ColorFunction) (s : Spot) :
    Except NumeralError (Option Reading) :=
  if s.ahead.length < f.shortest.length then .ok none
  else match f.readCall s.ahead with
    | none => .ok none
    | some (texts, rest) =>
        (f.color a texts).map fun color =>
          color.map fun c => ⟨s.ahead.length - rest.length, c.hexText⟩

theorem readFunction_congr (a : Arithmetic) (f : ColorFunction) {s t : Spot}
    (h : s.ahead = t.ahead) :
    readFunction a f s = readFunction a f t := by
  simp [readFunction, h]

def readReference (definitions : Definitions) (s : Spot) : Option Reading :=
  match s.ahead with
  | '$' :: rest =>
      let name := rest.takeWhile Text.isNameChar
      if name.isEmpty then none
      else definitions[String.ofList name]?.map fun color => ⟨name.length + 1, color⟩
  | _ => none

theorem readReference_congr (definitions : Definitions) {s t : Spot} (h : s.ahead = t.ahead) :
    readReference definitions s = readReference definitions t := by
  simp [readReference, h]

/-- The longest name at the spot, if no character of a name touches it on either side. Where too
little is left of the line for any name, none is looked for. -/
def readName (table : NameTable) (s : Spot) : Option Reading :=
  if table.colors.isEmpty || s.ahead.length < table.minLength || s.precededBy isIdentifier then none
  else match table.trie.longestPrefix s.ahead with
    | none => none
    | some name =>
        if s.followedBy name.length isIdentifier then none
        else (table.lookup? (String.ofList name)).map fun color => ⟨name.length, color⟩

theorem readName_eq (table : NameTable) (s : Spot) :
    readName table s =
      if s.precededBy isIdentifier then none
      else match table.trie.longestPrefix s.ahead with
        | none => none
        | some name =>
            if s.followedBy name.length isIdentifier then none
            else (table.lookup? (String.ofList name)).map fun color => ⟨name.length, color⟩ := by
  by_cases short : table.colors.isEmpty || s.ahead.length < table.minLength
  · have unknown (name : List Char) (found : table.trie.longestPrefix s.ahead = some name) :
        table.lookup? (String.ofList name) = none := by
      refine Std.ExtTreeMap.getElem?_eq_none fun known => ?_
      have least := table.minLength_le _ (Std.ExtTreeMap.mem_keys.2 known)
      have fits := (Trie.longestPrefix_isPrefix found).length_le
      rw [← String.length_toList, String.toList_ofList] at least
      rcases (Bool.or_eq_true ..).mp short with none | few
      · rw [Std.ExtTreeMap.isEmpty_iff.1 none] at known
        exact Std.ExtTreeMap.not_mem_empty known
      · rw [decide_eq_true_eq] at few
        omega
    rw [readName, short, Bool.true_or, if_pos rfl]
    split
    · rfl
    · split
      · rfl
      · rename_i name found
        rw [unknown name found, Option.map_none, ite_self]
  · rw [readName, Bool.eq_false_iff.2 short, Bool.false_or]

def Prefixed.read (a : Arithmetic) : Prefixed → Spot → Except NumeralError (Option Reading)
  | .argb, s => .ok (readArgb s)
  | .function f, s => readFunction a f s

namespace Matcher

def prefixedSpot (m : Matcher) (s : Spot) : Option Prefixed :=
  (m.openings.longestPrefix s.ahead).bind fun word =>
    m.config.prefixed.find? fun p => p.opening.toList == word

def readSpot (m : Matcher) (definitions : Option Definitions) (s : Spot) :
    Except NumeralError (Option Reading) :=
  match s.ahead with
  | [] => .ok none
  | c :: _ =>
      if c == '#' && !m.config.hexLengths.isEmpty then .ok (readHash m.config.hexLengths s)
      else match m.prefixedSpot s with
        | some p => p.read m.arithmetic s
        | none =>
            match c == '$', definitions with
            | true, some definitions => .ok (readReference definitions s)
            | _, _ => .ok (m.names.bind fun table => readName table s)

end Matcher

section columns

variable {chars : List Char} {column : Nat}

namespace Spot

theorem followedBy_inLine {p : Char → Bool} {n : Nat} :
    (inLine chars column).followedBy n p = chars[column + n]?.any p := by
  rw [followedBy, ahead_inLine, List.getElem?_drop]

theorem precededBy_inLine {p : Char → Bool} :
    (inLine chars column).precededBy p = (decide (0 < column) && chars[column - 1]?.any p) := by
  cases column with
  | zero => rfl
  | succ column => simp [precededBy, inLine]

theorem precededBy_inLine_eq_false_iff {p : Char → Bool} :
    (inLine chars column).precededBy p = false ↔ column = 0 ∨ chars[column - 1]?.any p = false := by
  rw [precededBy_inLine, Bool.and_eq_false_iff, decide_eq_false_iff_not, Nat.not_lt, Nat.le_zero]

theorem between_hexRunUpTo (chars : List Char) (column skip limit : Nat) :
    Text.between chars (column + skip : Nat)
        (column + skip + ((inLine chars column).hexRunUpTo skip limit).length : Nat) =
      (inLine chars column).hexRunUpTo skip limit := by
  have run : (inLine chars column).hexRunUpTo skip limit <+: chars.drop (column + skip) := by
    rw [hexRunUpTo, ahead_inLine, List.drop_drop]
    exact (List.takeWhile_prefix _).trans (List.take_prefix _ _)
  rw [Text.between_natCast, List.drop_take, Nat.add_sub_cancel_left]
  exact (List.prefix_iff_eq_take.1 run).symm

end Spot

theorem class_codeAt {p : Int → Bool} (none : p 0 = false) (chars : List Char) (column : Nat) :
    p (codeAt chars column) = chars[column]?.any fun c => p c.toNat := by
  rw [codeAt, if_neg (by omega), Int.toNat_natCast]
  cases chars[column]? with
  | none => exact none
  | some c => rfl

theorem isAlphanumericCode_codeAt (chars : List Char) (column : Nat) :
    isAlphanumericCode (codeAt chars column) = chars[column]?.any isAlphanumeric :=
  class_codeAt rfl chars column

theorem isIdentifierCode_codeAt (chars : List Char) (column : Nat) :
    isIdentifierCode (codeAt chars column) = chars[column]?.any isIdentifier :=
  class_codeAt rfl chars column

theorem codeAt_before {p : Int → Bool} (none : p 0 = false) (chars : List Char) (column : Nat) :
    (decide ((0 : Int) < column) && p (codeAt chars (column - 1))) =
      (Spot.inLine chars column).precededBy fun c => p c.toNat := by
  rw [Spot.precededBy_inLine]
  cases column with
  | zero => rfl
  | succ column =>
    have before : ((column + 1 : Nat) : Int) - 1 = column := by omega
    rw [before, class_codeAt none]
    simp

theorem hexRunEnd_eq {start limit : Nat} (inside : limit ≤ chars.length) :
    hexRunEnd chars start limit =
      start + (((chars.drop start).take (limit - start)).takeWhile isHexDigit).length := by
  induction room : limit - start generalizing start with
  | zero => rw [hexRunEnd, if_neg (by omega), List.take_zero]; rfl
  | succ room ih =>
    obtain ⟨c, here⟩ : ∃ c, chars[start]? = some c := ⟨_, List.getElem?_eq_getElem (by omega)⟩
    have code : (Token.ofCode (codeAt chars start)).isHex = isHexDigit c := by
      rw [class_codeAt (p := fun code => (Token.ofCode code).isHex) rfl, here]
      rfl
    have next : (start : Int) + 1 = ((start + 1 : Nat) : Int) := rfl
    rw [hexRunEnd, code, Text.drop_eq_cons here, List.take_succ_cons]
    cases digit : isHexDigit c with
    | false => rw [if_neg (by simp), List.takeWhile_cons_of_neg (by simp [digit])]; rfl
    | true =>
      rw [if_pos ⟨by omega, rfl⟩, List.takeWhile_cons_of_pos digit, next, ih (by omega),
        List.length_cons]
      omega

theorem hexRunEnd_inLine (chars : List Char) (column skip limit : Nat) :
    hexRunEnd chars (column + skip : Nat) (min (column + skip + limit : Nat) chars.length) =
      (column + skip + ((Spot.inLine chars column).hexRunUpTo skip limit).length : Nat) := by
  have least : min ((column + skip + limit : Nat) : Int) chars.length =
      (min (column + skip + limit) chars.length : Nat) := by omega
  have same : (chars.drop (column + skip)).take
      (min (column + skip + limit) chars.length - (column + skip)) =
      (chars.drop (column + skip)).take limit := by
    rw [List.take_eq_take_iff, List.length_drop]
    omega
  rw [least, hexRunEnd_eq (Nat.min_le_right ..), same, Spot.hexRunUpTo, Spot.ahead_inLine,
    List.drop_drop]
  rfl

theorem readHashAt_natCast (lengths : HexLengths) (chars : List Char) (column : Nat) :
    readHashAt lengths chars column = readHash lengths (Spot.inLine chars column) := by
  have short : (chars.length : Int) < (column : Int) + 1 + lengths.least ↔
      (Spot.inLine chars column).ahead.length < lengths.least + 1 := by
    rw [Spot.ahead_inLine, List.length_drop]
    omega
  have before : (decide ((0 : Int) < column) && isAlphanumericCode (codeAt chars (column - 1))) =
      (Spot.inLine chars column).precededBy isAlphanumeric := codeAt_before rfl chars column
  have run : hexRunEnd chars ((column : Int) + 1)
      (min ((column : Int) + 1 + lengths.greatest + 1) chars.length) = _ :=
    hexRunEnd_inLine chars column 1 (lengths.greatest + 1)
  have digits : Text.between chars ((column : Int) + 1) _ = _ :=
    Spot.between_hexRunUpTo chars column 1 (lengths.greatest + 1)
  have count (n : Nat) : (((column + 1 + n : Nat) : Int) - ((column : Int) + 1)).toNat = n := by
    omega
  have behind (n : Nat) : column + 1 + n = column + (n + 1) := by omega
  rw [readHashAt, readHash]
  simp only [short, before, run, digits, count, isAlphanumericCode_codeAt, Spot.followedBy_inLine]
  simp only [behind]
  by_cases few : (Spot.inLine chars column).ahead.length < lengths.least + 1
  · simp [few]
  · cases (Spot.inLine chars column).precededBy isAlphanumeric <;> simp [few]

theorem readArgbAt_natCast (chars : List Char) (column : Nat) :
    readArgbAt chars column = readArgb (Spot.inLine chars column) := by
  have short : (chars.length : Int) - column < 10 ↔
      (Spot.inLine chars column).ahead.length < 10 := by
    rw [Spot.ahead_inLine, List.length_drop]
    omega
  have run : hexRunEnd chars ((column : Int) + 2) (min ((column : Int) + 2 + 9) chars.length) = _ :=
    hexRunEnd_inLine chars column 2 9
  have digits : Text.between chars ((column : Int) + 2) _ = _ :=
    Spot.between_hexRunUpTo chars column 2 9
  have eight (n : Nat) : ((column + 2 + n : Nat) : Int) - column = 10 ↔ n = 8 := by omega
  have behind (n : Nat) : column + 2 + n = column + (n + 2) := by omega
  rw [readArgbAt, readArgb]
  simp only [short, run, digits, eight, isAlphanumericCode_codeAt, Spot.followedBy_inLine]
  simp only [behind]
  refine ite_congr rfl (fun _ => rfl) fun _ => ite_congr rfl (fun _ => rfl) fun _ => ?_
  refine ite_congr rfl (fun all => ?_) fun _ => rfl
  rw [all]

/-- How far a call reaches is what it leaves less of what lies ahead. -/
theorem readFunctionAt_natCast (a : Arithmetic) (f : ColorFunction) (chars : List Char)
    (column : Nat) :
    readFunctionAt a f chars column = readFunction a f (Spot.inLine chars column) := by
  rw [readFunctionAt, readFunction, Int.toNat_natCast, Spot.ahead_inLine,
    ← ColorFunction.callAt?_withRest]
  by_cases short : (chars.length : Int) - column < f.shortest.length
  · have few : (chars.drop column).length < f.shortest.length := by
      have shortest : 0 < f.shortest.length := by cases f <;> decide
      rw [List.length_drop]
      omega
    rw [if_pos short, if_pos few]
  · have enough : ¬(chars.drop column).length < f.shortest.length := by
      rw [List.length_drop]
      omega
    rw [if_neg short, if_neg enough]
    cases found : f.callAt? chars column with
    | none => rfl
    | some call =>
      have inside := ColorFunction.callAt?_inside found
      have long : ((call.2 : Int) - column).toNat =
          (chars.drop column).length - (chars.drop call.2).length := by
        rw [List.length_drop, List.length_drop]
        omega
      simp only [Option.map_some, withRest, long]

theorem readReferenceAt_natCast (definitions : Definitions) (chars : List Char) (column : Nat) :
    readReferenceAt definitions chars column =
      readReference definitions (Spot.inLine chars column) := by
  rw [readReferenceAt, readReference, Int.toNat_natCast, Spot.ahead_inLine]
  by_cases sign : chars[column]? = some '$'
  · have name : Text.between chars ((column : Int) + 1) _ = _ :=
      Text.between_runEnd Text.isNameChar chars (column + 1)
    have long : ((Text.runEnd Text.isNameChar chars (column + 1) : Int) - column).toNat =
        ((chars.drop (column + 1)).takeWhile Text.isNameChar).length + 1 := by
      rw [Text.runEnd_eq]
      omega
    simp only [if_pos sign, Text.drop_eq_cons sign, name, long, Text.runEnd_eq_self_iff,
      List.isEmpty_iff]
  · rw [if_neg sign]
    split
    · rename_i rest same
      exact absurd same (Text.drop_ne_cons sign rest)
    · rfl

theorem readFunctionFrom_natCast (a : Arithmetic) (f : ColorFunction) (chars : List Char)
    (column : Nat) :
    readFunctionFrom a f chars column =
      (readFunction a f (Spot.inLine chars column)).mapError .numeral := by
  have natural : ¬(column : Int) < 0 := by omega
  rw [readFunctionFrom, readFunctionAt_natCast, decide_eq_false natural, Bool.false_and]
  rfl

namespace NameTable

theorem readAt_eq (table : NameTable) (chars : List Char) (column : Nat) :
    table.readAt chars column = readName table (Spot.inLine chars column) := by
  have before : (decide (0 < column) && isIdentifierCode (codeAt chars (column - 1))) =
      (Spot.inLine chars column).precededBy isIdentifier := by
    rw [show isIdentifier = fun c => isIdentifierCode c.toNat from rfl]
    simpa using codeAt_before (p := isIdentifierCode) rfl chars column
  have behind (n : Nat) : isIdentifierCode (codeAt chars (column + n)) =
      (Spot.inLine chars column).followedBy n isIdentifier := by
    rw [Spot.followedBy_inLine]
    exact isIdentifierCode_codeAt chars (column + n)
  simp only [readAt, readName, before, behind, Trie.longestAt_natCast, Spot.ahead_inLine]
  by_cases inside : column ≤ chars.length
  · have short : (chars.length : Int) - column < table.minLength ↔
        (chars.drop column).length < table.minLength := by
      rw [List.length_drop]
      omega
    simp only [short]
    cases (Spot.inLine chars column).precededBy isIdentifier with
    | true => simp
    | false =>
      simp only [Bool.or_false]
      rfl
  · have nothing : chars.drop column = [] := List.drop_eq_nil_of_le (by omega)
    simp [nothing]

end NameTable

namespace Prefixed

theorem literalAt_natCast (a : Arithmetic) (p : Prefixed) (chars : List Char) (column : Nat) :
    p.literalAt a chars column = p.read a (Spot.inLine chars column) := by
  cases p with
  | argb => exact congrArg Except.ok (readArgbAt_natCast chars column)
  | function f => exact readFunctionAt_natCast a f chars column

end Prefixed

namespace Matcher

variable (m : Matcher)

theorem prefixedAt_eq (chars : List Char) (column : Nat) :
    m.prefixedAt chars column = m.prefixedSpot (Spot.inLine chars column) := by
  rw [prefixedAt, Trie.longestAt_natCast]
  rfl

/-- At a column a matcher reads what it reads of all that is seen from there. -/
theorem readAt_eq (definitions : Option Definitions) (chars : List Char) (column : Nat) :
    m.readAt definitions chars column = m.readSpot definitions (Spot.inLine chars column) := by
  rw [readAt, readSpot, Spot.ahead_inLine]
  cases here : chars[column]? with
  | none => rw [List.drop_eq_nil_of_le (List.getElem?_eq_none_iff.1 here)]
  | some c =>
    have named : (m.names.bind fun table => table.readAt chars column) =
        m.names.bind fun table => readName table (Spot.inLine chars column) := by
      simp only [NameTable.readAt_eq]
    rw [Text.drop_eq_cons here]
    refine ite_congr rfl (fun _ => congrArg Except.ok (readHashAt_natCast ..)) fun _ => ?_
    rw [prefixedAt_eq]
    cases m.prefixedSpot (Spot.inLine chars column) with
    | some p => exact Prefixed.literalAt_natCast ..
    | none =>
      cases c == '$' with
      | false => exact congrArg Except.ok named
      | true =>
        cases definitions with
        | none => exact congrArg Except.ok named
        | some definitions => exact congrArg Except.ok (readReferenceAt_natCast ..)

end Matcher

end columns

end ColorSpans
