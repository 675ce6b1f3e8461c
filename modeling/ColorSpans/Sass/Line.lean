import ColorSpans.Matcher
import ColorSpans.Text.Blank

/-! What one line of a stylesheet says: the variables it declares and the files it imports. A line
is read without its comments. -/
namespace ColorSpans.Sass
open Numeral

/-- The text behind the first `*/`, unless a line feed comes first. -/
def afterBlockComment : List Char → Option (List Char)
  | [] => none
  | '*' :: '/' :: rest => some rest
  | c :: rest => if c == '\n' then none else afterBlockComment rest

theorem afterBlockComment_length {cs rest : List Char} (h : afterBlockComment cs = some rest) :
    rest.length < cs.length := by
  fun_induction afterBlockComment cs with
  | case1 => simp at h
  | case2 r => cases h; simp only [List.length_cons]; omega
  | case3 => simp at h
  | case4 c r _ _ ih => have := ih h; simp only [List.length_cons]; omega

/-- What is left once a block comment that begins here is skipped. -/
def skipBlockComment : List Char → Option (List Char)
  | '/' :: '*' :: rest => afterBlockComment rest
  | _ => none

theorem skipBlockComment_length {cs rest : List Char} (h : skipBlockComment cs = some rest) :
    rest.length < cs.length := by
  fun_cases skipBlockComment cs with
  | case1 r => have := afterBlockComment_length h; simp only [List.length_cons]; omega
  | case2 => simp_all [skipBlockComment]

def dropBlockComments (cs : List Char) : List Char :=
  match _h : skipBlockComment cs with
  | some rest => dropBlockComments rest
  | none =>
      match cs with
      | [] => []
      | c :: rest => c :: dropBlockComments rest
termination_by cs.length
decreasing_by
  · exact skipBlockComment_length _h
  · simp

/-- A line comment reaches to the end of the text, where one line feed may stand. -/
def endsLineComment (cs : List Char) : Bool :=
  match cs.dropWhile (· != '\n') with
  | [] | [_] => true
  | _ => false

/-- A line comment begins at the start or after a blank. -/
def dropLineComment (before : Option Char) : List Char → List Char
  | [] => []
  | '/' :: '/' :: rest =>
      if before.all Text.isBlank && endsLineComment rest then rest.dropWhile (· != '\n')
      else '/' :: dropLineComment (some '/') ('/' :: rest)
  | c :: rest => c :: dropLineComment (some c) rest

def dropComments (line : List Char) : List Char := dropLineComment none (dropBlockComments line)

/-- A variable's value: a color, or the name of another variable. -/
inductive Declaration
  | color (hex : String)
  | alias (target : String)
  deriving DecidableEq, Repr

def flags : List (List Char) := ["!default".toList, "!global".toList]

/-- Takes a flag off a reversed value. -/
def dropFlag (cs : List Char) : Option (List Char) :=
  (flags.find? fun f => f.reverse.isPrefixOf cs).map fun f => cs.drop f.length

theorem dropFlag_length {cs rest : List Char} (h : dropFlag cs = some rest) :
    rest.length < cs.length := by
  obtain ⟨f, hf, rfl⟩ := Option.map_eq_some_iff.1 h
  have size : 0 < f.length := by
    have := List.mem_of_find?_eq_some hf
    simp only [flags, List.mem_cons, List.not_mem_nil, or_false] at this
    rcases this with rfl | rfl <;> decide
  have begins : f.reverse.isPrefixOf cs = true := by simpa using List.find?_some hf
  have fits := (List.isPrefixOf_iff_prefix.1 begins).length_le
  simp only [List.length_reverse, List.length_drop] at fits ⊢
  omega

/-- Takes all flags and the blanks before them off a reversed value. -/
def dropFlagsReversed (cs : List Char) : List Char :=
  match _h : dropFlag cs with
  | some rest => dropFlagsReversed (Text.dropBlanks rest)
  | none => cs
termination_by cs.length
decreasing_by
  exact Nat.lt_of_le_of_lt (List.dropWhile_suffix _).length_le (dropFlag_length _h)

/-- A value without its trailing flags. -/
def dropFlags (value : List Char) : List Char := (dropFlagsReversed value.reverse).reverse

/-- A value that is a single variable is an alias; any other begins with its color. -/
def readValue (matcher : Option Matcher) (text : List Char) :
    Except NumeralError (Option Declaration) :=
  let value := dropFlags (Text.trim text)
  match value with
  | [] => .ok none
  | c :: name =>
      if c == '$' && !name.isEmpty && name.all Text.isNameChar then
        .ok (some (.alias (String.ofList name)))
      else match matcher with
        | none => .ok none
        | some m => do
            let reading ← m.readAt none value 0
            return reading.map fun r => .color r.color

/-- A name, a colon and the text up to a semicolon, as they stand behind a dollar sign; with them
what is left. -/
def splitDeclaration (cs : List Char) : Option (List Char × List Char × List Char) :=
  let name := cs.takeWhile Text.isNameChar
  match name, Text.dropBlanks (cs.dropWhile Text.isNameChar) with
  | [], _ => none
  | _, ':' :: rest => some (name, rest.takeWhile (· != ';'), rest.dropWhile (· != ';'))
  | _, _ => none

theorem splitDeclaration_length {cs name value rest : List Char}
    (h : splitDeclaration cs = some (name, value, rest)) : rest.length < cs.length := by
  simp only [splitDeclaration] at h
  split at h
  · cases h
  · rename_i r hr _
    cases h
    have l1 : (Text.dropBlanks (cs.dropWhile Text.isNameChar)).length ≤ cs.length :=
      Nat.le_trans (List.dropWhile_suffix _).length_le (List.dropWhile_suffix _).length_le
    have l2 : (r.dropWhile (· != ';')).length ≤ r.length := (List.dropWhile_suffix _).length_le
    rw [hr] at l1
    simp only [List.length_cons] at l1
    omega
  · cases h

/-- The declarations of a line with their unread values. -/
def declarationTexts (cs : List Char) : List (String × List Char) :=
  match cs with
  | [] => []
  | c :: rest =>
      if c == '$' then
        match _h : splitDeclaration rest with
        | some (name, value, after) => (String.ofList name, value) :: declarationTexts after
        | none => declarationTexts rest
      else declarationTexts rest
termination_by cs.length
decreasing_by
  · have := splitDeclaration_length _h; simp only [List.length_cons]; omega
  · simp
  · simp

abbrev Declarations := Std.ExtTreeMap String Declaration

/-- Declarations without a readable value are left out; of two for one name the later counts. -/
def readDeclarations (matcher : Option Matcher) (line : List Char) :
    Except NumeralError Declarations :=
  (declarationTexts line).foldlM (fun out entry => do
    match ← readValue matcher entry.2 with
    | some d => return out.insert entry.1 d
    | none => return out) ∅

def isQuote (c : Char) : Bool := c == '"' || c == '\''

/-- The non-empty texts between two quotes of either kind. -/
def quotedTexts (cs : List Char) : List String :=
  match cs with
  | [] => []
  | c :: rest =>
      if isQuote c then
        match rest.takeWhile (!isQuote ·), _h : rest.dropWhile (!isQuote ·) with
        | [], _ => quotedTexts rest
        | _, [] => quotedTexts rest
        | text, _ :: after => String.ofList text :: quotedTexts after
      else quotedTexts rest
termination_by cs.length
decreasing_by
  · simp
  · simp
  · have := (List.dropWhile_suffix (l := rest) (!isQuote ·)).length_le
    rw [_h] at this
    simp only [List.length_cons] at this ⊢
    omega
  · simp

def importKeywords : List String := ["import", "use"]

/-- The first word behind an at sign, and the text that follows it up to a line feed. -/
def directive : List Char → Option (String × List Char)
  | [] => none
  | c :: rest =>
      let word := rest.takeWhile Text.isWord
      if c == '@' && !word.isEmpty then
        some (String.ofList word,
          (Text.dropBlanks (rest.dropWhile Text.isWord)).takeWhile (· != '\n'))
      else directive rest

/-- Imported targets, and whether the semicolon that ends the list is still awaited. -/
structure Imports where
  targets : List String
  pending : Bool

/-- A list whose semicolon is awaited goes on with the whole line. -/
def readImports (pending : Bool) (line : List Char) : Imports :=
  let body := if pending then some line
    else match directive line with
      | some (word, text) => if importKeywords.contains word then some text else none
      | none => none
  match body with
  | none => ⟨[], false⟩
  | some body => ⟨quotedTexts (body.takeWhile (· != ';')), !body.contains ';'⟩

end ColorSpans.Sass
