import ColorSpans.Color.Arithmetic
import ColorSpans.Names.Table
import Mathlib.Algebra.Group.Nat.Defs
import Mathlib.Data.List.Basic

/-! Color texts: six lowercase hexadecimal digits. Channels that are bytes are written so, and so
are the values that a host may give for a name. -/
namespace ColorSpans
open Numeral

def isLowerHexDigit (c : Char) : Bool := "0123456789abcdef".toList.contains c

/-- Six lowercase hexadecimal digits. -/
def IsColorText (text : String) : Prop :=
  text.toList.length = 6 ∧ text.toList.all isLowerHexDigit = true

instance (text : String) : Decidable (IsColorText text) := by
  unfold IsColorText
  infer_instance

theorem isLowerHexDigit_digitChar {d : Nat} (small : d < 16) :
    isLowerHexDigit d.digitChar = true := by
  have all : ∀ d : Fin 16, isLowerHexDigit (Nat.digitChar d) = true := by decide
  exact all ⟨d, small⟩

theorem all_hexDigits (n : Nat) : (hexDigits n).all isLowerHexDigit = true := by
  induction n using Nat.strongRecOn with
  | ind n ih =>
    rw [hexDigits, Nat.toDigits_eq_if (by omega)]
    split
    · rename_i small
      simp [isLowerHexDigit_digitChar small]
    · have rest := ih (n / 16) (by omega)
      rw [hexDigits] at rest
      simp [rest, isLowerHexDigit_digitChar (Nat.mod_lt n (by omega))]

theorem all_paddedHex (width n : Nat) : (paddedHex width n).all isLowerHexDigit = true := by
  simp only [paddedHex, List.all_append, all_hexDigits, Bool.and_true, List.all_eq_true]
  intro c padding
  rw [(List.mem_replicate.1 padding).2]
  decide

theorem length_paddedHex {width n : Nat} (positive : 0 < width) (fits : n < 16 ^ width) :
    (paddedHex width n).length = width := by
  have short := (Nat.length_toDigits_le_iff (by omega) positive).2 fits
  simp only [paddedHex, hexDigits, List.length_append, List.length_replicate]
  omega

theorem paddedHexInt_byte {n : Int} (byte : 0 ≤ n ∧ n ≤ 255) :
    (paddedHexInt 2 n).length = 2 ∧ (paddedHexInt 2 n).all isLowerHexDigit = true := by
  obtain ⟨k, rfl⟩ := Int.eq_ofNat_of_zero_le byte.1
  have small : k < 16 ^ 2 := by omega
  exact ⟨length_paddedHex (by omega) small, all_paddedHex 2 k⟩

theorem Rgb.isColorText_hexText {c : Rgb} (h : c.InRange) : IsColorText c.hexText := by
  obtain ⟨red, green, blue⟩ := h
  have red := paddedHexInt_byte red
  have green := paddedHexInt_byte green
  have blue := paddedHexInt_byte blue
  rw [IsColorText, hexText, String.toList_ofList, hexChars]
  simp [red, green, blue]

section ascii

variable {c : Char}

theorem ascii_cases {P : Char → Prop} (below : ∀ n : Fin 128, P (Char.ofNat n))
    (beyond : ∀ c : Char, 128 ≤ c.toNat → P c) (c : Char) : P c := by
  by_cases known : c.toNat < 128
  · have here := below ⟨c.toNat, known⟩
    rwa [Char.ofNat_toNat] at here
  · exact beyond c (by omega)

theorem tokenOf_beyond (beyond : 128 ≤ c.toNat) : tokenOf c = .other := by
  simp only [tokenOf, Token.ofCode]
  repeat rw [if_neg (by omega)]

theorem not_le_of_beyond (beyond : 128 ≤ c.toNat) {d : Char} (known : d.toNat < 128) :
    ¬c.val ≤ d.val := by
  intro before
  have before : c.toNat ≤ d.toNat := UInt32.le_iff_toNat_le.1 before
  omega

theorem isAlphanum_beyond (beyond : 128 ≤ c.toNat) : c.isAlphanum = false := by
  have upper : c.isUpper = false :=
    decide_eq_false fun within => not_le_of_beyond beyond (by decide) within.2
  have lower : c.isLower = false :=
    (Bool.and_eq_false_iff ..).2 (.inr (decide_eq_false (not_le_of_beyond beyond (by decide))))
  have digit : c.isDigit = false :=
    (Bool.and_eq_false_iff ..).2 (.inr (decide_eq_false (not_le_of_beyond beyond (by decide))))
  show (c.isUpper || c.isLower || c.isDigit) = false
  rw [upper, lower, digit]
  rfl

theorem isLowerHexDigit_beyond (beyond : 128 ≤ c.toNat) : isLowerHexDigit c.toLower = false := by
  have same : c.toLower = c := dif_neg fun upper => not_le_of_beyond beyond (by decide) upper.2
  have known : "0123456789abcdef".toList.all (·.toNat < 128) = true := by decide
  rw [same, isLowerHexDigit, List.contains_eq_mem, decide_eq_false_iff_not]
  intro there
  have := of_decide_eq_true (List.all_eq_true.1 known c there)
  omega

theorem isHexDigit_eq (c : Char) : isHexDigit c = isLowerHexDigit c.toLower := by
  refine ascii_cases (P := fun c => isHexDigit c = isLowerHexDigit c.toLower) (by decide)
    (fun c beyond => ?_) c
  rw [isHexDigit, tokenOf_beyond beyond, isLowerHexDigit_beyond beyond]
  rfl

theorem isLowerHexDigit_toLower (digit : isHexDigit c = true) :
    isLowerHexDigit c.toLower = true := by
  rwa [← isHexDigit_eq]

end ascii

theorem isColorText_doubled {digits : List Char} (count : digits.length = 3 ∨ digits.length = 6)
    (all : digits.all isHexDigit = true) :
    IsColorText (String.ofList (doubled (digits.map Char.toLower))) := by
  have lower : (digits.map Char.toLower).all isLowerHexDigit = true := by
    rw [List.all_map, List.all_eq_true]
    exact fun c there => isLowerHexDigit_toLower (List.all_eq_true.1 all c there)
  rw [IsColorText, String.toList_ofList, doubled, List.length_map]
  rcases count with three | six
  · obtain ⟨a, b, c, rfl⟩ := List.length_eq_three.1 three
    exact ⟨rfl, by simpa using lower⟩
  · rw [if_neg (by omega)]
    exact ⟨by rw [List.length_map, six], lower⟩

theorem isColorText_colorOfNumber {n : Int} {color : String} (h : colorOfNumber n = some color) :
    IsColorText color := by
  rw [colorOfNumber] at h
  split at h
  · rename_i small
    obtain rfl := Option.some.inj h
    have fits : n.toNat < 16 ^ 6 := by omega
    rw [IsColorText, String.toList_ofList]
    exact ⟨length_paddedHex (by omega) fits, all_paddedHex 6 _⟩
  · cases h

theorem isColorText_colorOfText {text color : String} (h : colorOfText text = some color) :
    IsColorText color := by
  obtain ⟨digits, found, rfl⟩ := Option.map_eq_some_iff.1 h
  simp only [bareHexDigits?] at found
  split at found
  all_goals
    split at found
    · rename_i good
      obtain rfl := Option.some.inj found
      exact isColorText_doubled good.1 good.2
    · cases found

theorem isColorText_normalizeColor {value : Json} {color : String}
    (h : normalizeColor value = some color) :
    IsColorText color := by
  cases value with
  | int n => exact isColorText_colorOfNumber h
  | str text => exact isColorText_colorOfText h
  | _ => cases h

end ColorSpans
