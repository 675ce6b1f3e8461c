import ColorSpans.Proofs.Literal.Calls
import ColorSpans.Proofs.Literal.Names
import ColorSpans.Proofs.Outcome
import Mathlib.Algebra.Group.Nat.Defs
import Mathlib.Data.List.Induction

/-! What every decoder finds: a literal that takes at least one character, ends within the line and
has a color text. -/
namespace ColorSpans
open Numeral Text

/-- What is asked of an arithmetic: channels in range give channels in range. -/
structure Arithmetic.Bounded (a : Arithmetic) : Prop where
  premultiply : ∀ (c : Rgb) (alpha : Float) (out : Rgb), c.InRange → 0 ≤ alpha → alpha ≤ 1 →
    a.premultiply c alpha = .ok out → out.InRange
  ofHsl : ∀ (hue saturation lightness : Nat) (out : Rgb), hue ≤ 360 → saturation ≤ 100 →
    lightness ≤ 100 →
    a.ofHsl (Hsl.ofDegrees hue saturation lightness) = .ok (some out) → out.InRange

structure Reading.Within (r : Reading) (s : Spot) : Prop where
  positive : 0 < r.length
  inside : r.length ≤ s.ahead.length

structure Reading.Fits (r : Reading) (s : Spot) : Prop where
  positive : 0 < r.length
  inside : r.length ≤ s.ahead.length
  colored : IsColorText r.color

theorem all_hexRun (s : Spot) (skip : Nat) : (s.hexRun skip).all isHexDigit = true :=
  List.all_takeWhile

theorem hexNumber_lt (digits : List Char) : hexNumber digits < 16 ^ digits.length := by
  induction digits using List.reverseRecOn with
  | nil => decide
  | append_singleton digits c ih =>
    have small : hexValue c < 16 := Token.hexValue_ofCode_lt _
    rw [hexNumber_append, List.length_append, List.length_singleton, Nat.pow_succ]
    simp only [List.foldl_cons, List.foldl_nil]
    omega

theorem inRange_colorWithAlphaLast (digits : List Char) : (colorWithAlphaLast digits).InRange :=
  Rgb.inRange_premultiplyByte (Rgb.inRange_ofNat _) (by omega)

theorem inRange_colorWithAlphaFirst {digits : List Char} (eight : digits.length = 8) :
    (colorWithAlphaFirst digits).InRange := by
  have bound := hexNumber_lt digits
  rw [eight] at bound
  exact Rgb.inRange_premultiplyByte (Rgb.inRange_ofNat _) (by omega)

theorem isColorText_hashColor {digits : List Char} (all : digits.all isHexDigit = true)
    (count : digits.length = 3 ∨ digits.length = 6 ∨ digits.length = 8) :
    IsColorText (hashColor digits) := by
  rw [hashColor]
  split
  · exact Rgb.isColorText_hexText (inRange_colorWithAlphaLast digits)
  · exact isColorText_doubled (by omega) all

theorem fits_readHash {lengths : HexLengths} {s : Spot} {r : Reading}
    (h : readHash lengths s = some r) :
    r.Fits s := by
  have room := s.length_hexRun_le 1
  rw [readHash_eq] at h
  split at h
  · cases h
  · split at h
    · rename_i enabled
      have count := HexLengths.length_of_contains enabled
      obtain rfl := Option.some.inj h
      exact ⟨by dsimp only; omega, by dsimp only; omega,
        isColorText_hashColor (all_hexRun s 1) count⟩
    · cases h

theorem fits_readArgb {s : Spot} {r : Reading} (h : readArgb s = some r) : r.Fits s := by
  have room := s.length_hexRun_le 2
  rw [readArgb_eq] at h
  split at h
  · cases h
  · split at h
    · rename_i eight
      obtain rfl := Option.some.inj h
      exact ⟨by dsimp only; omega, by dsimp only; omega,
        Rgb.isColorText_hexText (inRange_colorWithAlphaFirst eight)⟩
    · cases h

theorem within_readFunction {a : Arithmetic} {f : ColorFunction} {s : Spot} {r : Reading}
    (h : readFunction a f s = .ok (some r)) : r.Within s := by
  cases call : f.readCall s.ahead with
  | none =>
    rw [readFunction_none s call] at h
    cases h
  | some found =>
    have room := ColorFunction.length_readCall_le call
    have nonempty : 0 < f.shortest.length := by cases f <;> decide
    rw [readFunction_some s call] at h
    obtain ⟨color, _, h⟩ := map_eq_ok.1 h
    obtain ⟨c, rfl, rfl⟩ := Option.map_eq_some_iff.1 h
    exact ⟨by dsimp only; omega, by dsimp only; omega⟩

theorem byte_readChannel {text : List Char} {n : Int} (h : readChannel text = .ok (some n)) :
    0 ≤ n ∧ n ≤ 255 := by
  rw [readChannel] at h
  split at h
  · split at h
    · cases h
    · obtain ⟨value, _, byte⟩ := map_eq_ok.1 h
      obtain ⟨k, _, byte⟩ := Option.bind_eq_some_iff.1 byte
      exact (byteOnly_eq_some byte).2
  · obtain ⟨k, _, byte⟩ := Option.bind_eq_some_iff.1 (Except.ok.inj h)
    exact (byteOnly_eq_some byte).2

theorem inRange_rgbOfTexts {red green blue : List Char} {c : Rgb}
    (h : rgbOfTexts red green blue = .ok (some c)) : c.InRange := by
  obtain ⟨r, red, h⟩ := bind_eq_ok.1 h
  cases r with
  | none => cases h
  | some r =>
    obtain ⟨g, green, h⟩ := bind_eq_ok.1 h
    cases g with
    | none => cases h
    | some g =>
      obtain ⟨b, blue, h⟩ := bind_eq_ok.1 h
      cases b with
      | none => cases h
      | some b =>
        obtain rfl := Option.some.inj (Except.ok.inj h)
        exact ⟨byte_readChannel red, byte_readChannel green, byte_readChannel blue⟩

section color

variable {a : Arithmetic} (bounded : a.Bounded)

include bounded

theorem inRange_hslOfTexts {hue saturation lightness : List Char} {c : Rgb}
    (h : hslOfTexts a hue saturation lightness = .ok (some c)) : c.InRange := by
  obtain ⟨hue, _, h⟩ := bind_eq_ok.1 h
  obtain ⟨saturation, _, h⟩ := bind_eq_ok.1 h
  obtain ⟨lightness, _, h⟩ := bind_eq_ok.1 h
  split at h
  · cases h
  · rename_i small
    exact bounded.ofHsl hue saturation lightness c (by omega) (by omega) (by omega) h

theorem inRange_withOpacity {alpha : List Char} {color : Except NumeralError (Option Rgb)} {c : Rgb}
    (before : ∀ c, color = .ok (some c) → c.InRange)
    (h : withOpacity a alpha color = .ok (some c)) :
    c.InRange := by
  rw [withOpacity] at h
  cases found : readOpacity alpha with
  | none => rw [found] at h; cases h
  | some value =>
    rw [found] at h
    obtain ⟨plain, found', h⟩ := bind_eq_ok.1 h
    cases plain with
    | none => cases h
    | some plain =>
      obtain ⟨out, folded, same⟩ := bind_eq_ok.1 h
      obtain rfl := Option.some.inj (Except.ok.inj same)
      have unit := (Option.filter_eq_some_iff.1 found).2
      simp only [Bool.and_eq_true, decide_eq_true_eq] at unit
      exact bounded.premultiply plain value out (before plain found') unit.1 unit.2 folded

theorem inRange_color {f : ColorFunction} {texts : List (List Char)} {c : Rgb}
    (h : f.color a texts = .ok (some c)) : c.InRange := by
  rw [ColorFunction.color.eq_def] at h
  split at h
  · exact inRange_rgbOfTexts h
  · exact inRange_withOpacity bounded (fun _ => inRange_rgbOfTexts) h
  · exact inRange_hslOfTexts bounded h
  · exact inRange_withOpacity bounded (fun _ => inRange_hslOfTexts bounded) h
  · cases h

theorem fits_readFunction {f : ColorFunction} {s : Spot} {r : Reading}
    (h : readFunction a f s = .ok (some r)) : r.Fits s := by
  obtain ⟨positive, inside⟩ := within_readFunction h
  refine ⟨positive, inside, ?_⟩
  cases call : f.readCall s.ahead with
  | none =>
    rw [readFunction_none s call] at h
    cases h
  | some found =>
    rw [readFunction_some s call] at h
    obtain ⟨color, named, h⟩ := map_eq_ok.1 h
    obtain ⟨c, rfl, rfl⟩ := Option.map_eq_some_iff.1 h
    exact Rgb.isColorText_hexText (inRange_color bounded named)

end color

theorem within_readReference {definitions : Definitions} {s : Spot} {r : Reading}
    (h : readReference definitions s = some r) : r.Within s := by
  rw [readReference] at h
  split at h
  · rename_i rest ahead
    have name := (List.takeWhile_prefix (l := rest) isNameChar).length_le
    dsimp only at h
    split at h
    · cases h
    · obtain ⟨color, _, rfl⟩ := Option.map_eq_some_iff.1 h
      exact ⟨Nat.succ_pos _, by rw [ahead, List.length_cons]; dsimp only; omega⟩
  · cases h

theorem fits_readReference {definitions : Definitions} (colored : Colored definitions) {s : Spot}
    {r : Reading} (h : readReference definitions s = some r) : r.Fits s := by
  obtain ⟨positive, inside⟩ := within_readReference h
  refine ⟨positive, inside, ?_⟩
  rw [readReference] at h
  split at h
  · dsimp only at h
    split at h
    · cases h
    · obtain ⟨color, found, rfl⟩ := Option.map_eq_some_iff.1 h
      exact colored _ _ found
  · cases h

theorem within_readName {table : NameTable} {s : Spot} {r : Reading}
    (h : readName table s = some r) : r.Within s := by
  rw [readName_eq] at h
  split at h
  · cases h
  · split at h
    · cases h
    · rename_i name longest
      split at h
      · cases h
      · obtain ⟨color, _, rfl⟩ := Option.map_eq_some_iff.1 h
        exact ⟨List.length_pos_iff.2 (Trie.longestPrefix_ne_nil longest),
          (Trie.longestPrefix_isPrefix longest).length_le⟩

theorem fits_readName {table : NameTable} (colored : Colored table.colors) {s : Spot} {r : Reading}
    (h : readName table s = some r) : r.Fits s := by
  obtain ⟨positive, inside⟩ := within_readName h
  refine ⟨positive, inside, ?_⟩
  rw [readName_eq] at h
  split at h
  · cases h
  · split at h
    · cases h
    · split at h
      · cases h
      · obtain ⟨color, found, rfl⟩ := Option.map_eq_some_iff.1 h
        exact colored _ _ found

end ColorSpans
