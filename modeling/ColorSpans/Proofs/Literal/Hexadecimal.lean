import ColorSpans.Proofs.ColorText
import ColorSpans.Proofs.Literal.Spot

/-! What the decoders of hexadecimal literals accept, in terms of the whole run of digits, and the
colors that they find. Both layouts of eight digits name the same colors. -/
namespace ColorSpans
open Numeral

theorem isAlphanumeric_eq (c : Char) : isAlphanumeric c = c.isAlphanum := by
  refine ascii_cases (P := fun c => isAlphanumeric c = c.isAlphanum) (by decide)
    (fun c beyond => ?_) c
  have other := tokenOf_beyond beyond
  rw [tokenOf] at other
  rw [isAlphanumeric, isAlphanumericCode, other, isAlphanum_beyond beyond]
  rfl

def digitPlace (c : Char) : Nat := "0123456789abcdef".toList.idxOf c.toLower

theorem hexValue_eq {c : Char} (digit : isHexDigit c = true) : hexValue c = digitPlace c := by
  revert digit
  refine ascii_cases (P := fun c => isHexDigit c = true → hexValue c = digitPlace c) (by decide)
    (fun c beyond digit => ?_) c
  rw [isHexDigit, tokenOf_beyond beyond] at digit
  cases digit

def pairValue (high low : Char) : Nat := 16 * digitPlace high + digitPlace low

def byteChars (n : Nat) : List Char := [(n / 16).digitChar, (n % 16).digitChar]

/-- The channels with an opacity folded in, each rounded down. -/
def foldedText (red green blue opacity : Nat) : String :=
  String.ofList ([red, green, blue].flatMap fun channel => byteChars (channel * opacity / 255))

/-- The color of the digits behind a number sign. -/
def hashText : List Char → String
  | [r, g, b] => String.ofList ([r, r, g, g, b, b].map Char.toLower)
  | [r, r', g, g', b, b', a, a'] =>
      foldedText (pairValue r r') (pairValue g g') (pairValue b b') (pairValue a a')
  | digits => String.ofList (digits.map Char.toLower)

/-- The color of eight digits with the opacity in front. -/
def argbText : List Char → String
  | [a, a', r, r', g, g', b, b'] =>
      foldedText (pairValue r r') (pairValue g g') (pairValue b b') (pairValue a a')
  | digits => String.ofList digits

theorem paddedHexInt_eq_byteChars {n : Nat} (byte : n < 256) : paddedHexInt 2 n = byteChars n := by
  have digits : hexDigits n = if n < 16 then [n.digitChar] else byteChars n := by
    rw [hexDigits, Nat.toDigits_eq_if (by omega)]
    split
    · rfl
    · rw [Nat.toDigits_of_lt_base (by omega)]
      rfl
  show paddedHex 2 n = byteChars n
  rw [paddedHex, digits]
  split
  · rename_i small
    simp [byteChars, Nat.div_eq_of_lt small, Nat.mod_eq_of_lt small]
  · rfl

theorem pairValue_lt {high low : Char} (first : isHexDigit high = true)
    (second : isHexDigit low = true) :
    pairValue high low < 256 := by
  have : hexValue high < 16 := Token.hexValue_ofCode_lt _
  have : hexValue low < 16 := Token.hexValue_ofCode_lt _
  rw [pairValue, ← hexValue_eq first, ← hexValue_eq second]
  omega

theorem hexNumber_eight {a b c d e f g h : Char}
    (all : ([a, b, c, d, e, f, g, h]).all isHexDigit = true) :
    (pairValue a b < 256 ∧ pairValue c d < 256 ∧ pairValue e f < 256 ∧ pairValue g h < 256) ∧
      hexNumber [a, b, c, d, e, f, g, h] =
        0x1000000 * pairValue a b + 0x10000 * pairValue c d + 0x100 * pairValue e f +
          pairValue g h := by
  simp only [List.all_cons, List.all_nil, Bool.and_true, Bool.and_eq_true] at all
  obtain ⟨a, b, c, d, e, f, g, h⟩ := all
  refine ⟨⟨pairValue_lt a b, pairValue_lt c d, pairValue_lt e f, pairValue_lt g h⟩, ?_⟩
  simp only [hexNumber, List.foldl_cons, List.foldl_nil, pairValue, hexValue_eq a, hexValue_eq b,
    hexValue_eq c, hexValue_eq d, hexValue_eq e, hexValue_eq f, hexValue_eq g, hexValue_eq h]
  omega

theorem hexText_premultiplyByte {red green blue opacity : Nat} (first : red < 256)
    (second : green < 256) (third : blue < 256) (fourth : opacity < 256) :
    ((Rgb.ofNat (0x10000 * red + 0x100 * green + blue)).premultiplyByte opacity).hexText =
      foldedText red green blue opacity := by
  have channels : Rgb.ofNat (0x10000 * red + 0x100 * green + blue) = ⟨red, green, blue⟩ := by
    rw [Rgb.ofNat]
    congr 2 <;> omega
  have scaled (channel : Nat) :
      Rgb.scaleByte channel opacity = ((channel * opacity / 255 : Nat) : Int) := by
    rw [Rgb.scaleByte, Int.fdiv_eq_ediv_of_nonneg _ (by omega), ← Int.natCast_mul]
    exact (Int.natCast_ediv _ 255).symm
  have small {channel : Nat} (byte : channel < 256) : channel * opacity / 255 < 256 := by
    have : channel * opacity ≤ 255 * 255 := Nat.mul_le_mul (by omega) (by omega)
    omega
  simp only [channels, Rgb.hexText, Rgb.hexChars, Rgb.premultiplyByte, scaled,
    paddedHexInt_eq_byteChars (small first), paddedHexInt_eq_byteChars (small second),
    paddedHexInt_eq_byteChars (small third)]
  rfl

theorem hexText_colorWithAlphaLast {r r' g g' b b' a a' : Char}
    (all : ([r, r', g, g', b, b', a, a']).all isHexDigit = true) :
    (colorWithAlphaLast [r, r', g, g', b, b', a, a']).hexText =
      foldedText (pairValue r r') (pairValue g g') (pairValue b b') (pairValue a a') := by
  obtain ⟨⟨red, green, blue, opacity⟩, value⟩ := hexNumber_eight all
  rw [← hexText_premultiplyByte red green blue opacity, colorWithAlphaLast, value]
  congr 3 <;> omega

theorem hexText_colorWithAlphaFirst {a a' r r' g g' b b' : Char}
    (all : ([a, a', r, r', g, g', b, b']).all isHexDigit = true) :
    (colorWithAlphaFirst [a, a', r, r', g, g', b, b']).hexText =
      foldedText (pairValue r r') (pairValue g g') (pairValue b b') (pairValue a a') := by
  obtain ⟨⟨opacity, red, green, blue⟩, value⟩ := hexNumber_eight all
  rw [← hexText_premultiplyByte red green blue opacity, colorWithAlphaFirst, value]
  congr 3 <;> omega

theorem hashColor_eq {digits : List Char} (all : digits.all isHexDigit = true)
    (count : digits.length = 3 ∨ digits.length = 6 ∨ digits.length = 8) :
    hashColor digits = hashText digits := by
  rcases count with three | six | eight
  · obtain ⟨r, g, b, rfl⟩ := List.length_eq_three.1 three
    rfl
  · match digits, six with
    | [r, r', g, g', b, b'], _ => rfl
  · match digits, eight with
    | [r, r', g, g', b, b', a, a'], _ => exact hexText_colorWithAlphaLast all

theorem argbColor_eq {digits : List Char} (all : digits.all isHexDigit = true)
    (eight : digits.length = 8) : (colorWithAlphaFirst digits).hexText = argbText digits := by
  match digits, eight with
  | [a, a', r, r', g, g', b, b'], _ => exact hexText_colorWithAlphaFirst all

theorem hashText_append {channels opacity : List Char} (six : channels.length = 6)
    (two : opacity.length = 2) : hashText (channels ++ opacity) = argbText
    (opacity ++ channels) := by
  match channels, six, opacity, two with
  | [r, r', g, g', b, b'], _, [a, a'], _ => rfl

def digitsFrom (cs : List Char) (column : Nat) : List Char :=
  (cs.drop column).takeWhile fun c => isLowerHexDigit c.toLower

def Apart (c? : Option Char) : Prop := ∀ c ∈ c?, c.isAlphanum = false

theorem apart_iff {c? : Option Char} : Apart c? ↔ c?.any isAlphanumeric = false := by
  cases c? <;> simp [Apart, isAlphanumeric_eq]

theorem digitsFrom_eq (cs : List Char) (column : Nat) :
    digitsFrom cs column = (cs.drop column).takeWhile isHexDigit := by
  rw [digitsFrom, ← funext isHexDigit_eq]

theorem all_digitsFrom (cs : List Char) (column : Nat) :
    (digitsFrom cs column).all isHexDigit = true := by
  rw [digitsFrom_eq]
  exact List.all_takeWhile

theorem digitsFrom_eq_take {cs : List Char} {column n : Nat}
    (count : (digitsFrom cs column).length = n) :
    digitsFrom cs column = (cs.drop column).take n := by
  rw [← count]
  exact List.prefix_iff_eq_take.1 (List.takeWhile_prefix _)

theorem length_le_digitsFrom {cs digits : List Char} {column : Nat}
    (stand : (cs.drop column).take digits.length = digits) (all : digits.all isHexDigit = true) :
    digits.length ≤ (digitsFrom cs column).length := by
  rw [digitsFrom_eq, ← List.take_append_drop digits.length (cs.drop column), stand,
    List.takeWhile_append_of_pos (List.all_eq_true.1 all), List.length_append]
  exact Nat.le_add_right ..

theorem hexRun_inLine (cs : List Char) (column skip : Nat) :
    (Spot.inLine cs column).hexRun skip = digitsFrom cs (column + skip) := by
  rw [Spot.hexRun, Spot.ahead_inLine, List.drop_drop, digitsFrom_eq]

theorem contains_ofList {lengths : List Int} {n : Nat} :
    (HexLengths.ofList lengths).contains n = true ↔ (n : Int) ∈ lengths ∧ n ∈ [3, 6, 8] := by
  simp only [HexLengths.ofList, HexLengths.contains, Bool.or_eq_true, Bool.and_eq_true, beq_iff_eq,
    List.contains_eq_mem, decide_eq_true_eq, List.mem_cons, List.not_mem_nil, or_false]
  constructor
  · rintro ((⟨there, rfl⟩ | ⟨there, rfl⟩) | ⟨there, rfl⟩)
    · exact ⟨there, .inl rfl⟩
    · exact ⟨there, .inr (.inl rfl)⟩
    · exact ⟨there, .inr (.inr rfl)⟩
  · rintro ⟨there, rfl | rfl | rfl⟩
    · exact .inl (.inl ⟨there, rfl⟩)
    · exact .inl (.inr ⟨there, rfl⟩)
    · exact .inr ⟨there, rfl⟩

section reading

variable {cs : List Char} {column : Nat} {r : Reading}

theorem apart_before : (Spot.inLine cs column).precededBy isAlphanumeric = false ↔
    column = 0 ∨ Apart cs[column - 1]? := by
  rw [apart_iff, Spot.precededBy_inLine_eq_false_iff]

theorem apart_behind {n : Nat} : (Spot.inLine cs column).followedBy n isAlphanumeric = false ↔
    Apart cs[column + n]? := by
  rw [apart_iff, Spot.followedBy_inLine]

theorem readHashAt_eq_some_iff {lengths : List Int} :
    readHashAt (HexLengths.ofList lengths) cs column = some r ↔
      (((digitsFrom cs (column + 1)).length : Int) ∈ lengths ∧
        (digitsFrom cs (column + 1)).length ∈ [3, 6, 8]) ∧
      Apart cs[column + ((digitsFrom cs (column + 1)).length + 1)]? ∧
      (column = 0 ∨ Apart cs[column - 1]?) ∧
      r = ⟨(digitsFrom cs (column + 1)).length + 1, hashText (digitsFrom cs (column + 1))⟩ := by
  have all := all_digitsFrom cs (column + 1)
  rw [← contains_ofList, ← apart_behind, ← apart_before, readHashAt_natCast, readHash_eq,
    hexRun_inLine]
  constructor
  · intro h
    split at h
    · cases h
    · rename_i free
      obtain ⟨before, behind⟩ := Bool.or_eq_false_iff.1 (Bool.eq_false_iff.2 free)
      split at h
      · rename_i enabled
        obtain rfl := Option.some.inj h
        exact ⟨enabled, behind, before,
          by rw [hashColor_eq all (HexLengths.length_of_contains enabled)]⟩
      · cases h
  · rintro ⟨enabled, behind, before, rfl⟩
    simp [behind, before, enabled, hashColor_eq all (HexLengths.length_of_contains enabled)]

theorem readArgbAt_eq_some_iff :
    readArgbAt cs column = some r ↔
      (digitsFrom cs (column + 2)).length = 8 ∧
      Apart cs[column + ((digitsFrom cs (column + 2)).length + 2)]? ∧
      r = ⟨10, argbText (digitsFrom cs (column + 2))⟩ := by
  have all := all_digitsFrom cs (column + 2)
  rw [← apart_behind, readArgbAt_natCast, readArgb_eq, hexRun_inLine]
  constructor
  · intro h
    split at h
    · cases h
    · rename_i behind
      split at h
      · rename_i eight
        obtain rfl := Option.some.inj h
        exact ⟨eight, Bool.eq_false_iff.2 behind, by rw [eight, argbColor_eq all eight]⟩
      · cases h
  · rintro ⟨eight, behind, rfl⟩
    rw [eight] at behind
    simp [behind, eight, argbColor_eq all eight]

end reading

/-- A number sign takes all the digits behind it, if there are as many as it may take, and `0x`
takes eight. Both give one color to the same channels and opacity. -/
theorem hexadecimal_literals :
    (∀ (lengths : List Int) (cs : List Char) (column : Nat) (r : Reading),
      readHashAt (HexLengths.ofList lengths) cs column = some r ↔
        (((digitsFrom cs (column + 1)).length : Int) ∈ lengths ∧
          (digitsFrom cs (column + 1)).length ∈ [3, 6, 8]) ∧
        Apart cs[column + ((digitsFrom cs (column + 1)).length + 1)]? ∧
        (column = 0 ∨ Apart cs[column - 1]?) ∧
        r = ⟨(digitsFrom cs (column + 1)).length + 1, hashText (digitsFrom cs (column + 1))⟩) ∧
    (∀ (cs : List Char) (column : Nat) (r : Reading),
      readArgbAt cs column = some r ↔
        (digitsFrom cs (column + 2)).length = 8 ∧
        Apart cs[column + ((digitsFrom cs (column + 2)).length + 2)]? ∧
        r = ⟨10, argbText (digitsFrom cs (column + 2))⟩) ∧
    ∀ (lengths : List Int) (cs cs' channels opacity : List Char) (column column' : Nat)
      (r r' : Reading), channels.length = 6 → opacity.length = 2 →
      (cs.drop column).take 9 = '#' :: (channels ++ opacity) →
      (cs'.drop column').take 10 = '0' :: 'x' :: (opacity ++ channels) →
      readHashAt (HexLengths.ofList lengths) cs column = some r →
      readArgbAt cs' column' = some r' → r.color = r'.color := by
  refine ⟨fun _ _ _ _ => readHashAt_eq_some_iff, fun _ _ _ => readArgbAt_eq_some_iff, ?_⟩
  intro lengths cs cs' channels opacity column column' r r' six two hash argb found found'
  obtain ⟨⟨_, known⟩, -, -, rfl⟩ := readHashAt_eq_some_iff.1 found
  obtain ⟨eight, -, rfl⟩ := readArgbAt_eq_some_iff.1 found'
  have hash : (cs.drop (column + 1)).take 8 = channels ++ opacity := by
    have tail := congrArg List.tail hash
    rwa [← List.drop_one, List.drop_take, List.drop_drop] at tail
  have argb : (cs'.drop (column' + 2)).take 8 = opacity ++ channels := by
    have tail := congrArg (List.drop 2) argb
    rwa [List.drop_take, List.drop_drop] at tail
  have count : (channels ++ opacity).length = 8 := by rw [List.length_append, six, two]
  have digits : digitsFrom cs' (column' + 2) = opacity ++ channels := by
    rw [digitsFrom_eq_take eight, argb]
  have all : (channels ++ opacity).all isHexDigit = true := by
    have all := all_digitsFrom cs' (column' + 2)
    rwa [digits, List.all_append, Bool.and_comm, ← List.all_append] at all
  have many : 8 ≤ (digitsFrom cs (column + 1)).length := by
    rw [← count]
    exact length_le_digitsFrom (by rw [count, hash]) all
  have eight : (digitsFrom cs (column + 1)).length = 8 := by
    simp only [List.mem_cons, List.not_mem_nil, or_false] at known
    omega
  show hashText _ = argbText _
  rw [digitsFrom_eq_take eight, hash, digits]
  exact hashText_append six two

theorem hexadecimal_literals_translucent :
    ∃ r r' : Reading,
      readHashAt (HexLengths.ofList [3, 8]) "-#C8643280;".toList 1 = some r ∧
      readArgbAt "a 0x80C86432 b".toList 2 = some r' ∧ r.color = r'.color := by
  have found : readHashAt (HexLengths.ofList [3, 8]) "-#C8643280;".toList 1 =
      some ⟨9, "643219"⟩ := by decide +kernel
  have found' : readArgbAt "a 0x80C86432 b".toList 2 = some ⟨10, "643219"⟩ := by
    decide +kernel
  exact ⟨_, _, found, found',
    hexadecimal_literals.2.2 [3, 8] "-#C8643280;".toList "a 0x80C86432 b".toList
    "C86432".toList "80".toList 1 2 _ _ rfl rfl (by decide) (by decide) found found'⟩

end ColorSpans
