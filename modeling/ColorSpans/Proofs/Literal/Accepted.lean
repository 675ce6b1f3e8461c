import ColorSpans.Literal.Column
import ColorSpans.Proofs.Literal.Calls
import ColorSpans.Proofs.Outcome

/-! What the decoders of color functions accept: the calls of the grammar whose arguments are in
range. The texts of the arguments decide the color, whatever stands between them. -/
namespace ColorSpans
open Numeral Text

namespace Numeral

def number (text : List Char) : Nat := digitsValue (text.map fun c => (digitValue? c).getD 0)

theorem Digits.decimalDigits_plain {text : List Char} (h : Digits text) :
    decimalDigits (text.map plainDigit) = text.map fun c => (digitValue? c).getD 0 := by
  rw [decimalDigits, List.map_map]
  refine List.map_congr_left fun c there => ?_
  obtain ⟨d, value⟩ := Option.isSome_iff_exists.1 (h.all c there)
  have every : ∀ d < 10, (Nat.digitChar d).toNat - '0'.toNat = d := by decide
  simp only [Function.comp_apply, plainDigit, value, Option.getD_some]
  exact every d (digitValue_lt value)

end Numeral

theorem eq_number_of_readNatural {text : List Char} (digits : Digits text) {n : Nat}
    (h : readNatural text = .ok n) : n = number text := by
  rw [readNatural, digits.readInt] at h
  split at h
  · cases h
  · obtain ⟨_, same, rfl⟩ := map_eq_ok.1 h
    obtain rfl := Except.ok.inj same
    rw [digits.decimalDigits_plain]
    rfl

/-- An arithmetic that turns away no hue, saturation and lightness in range. -/
def Arithmetic.Answers (a : Arithmetic) : Prop :=
  ∀ hue saturation lightness : Nat, hue ≤ 360 → saturation ≤ 100 → lightness ≤ 100 →
    a.ofHsl (Hsl.ofDegrees hue saturation lightness) ≠ .ok none

def Argument.Admits : Argument → List Char → Prop
  | .channel, text => ∃ n, readChannel text = .ok (some n)
  | .degrees, text => number text ≤ 360
  | .percent, text => number text ≤ 100
  | .opacity, text => ∃ x, readFloat text = some x ∧ 0 ≤ x ∧ x ≤ 1

theorem admits_opacity_iff {text : List Char} :
    Argument.opacity.Admits text ↔ ∃ x, readOpacity text = some x := by
  simp [Argument.Admits, readOpacity, Option.filter_eq_some_iff]

section color

variable {a : Arithmetic}

theorem admits_rgbOfTexts {red green blue : List Char} {c : Rgb}
    (h : rgbOfTexts red green blue = .ok (some c)) :
    Argument.channel.Admits red ∧ Argument.channel.Admits green ∧ Argument.channel.Admits blue := by
  obtain ⟨_ | r, first, h⟩ := bind_eq_ok.1 h
  · cases h
  obtain ⟨_ | g, second, h⟩ := bind_eq_ok.1 h
  · cases h
  obtain ⟨_ | b, third, h⟩ := bind_eq_ok.1 h
  · cases h
  exact ⟨⟨r, first⟩, ⟨g, second⟩, b, third⟩

theorem rgbOfTexts_ne_none {red green blue : List Char} (first : Argument.channel.Admits red)
    (second : Argument.channel.Admits green) (third : Argument.channel.Admits blue) :
    rgbOfTexts red green blue ≠ .ok none := by
  obtain ⟨r, first⟩ := first
  obtain ⟨g, second⟩ := second
  obtain ⟨b, third⟩ := third
  simp [rgbOfTexts, first, second, third, bind, Except.bind, pure, Except.pure]

theorem hslOfTexts_eq_ok {hue saturation lightness : List Char} (first : Digits hue)
    (second : Digits saturation) (third : Digits lightness) {color : Option Rgb}
    (h : hslOfTexts a hue saturation lightness = .ok color) :
    (if 360 < number hue ∨ 100 < number saturation ∨ 100 < number lightness then .ok none
      else a.ofHsl (Hsl.ofDegrees (number hue) (number saturation) (number lightness))) =
        .ok color := by
  obtain ⟨_, read, h⟩ := bind_eq_ok.1 h
  obtain rfl := eq_number_of_readNatural first read
  obtain ⟨_, read, h⟩ := bind_eq_ok.1 h
  obtain rfl := eq_number_of_readNatural second read
  obtain ⟨_, read, h⟩ := bind_eq_ok.1 h
  obtain rfl := eq_number_of_readNatural third read
  exact h

theorem admits_hslOfTexts {hue saturation lightness : List Char} (first : Digits hue)
    (second : Digits saturation) (third : Digits lightness) {c : Rgb}
    (h : hslOfTexts a hue saturation lightness = .ok (some c)) :
    Argument.degrees.Admits hue ∧ Argument.percent.Admits saturation ∧
      Argument.percent.Admits lightness := by
  have converted := hslOfTexts_eq_ok first second third h
  simp only [Argument.Admits]
  split at converted
  · cases converted
  · omega

theorem hslOfTexts_ne_none (answers : a.Answers) {hue saturation lightness : List Char}
    (first : Digits hue) (second : Digits saturation) (third : Digits lightness)
    (small : Argument.degrees.Admits hue) (small' : Argument.percent.Admits saturation)
    (small'' : Argument.percent.Admits lightness) :
    hslOfTexts a hue saturation lightness ≠ .ok none := by
  intro h
  have converted := hslOfTexts_eq_ok first second third h
  simp only [Argument.Admits] at small small' small''
  rw [if_neg (by omega)] at converted
  exact answers _ _ _ small small' small'' converted

theorem color_of_withOpacity {alpha : List Char} {color : Except NumeralError (Option Rgb)}
    {c : Rgb} (h : withOpacity a alpha color = .ok (some c)) :
    Argument.opacity.Admits alpha ∧ ∃ plain, color = .ok (some plain) := by
  rw [admits_opacity_iff]
  rw [withOpacity] at h
  cases found : readOpacity alpha with
  | none =>
    rw [found] at h
    cases h
  | some x =>
    rw [found] at h
    obtain ⟨_ | plain, same, h⟩ := bind_eq_ok.1 h
    · cases h
    exact ⟨⟨x, rfl⟩, plain, same⟩

theorem withOpacity_ne_none {alpha : List Char} {color : Except NumeralError (Option Rgb)}
    (small : Argument.opacity.Admits alpha) (found : color ≠ .ok none) :
    withOpacity a alpha color ≠ .ok none := by
  obtain ⟨x, opacity⟩ := admits_opacity_iff.1 small
  intro h
  rw [withOpacity, opacity] at h
  obtain ⟨_ | plain, same, h⟩ := bind_eq_ok.1 h
  · exact found same
  obtain ⟨_, _, h⟩ := bind_eq_ok.1 h
  cases h

namespace ColorFunction

variable {f : ColorFunction} {texts : List (List Char)}

theorem admits_of_color (taken : List.Forall₂ Argument.Takes f.arguments texts) {c : Rgb}
    (h : f.color a texts = .ok (some c)) : List.Forall₂ Argument.Admits f.arguments texts := by
  cases f with
  | rgb =>
    obtain _ | ⟨red, _ | ⟨green, _ | ⟨blue, _ | _⟩⟩⟩ := taken
    simpa [arguments] using admits_rgbOfTexts h
  | rgba =>
    obtain _ | ⟨red, _ | ⟨green, _ | ⟨blue, _ | ⟨alpha, _ | _⟩⟩⟩⟩ := taken
    obtain ⟨small, plain, h⟩ := color_of_withOpacity h
    simpa [arguments, small] using admits_rgbOfTexts h
  | hsl =>
    obtain _ | ⟨hue, _ | ⟨saturation, _ | ⟨lightness, _ | _⟩⟩⟩ := taken
    simpa [arguments] using admits_hslOfTexts hue saturation lightness h
  | hsla =>
    obtain _ | ⟨hue, _ | ⟨saturation, _ | ⟨lightness, _ | ⟨alpha, _ | _⟩⟩⟩⟩ := taken
    obtain ⟨small, plain, h⟩ := color_of_withOpacity h
    simpa [arguments, small] using admits_hslOfTexts hue saturation lightness h

theorem color_ne_none (answers : a.Answers) (taken : List.Forall₂ Argument.Takes f.arguments texts)
    (small : List.Forall₂ Argument.Admits f.arguments texts) : f.color a texts ≠ .ok none := by
  cases f with
  | rgb =>
    obtain _ | ⟨red, _ | ⟨green, _ | ⟨blue, _ | _⟩⟩⟩ := small
    exact rgbOfTexts_ne_none red green blue
  | rgba =>
    obtain _ | ⟨red, _ | ⟨green, _ | ⟨blue, _ | ⟨alpha, _ | _⟩⟩⟩⟩ := small
    exact withOpacity_ne_none alpha (rgbOfTexts_ne_none red green blue)
  | hsl =>
    obtain _ | ⟨hue, _ | ⟨saturation, _ | ⟨lightness, _ | _⟩⟩⟩ := taken
    obtain _ | ⟨small, _ | ⟨small', _ | ⟨small'', _ | _⟩⟩⟩ := small
    exact hslOfTexts_ne_none answers hue saturation lightness small small' small''
  | hsla =>
    obtain _ | ⟨hue, _ | ⟨saturation, _ | ⟨lightness, _ | ⟨_, _ | _⟩⟩⟩⟩ := taken
    obtain _ | ⟨small, _ | ⟨small', _ | ⟨small'', _ | ⟨alpha, _ | _⟩⟩⟩⟩ := small
    exact withOpacity_ne_none alpha
      (hslOfTexts_ne_none answers hue saturation lightness small small' small'')

end ColorFunction

end color

section decoder

variable {a : Arithmetic} {f : ColorFunction}

theorem readFunction_eq_some_iff {s : Spot} {n : Nat} {hex : String} :
    readFunction a f s = .ok (some ⟨n, hex⟩) ↔
      ∃ texts c, n ≤ s.ahead.length ∧ f.Call texts (s.ahead.take n) ∧
        f.color a texts = .ok (some c) ∧ hex = c.hexText := by
  constructor
  · intro h
    cases call : f.readCall s.ahead with
    | none =>
      rw [readFunction_none s call] at h
      cases h
    | some found =>
      obtain ⟨texts, rest⟩ := found
      rw [readFunction_some s call] at h
      obtain ⟨color, named, h⟩ := map_eq_ok.1 h
      obtain ⟨c, rfl, h⟩ := Option.map_eq_some_iff.1 h
      obtain ⟨rfl, rfl⟩ := Reading.mk.inj (Option.some.inj h)
      obtain ⟨w, call, whole⟩ := ColorFunction.readCall_eq_some_iff.1 call
      have long : s.ahead.length - rest.length = w.length := by
        rw [whole, List.length_append, Nat.add_sub_cancel]
      refine ⟨texts, c, Nat.sub_le .., ?_, named, rfl⟩
      rwa [long, whole, List.take_left]
  · rintro ⟨texts, c, inside, call, named, rfl⟩
    have long : s.ahead.length - (s.ahead.drop n).length = n := by
      rw [List.length_drop]
      omega
    rw [readFunction_some s call.readCall_take, named, long]
    rfl

/-- A call of the function stands in a line at a column, and its arguments are in range. -/
structure ColorFunction.Accepts (f : ColorFunction) (line : List Char) (column n : Nat)
    (texts : List (List Char)) : Prop where
  inside : column + n ≤ line.length
  call : f.Call texts ((line.drop column).take n)
  admits : List.Forall₂ Argument.Admits f.arguments texts

namespace ColorFunction

variable {line : List Char} {column n n' : Nat} {texts texts' : List (List Char)}

theorem Accepts.unique (h : f.Accepts line column n texts) (h' : f.Accepts line column n' texts') :
    n = n' ∧ texts = texts' := by
  have parts (k : Nat) : (line.drop column).take k ++ (line.drop column).drop k =
      line.drop column :=
    List.take_append_drop ..
  obtain ⟨same, texts⟩ := h.call.unique h'.call ((parts n).trans (parts n').symm)
  have lengths := congrArg List.length same
  simp only [List.length_take, List.length_drop] at lengths
  have := h.inside
  have := h'.inside
  exact ⟨by omega, texts⟩

theorem Accepts.shortest_le (h : f.Accepts line column n texts) :
    f.shortest.length ≤ line.length - column := by
  have short := h.call.shortest_le
  rw [List.length_take, List.length_drop] at short
  omega

theorem Accepts.reads (h : f.Accepts line column n texts) {c : Rgb}
    (named : f.color a texts = .ok (some c)) :
    readFunctionFrom a f line column = .ok (some ⟨n, c.hexText⟩) := by
  have room : n ≤ (Spot.inLine line column).ahead.length := by
    have := h.inside
    rw [Spot.ahead_inLine, List.length_drop]
    omega
  rw [readFunctionFrom_natCast, readFunction_eq_some_iff.2 ⟨texts, c, room, h.call, named, rfl⟩]
  rfl

theorem accepts_of_read {hex : String}
    (h : readFunctionFrom a f line column = .ok (some ⟨n, hex⟩)) :
    ∃ texts c, f.Accepts line column n texts ∧ f.color a texts = .ok (some c) ∧
      hex = c.hexText := by
  rw [readFunctionFrom_natCast] at h
  cases read : readFunction a f (Spot.inLine line column) with
  | error e =>
    rw [read] at h
    cases h
  | ok found =>
    rw [read] at h
    obtain rfl := Except.ok.inj h
    obtain ⟨texts, c, room, call, named, rfl⟩ := readFunction_eq_some_iff.1 read
    rw [Spot.ahead_inLine] at room call
    -- no call is empty, so the column is not behind the line
    have nonempty : 0 < f.shortest.length := by cases f <;> decide
    have short := call.shortest_le
    rw [List.length_drop] at room
    rw [List.length_take, List.length_drop] at short
    exact ⟨texts, c, ⟨by omega, call, admits_of_color call.takes named⟩, named, rfl⟩

theorem Accepts.named (answers : a.Answers) (h : f.Accepts line column n texts)
    (quiet : ¬Raises (readFunctionFrom a f line column)) :
    ∃ c, f.color a texts = .ok (some c) := by
  rw [readFunctionFrom_natCast, raises_mapError,
    readFunction_some (Spot.inLine line column) h.call.readCall_take, raises_map] at quiet
  cases color : f.color a texts with
  | error e => exact absurd ⟨e, color⟩ quiet
  | ok c =>
    cases c with
    | none => exact absurd color (color_ne_none answers h.call.takes h.admits)
    | some c => exact ⟨c, rfl⟩

end ColorFunction

/-- Where a decoder does not fail, it accepts the calls with arguments in range and nothing else. -/
theorem readFunctionFrom_accepts (answers : a.Answers) (f : ColorFunction) (line : List Char)
    (column : Nat) (quiet : ¬Raises (readFunctionFrom a f line column)) :
    (∀ n hex, readFunctionFrom a f line column = .ok (some ⟨n, hex⟩) ↔
      ∃ texts c, f.Accepts line column n texts ∧ f.color a texts = .ok (some c) ∧ hex = c.hexText) ∧
    (∀ n, (∃ hex, readFunctionFrom a f line column = .ok (some ⟨n, hex⟩)) ↔
      ∃ texts, f.Accepts line column n texts) ∧
    (∀ n n' texts texts', f.Accepts line column n texts → f.Accepts line column n' texts' →
      n = n' ∧ texts = texts') ∧
    (∀ line' (column' n n' : Nat) texts hex hex', f.Accepts line column n texts →
      f.Accepts line' column' n' texts → readFunctionFrom a f line column = .ok (some ⟨n, hex⟩) →
      readFunctionFrom a f line' column' = .ok (some ⟨n', hex'⟩) → hex = hex') ∧
    ∀ n texts, f.Accepts line column n texts → f.shortest.length ≤ line.length - column := by
  refine ⟨fun n hex => ⟨ColorFunction.accepts_of_read, ?_⟩, fun n => ⟨?_, ?_⟩,
    fun n n' texts texts' => ?_, ?_, fun n texts => ColorFunction.Accepts.shortest_le⟩
  · rintro ⟨texts, c, accepted, named, rfl⟩
    exact accepted.reads named
  · rintro ⟨hex, read⟩
    obtain ⟨texts, _, accepted, _⟩ := ColorFunction.accepts_of_read read
    exact ⟨texts, accepted⟩
  · rintro ⟨texts, accepted⟩
    obtain ⟨c, named⟩ := accepted.named answers quiet
    exact ⟨c.hexText, accepted.reads named⟩
  · exact ColorFunction.Accepts.unique
  · intro line' column' n n' texts hex hex' here there read read'
    obtain ⟨texts₁, c, accepted, named, rfl⟩ := ColorFunction.accepts_of_read read
    obtain ⟨texts₂, c', accepted', named', rfl⟩ := ColorFunction.accepts_of_read read'
    obtain ⟨-, rfl⟩ := accepted.unique here
    obtain ⟨-, rfl⟩ := accepted'.unique there
    rw [named] at named'
    rw [Option.some.inj (Except.ok.inj named')]

theorem readFunctionFrom_accepts_red :
    let a : Arithmetic := ⟨fun c _ => .ok c, fun _ => .ok (some ⟨255, 0, 0⟩)⟩
    let line := "c: hsl( 0,100% ,50%);".toList
    a.Answers ∧ ¬Raises (readFunctionFrom a .hsl line 3) ∧
      ∃ texts, ColorFunction.hsl.Accepts line 3 17 texts := by
  intro a line
  have answers : a.Answers := fun _ _ _ _ _ _ => nofun
  have read : readFunctionFrom a .hsl line (3 : Nat) = .ok (some ⟨17, "ff0000"⟩) :=
    eq_ok_of_toOption (by decide +kernel)
  have quiet : ¬Raises (readFunctionFrom a .hsl line (3 : Nat)) := by
    rw [read]
    exact not_raises_ok _
  exact ⟨answers, quiet, ((readFunctionFrom_accepts answers .hsl line 3 quiet).2.1 17).1 ⟨_, read⟩⟩

end decoder

end ColorSpans
