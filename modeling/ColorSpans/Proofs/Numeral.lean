import ColorSpans.Numeral.Reading

/-! Texts of digits only, of whatever script. They are integers, and are refused only where they are
too long. -/
namespace ColorSpans
open Text

namespace Text

theorem dropWhile_eq_self {p : Char → Bool} {cs : List Char} (outside : ∀ c ∈ cs, p c = false) :
    cs.dropWhile p = cs := by
  cases cs with
  | nil => rfl
  | cons c cs => simp [outside c List.mem_cons_self]

theorem dropAround_eq_self {p : Char → Bool} {cs : List Char} (outside : ∀ c ∈ cs, p c = false) :
    dropAround p cs = cs := by
  have back : ∀ c ∈ cs.reverse, p c = false := fun c there => outside c (List.mem_reverse.1 there)
  rw [dropAround, dropWhile_eq_self outside, dropWhile_eq_self back, List.reverse_reverse]

theorem exists_zero_of_digitValue {c : Char} {d : Nat} (h : digitValue? c = some d) :
    ∃ first ∈ digitZeros, c.toNat = first + d := by
  suffices ∀ (zeros : List Nat) (n : Nat), digitValue?.go n zeros = some d →
      ∃ first ∈ zeros, n = first + d from this _ _ h
  intro zeros n found
  induction zeros with
  | nil => simp [digitValue?.go] at found
  | cons first rest ih =>
    simp only [digitValue?.go] at found
    split at found
    · cases found
    · split at found
      · obtain rfl := Option.some.inj found
        exact ⟨first, List.mem_cons_self, by omega⟩
      · obtain ⟨other, there, same⟩ := ih found
        exact ⟨other, List.mem_cons_of_mem _ there, same⟩

theorem isBlank_of_isDigit {c : Char} (h : isDigit c = true) : isBlank c = false := by
  obtain ⟨d, value⟩ := Option.isSome_iff_exists.1 h
  obtain ⟨first, known, same⟩ := exists_zero_of_digitValue value
  have small := digitValue_lt value
  have apart : ∀ first ∈ digitZeros, first = 0x30 ∨ (0xa1 ≤ first ∧ first + 10 ≤ 0x1680) ∨
      (0x1681 ≤ first ∧ first + 10 ≤ 0x2000) ∨ 0x3001 ≤ first := by decide
  have gap := apart first known
  simp only [isBlank, Bool.or_eq_false_iff, Bool.and_eq_false_iff, decide_eq_false_iff_not,
    beq_eq_false_iff_ne]
  omega

end Text

namespace Numeral

structure Digits (text : List Char) : Prop where
  nonempty : text ≠ []
  all : ∀ c ∈ text, isDigit c = true

theorem isDigit_plainDigit {c : Char} (h : isDigit c = true) : (plainDigit c).isDigit = true := by
  obtain ⟨d, value⟩ := Option.isSome_iff_exists.1 h
  have every : ∀ d < 10, (Nat.digitChar d).isDigit = true := by decide
  rw [plainDigit, value]
  exact every d (digitValue_lt value)

theorem Digits.plain {text : List Char} (h : Digits text) : plain text = text.map plainDigit := by
  have outside : ∀ c ∈ text, isPadding c = false := fun c there => by
    rw [isPadding, isBlank_of_isDigit (h.all c there)]
    rfl
  rw [Numeral.plain, dropAround_eq_self outside]

theorem Digits.all_plain {text : List Char} (h : Digits text) :
    ∀ c ∈ text.map plainDigit, c.isDigit = true := by
  intro c there
  obtain ⟨d, known, rfl⟩ := List.mem_map.1 there
  exact isDigit_plainDigit (h.all d known)

theorem joinDigits_of_isDigit {cs : List Char} (digits : ∀ c ∈ cs, c.isDigit = true)
    (afterDigit : Bool) : joinDigits afterDigit cs = some cs := by
  induction cs generalizing afterDigit with
  | nil => rfl
  | cons c cs ih =>
    have here := digits c List.mem_cons_self
    rw [joinDigits]
    · rw [ih fun d there => digits d (List.mem_cons_of_mem _ there)]
      rfl
    · rintro rfl
      exact absurd here (by decide)

theorem splitSign_of_isDigit {cs : List Char} (digits : ∀ c ∈ cs, c.isDigit = true) :
    splitSign cs = (false, cs) := by
  unfold splitSign
  split
  · exact absurd (digits '-' List.mem_cons_self) (by decide)
  · exact absurd (digits '+' List.mem_cons_self) (by decide)
  · rfl

theorem Digits.readInt {text : List Char} (h : Digits text) :
    readInt text = if digitLimit < text.length then .error (.tooManyDigits text.length)
      else .ok (some (digitsValue (decimalDigits (text.map plainDigit)))) := by
  have nonempty : (text.map plainDigit).isEmpty = false := by
    rw [List.isEmpty_eq_false_iff]
    exact fun none => h.nonempty (List.map_eq_nil_iff.1 none)
  have all : (text.map plainDigit).all Char.isDigit = true := List.all_eq_true.2 h.all_plain
  rw [Numeral.readInt, h.plain, splitSign_of_isDigit h.all_plain]
  simp only [joinDigits_of_isDigit h.all_plain, nonempty, all, List.length_map, Bool.not_true,
    Bool.or_false, Bool.false_eq_true, if_false]

theorem digits_replicate {count : Nat} (positive : 0 < count) :
    Digits (List.replicate count '1') where
  nonempty := by
    rw [ne_eq, List.replicate_eq_nil_iff]
    omega
  all c there := by
    rw [(List.mem_replicate.1 there).2]
    decide

end Numeral

end ColorSpans
