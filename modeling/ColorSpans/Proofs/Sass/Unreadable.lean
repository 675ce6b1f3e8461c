import ColorSpans.Proofs.Sass.Declaring
import ColorSpans.Proofs.Sass.Steps

/-! Lines that cannot be read. A hue is an integer, and one of more than 4300 digits is refused, so
a declaration of such a color makes its line unreadable. -/
namespace ColorSpans
open Numeral Text

namespace Sass

def hueLine (count : Nat) : String := String.ofList (['$', 'y', ':', ' '] ++ (hueOf count ++ [';']))

theorem mem_hueOf {count : Nat} {c : Char} (there : c ∈ hueOf count) :
    c ∈ ['h', 's', 'l', '(', '1', ',', '0', '%', ')'] := by
  simp only [hueOf, behindHue, List.mem_append, List.mem_replicate, List.mem_cons, List.not_mem_nil,
    or_false] at there ⊢
  tauto

theorem not_mem_hueOf {count : Nat} {c : Char}
    (other : c ∉ ['h', 's', 'l', '(', '1', ',', '0', '%', ')']) :
    c ∉ hueOf count :=
  mt mem_hueOf other

theorem hueLine_eq (count : Nat) : hueLine count = declaring "y" (String.ofList (hueOf count)) := by
  have text : (String.ofList (hueOf count)).toList = hueOf count := String.toList_ofList
  rw [hueLine, ← String.toList_inj, toList_declaring, String.toList_ofList, text]
  rfl

section

variable {m : Matcher} {count : Nat}
    (takes : m.prefixedSpot ⟨none, hueOf count⟩ = some (.function .hsl))
  (many : digitLimit < count)

include takes many

theorem readValue_hueOf : readValue (some m) (hueOf count) = .error (.tooManyDigits count) := by
  have solid : ∀ c ∈ hueOf count, isBlank c = false := by
    have clear : (['h', 's', 'l', '(', '1', ',', '0', '%', ')'].all fun c => isBlank c == false) =
        true := by
      decide
    exact fun c there => beq_iff_eq.1 (List.all_eq_true.1 clear c (mem_hueOf there))
  have value : dropFlags (trim (hueOf count)) = hueOf count := by
    rw [trim, dropAround_eq_self solid, dropFlags_eq (not_mem_hueOf (by decide))]
  rw [readValue]
  simp only [value]
  exact congrArg (· >>= fun reading : Option Reading =>
    Except.ok (reading.map fun r : Reading => Declaration.color r.color))
    ((m.readAt_eq none (hueOf count) 0).trans (Matcher.readSpot_hueOf takes many))

theorem readFrom_hueLine (sheet : Sheet) (first : Int) (pending : Bool) (rest : List String) :
    Sheet.readFrom (some m) sheet first pending (hueLine count :: rest) =
      .error (.tooManyDigits count) := by
  have named : IsName "y".toList := ⟨by decide, List.all_eq_true.1 (by decide)⟩
  have plain : Declarable (String.ofList (hueOf count)).toList := by
    rw [String.toList_ofList]
    exact ⟨not_mem_hueOf (by decide), .of_not_mem (not_mem_hueOf (by decide)),
      not_mem_hueOf (by decide)⟩
  rw [Sheet.readFrom, hueLine_eq, readDeclarations_declaring named plain, String.toList_ofList,
    readValue_hueOf takes many]
  rfl

end

end Sass

end ColorSpans
