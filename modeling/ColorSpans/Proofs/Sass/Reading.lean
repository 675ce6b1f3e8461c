import ColorSpans.Sass.Sheet

/-! Reading all lines of a sheet anew leaves nothing of what they said before. -/
namespace ColorSpans.Sass

def Sheet.Range.whole : Sheet.Range := ⟨0, none⟩

namespace Sheet

def Numbered (sheet : Sheet) : Prop :=
  (∀ number ∈ sheet.declarations, 0 ≤ number) ∧ ∀ number ∈ sheet.imports, 0 ≤ number

theorem numbered_empty : empty.Numbered := ⟨fun _ => by simp [empty], fun _ => by simp [empty]⟩

theorem Numbered.add {sheet : Sheet} (h : sheet.Numbered) {number : Int} (positive : 0 ≤ number)
    (found : Declarations) (targets : List String) :
    ((sheet.addDeclarations number found).addImports number targets).Numbered := by
  have declared : (sheet.addDeclarations number found).Numbered := by
    simp only [addDeclarations]
    split
    · exact h
    · refine ⟨fun other there => ?_, h.2⟩
      rcases Std.ExtTreeMap.mem_insert.1 there with same | there
      · rwa [← Std.LawfulEqCmp.eq_of_compare same]
      · exact h.1 other there
  simp only [addImports]
  split
  · exact declared
  · refine ⟨declared.1, fun other there => ?_⟩
    rcases Std.ExtTreeMap.mem_insert.1 there with same | there
    · rwa [← Std.LawfulEqCmp.eq_of_compare same]
    · exact declared.2 other there

theorem Numbered.erase {sheet : Sheet} (h : sheet.Numbered) (range : Range) :
    (sheet.erase range).Numbered :=
  ⟨fun number there => h.1 number (Std.ExtTreeMap.mem_of_mem_filter there),
    fun number there => h.2 number (Std.ExtTreeMap.mem_of_mem_filter there)⟩

theorem numbered_readFrom {matcher : Option Matcher} {lines : List String} {sheet out : Sheet}
    {first : Int} {pending : Bool} (h : sheet.Numbered) (positive : 0 ≤ first)
    (read : readFrom matcher sheet first pending lines = .ok out) : out.Numbered := by
  induction lines generalizing sheet first pending with
  | nil => cases read; exact h
  | cons line lines ih =>
    simp only [readFrom] at read
    cases found : readDeclarations matcher (dropComments line.toList) with
    | error e => rw [found] at read; cases read
    | ok declared =>
      rw [found] at read
      exact ih (h.add positive declared _) (by omega) read

theorem numbered_read {matcher : Option Matcher} {lines : List String} {out : Sheet}
    (read : read matcher lines = .ok out) : out.Numbered :=
  numbered_readFrom numbered_empty (Int.le_refl 0) read

theorem numbered_of_read {matcher : Option Matcher} {lines : List String} {sheet fresh : Sheet}
    (read : read matcher lines = .ok fresh) (declarations : sheet.declarations = fresh.declarations)
    (imports : sheet.imports = fresh.imports) : sheet.Numbered := by
  have numbered := numbered_read read
  exact ⟨declarations ▸ numbered.1, imports ▸ numbered.2⟩

theorem erase_whole {sheet : Sheet} (h : sheet.Numbered) : sheet.erase .whole = empty := by
  have inside : ∀ number : Int, 0 ≤ number → Range.whole.contains number = true := by
    intro number positive
    simp [Range.contains, Range.whole, positive]
  have declarations : sheet.declarations.filter (fun number _ => !Range.whole.contains number) =
      ∅ := by
    refine Std.ExtTreeMap.filter_eq_empty_iff.2 fun number there => ?_
    rw [Std.ExtTreeMap.getKey_eq, inside number (h.1 number there)]
    rfl
  have imports : sheet.imports.filter (fun number _ => !Range.whole.contains number) = ∅ := by
    refine Std.ExtTreeMap.filter_eq_empty_iff.2 fun number there => ?_
    rw [Std.ExtTreeMap.getKey_eq, inside number (h.2 number there)]
    rfl
  rw [erase, declarations, imports, empty]

end Sheet

end ColorSpans.Sass
