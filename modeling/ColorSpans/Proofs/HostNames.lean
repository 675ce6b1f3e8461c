import ColorSpans.Caches
import Mathlib.Data.List.Nodup
import Mathlib.Data.List.Perm.Subperm

/-! The names of a host, whose order is not known. A table does not depend on it as long as names
that have one lowercase form have one value. -/
namespace ColorSpans

namespace Json

def isPlain : Json → Bool
  | .bool _ | .int _ | .str _ => true
  | _ => false

def isTruth : Json → Bool
  | .bool _ => true
  | _ => false

theorem eq_of_isSameKey {a b : Json} (plain : a.isPlain = true) (plain' : b.isPlain = true)
    (kind : a.isTruth = b.isTruth) (same : a.isSameKey b = true) : a = b := by
  cases a <;> cases b <;> simp_all [isPlain, isTruth, isSameKey, asNumber]
  rename_i a b
  cases a <;> cases b <;> simp_all

theorem color_of_isSameKey {a b : Json} (plain : a.isPlain = true) (plain' : b.isPlain = true)
    (same : a.isSameKey b = true) {color color' : String} (found : normalizeColor a = some color)
    (found' : normalizeColor b = some color') : color = color' := by
  have kind : a.isTruth = b.isTruth := by
    cases a <;> cases b <;> simp_all [isTruth, normalizeColor]
  obtain rfl := eq_of_isSameKey plain plain' kind same
  exact Option.some.inj (found.symm.trans found')

end Json

namespace NameTable

variable {rules : Rules}

/-- The color that a name is added with, if it is added. -/
def colorOf (rules : Rules) (entry : String × Json) : Option String :=
  if rules.keeps entry.1 then normalizeColor entry.2 else none

theorem getElem?_addName (rules : Rules) (colors : Colors) (entry : String × Json) (q : String) :
    (addName rules colors entry.1 entry.2)[q]? =
      (if entry.1 = q then colorOf rules entry else none).or
        (colors[q]?.or (if rules.lowercase = true ∧ Text.lower entry.1 = q then colorOf rules entry
          else none)) := by
  unfold addName colorOf
  cases rules.keeps entry.1 with
  | false => simp
  | true =>
    cases normalizeColor entry.2 with
    | none => simp
    | some color =>
      cases rules.lowercase with
      | false => by_cases own : entry.1 = q <;> simp [Std.ExtTreeMap.getElem?_insert, own]
      | true =>
        simp only [if_true, Std.ExtTreeMap.getElem?_insertIfNew, Std.ExtTreeMap.getElem?_insert,
          Std.ExtTreeMap.mem_iff_isSome_getElem?, Std.LawfulEqCmp.compare_eq_iff_eq, true_and]
        by_cases own : entry.1 = q
        · by_cases lower : Text.lower entry.1 = q
          · rw [if_neg fun fresh => fresh.2 (by rw [if_pos (own.trans lower.symm)]; rfl),
              if_pos own, if_pos own]
            rfl
          · rw [if_neg fun fresh => lower fresh.1, if_pos own, if_pos own]
            rfl
        · by_cases lower : Text.lower entry.1 = q
          · subst lower
            cases colors[Text.lower entry.1]? <;> simp [own]
          · simp [own, lower]

theorem addName_comm {a b : String × Json} (apart : a.1 ≠ b.1)
    (alike : Text.lower a.1 = Text.lower b.1 → ∀ color color', normalizeColor a.2 = some color →
      normalizeColor b.2 = some color' → color = color') (colors : Colors) :
    addName rules (addName rules colors a.1 a.2) b.1 b.2 =
      addName rules (addName rules colors b.1 b.2) a.1 a.2 := by
  have same (lower : Text.lower a.1 = Text.lower b.1) {color color' : String}
      (given : colorOf rules a = some color) (given' : colorOf rules b = some color') :
      color = color' := by
    unfold colorOf at given given'
    split at given <;> split at given' <;> simp_all
  apply Std.ExtTreeMap.ext_getElem?
  intro q
  simp only [getElem?_addName]
  by_cases own : a.1 = q
  · have other : ¬b.1 = q := fun this => apart (own.trans this.symm)
    cases given : colorOf rules a <;> simp [own, other]
  · by_cases own' : b.1 = q
    · cases given : colorOf rules b <;> simp [own, own']
    · simp only [if_neg own, if_neg own', Option.none_or, Option.or_assoc]
      congr 1
      cases given : colorOf rules a with
      | none => simp
      | some color =>
        cases given' : colorOf rules b with
        | none => simp
        | some color' =>
          by_cases lower : Text.lower a.1 = q <;> by_cases lower' : Text.lower b.1 = q
          · obtain rfl := same (lower.trans lower'.symm) given given'
            simp [lower, lower']
          all_goals simp [lower, lower']

end NameTable

namespace HostNames

/-- Each name has one plain value, and names that have one lowercase form have values that are
compared equal. -/
structure IsPlain (named : HostNames) : Prop where
  plain : ∀ entry ∈ named, entry.2.isPlain = true
  distinct : (named.map Prod.fst).Nodup
  spelled : ∀ entry ∈ named, ∀ other ∈ named, Text.lower entry.1 = Text.lower other.1 →
    entry.2.isSameKey other.2 = true

/-- What is a truth value in one is no number in the other. -/
def AgreeOnTruth (named named' : HostNames) : Prop :=
  ∀ entry ∈ named, ∀ other ∈ named', entry.1 = other.1 → entry.2.isTruth = other.2.isTruth

variable {named named' : HostNames}

theorem perm_of_isSame (plain : IsPlain named) (plain' : IsPlain named')
    (agree : AgreeOnTruth named named') (same : isSame named named' = true) :
    named.Perm named' := by
  obtain ⟨length, all⟩ := Bool.and_eq_true_iff.1 same
  have among : named ⊆ named' := by
    intro entry there
    have found := List.all_eq_true.1 all entry there
    cases held : named'.lookup entry.1 with
    | none =>
      rw [held] at found
      cases found
    | some value =>
      rw [held, Option.any_some] at found
      obtain ⟨before, behind, rfl, -⟩ := List.lookup_eq_some_iff.1 held
      have other : (entry.1, value) ∈ before ++ (entry.1, value) :: behind := by simp
      have equal := Json.eq_of_isSameKey (plain.plain entry there) (plain'.plain _ other)
        (agree entry there _ other rfl) found
      rw [← Prod.eta entry, equal]
      exact other
  apply (List.subperm_of_subset (List.Nodup.of_map _ plain.distinct) among).perm_of_length_le
  exact Nat.le_of_eq (beq_iff_eq.1 length).symm

theorem addHostNames_perm (plain : IsPlain named) (perm : named.Perm named')
    (rules : NameTable.Rules) (colors : Colors) :
    NameTable.addHostNames rules colors named = NameTable.addHostNames rules colors named' := by
  apply perm.foldl_eq'
  intro a there b there' colors
  by_cases apart : a.1 = b.1
  · rw [List.inj_on_of_nodup_map plain.distinct there there' apart]
  · apply NameTable.addName_comm apart
    intro lower color color' found found'
    exact Json.color_of_isSameKey (plain.plain a there) (plain.plain b there')
      (plain.spelled a there b there' lower)
      found found'

end HostNames

end ColorSpans
