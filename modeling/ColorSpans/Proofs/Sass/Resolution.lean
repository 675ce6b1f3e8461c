import ColorSpans.Sass.Sheet
import Mathlib.Data.List.Chain
import Mathlib.Data.List.Perm.Basic
import Mathlib.Logic.Relation

/-! Where aliases lead. Each variable is an alias of at most one other, so following them from a
name comes to a color, to a name that is not declared, or around a cycle, and only to one of these.
As many steps as there are variables tell which: a longer chain meets some variable twice. -/
namespace ColorSpans.Sass

def Hop (merged : Declarations) (a b : String) : Prop := merged[a]? = some (.alias b)

/-- Following aliases leads from one name to another, maybe at once. -/
def Follows (merged : Declarations) : String → String → Prop := Relation.ReflTransGen (Hop merged)

def Circular (merged : Declarations) (name : String) : Prop :=
  Relation.TransGen (Hop merged) name name

variable {merged : Declarations} {name last other : String}

theorem Hop.unique {a b c : String} (h : Hop merged a b) (h' : Hop merged a c) : b = c :=
  Declaration.alias.inj (Option.some.inj (h.symm.trans h'))

theorem Hop.mem {a b : String} (h : Hop merged a b) : a ∈ merged :=
  Std.ExtTreeMap.mem_iff_isSome_getElem?.2 (by rw [h]; rfl)

theorem Follows.end_unique (h : Follows merged name last) (stop : ∀ next, ¬ Hop merged last next)
    (h' : Follows merged name other) : Follows merged other last := by
  have determined : Relator.RightUnique (Hop merged) := fun _ _ _ => Hop.unique
  rcases Relation.ReflTransGen.total_of_right_unique determined h h' with beyond | before
  · rcases Relation.ReflTransGen.cases_head beyond with rfl | ⟨next, hop, _⟩
    · exact .refl
    · exact absurd hop (stop next)
  · exact before

theorem Follows.end_eq (h : Follows merged name last) (stop : ∀ next, ¬ Hop merged last next)
    (h' : Follows merged name other) (stop' : ∀ next, ¬ Hop merged other next) : last = other := by
  rcases Relation.ReflTransGen.cases_head (h.end_unique stop h') with same | ⟨next, hop, _⟩
  · exact same.symm
  · exact absurd hop (stop' next)

theorem Circular.not_follows_end (cycle : Circular merged name) (h : Follows merged name last) :
    ∃ next, Hop merged last next := by
  induction h using Relation.ReflTransGen.head_induction_on with
  | refl =>
    obtain ⟨next, hop, _⟩ := Relation.TransGen.head'_iff.1 cycle
    exact ⟨next, hop⟩
  | head hop _ ih =>
    obtain ⟨next, hop', back⟩ := Relation.TransGen.head'_iff.1 cycle
    obtain rfl := hop.unique hop'
    exact ih (Relation.TransGen.tail' back hop)

theorem not_hop_of_color {hex : String} (said : merged[last]? = some (.color hex)) (next : String) :
    ¬ Hop merged last next := by
  intro hop
  cases said.symm.trans hop

theorem not_hop_of_undeclared (absent : merged[last]? = none) (next : String) :
    ¬ Hop merged last next := by
  intro hop
  cases absent.symm.trans hop

def Lost (merged : Declarations) (name : String) : Prop :=
  merged[name]? = none ∨ Circular merged name

theorem Follows.not_lost_of_color (h : Follows merged name last) {hex : String}
    (color : merged[last]? = some (.color hex)) :
    ¬ ∃ other, Follows merged name other ∧ Lost merged other := by
  have stop := not_hop_of_color color
  rintro ⟨other, h', absent | cycle⟩
  · obtain rfl := h.end_eq stop h' (not_hop_of_undeclared absent)
    cases color.symm.trans absent
  · obtain ⟨next, hop⟩ := cycle.not_follows_end (h.end_unique stop h')
    exact stop next hop

theorem follows_of_resolveAlias {limit : Nat} {hex : String}
    (found : resolveAlias merged limit name = some hex) :
    ∃ last, Follows merged name last ∧ merged[last]? = some (.color hex) := by
  induction limit generalizing name with
  | zero =>
    rw [resolveAlias] at found
    rcases said : merged[name]? with _ | own | target <;> rw [said] at found
    · cases found
    · cases found
      exact ⟨name, .refl, said⟩
    · cases found
  | succ limit ih =>
    rw [resolveAlias] at found
    rcases said : merged[name]? with _ | own | target <;> rw [said] at found
    · cases found
    · cases found
      exact ⟨name, .refl, said⟩
    · obtain ⟨last, follows, color⟩ := ih found
      exact ⟨last, .head said follows, color⟩

theorem follows_of_resolveAlias_none {limit : Nat} (lost : resolveAlias merged limit name = none) :
    (∃ last, Follows merged name last ∧ merged[last]? = none) ∨
      ∃ rest, rest.length = limit ∧ (name :: rest).IsChain (Hop merged) ∧ ∀ other ∈ name :: rest,
        other ∈ merged := by
  induction limit generalizing name with
  | zero =>
    rw [resolveAlias] at lost
    rcases said : merged[name]? with _ | own | target <;> rw [said] at lost
    · exact .inl ⟨name, .refl, said⟩
    · cases lost
    · exact .inr ⟨[], rfl, List.isChain_singleton _,
        fun other there => List.mem_singleton.1 there ▸ Hop.mem said⟩
  | succ limit ih =>
    rw [resolveAlias] at lost
    rcases said : merged[name]? with _ | own | target <;> rw [said] at lost
    · exact .inl ⟨name, .refl, said⟩
    · cases lost
    · rcases ih lost with ⟨last, follows, absent⟩ | ⟨rest, long, chain, known⟩
      · exact .inl ⟨last, .head said follows, absent⟩
      · exact .inr ⟨target :: rest, congrArg Nat.succ long, List.isChain_cons_cons.2 ⟨said, chain⟩,
          List.forall_mem_cons.2 ⟨Hop.mem said, known⟩⟩

theorem exists_circular {rest : List String} (long : merged.size ≤ rest.length)
    (chain : (name :: rest).IsChain (Hop merged)) (known : ∀ other ∈ name :: rest, other ∈ merged) :
    ∃ again, Follows merged name again ∧ Circular merged again := by
  have onward : (name :: rest).Pairwise (Relation.TransGen (Hop merged)) :=
    List.isChain_iff_pairwise.1 (chain.imp fun _ _ => Relation.TransGen.single)
  have met (again : String) (there : again ∈ name :: rest) : Follows merged name again := by
    rcases List.mem_cons.1 there with rfl | there
    · exact .refl
    · exact ((List.pairwise_cons.1 onward).1 again there).to_reflTransGen
  by_contra straight
  have distinct : (name :: rest).Nodup := onward.imp_of_mem fun {a b} there _ leads same => by
    subst same
    exact straight ⟨a, met a there, leads⟩
  have fits : (name :: rest).length ≤ merged.size := by
    rw [← Std.ExtTreeMap.length_keys]
    exact (List.subperm_of_subset distinct fun other there =>
      Std.ExtTreeMap.mem_keys.2 (known other there)).length_le
  rw [List.length_cons] at fits
  omega

section enough

variable {limit : Nat} (enough : merged.size ≤ limit)

include enough

theorem lost_of_resolveAlias (nothing : resolveAlias merged limit name = none) :
    ∃ other, Follows merged name other ∧ Lost merged other := by
  rcases follows_of_resolveAlias_none nothing with ⟨last, follows, absent⟩ | ⟨rest, long,
    chain, known⟩
  · exact ⟨last, follows, .inl absent⟩
  · obtain ⟨again, follows, cycle⟩ := exists_circular (long ▸ enough) chain known
    exact ⟨again, follows, .inr cycle⟩

theorem resolveAlias_eq_none_iff :
    resolveAlias merged limit name = none ↔ ∃ other,
      Follows merged name other ∧ Lost merged other := by
  refine ⟨lost_of_resolveAlias enough, fun lost => ?_⟩
  by_contra found
  obtain ⟨hex, found⟩ := Option.ne_none_iff_exists'.1 found
  obtain ⟨last, follows, color⟩ := follows_of_resolveAlias found
  exact follows.not_lost_of_color color lost

theorem resolveAlias_eq_some_iff {hex : String} :
    resolveAlias merged limit name = some hex ↔
      ∃ last, Follows merged name last ∧ merged[last]? = some (.color hex) := by
  refine ⟨follows_of_resolveAlias, fun ⟨last, follows, color⟩ => ?_⟩
  cases found : resolveAlias merged limit name with
  | none => exact absurd (lost_of_resolveAlias enough found) (follows.not_lost_of_color color)
  | some own =>
    obtain ⟨other, leads, color'⟩ := follows_of_resolveAlias found
    obtain rfl := follows.end_eq (not_hop_of_color color) leads (not_hop_of_color color')
    exact congrArg some (Declaration.color.inj (Option.some.inj (color'.symm.trans color)))

end enough

theorem getElem?_resolveAll {hex : String} :
    (resolveAll merged)[name]? = some hex ↔
      ∃ last, Follows merged name last ∧ merged[last]? = some (.color hex) := by
  rw [← resolveAlias_eq_some_iff (Nat.le_refl _), resolveAll, Std.ExtTreeMap.getElem?_filterMap']
  cases said : merged[name]? with
  | none =>
    rw [resolveAlias, said]
    cases merged.size <;> exact Iff.rfl
  | some d => exact Iff.rfl

/-- As many steps as there are variables are enough. The color that they find is the one that
aliases lead to, they find none exactly where aliases lead to a name that is not declared or into a
cycle, and more steps find nothing else. -/
theorem resolveAlias_size (merged : Declarations) (name : String) :
    (∀ hex, resolveAlias merged merged.size name = some hex ↔
      ∃ last, Follows merged name last ∧ merged[last]? = some (.color hex)) ∧
    (resolveAlias merged merged.size name = none ↔
      ∃ other, Follows merged name other ∧ (merged[other]? = none ∨ Circular merged other)) ∧
    ∀ limit, merged.size ≤ limit →
      resolveAlias merged limit name = resolveAlias merged merged.size name := by
  refine ⟨fun hex => resolveAlias_eq_some_iff (Nat.le_refl _),
    resolveAlias_eq_none_iff (Nat.le_refl _), fun limit enough => Option.ext fun hex => ?_⟩
  rw [resolveAlias_eq_some_iff enough, resolveAlias_eq_some_iff (Nat.le_refl _)]

end ColorSpans.Sass
