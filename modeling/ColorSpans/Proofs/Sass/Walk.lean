import ColorSpans.Sass.Variables
import Mathlib.Data.List.Basic
import Mathlib.Logic.Relation

/-! Walking through imports depth first, told without fuel. A walk from the root finishes exactly
the sheets that the root leads to, and only edges to sheets matter to it. -/
namespace ColorSpans.Sass

/-- What is left of some paths; a descent that sees one more of them at every step is bounded by
it. -/
def remaining (paths seen : List String) : List String :=
  paths.filter fun path => !seen.contains path

theorem length_remaining_cons_lt {paths seen : List String} {path : String} (there : path ∈ paths)
    (unseen : path ∉ seen) :
    (remaining paths (path :: seen)).length < (remaining paths seen).length := by
  have split : remaining paths (path :: seen) = (remaining paths seen).filter (· != path) := by
    rw [remaining, remaining, List.filter_filter]
    refine List.filter_congr fun other _ => ?_
    rw [List.contains_cons, Bool.not_or]
    rfl
  rw [split, List.length_filter_lt_length_iff_exists]
  exact ⟨path, by simp [remaining, there, unseen], by simp⟩

theorem length_remaining_le_of_subset {paths seen more : List String} (h : seen ⊆ more) :
    (remaining paths more).length ≤ (remaining paths seen).length := by
  refine (List.monotone_filter_right paths fun path unseen => ?_).length_le
  simp only [Bool.not_eq_true', List.contains_eq_mem, decide_eq_false_iff_not] at unseen ⊢
  exact fun there => unseen (h there)

theorem length_remaining_lt {paths seen : List String} {path : String} (there : path ∈ paths)
    (known : path ∈ seen) : (remaining paths seen).length < paths.length := by
  rw [remaining, List.length_filter_lt_length_iff_exists]
  exact ⟨path, there, by simpa using known⟩

theorem exists_sheet {sheets : Sheets} {path : String} (there : path ∈ sheets) :
    ∃ sheet, sheets[path]? = some sheet :=
  Option.isSome_iff_exists.1 (Std.ExtTreeMap.mem_iff_isSome_getElem?.1 there)

theorem mem_of_sheet {sheets : Sheets} {path : String} {sheet : Sheet}
    (found : sheets[path]? = some sheet) :
    path ∈ sheets :=
  Std.ExtTreeMap.mem_iff_isSome_getElem?.2 (Option.isSome_iff_exists.2 ⟨sheet, found⟩)

/-- The edges of every node of a graph; `none` for what is no node. -/
abbrev Graph := String → Option (List String)

def edgesOf (sheets : Sheets) : Graph := fun path => sheets[path]?.map Sheet.edges

/-- The edges that end at a node. -/
def Graph.trim (g : Graph) : Graph :=
  fun path => (g path).map fun edges => edges.filter fun q => (g q).isSome

def Graph.without (g : Graph) (node : String) : Graph :=
  fun path => (g path).map fun edges => edges.filter (· != node)

def Graph.Edge (g : Graph) (a b : String) : Prop :=
  ∃ edges, g a = some edges ∧ b ∈ edges ∧ (g b).isSome = true

def Graph.Leads (g : Graph) : String → String → Prop := Relation.ReflTransGen g.Edge

/-- A walk that visits some paths one after another. -/
inductive Visits (g : Graph) : List String → Walk → Walk → Prop
  | done {w} : Visits g [] w w
  | skip {path paths w w'} (known : path ∈ w.seen ∨ g path = none) (rest : Visits g paths w w') :
      Visits g (path :: paths) w w'
  | enter {path paths edges w w₁ w₂} (fresh : path ∉ w.seen) (node : g path = some edges)
      (below : Visits g edges { w with seen := path :: w.seen } w₁)
      (rest : Visits g paths { w₁ with order := w₁.order ++ [path] } w₂) :
      Visits g (path :: paths) w w₂

namespace Visits

variable {g : Graph} {paths : List String} {w w' : Walk}

theorem seen_subset (h : Visits g paths w w') : w.seen ⊆ w'.seen := by
  induction h with
  | done => exact List.Subset.refl _
  | skip _ _ ih => exact ih
  | enter _ _ _ _ below rest =>
    exact fun p seen => rest (below (List.mem_cons_of_mem _ seen))

theorem unique {w₁ w₂ : Walk} (h₁ : Visits g paths w w₁) (h₂ : Visits g paths w w₂) : w₁ = w₂ := by
  induction h₁ generalizing w₂ with
  | done => cases h₂; rfl
  | skip known _ ih =>
    cases h₂ with
    | skip _ rest => exact ih rest
    | enter fresh node _ _ => rcases known with seen | none <;> simp_all
  | enter fresh node _ _ below rest =>
    cases h₂ with
    | skip known _ => rcases known with seen | none <;> simp_all
    | enter _ node' below' rest' =>
      rw [node, Option.some.injEq] at node'
      subst node'
      rw [below below'] at rest
      exact rest rest'

theorem seen_of_mem (h : Visits g paths w w') {path : String} (asked : path ∈ paths)
    (node : (g path).isSome = true) : path ∈ w'.seen := by
  induction h with
  | done => cases asked
  | skip known rest ih =>
    rcases List.mem_cons.1 asked with rfl | asked
    · rcases known with seen | none
      · exact rest.seen_subset seen
      · simp [none] at node
    · exact ih asked
  | enter _ _ below rest _ ih =>
    rcases List.mem_cons.1 asked with rfl | asked
    · exact rest.seen_subset (below.seen_subset List.mem_cons_self)
    · exact ih asked

theorem mem_order_iff (h : Visits g paths w w') {path : String} :
    path ∈ w'.order ↔ path ∈ w.order ∨ (path ∈ w'.seen ∧ path ∉ w.seen) := by
  induction h with
  | done => simp
  | skip _ _ ih => exact ih
  | @enter p _ _ w w₁ w₂ fresh _ below rest ihBelow ihRest =>
    have more := rest.seen_subset (a := path)
    have fewer := below.seen_subset (a := path)
    have self : p ∈ w₁.seen := below.seen_subset List.mem_cons_self
    rw [ihRest, List.mem_append, ihBelow, List.mem_singleton]
    simp only [List.mem_cons] at fewer ⊢
    by_cases same : path = p
    · subst same
      simp [fresh, more self, self]
    · simp only [same, false_or, or_false] at fewer ⊢
      grind

theorem seen_of_edge (h : Visits g paths w w') {a b : String} (new : a ∈ w'.seen) (old : a ∉ w.seen)
    (edge : g.Edge a b) : b ∈ w'.seen := by
  induction h with
  | done => exact absurd new old
  | skip _ _ ih => exact ih new old
  | @enter p _ _ w w₁ w₂ _ node below rest ihBelow ihRest =>
    by_cases between : a ∈ w₁.seen
    · by_cases same : a = p
      · subst same
        obtain ⟨edges, found, there, target⟩ := edge
        rw [node, Option.some.injEq] at found
        subst found
        exact rest.seen_subset (below.seen_of_mem there target)
      · exact rest.seen_subset (ihBelow between (by simp [same, old]))
    · exact ihRest new between

theorem leads_of_seen (h : Visits g paths w w') {path : String} (new : path ∈ w'.seen)
    (old : path ∉ w.seen) : ∃ first ∈ paths, (g first).isSome = true ∧ g.Leads first path := by
  induction h with
  | done => exact absurd new old
  | skip _ _ ih =>
    obtain ⟨first, there, node, leads⟩ := ih new old
    exact ⟨first, List.mem_cons_of_mem _ there, node, leads⟩
  | @enter p _ _ w w₁ w₂ _ node _ _ ihBelow ihRest =>
    have start : (g p).isSome = true := by simp [node]
    by_cases between : path ∈ w₁.seen
    · by_cases same : path = p
      · exact ⟨p, List.mem_cons_self, start, same ▸ .refl⟩
      · obtain ⟨first, there, next, leads⟩ := ihBelow between (by simp [same, old])
        exact ⟨p, List.mem_cons_self, start, .head ⟨_, node, there, next⟩ leads⟩
    · obtain ⟨first, there, next, leads⟩ := ihRest new between
      exact ⟨first, List.mem_cons_of_mem _ there, next, leads⟩

theorem trim (h : Visits g paths w w') :
    Visits g.trim (paths.filter fun q => (g q).isSome) w w' := by
  induction h with
  | done => exact .done
  | @skip path _ _ _ known _ ih =>
    by_cases node : (g path).isSome = true
    · simp only [List.filter_cons, node, if_true]
      refine .skip (known.imp_right fun none => ?_) ih
      simp [none] at node
    · simpa only [List.filter_cons, node, if_false, Bool.false_eq_true] using ih
  | enter fresh node _ _ ihBelow ihRest =>
    simp only [List.filter_cons, node, Option.isSome_some, if_true]
    exact .enter fresh (by simp [Graph.trim, node]) ihBelow ihRest

theorem without (h : Visits g paths w w') {node : String} (seen : node ∈ w.seen) :
    Visits (g.without node) (paths.filter (· != node)) w w' := by
  induction h with
  | done => exact .done
  | @skip path _ _ _ known _ ih =>
    by_cases same : path = node
    · rw [List.filter_cons_of_neg (by simp [same])]
      exact ih seen
    · rw [List.filter_cons_of_pos (by simp [same])]
      refine .skip (known.imp_right fun none => ?_) (ih seen)
      rw [Graph.without, none]
      rfl
  | @enter path _ edges w _ _ fresh there below _ ihBelow ihRest =>
    have other : path ≠ node := fun same => fresh (same ▸ seen)
    rw [List.filter_cons_of_pos (by simp [other])]
    refine .enter fresh ?_ (ihBelow (List.mem_cons_of_mem _ seen)) (ihRest ?_)
    · rw [Graph.without, there]
      rfl
    · exact below.seen_subset (List.mem_cons_of_mem _ seen)

theorem congr {g' : Graph} {inside : String → Prop} (h : Visits g paths w w')
    (same : ∀ path, inside path → g path = g' path)
    (closed : ∀ path edges, inside path → g path = some edges → ∀ q ∈ edges, inside q)
    (begin : ∀ path ∈ paths, inside path) : Visits g' paths w w' := by
  induction h with
  | done => exact .done
  | skip known _ ih =>
    have first := same _ (begin _ List.mem_cons_self)
    exact .skip (known.imp_right first.symm.trans)
      (ih fun q there => begin q (List.mem_cons_of_mem _ there))
  | enter fresh node _ _ ihBelow ihRest =>
    have first := begin _ List.mem_cons_self
    exact .enter fresh ((same _ first).symm.trans node) (ihBelow (closed _ _ first node))
      (ihRest fun q there => begin q (List.mem_cons_of_mem _ there))

end Visits

/-- The fuel lasts: every step down sees one more sheet. -/
theorem visits_foldl {sheets : Sheets} (fuel : Nat) (paths : List String) (w : Walk)
    (enough : (remaining sheets.keys w.seen).length < fuel) :
    Visits (edgesOf sheets) paths w (paths.foldl (visit sheets fuel) w) := by
  induction fuel generalizing paths w with
  | zero => omega
  | succ fuel ihFuel =>
    induction paths generalizing w with
    | nil => exact .done
    | cons path paths ihPaths =>
      rw [List.foldl_cons]
      by_cases seen : path ∈ w.seen
      · have stays : visit sheets (fuel + 1) w path = w := by simp [visit, seen]
        rw [stays]
        exact .skip (.inl seen) (ihPaths w enough)
      cases found : sheets[path]? with
      | none =>
        have stays : visit sheets (fuel + 1) w path = w := by simp [visit, found]
        rw [stays]
        exact .skip (.inr (by simp [edgesOf, found])) (ihPaths w enough)
      | some sheet =>
        have there : path ∈ sheets.keys := Std.ExtTreeMap.mem_keys.2 (mem_of_sheet found)
        have fewer := length_remaining_cons_lt there seen
        have below := ihFuel sheet.edges { w with seen := path :: w.seen } (by dsimp only; omega)
        have more : w.seen ⊆ _ := fun p h => below.seen_subset (List.mem_cons_of_mem path h)
        have goes : visit sheets (fuel + 1) w path =
            { sheet.edges.foldl (visit sheets fuel) { w with seen := path :: w.seen } with
              order :=
                (sheet.edges.foldl (visit sheets fuel) { w with seen := path :: w.seen }).order ++
                  [path] } := by
          simp [visit, seen, found]
        rw [goes]
        refine .enter seen (by simp [edgesOf, found]) below (ihPaths _ ?_)
        exact Nat.lt_of_le_of_lt (length_remaining_le_of_subset more) enough

section reachable

variable {sheets : Sheets} {root : String}

theorem visits_reachable (sheets : Sheets) (root : String) :
    ∃ w, Visits (edgesOf sheets) [root] ⟨[], []⟩ w ∧ w.order = reachable sheets (some root) := by
  have enough : (remaining sheets.keys []).length < sheets.size + 1 := by
    rw [← Std.ExtTreeMap.length_keys]
    exact Nat.lt_succ_of_le (List.length_filter_le _ _)
  exact ⟨_, visits_foldl _ [root] ⟨[], []⟩ enough, rfl⟩

theorem isSome_edgesOf {path : String} : (edgesOf sheets path).isSome = true ↔ path ∈ sheets := by
  rw [edgesOf, Option.isSome_map, Std.ExtTreeMap.isSome_getElem?_iff_mem]

theorem root_mem_reachable (there : root ∈ sheets) : root ∈ reachable sheets (some root) := by
  obtain ⟨w, visits, order⟩ := visits_reachable sheets root
  rw [← order, visits.mem_order_iff]
  exact .inr ⟨visits.seen_of_mem (by simp) (isSome_edgesOf.2 there), by simp⟩

theorem mem_reachable_of_edge {a b : String} (found : a ∈ reachable sheets (some root))
    (edge : (edgesOf sheets).Edge a b) : b ∈ reachable sheets (some root) := by
  obtain ⟨w, visits, order⟩ := visits_reachable sheets root
  rw [← order, visits.mem_order_iff] at found ⊢
  rcases found with old | ⟨new, old⟩
  · cases old
  · exact .inr ⟨visits.seen_of_edge new old edge, by simp⟩

theorem leads_of_mem_reachable {path : String} (found : path ∈ reachable sheets (some root)) :
    root ∈ sheets ∧ (edgesOf sheets).Leads root path := by
  obtain ⟨w, visits, order⟩ := visits_reachable sheets root
  rw [← order, visits.mem_order_iff] at found
  rcases found with old | ⟨new, old⟩
  · cases old
  · obtain ⟨first, asked, node, leads⟩ := visits.leads_of_seen new old
    rw [List.mem_singleton] at asked
    subst asked
    exact ⟨isSome_edgesOf.1 node, leads⟩

theorem mem_of_leads {a b : String} (there : a ∈ sheets) (leads : (edgesOf sheets).Leads a b) :
    b ∈ sheets := by
  induction leads with
  | refl => exact there
  | tail _ edge _ =>
    obtain ⟨_, _, _, target⟩ := edge
    exact isSome_edgesOf.1 target

theorem mem_of_mem_reachable {path : String} (found : path ∈ reachable sheets (some root)) :
    path ∈ sheets :=
  mem_of_leads (leads_of_mem_reachable found).1 (leads_of_mem_reachable found).2

theorem reachable_eq_nil (absent : root ∉ sheets) : reachable sheets (some root) = [] :=
  List.eq_nil_iff_forall_not_mem.2 fun _ found => absent (leads_of_mem_reachable found).1

theorem visits_below (there : root ∈ sheets) :
    ∃ edges w, (edgesOf sheets).trim.without root root = some edges ∧
      Visits ((edgesOf sheets).trim.without root) edges ⟨[root], []⟩ w ∧
      reachable sheets (some root) = w.order ++ [root] := by
  obtain ⟨w, visits, order⟩ := visits_reachable sheets root
  have trimmed := visits.trim
  simp only [List.filter_cons, isSome_edgesOf.2 there, if_true, List.filter_nil] at trimmed
  cases trimmed with
  | skip known =>
    obtain ⟨sheet, found⟩ := exists_sheet there
    simp [Graph.trim, edgesOf, found] at known
  | @enter _ _ edges _ w₁ _ _ node below rest =>
    cases rest
    refine ⟨edges.filter (· != root), w₁, ?_, below.without List.mem_cons_self, order.symm⟩
    rw [Graph.without, node]
    rfl

theorem reachable_congr_below {sheets' : Sheets} {inside : String → Prop}
    (same : ∀ path, inside path →
      (edgesOf sheets).trim.without root path = (edgesOf sheets').trim.without root path)
    (closed : ∀ a b, inside a → (edgesOf sheets).Edge a b → inside b) (begin : inside root) :
    reachable sheets (some root) = reachable sheets' (some root) := by
  have alike : root ∈ sheets ↔ root ∈ sheets' := by
    have node := congrArg Option.isSome (same root begin)
    simp only [Graph.without, Graph.trim, Option.isSome_map] at node
    rw [← isSome_edgesOf, node, isSome_edgesOf]
  by_cases there : root ∈ sheets
  · obtain ⟨edges, w, node, visits, order⟩ := visits_below there
    obtain ⟨edges', w', node', visits', order'⟩ := visits_below (alike.1 there)
    have onward (path : String) (edges : List String) (known : inside path)
        (found : (edgesOf sheets).trim.without root path = some edges) : ∀ q ∈ edges, inside q := by
      intro q target
      simp only [Graph.without, Graph.trim, Option.map_map, Option.map_eq_some_iff] at found
      obtain ⟨all, node, rfl⟩ := found
      simp only [Function.comp_apply, List.mem_filter] at target
      exact closed path q known ⟨all, node, target.1⟩
    -- Both walks have seen the root by then: edges back to it may differ.
    have walked := visits.congr same onward (onward root edges begin node)
    rw [← same root begin, node, Option.some.injEq] at node'
    subst node'
    rw [order, order', walked.unique visits']
  · rw [reachable_eq_nil there, reachable_eq_nil (mt alike.2 there)]

theorem reachable_congr {sheets' : Sheets} {inside : String → Prop}
    (same : ∀ path, inside path → (edgesOf sheets).trim path = (edgesOf sheets').trim path)
    (closed : ∀ a b, inside a → (edgesOf sheets).Edge a b → inside b) (begin : inside root) :
    reachable sheets (some root) = reachable sheets' (some root) :=
  reachable_congr_below (fun path there => congrArg (Option.map _) (same path there)) closed begin

end reachable

end ColorSpans.Sass
