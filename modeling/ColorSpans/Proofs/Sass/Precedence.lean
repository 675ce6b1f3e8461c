import ColorSpans.Proofs.Sass.Sweep
import Mathlib.Data.List.Induction
import Mathlib.Data.List.Nodup

/-! The order in which sheets are merged, and which of them counts for a variable. The walk from the
root finishes every file once, the root last. What a file imports is finished before it, unless that
leads back to it. A variable is taken from the last file in this order that declares it. -/
namespace ColorSpans.Sass

/-- One path stands in an order, and the other does not stand before it. -/
def Precedes (order : List String) (a b : String) : Prop :=
  a ∈ order ∧ order.idxOf a < order.idxOf b

namespace Precedes

variable {order more : List String} {a b c : String}

theorem trans (h : Precedes order a b) (h' : Precedes order b c) : Precedes order a c :=
  ⟨h.1, Nat.lt_trans h.2 h'.2⟩

theorem asymm (h : Precedes order a b) : ¬ Precedes order b a :=
  fun h' => Nat.lt_asymm h.2 h'.2

theorem append (h : Precedes order a b) : Precedes (order ++ more) a b := by
  refine ⟨List.mem_append_left _ h.1, ?_⟩
  rw [List.idxOf_append_of_mem h.1]
  by_cases there : b ∈ order
  · rw [List.idxOf_append_of_mem there]
    exact h.2
  · rw [List.idxOf_append_of_notMem there]
    exact Nat.lt_of_lt_of_le (List.idxOf_lt_length_iff.2 h.1) (Nat.le_add_right _ _)

theorem of_mem (before : a ∈ order) (behind : b ∉ order) : Precedes (order ++ more) a b := by
  refine append ⟨before, ?_⟩
  rw [List.idxOf_eq_length behind]
  exact List.idxOf_lt_length_iff.2 before

theorem mem_of_split (h : Precedes (order ++ b :: more) a b) : a ∈ order := by
  by_contra outside
  have first := h.2
  rw [List.idxOf_append_of_notMem outside, List.idxOf_append] at first
  split at first
  · exact Nat.not_lt_of_le List.idxOf_le_length (Nat.lt_of_le_of_lt (Nat.le_add_right _ _) first)
  · rw [List.idxOf_cons_self] at first
    omega

end Precedes

/-- The files that a root leads to, in an order in which imports can be merged: each stands in it
once, the root last, and what a file imports precedes it unless that leads back to it. -/
structure ImportOrder (graph : Graph) (root : Option String) (order : List String) : Prop where
  nodup : order.Nodup
  mem_iff (path : String) :
    path ∈ order ↔ ∃ first, root = some first ∧ (graph first).isSome ∧ graph.Leads first path
  root_last (first : String) : root = some first → (graph first).isSome →
    order.getLast? = some first
  precedes (p q : String) : p ∈ order → graph.Edge p q → ¬ graph.Leads q p → Precedes order q p

theorem ImportOrder.precedes_of_acyclic {graph : Graph} {root : Option String} {order : List String}
    (h : ImportOrder graph root order) (acyclic : ∀ p ∈ order, ¬ Relation.TransGen graph.Edge p p)
    {p q : String} (there : p ∈ order) (imports : Relation.TransGen graph.Edge p q) :
    Precedes order q p := by
  have direct (p q : String) (there : p ∈ order) (edge : graph.Edge p q) : Precedes order q p :=
    h.precedes p q there edge fun back => acyclic p there (Relation.TransGen.head' edge back)
  induction imports with
  | single edge => exact direct _ _ there edge
  | tail _ edge ih => exact (direct _ _ ih.1 edge).trans ih

namespace Visits

variable {g : Graph} {paths : List String} {w w' : Walk}

theorem order_prefix (h : Visits g paths w w') : w.order <+: w'.order := by
  induction h with
  | done => exact List.prefix_rfl
  | skip _ _ ih => exact ih
  | enter _ _ _ _ ihBelow ihRest => exact ihBelow.trans ((List.prefix_append _ _).trans ihRest)

theorem order_subset (h : Visits g paths w w') (finished : w.order ⊆ w.seen) :
    w'.order ⊆ w'.seen := by
  intro path there
  rcases h.mem_order_iff.1 there with old | ⟨new, _⟩
  · exact h.seen_subset (finished old)
  · exact new

section descent

variable {path : String} {edges : List String} {w₁ : Walk}
  (below : Visits g edges { w with seen := path :: w.seen } w₁) (finished : w.order ⊆ w.seen)

include below finished

theorem not_mem_order_of_fresh (fresh : path ∉ w.seen) : path ∉ w₁.order := by
  rw [below.mem_order_iff]
  rintro (old | ⟨_, new⟩)
  · exact fresh (finished old)
  · exact new List.mem_cons_self

theorem leave_subset : w₁.order ++ [path] ⊆ w₁.seen := by
  have inside : w₁.order ⊆ w₁.seen :=
    below.order_subset fun q there => List.mem_cons_of_mem _ (finished there)
  intro q there
  rcases List.mem_append.1 there with there | last
  · exact inside there
  · exact below.seen_subset (List.mem_singleton.1 last ▸ List.mem_cons_self)

end descent

theorem nodup_order (h : Visits g paths w w') (finished : w.order ⊆ w.seen) (once : w.order.Nodup) :
    w'.order.Nodup := by
  induction h with
  | done => exact once
  | skip _ _ ih => exact ih finished once
  | enter fresh _ below _ ihBelow ihRest =>
    have below_once := ihBelow (fun q there => List.mem_cons_of_mem _ (finished there)) once
    have unfinished := below.not_mem_order_of_fresh finished fresh
    exact ihRest (below.leave_subset finished)
      (List.nodup_append.2 ⟨below_once, List.pairwise_singleton _ _,
      fun q there r last same => unfinished (List.mem_singleton.1 last ▸ same ▸ there)⟩)

/-- What is newly seen comes after the targets of its edges, but for those that lead back to it. The
nodes that are seen and not finished are those on the way down, and each of them leads to all that
is still asked for. -/
theorem precedes (h : Visits g paths w w') (finished : w.order ⊆ w.seen)
    (descent : ∀ p ∈ w.seen, p ∉ w.order → ∀ first ∈ paths, (g first).isSome = true →
      g.Leads p first)
    {a b : String} (new : a ∈ w'.seen) (old : a ∉ w.seen) (edge : g.Edge a b)
    (apart : ¬ g.Leads b a) :
    Precedes w'.order b a := by
  induction h with
  | done => exact absurd new old
  | skip _ _ ih =>
    exact ih finished (fun p seen open_ first asked =>
      descent p seen open_ first (List.mem_cons_of_mem _ asked))
      new old
  | @enter p paths edges w w₁ w₂ fresh node below rest ihBelow ihRest =>
    have start : (g p).isSome = true := by simp [node]
    have entered : w.order ⊆ p :: w.seen := fun q there => List.mem_cons_of_mem _ (finished there)
    obtain ⟨more, grown⟩ := rest.order_prefix
    by_cases between : a ∈ w₁.seen
    · rw [← grown]
      refine Precedes.append ?_
      by_cases same : a = p
      · -- The target is seen by now; were it not finished, it would be on the way down and lead
        -- here.
        subst same
        refine Precedes.of_mem ?_ (below.not_mem_order_of_fresh finished fresh)
        by_contra missing
        obtain ⟨_, found, there, target⟩ := edge
        obtain rfl := Option.some.inj (node.symm.trans found)
        have seen := below.seen_of_mem there target
        rw [below.mem_order_iff] at missing
        have earlier : b ∈ a :: w.seen := by
          by_contra later
          exact missing (.inr ⟨seen, later⟩)
        rcases List.mem_cons.1 earlier with rfl | before
        · exact apart .refl
        · exact apart (descent b before (fun done => missing (.inl done)) a
            List.mem_cons_self start)
      · refine (ihBelow entered ?_ between (by simp [same, old])).append
        intro q seen open_ first asked target
        have step : g.Edge p first := ⟨edges, node, asked, target⟩
        rcases List.mem_cons.1 seen with rfl | before
        · exact .single step
        · exact .tail (descent q before open_ p List.mem_cons_self start) step
    · refine ihRest (below.leave_subset finished) ?_ new between
      intro q seen open_ first asked target
      rw [List.mem_append, List.mem_singleton, not_or, below.mem_order_iff, not_or,
        not_and_not_right] at open_
      obtain ⟨⟨open_, earlier⟩, other⟩ := open_
      have before := (List.mem_cons.1 (earlier seen)).resolve_left other
      exact descent q before open_ first (List.mem_cons_of_mem _ asked) target

end Visits

theorem importOrder_reachable (sheets : Sheets) (root : Option String) :
    ImportOrder (edgesOf sheets) root (reachable sheets root) := by
  cases root with
  | none =>
    have nothing (path : String) : path ∉ reachable sheets none := List.not_mem_nil
    refine ⟨List.nodup_nil, fun path => ⟨fun there => absurd there (nothing path), ?_⟩, ?_, ?_⟩
    · rintro ⟨_, ⟨⟩, _⟩
    · rintro _ ⟨⟩
    · exact fun p _ there => absurd there (nothing p)
  | some root =>
    obtain ⟨w, visits, order⟩ := visits_reachable sheets root
    have finished : (⟨[], []⟩ : Walk).order ⊆ [] := List.Subset.refl _
    refine ⟨order ▸ visits.nodup_order finished List.nodup_nil,
      fun path => ⟨fun there => ?_, ?_⟩, ?_, ?_⟩
    · obtain ⟨known, leads⟩ := leads_of_mem_reachable there
      exact ⟨root, rfl, isSome_edgesOf.2 known, leads⟩
    · rintro ⟨first, rooted, known, leads⟩
      obtain rfl := Option.some.inj rooted
      induction leads with
      | refl => exact root_mem_reachable (isSome_edgesOf.1 known)
      | tail _ edge ih => exact mem_reachable_of_edge ih edge
    · rintro _ ⟨⟩ known
      obtain ⟨_, below, _, _, split⟩ := visits_below (isSome_edgesOf.1 known)
      rw [split, List.getLast?_concat]
    · intro p q there edge apart
      rw [← order] at there ⊢
      rcases visits.mem_order_iff.1 there with old | ⟨new, old⟩
      · cases old
      · exact visits.precedes finished (fun _ seen => by cases seen) new old edge apart

example :
    reachable (.ofList ([("root", ["a", "b"]), ("a", ["b", "root", "gone"]), ("b", []),
      ("c", ["a"])].map
      fun (path, edges) => (path, Sheet.mk ∅ ∅ edges))) (some "root") = ["b", "a", "root"] := by
  decide +kernel

theorem getElem?_insertMany_toList (out found : Declarations) (name : String) :
    (out.insertMany found.toList)[name]? = found[name]?.or out[name]? := by
  cases said : found[name]? with
  | some d =>
    exact Std.ExtTreeMap.getElem?_insertMany_list_of_mem Std.ReflCmp.compare_self
      Std.ExtTreeMap.distinct_keys_toList (Std.ExtTreeMap.mem_toList_iff_getElem?_eq_some.2 said)
  | none =>
    refine Std.ExtTreeMap.getElem?_insertMany_list_of_contains_eq_false ?_
    rw [Std.ExtTreeMap.map_fst_toList_eq_keys, List.contains_eq_mem, decide_eq_false_iff_not,
      Std.ExtTreeMap.mem_keys, Std.ExtTreeMap.mem_iff_isSome_getElem?, said]
    exact Bool.false_ne_true

def Sheets.saying? (sheets : Sheets) (path name : String) : Option Declaration :=
  sheets[path]?.bind fun sheet => sheet.flatten[name]?

/-- The last file of an order that declares a variable. -/
structure Supplies (sheets : Sheets) (order : List String) (name path : String) : Prop where
  listed : path ∈ order
  declares : (sheets.saying? path name).isSome
  others_precede : ∀ other ∈ order, (sheets.saying? other name).isSome → other ≠ path →
    Precedes order other path

section merging

variable {sheets : Sheets} {order : List String} {name : String}

theorem getElem?_mergeSheets_eq (sheets : Sheets) (order : List String) (name : String) :
    (mergeSheets sheets order)[name]? = order.reverse.findSome? (sheets.saying? · name) := by
  induction order using List.reverseRecOn with
  | nil => exact Std.ExtTreeMap.getElem?_empty
  | append_singleton order path ih =>
    have merged : mergeSheets sheets (order ++ [path]) =
        (sheets[path]?).elim (mergeSheets sheets order)
        fun sheet => (mergeSheets sheets order).insertMany sheet.flatten.toList := by
      rw [mergeSheets, List.foldl_append, List.foldl_cons, List.foldl_nil]
      cases sheets[path]? <;> rfl
    rw [merged, List.reverse_append, List.reverse_singleton, List.singleton_append,
      List.findSome?_cons, ← ih, Sheets.saying?]
    cases sheets[path]? with
    | none => rfl
    | some sheet =>
      rw [Option.elim_some, getElem?_insertMany_toList, Option.bind_some]
      cases sheet.flatten[name]? <;> rfl

theorem getElem?_mergeSheets_iff (once : order.Nodup) {d : Declaration} :
    (mergeSheets sheets order)[name]? = some d ↔
      ∃ path, Supplies sheets order name path ∧ sheets.saying? path name = some d := by
  rw [getElem?_mergeSheets_eq, List.findSome?_eq_some_iff]
  constructor
  · rintro ⟨after, path, before, split, said, silent⟩
    have order_eq : order = before.reverse ++ path :: after.reverse := by
      rw [← List.reverse_reverse order, split, List.reverse_append, List.reverse_cons,
        List.append_assoc]
      rfl
    have own : path ∉ before.reverse := by
      rw [order_eq] at once
      exact fun there => List.disjoint_of_nodup_append once there List.mem_cons_self
    refine ⟨path, ⟨by simp [order_eq], by simp [said], fun other there declares apart => ?_⟩, said⟩
    rw [order_eq, List.mem_append, List.mem_cons] at there
    rcases there with before | rfl | later
    · exact order_eq ▸ Precedes.of_mem before own
    · exact absurd rfl apart
    · rw [silent other (List.mem_reverse.1 later)] at declares
      cases declares
  · rintro ⟨path, supplies, said⟩
    obtain ⟨before, after, rfl⟩ := List.append_of_mem supplies.listed
    refine ⟨after.reverse, path, before.reverse, by simp, said, fun other later => ?_⟩
    rw [List.mem_reverse] at later
    by_contra declares
    have there : other ∈ before ++ path :: after := by simp [later]
    have apart : other ≠ path := by
      rintro rfl
      exact (List.nodup_cons.1 (List.nodup_append.1 once).2.1).1 later
    have earlier := (supplies.others_precede other there (Option.isSome_iff_ne_none.2 declares)
      apart).mem_of_split
    exact List.disjoint_of_nodup_append once earlier (List.mem_cons_of_mem _ later)

theorem supplies_root {root : String} {sheet : Sheet} (there : sheets[root]? = some sheet)
    (said : name ∈ sheet.flatten) : Supplies sheets (reachable sheets (some root)) name root := by
  obtain ⟨_, before, _, _, order⟩ := visits_below (mem_of_sheet there)
  have once := (importOrder_reachable sheets (some root)).nodup
  have own : root ∉ before.order := by
    rw [order] at once
    exact fun there => List.disjoint_of_nodup_append once there List.mem_cons_self
  refine ⟨root_mem_reachable (mem_of_sheet there), ?_, fun other listed _ apart => ?_⟩
  · rw [Sheets.saying?, there]
    exact Std.ExtTreeMap.mem_iff_isSome_getElem?.1 said
  · rw [order] at listed ⊢
    exact .of_mem ((List.mem_append.1 listed).resolve_right fun last =>
      apart (List.mem_singleton.1 last)) own

theorem getElem?_mergeSheets {root : String} {sheet : Sheet} (there : sheets[root]? = some sheet)
    {d : Declaration} (said : sheet.flatten[name]? = some d) :
    (mergeSheets sheets (reachable sheets (some root)))[name]? = some d := by
  refine (getElem?_mergeSheets_iff (importOrder_reachable sheets _).nodup).2 ⟨root,
    supplies_root there ?_, ?_⟩
  · exact Std.ExtTreeMap.mem_iff_isSome_getElem?.2 (by rw [said]; rfl)
  · rw [Sheets.saying?, there]
    exact said

end merging

/-- A commit merges what the root leads to in import order, cyclic or not. A variable is taken from
the last file that declares it: from the buffer if that declares it at all, and where no file
imports itself, not even through others, never from what a file imports that declares it too. -/
theorem commit_precedence (v : Variables) (s : Loaded) :
    ∃ order merged, order = reachable s.sheets v.root ∧ merged = mergeSheets s.sheets order ∧
      ImportOrder (edgesOf s.sheets) v.root order ∧ (v.commit s).1.definitions = resolveAll merged ∧
      ∀ name,
        (∀ d, merged[name]? = some d ↔
          ∃ path, Supplies s.sheets order name path ∧ s.sheets.saying? path name = some d) ∧
        (∀ root sheet, v.root = some root → s.sheets[root]? = some sheet → name ∈ sheet.flatten →
          Supplies s.sheets order name root) ∧
        ((∀ p ∈ order, ¬ Relation.TransGen (edgesOf s.sheets).Edge p p) → ∀ p ∈ order,
          (s.sheets.saying? p name).isSome → ∀ q, Relation.TransGen (edgesOf s.sheets).Edge p q →
            ¬ Supplies s.sheets order name q) := by
  have listed := importOrder_reachable s.sheets v.root
  refine ⟨_, _, rfl, rfl, listed, ?_,
    fun name => ⟨fun d => getElem?_mergeSheets_iff listed.nodup, ?_, ?_⟩⟩
  · refine congrArg resolveAll (mergeSheets_congr fun path there => ?_)
    show ((v.commit s).1.sheets[path]?).map _ = _
    rw [Variables.getElem?_sheets_commit, if_pos there]
  · intro root sheet rooted there said
    rw [rooted]
    exact supplies_root there said
  · intro acyclic p there declares q imports supplies
    have earlier := listed.precedes_of_acyclic acyclic there imports
    have apart : p ≠ q := by
      rintro rfl
      exact acyclic p there imports
    exact earlier.asymm (supplies.others_precede p there declares apart)

end ColorSpans.Sass
