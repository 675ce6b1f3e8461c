import ColorSpans.Span
import Mathlib.Data.List.Basic
import Mathlib.Order.Basic

/-! External spans beside scanned ones. What is merged are the scanned spans and those external ones
that share no column with any of them, by start; nothing that was scanned is lost, and merging once
more changes nothing. -/
namespace ColorSpans.Span

def Covers (s : Span) (column : Int) : Prop := s.start ≤ column ∧ column < s.stop

def Apart (a b : Span) : Prop := ∀ column, ¬(a.Covers column ∧ b.Covers column)

def Wide (s : Span) : Prop := s.start < s.stop

def Ordered (spans : List Span) : Prop := spans.Pairwise fun a b => a.start ≤ b.start

variable {a b : Span} {scanned external spans : List Span}

theorem apart_iff : Apart a b ↔ min a.stop b.stop ≤ max a.start b.start := by
  unfold Apart Covers
  constructor
  · intro apart
    have first := apart (max a.start b.start)
    omega
  · intro short column shared
    omega

instance : Decidable a.Wide := inferInstanceAs (Decidable (a.start < a.stop))

instance : Decidable (Apart a b) := decidable_of_iff _ apart_iff.symm

theorem Apart.symm (apart : Apart a b) : Apart b a := fun column shared => apart column shared.symm

theorem not_apart_self (wide : a.Wide) : ¬Apart a a := by
  intro apart
  exact apart a.start ⟨⟨Int.le_refl _, wide⟩, Int.le_refl _, wide⟩

theorem overlaps_iff_not_apart (wide : a.Wide) (wide' : b.Wide) :
    a.overlaps b = true ↔ ¬Apart a b := by
  rw [apart_iff, overlaps, Bool.and_eq_true, decide_eq_true_eq, decide_eq_true_eq]
  unfold Wide at wide wide'
  omega

abbrev startsBy (a b : Span) : Bool := a.start ≤ b.start

theorem startsBy_trans (a b c : Span) (first : startsBy a b = true) (second : startsBy b c = true) :
    startsBy a c = true :=
  decide_eq_true (Int.le_trans (of_decide_eq_true first) (of_decide_eq_true second))

theorem startsBy_total (a b : Span) : (startsBy a b || startsBy b a) = true := by
  rw [Bool.or_eq_true, decide_eq_true_eq, decide_eq_true_eq]
  exact Int.le_total a.start b.start

theorem ordered_sorted (spans : List Span) : Ordered (sorted spans) :=
  (List.pairwise_mergeSort startsBy_trans startsBy_total spans).imp of_decide_eq_true

theorem sorted_eq_self (ordered : Ordered spans) : sorted spans = spans :=
  List.mergeSort_of_pairwise (ordered.imp decide_eq_true)

theorem sorted_cons (s : Span) (spans : List Span) :
    sorted (s :: spans) = (sorted spans).filter (fun t => t.start < s.start) ++
      s :: (sorted spans).filter fun t => s.start ≤ t.start := by
  obtain ⟨front, back, whole, rest, before⟩ :=
    List.mergeSort_cons startsBy_trans startsBy_total s spans
  have ordered : Ordered (front ++ s :: back) := whole ▸ ordered_sorted (s :: spans)
  have behind := (List.pairwise_cons.1 (List.pairwise_append.1 ordered).2.1).1
  have before : ∀ t ∈ front, t.start < s.start := fun t there => by simpa using before t there
  have low : (front ++ back).filter (fun t => t.start < s.start) = front := by
    have none : back.filter (fun t => t.start < s.start) = [] :=
      List.filter_eq_nil_iff.2 fun t there => by simpa using behind t there
    have all : front.filter (fun t => t.start < s.start) = front :=
      List.filter_eq_self.2 fun t there => decide_eq_true (before t there)
    rw [List.filter_append, all, none, List.append_nil]
  have high : (front ++ back).filter (fun t => s.start ≤ t.start) = back := by
    have none : front.filter (fun t => s.start ≤ t.start) = [] :=
      List.filter_eq_nil_iff.2 fun t there => by simpa using before t there
    have all : back.filter (fun t => s.start ≤ t.start) = back :=
      List.filter_eq_self.2 fun t there => decide_eq_true (behind t there)
    rw [List.filter_append, all, none, List.nil_append]
  rw [show sorted spans = front ++ back from rest, low, high]
  exact whole

theorem sorted_sublist_sorted_append (spans more : List Span) :
    (sorted spans).Sublist (sorted (spans ++ more)) := by
  induction spans with
  | nil =>
    rw [sorted_eq_self List.Pairwise.nil]
    exact List.nil_sublist _
  | cons s spans ih =>
    rw [List.cons_append, sorted_cons, sorted_cons]
    exact (ih.filter _).append ((ih.filter _).cons_cons s)

/-- The external spans that share no column with a scanned one. -/
def beside (scanned external : List Span) : List Span :=
  external.filter fun e => ∀ s ∈ scanned, e.Apart s

theorem merge_eq (wide : ∀ s ∈ scanned ++ external, s.Wide) :
    merge scanned external = sorted (scanned ++ beside scanned external) := by
  have same : external.filter (fun e => !scanned.any e.overlaps) = beside scanned external := by
    refine List.filter_congr fun e there => ?_
    have wide' := wide e (List.mem_append_right scanned there)
    rw [Bool.eq_iff_iff, Bool.not_eq_true', List.any_eq_false, decide_eq_true_eq]
    refine forall₂_congr fun s member => ?_
    rw [overlaps_iff_not_apart wide' (wide s (List.mem_append_left external member)), not_not]
  rw [merge, same]

theorem merge_perm (wide : ∀ s ∈ scanned ++ external, s.Wide) :
    (merge scanned external).Perm (scanned ++ beside scanned external) := by
  rw [merge_eq wide]
  exact sorted_perm _

theorem pairwise_apart_merge (wide : ∀ s ∈ scanned ++ external, s.Wide)
    (apart : scanned.Pairwise Apart) (apart' : external.Pairwise Apart) :
    (merge scanned external).Pairwise Apart := by
  rw [(merge_perm wide).pairwise_iff Apart.symm, List.pairwise_append]
  refine ⟨apart, apart'.filter _, fun s there e beside => ?_⟩
  exact (of_decide_eq_true (List.mem_filter.1 beside).2 s there).symm

theorem beside_merge (wide : ∀ s ∈ scanned ++ external, s.Wide) :
    beside (merge scanned external) external = [] := by
  refine List.filter_eq_nil_iff.2 fun e there => ?_
  rw [decide_eq_true_eq]
  intro apart
  have fresh : ∀ s ∈ scanned, e.Apart s := fun s member =>
    apart s ((merge_perm wide).mem_iff.2 (List.mem_append_left _ member))
  have merged : e ∈ merge scanned external :=
    (merge_perm wide).mem_iff.2
      (List.mem_append_right _ (List.mem_filter.2 ⟨there, decide_eq_true fresh⟩))
  exact not_apart_self (wide e (List.mem_append_right _ there)) (apart e merged)

theorem wide_merge (wide : ∀ s ∈ scanned ++ external, s.Wide) :
    ∀ s ∈ merge scanned external ++ external, s.Wide := by
  intro s there
  rcases List.mem_append.1 there with merged | given
  · rcases List.mem_append.1 ((merge_perm wide).mem_iff.1 merged) with first | second
    · exact wide s (List.mem_append_left _ first)
    · exact wide s (List.mem_append_right _ (List.mem_of_mem_filter second))
  · exact wide s (List.mem_append_right _ given)

/-- Spans with columns are merged by start: all the scanned ones, in the order that they have alone,
and just the external ones that share no column with a scanned one, each as often as it was given.
Where neither list shares a column within itself, neither do the merged spans; and merging once more
changes nothing. -/
theorem merge_laws (scanned external : List Span) (wide : ∀ s ∈ scanned ++ external, s.Wide) :
    Ordered (merge scanned external) ∧
    (merge scanned external).Perm (scanned ++ beside scanned external) ∧
    (sorted scanned).Sublist (merge scanned external) ∧
    (scanned.Pairwise Apart → external.Pairwise Apart → (merge scanned external).Pairwise Apart) ∧
    merge (merge scanned external) external = merge scanned external := by
  have ordered : Ordered (merge scanned external) := ordered_sorted _
  refine ⟨ordered, merge_perm wide, ?_, pairwise_apart_merge wide, ?_⟩
  · rw [merge_eq wide]
    exact sorted_sublist_sorted_append scanned _
  · rw [merge_eq (wide_merge wide), beside_merge wide, List.append_nil, sorted_eq_self ordered]

def literals : List Span := [⟨5, 9, "00ff00"⟩, ⟨0, 4, "ff0000"⟩]

def reported : List Span :=
  [⟨2, 3, "0000ff"⟩, ⟨9, 12, "ffffff"⟩, ⟨4, 5, "808080"⟩, ⟨5, 9, "00ff00"⟩, ⟨9, 12, "ffffff"⟩]

theorem merge_laws_touching :
    (∀ s ∈ literals ++ reported, s.Wide) ∧
    Ordered (merge literals reported) ∧
    (merge literals reported).Perm
      (literals ++ [⟨9, 12, "ffffff"⟩, ⟨4, 5, "808080"⟩, ⟨9, 12, "ffffff"⟩]) ∧
    [⟨0, 4, "ff0000"⟩, ⟨5, 9, "00ff00"⟩].Sublist (merge literals reported) ∧
    merge (merge literals reported) reported = merge literals reported := by
  have wide : ∀ s ∈ literals ++ reported, s.Wide := by decide
  obtain ⟨ordered, perm, kept, -, again⟩ := merge_laws literals reported wide
  have among : beside literals reported =
      [⟨9, 12, "ffffff"⟩, ⟨4, 5, "808080"⟩, ⟨9, 12, "ffffff"⟩] := by decide
  have alone : sorted literals = [⟨0, 4, "ff0000"⟩, ⟨5, 9, "00ff00"⟩] := by
    rw [literals, sorted_cons, sorted_eq_self (List.pairwise_singleton _ _)]
    decide
  rw [among] at perm
  rw [alone] at kept
  exact ⟨wide, ordered, perm, kept, again⟩

end ColorSpans.Span
