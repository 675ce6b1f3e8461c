import ColorSpans.Proofs.Literal.Refusals
import Mathlib.Data.List.Pairwise
import Mathlib.Data.List.Sort

/-! What a scan finds, said by the columns of the line alone: the matches at the leftmost columns at
which something is read and that no match before them covers. There is one list of such matches. -/
namespace ColorSpans

theorem Span.overlaps_eq_false {s t : Span} :
    s.overlaps t = false ↔ s.stop ≤ t.start ∨ t.stop ≤ s.start := by
  simp only [overlaps, Bool.and_eq_false_iff, decide_eq_false_iff_not, Int.not_lt]
  exact or_comm

namespace Matcher

variable {m : Matcher} {definitions : Option Definitions} {line : String} {s t : Span}
    {spans others : List Span}

def Finds (m : Matcher) (definitions : Option Definitions) (line : String) (s : Span) : Prop :=
  ∃ column n : Nat, s.start = column ∧ s.stop = column + n ∧
    m.readColumn definitions line column = .ok (some ⟨n, s.color⟩)

/-- Matches in order and without overlaps, such that every column at which something is read begins
one of them or lies strictly inside one. -/
structure Exact (m : Matcher) (definitions : Option Definitions) (line : String)
    (spans : List Span) :
    Prop where
  increasing : spans.Pairwise fun s t => s.start < t.start
  disjoint : spans.Pairwise fun s t => s.overlaps t = false
  found : ∀ s ∈ spans, m.Finds definitions line s
  complete : ∀ (column : Nat) (r : Reading), m.readColumn definitions line column = .ok (some r) →
    ∃ s ∈ spans, (column : Int) = s.start ∨ (s.start < column ∧ column < s.stop)

/-- The matches, in order, at the columns at which something is read and that no earlier match
covers. -/
structure Leftmost (m : Matcher) (definitions : Option Definitions) (line : String)
    (spans : List Span) :
    Prop where
  increasing : spans.Pairwise fun s t => s.start < t.start
  mem_iff : ∀ s, s ∈ spans ↔
    m.Finds definitions line s ∧ ∀ t ∈ spans, t.start < s.start → t.stop ≤ s.start

theorem readColumn_eq_some_iff {column : Nat} {r : Reading} :
    m.readColumn definitions line column = .ok (some r) ↔
      m.readAt definitions line.toList column = .ok (some r) := by
  refine ⟨readAt_of_readColumn, fun found => ?_⟩
  have inside := inside_of_reading found
  rw [String.length_toList] at inside
  rw [readColumn_natCast inside, found]
  rfl

theorem Finds.positive (h : m.Finds definitions line s) : s.start < s.stop := by
  obtain ⟨column, n, start, stop, read⟩ := h
  have positive : 0 < n := (within_readAt (readColumn_eq_some_iff.1 read)).positive
  omega

theorem Finds.nonneg (h : m.Finds definitions line s) : 0 ≤ s.start := by
  obtain ⟨column, _, start, _⟩ := h
  omega

theorem Finds.unique (h : m.Finds definitions line s) (h' : m.Finds definitions line t)
    (same : s.start = t.start) : s = t := by
  obtain ⟨start, stop, color⟩ := s
  obtain ⟨start', stop', color'⟩ := t
  obtain ⟨column, n, rfl, rfl, read⟩ := h
  obtain ⟨column', n', rfl, rfl, read'⟩ := h'
  obtain rfl : column = column' := Int.natCast_inj.1 same
  obtain ⟨rfl, rfl⟩ := Reading.mk.inj (Option.some.inj (Except.ok.inj (read.symm.trans read')))
  rfl

theorem finds_of_read {column : Nat} {r : Reading}
    (read : m.readColumn definitions line column = .ok (some r)) :
    m.Finds definitions line ⟨column, column + r.length, r.color⟩ :=
  ⟨column, r.length, rfl, rfl, read⟩

theorem Exact.leftmost (h : m.Exact definitions line spans) :
    m.Leftmost definitions line spans := by
  refine ⟨h.increasing, fun s => ⟨fun there => ⟨h.found s there, fun t member before => ?_⟩, ?_⟩⟩
  · have : Std.Symm fun s t : Span => s.overlaps t = false :=
      ⟨fun s t apart => Span.overlaps_eq_false.2 (Span.overlaps_eq_false.1 apart).symm⟩
    have other : t ≠ s := by
      rintro rfl
      exact Int.lt_irrefl _ before
    have positive := (h.found s there).positive
    have apart := Span.overlaps_eq_false.1 (h.disjoint.forall member there other)
    omega
  · rintro ⟨found, free⟩
    obtain ⟨column, n, start, _, read⟩ := id found
    obtain ⟨t, member, same | inside⟩ := h.complete column _ read
    · obtain rfl := found.unique (h.found t member) (start.trans same)
      exact member
    · have := free t member (by omega)
      omega

theorem Leftmost.exact (h : m.Leftmost definitions line spans) :
    m.Exact definitions line spans where
  increasing := h.increasing
  disjoint := by
    refine h.increasing.imp_of_mem fun {s t} first second before => ?_
    exact Span.overlaps_eq_false.2 (.inl (((h.mem_iff t).1 second).2 s first before))
  found s there := ((h.mem_iff s).1 there).1
  complete column r read := by
    by_cases free : ∀ t ∈ spans, t.start < column → t.stop ≤ column
    · exact ⟨_, (h.mem_iff _).2 ⟨finds_of_read read, free⟩, .inl rfl⟩
    · simp only [not_forall, Int.not_le] at free
      obtain ⟨t, member, before, covers⟩ := free
      exact ⟨t, member, .inr ⟨before, covers⟩⟩

theorem exact_iff_leftmost : m.Exact definitions line spans ↔ m.Leftmost definitions line spans :=
  ⟨Exact.leftmost, Leftmost.exact⟩

theorem Leftmost.mem_of_mem (h : m.Leftmost definitions line spans)
    (h' : m.Leftmost definitions line others) (s : Span) : s ∈ spans ↔ s ∈ others := by
  induction size : s.start.toNat using Nat.strongRecOn generalizing s with
  | ind n ih =>
    rw [h.mem_iff, h'.mem_iff]
    refine and_congr_right fun found => forall_congr' fun t => ?_
    have := found.nonneg
    constructor
    · intro free member before
      have := ((h'.mem_iff t).1 member).1.nonneg
      exact free ((ih _ (by omega) t rfl).2 member) before
    · intro free member before
      have := ((h.mem_iff t).1 member).1.nonneg
      exact free ((ih _ (by omega) t rfl).1 member) before

theorem Leftmost.unique (h : m.Leftmost definitions line spans)
    (h' : m.Leftmost definitions line others) : spans = others := by
  have : Std.Antisymm fun s t : Span => s.start < t.start := ⟨fun s t before after => by omega⟩
  have : Std.Irrefl fun s t : Span => s.start < t.start := ⟨fun s => Int.lt_irrefl _⟩
  exact h.increasing.eq_of_mem_iff h'.increasing (h.mem_of_mem h')

/-- What has to be found from a column on. -/
structure Remaining (m : Matcher) (definitions : Option Definitions) (line : String) (column : Nat)
    (spans : List Span) : Prop where
  apart : spans.Pairwise fun s t => s.stop ≤ t.start
  found : ∀ s ∈ spans, (column : Int) ≤ s.start ∧ m.Finds definitions line s
  complete : ∀ (later : Nat) (r : Reading), column ≤ later →
    m.readColumn definitions line later = .ok (some r) →
    ∃ s ∈ spans, (later : Int) = s.start ∨ (s.start < later ∧ later < s.stop)

variable {column : Nat}

theorem remaining_outside (outside : line.length ≤ column) :
    m.Remaining definitions line column [] := by
  refine ⟨.nil, fun _ none => absurd none List.not_mem_nil, fun later r after read => ?_⟩
  have inside := inside_of_reading (readColumn_eq_some_iff.1 read)
  rw [String.length_toList] at inside
  omega

theorem Remaining.skip (h : m.Remaining definitions line (column + 1) spans)
    (nothing : m.readColumn definitions line column = .ok none) :
    m.Remaining definitions line column spans := by
  refine ⟨h.apart, fun s there => ?_, fun later r after read => ?_⟩
  · obtain ⟨later, found⟩ := h.found s there
    exact ⟨by omega, found⟩
  · by_cases here : later = column
    · rw [here, nothing] at read
      cases read
    · exact h.complete later r (by omega) read

theorem Remaining.take {r : Reading} (h : m.Remaining definitions line (column + r.length) spans)
    (read : m.readColumn definitions line column = .ok (some r)) :
    m.Remaining definitions line column (⟨column, column + r.length, r.color⟩ :: spans) := by
  have found := finds_of_read read
  refine ⟨List.pairwise_cons.2 ⟨fun t there => ?_, h.apart⟩, fun s there => ?_,
    fun later r' after read' => ?_⟩
  · exact (h.found t there).1
  · rcases List.mem_cons.1 there with rfl | there
    · exact ⟨Int.le_refl _, found⟩
    · obtain ⟨later, found⟩ := h.found s there
      exact ⟨by omega, found⟩
  · by_cases covered : later < column + r.length
    · exact ⟨_, List.mem_cons_self, by dsimp only; omega⟩
    · obtain ⟨s, there, covers⟩ := h.complete later r' (by omega) read'
      exact ⟨s, List.mem_cons_of_mem _ there, covers⟩

theorem Remaining.exact (h : m.Remaining definitions line 0 spans) :
    m.Exact definitions line spans where
  increasing := h.apart.imp_of_mem fun {s t} first _ apart => by
    have := (h.found s first).2.positive
    omega
  disjoint := h.apart.imp fun apart => Span.overlaps_eq_false.2 (.inl apart)
  found s there := (h.found s there).2
  complete column r read := h.complete column r (Nat.zero_le _) read

/-- By induction on what is left of the line: a literal is never empty, so the scan goes on behind
it. -/
theorem exists_remaining
    (quiet : ∀ column : Nat, column < line.length → ¬Raises (m.readColumn definitions line column))
    (column : Nat) :
    ∃ spans, m.scanFrom definitions line.toList column = .ok spans ∧
      m.Remaining definitions line column spans := by
  induction size : line.length - column using Nat.strongRecOn generalizing column with
  | ind n ih =>
    by_cases inside : column < line.length
    · have inside' : column < line.toList.length := by rwa [String.length_toList]
      rw [scanFrom_inside inside']
      cases found : m.readAt definitions line.toList column with
      | error e => exact absurd ((raises_readColumn inside).2 ⟨e, found⟩) (quiet column inside)
      | ok reading =>
        cases reading with
        | none =>
          obtain ⟨spans, scanned, rest⟩ := ih _ (by omega) (column + 1) rfl
          have nothing : m.readColumn definitions line column = .ok none := by
            rw [readColumn_natCast inside, found]
            rfl
          exact ⟨spans, scanned, rest.skip nothing⟩
        | some r =>
          have positive := (within_readAt found).positive
          obtain ⟨spans, scanned, rest⟩ := ih _ (by omega) (column + r.length) rfl
          refine ⟨_, ?_, rest.take (readColumn_eq_some_iff.2 found)⟩
          simp only [scanned, bind, Except.bind, pure, Except.pure]
    · have outside : line.length ≤ column := by omega
      exact ⟨[], scanFrom_outside (by rwa [String.length_toList]), remaining_outside outside⟩

/-- A scan that comes to no spot that cannot be read finds the one list of matches that misses
nothing. -/
theorem scan_leftmost (m : Matcher) (definitions : Option Definitions) (line : String)
    (quiet : ∀ column : Nat, column < line.length →
      ¬Raises (m.readColumn definitions line column)) :
    ∃ spans, m.scan definitions line = .ok spans ∧ ∀ others,
      (m.Exact definitions line others ↔ others = spans) ∧
      (m.Leftmost definitions line others ↔ others = spans) := by
  obtain ⟨spans, scanned, rest⟩ := exists_remaining quiet 0
  have leftmost := rest.exact.leftmost
  have only (others : List Span) : m.Leftmost definitions line others ↔ others = spans := by
    refine ⟨fun h => h.unique leftmost, ?_⟩
    rintro rfl
    exact leftmost
  exact ⟨spans, scanned, fun others => ⟨exact_iff_leftmost.trans (only others), only others⟩⟩

theorem scan_leftmost_touching :
    let m := compileWith white ⟨false, ⟨true, true, false⟩, false, false, true, .off, false,
      none⟩ ⟨[], []⟩
    let line := "hsl(0,0%,9%)#fff #00fff0"
    (∀ column : Nat, column < line.length → ¬Raises (m.readColumn none line column)) ∧
      m.Leftmost none line [⟨0, 12, "ffffff"⟩, ⟨12, 16, "ffffff"⟩, ⟨17, 24, "00fff0"⟩] := by
  intro m line
  have every : ∀ column : Fin line.length,
      (m.readColumn none line (column : Nat)).toOption.isSome = true := by
    decide +kernel
  have quiet (column : Nat) (inside : column < line.length) :
      ¬Raises (m.readColumn none line column) := by
    obtain ⟨found, read⟩ := Option.isSome_iff_exists.1 (every ⟨column, inside⟩)
    rw [eq_ok_of_toOption read]
    exact not_raises_ok _
  have literals : (m.scan none line).toOption =
      some [⟨0, 12, "ffffff"⟩, ⟨12, 16, "ffffff"⟩, ⟨17, 24, "00fff0"⟩] := by decide +kernel
  obtain ⟨spans, scanned, only⟩ := scan_leftmost m none line quiet
  rw [scanned] at literals
  exact ⟨quiet, (only _).2.2 (Option.some.inj literals).symm⟩

end Matcher

end ColorSpans
