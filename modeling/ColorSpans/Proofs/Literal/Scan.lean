import ColorSpans.Proofs.Literal.Decoders

/-! Scanning a line: the spans found are in order, apart and inside the line, and their colors are
color texts. -/
namespace ColorSpans
open Numeral

namespace Matcher

structure Sound (m : Matcher) : Prop where
  bounded : m.arithmetic.Bounded
  named : ∀ table, m.names = some table → Colored table.colors

theorem sound_compileWith {a : Arithmetic} (bounded : a.Bounded) (config : Config)
    (palette : Palette) :
    (compileWith a config palette).Sound := by
  refine ⟨bounded, fun table built => ?_⟩
  obtain ⟨request, _, rfl⟩ := Option.map_eq_some_iff.1 built
  exact NameTable.colored_build _ _ _

variable {m : Matcher} {definitions : Option Definitions}

theorem fits_read {a : Arithmetic} (bounded : a.Bounded) {p : Prefixed} {s : Spot} {r : Reading}
    (h : p.read a s = .ok (some r)) : r.Fits s := by
  cases p with
  | argb => exact fits_readArgb (Except.ok.inj h)
  | function f => exact fits_readFunction bounded h

theorem readColumn_natCast {line : String} {column : Nat} (inside : column < line.length) :
    m.readColumn definitions line column =
      (m.readAt definitions line.toList column).mapError .numeral := by
  rw [← String.length_toList] at inside
  have natural : ¬(column : Int) < 0 := by omega
  simp only [readColumn, Text.charAt?_natCast, List.getElem?_eq_getElem inside, if_neg natural]
  rfl

theorem readAt_of_readColumn {line : String} {column : Nat} {r : Reading}
    (read : m.readColumn definitions line column = .ok (some r)) :
    m.readAt definitions line.toList column = .ok (some r) := by
  by_cases inside : column < line.length
  · rw [readColumn_natCast inside] at read
    cases found : m.readAt definitions line.toList column with
    | error e =>
      rw [found] at read
      cases read
    | ok reading =>
      rw [found] at read
      exact congrArg Except.ok (Except.ok.inj read)
  · have nothing : line.toList[column]? = none := by
      rw [List.getElem?_eq_none_iff, String.length_toList]
      omega
    simp only [readColumn, Text.charAt?_natCast, nothing] at read
    cases read

theorem readSpot_congr {s t : Spot} (ahead : s.ahead = t.ahead)
    (alphanumeric : s.precededBy isAlphanumeric = t.precededBy isAlphanumeric)
    (identifier : s.precededBy isIdentifier = t.precededBy isIdentifier) :
    m.readSpot definitions s = m.readSpot definitions t := by
  obtain ⟨before, cs⟩ := s
  obtain ⟨before', cs'⟩ := t
  obtain rfl : cs = cs' := ahead
  have hash (lengths : HexLengths) :
      readHash lengths ⟨before, cs⟩ = readHash lengths ⟨before', cs⟩ := by
    rw [readHash, readHash, alphanumeric]
    rfl
  have literal (p : Prefixed) : p.read m.arithmetic ⟨before, cs⟩ =
      p.read m.arithmetic ⟨before', cs⟩ := by
    cases p with
    | argb => rfl
    | function f => exact readFunction_congr m.arithmetic f rfl
  have reference (d : Definitions) : readReference d ⟨before, cs⟩ = readReference d ⟨before', cs⟩ :=
    readReference_congr d rfl
  have name (table : NameTable) : readName table ⟨before, cs⟩ = readName table ⟨before', cs⟩ := by
    rw [readName, readName, identifier]
    rfl
  simp only [readSpot, hash, literal, reference, name]
  rfl

theorem within_readSpot {s : Spot} {r : Reading} (h : m.readSpot definitions s = .ok (some r)) :
    r.Within s := by
  rw [readSpot] at h
  split at h
  · cases h
  · split at h
    · have fits := fits_readHash (Except.ok.inj h)
      exact ⟨fits.positive, fits.inside⟩
    · split at h
      · rename_i p _
        cases p with
        | argb =>
          have fits := fits_readArgb (Except.ok.inj h)
          exact ⟨fits.positive, fits.inside⟩
        | function f => exact within_readFunction h
      · split at h
        · exact within_readReference (Except.ok.inj h)
        · obtain ⟨table, _, found⟩ := Option.bind_eq_some_iff.1 (Except.ok.inj h)
          exact within_readName found

theorem within_readAt {line : List Char} {column : Nat} {r : Reading}
    (h : m.readAt definitions line column = .ok (some r)) : r.Within (Spot.inLine line column) := by
  rw [readAt_eq] at h
  exact within_readSpot h

theorem inside_of_reading {line : List Char} {column : Nat} {r : Reading}
    (found : m.readAt definitions line column = .ok (some r)) : column < line.length := by
  obtain ⟨positive, room⟩ := within_readAt found
  rw [Spot.ahead_inLine, List.length_drop] at room
  omega

theorem fits_readSpot (sound : m.Sound) (colored : ∀ d, definitions = some d → Colored d) {s : Spot}
    {r : Reading} (h : m.readSpot definitions s = .ok (some r)) : r.Fits s := by
  rw [readSpot] at h
  split at h
  · cases h
  · split at h
    · exact fits_readHash (Except.ok.inj h)
    · split at h
      · exact fits_read sound.bounded h
      · split at h
        · exact fits_readReference (colored _ rfl) (Except.ok.inj h)
        · obtain ⟨table, known, found⟩ := Option.bind_eq_some_iff.1 (Except.ok.inj h)
          exact fits_readName (sound.named table known) found

theorem fits_readAt (sound : m.Sound) (colored : ∀ d, definitions = some d → Colored d)
    {line : List Char} {column : Nat} {r : Reading}
    (h : m.readAt definitions line column = .ok (some r)) : r.Fits (Spot.inLine line column) := by
  rw [readAt_eq] at h
  exact fits_readSpot sound colored h

end Matcher

/-- Spans between two columns, in order and without overlaps, with color texts. -/
structure InOrder (spans : List Span) (first last : Int) : Prop where
  apart : spans.Pairwise fun s t => s.stop ≤ t.start
  inside : ∀ s ∈ spans, first ≤ s.start ∧ s.start < s.stop ∧ s.stop ≤ last ∧ IsColorText s.color

theorem inOrder_nil (first last : Int) : InOrder [] first last :=
  ⟨.nil, fun _ none => absurd none List.not_mem_nil⟩

theorem InOrder.cons {spans : List Span} {first middle last : Int} (h : InOrder spans middle last)
    (positive : first < middle) (fits : middle ≤ last) {color : String}
    (colored : IsColorText color) :
    InOrder (⟨first, middle, color⟩ :: spans) first last := by
  refine ⟨List.pairwise_cons.2 ⟨fun t there => (h.inside t there).1, h.apart⟩, fun s there => ?_⟩
  rcases List.mem_cons.1 there with rfl | there
  · exact ⟨Int.le_refl _, positive, fits, colored⟩
  · obtain ⟨later, rest⟩ := h.inside s there
    exact ⟨by omega, rest⟩

theorem InOrder.widen {spans : List Span} {first first' last : Int} (h : InOrder spans first last)
    (earlier : first' ≤ first) : InOrder spans first' last := by
  refine ⟨h.apart, fun s there => ?_⟩
  obtain ⟨later, rest⟩ := h.inside s there
  exact ⟨by omega, rest⟩

namespace Matcher

variable {m : Matcher} {definitions : Option Definitions}

theorem scanFrom_inside {line : List Char} {column : Nat} (inside : column < line.length) :
    m.scanFrom definitions line column = do
      match ← m.readAt definitions line column with
      | none => m.scanFrom definitions line (column + 1)
      | some r =>
          let more ← m.scanFrom definitions line (column + r.length)
          return ⟨column, column + r.length, r.color⟩ :: more := by
  rw [scanFrom, if_pos inside]
  cases found : m.readAt definitions line column with
  | error e => rfl
  | ok reading =>
    cases reading with
    | none => rfl
    | some r =>
      have positive := (within_readAt found).positive
      have behind : column + 1 + (r.length - 1) = column + r.length := by omega
      simp only [bind, Except.bind, behind]

theorem scanFrom_outside {line : List Char} {column : Nat} (outside : line.length ≤ column) :
    m.scanFrom definitions line column = .ok [] := by
  rw [scanFrom, if_neg (Nat.not_lt.2 outside)]
  rfl

theorem inOrder_scanFrom (sound : m.Sound) (colored : ∀ d, definitions = some d → Colored d)
    {line : List Char} {column : Nat} (start : column ≤ line.length) {spans : List Span}
    (h : m.scanFrom definitions line column = .ok spans) : InOrder spans column line.length := by
  induction left : line.length - column using Nat.strongRecOn generalizing column spans with
  | ind left ih =>
    by_cases inside : column < line.length
    · rw [scanFrom_inside inside] at h
      obtain ⟨reading, found, h⟩ := bind_eq_ok.1 h
      cases reading with
      | none => exact (ih _ (by omega) inside h rfl).widen (by omega)
      | some r =>
        obtain ⟨positive, room, good⟩ := fits_readAt sound colored found
        rw [Spot.ahead_inLine, List.length_drop] at room
        obtain ⟨more, scanned, h⟩ := bind_eq_ok.1 h
        obtain rfl := Except.ok.inj h
        have tail := ih _ (by omega) (by omega) scanned rfl
        have later : ((column + r.length : Nat) : Int) = (column : Int) + r.length := by omega
        rw [later] at tail
        exact tail.cons (by omega) (by omega) good
    · rw [scanFrom_outside (by omega)] at h
      obtain rfl := Except.ok.inj h
      exact inOrder_nil _ _

theorem inOrder_scan (sound : m.Sound) (colored : ∀ d, definitions = some d → Colored d)
    {line : String} {spans : List Span} (h : m.scan definitions line = .ok spans) :
    InOrder spans 0 line.length := by
  have found := inOrder_scanFrom sound colored (Nat.zero_le _) h
  rwa [String.length_toList] at found

end Matcher

end ColorSpans
