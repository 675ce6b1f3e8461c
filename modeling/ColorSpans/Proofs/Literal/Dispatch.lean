import ColorSpans.Proofs.Literal.Refusals

/-! The choice of a decoder. Several openings may stand at a column, but only the longest of them
can be that of a literal, since a function's bracket follows its keyword at once. So the decoder of
the longest one reads whatever any of them does. -/
namespace ColorSpans
open Numeral

namespace Prefixed

def start : Prefixed → List Char
  | .argb => ['0', 'x']
  | .function f => f.keyword.toList ++ ['(']

theorem length_start_le (p : Prefixed) : p.start.length ≤ p.opening.toList.length + 1 := by
  cases p with
  | argb => decide
  | function f => exact Nat.le_of_eq (List.length_append ..)

theorem opening_ne_nil (p : Prefixed) : p.opening.toList ≠ [] := by
  cases p with
  | argb => decide
  | function f => cases f <;> decide

theorem opening_inj {p q : Prefixed} (same : p.opening.toList = q.opening.toList) : p = q := by
  rcases p with _ | f <;> rcases q with _ | g
  · rfl
  · cases g <;> exact absurd same (by decide)
  · cases f <;> exact absurd same (by decide)
  · cases f <;> cases g <;> first | rfl | exact absurd same (by decide)

theorem eq_of_start_isPrefix_opening {p q : Prefixed} (begins : p.start <+: q.opening.toList) :
    p = q := by
  rcases p with _ | f <;> rcases q with _ | g
  · rfl
  · cases g <;> exact absurd begins (by decide)
  · cases f <;> exact absurd begins (by decide)
  · cases f <;> cases g <;> exact absurd begins (by decide)

variable {a : Arithmetic} {p q : Prefixed} {s : Spot}

theorem start_isPrefix (stands : p.opening.toList <+: s.ahead) (reads : p.read a s ≠ .ok none) :
    p.start <+: s.ahead := by
  cases p with
  | argb => exact stands
  | function f =>
    cases call : f.readCall s.ahead with
    | none => exact absurd (readFunction_none s call) reads
    | some found =>
      obtain ⟨more, begins⟩ := begins_readCall call
      exact ⟨more, begins ▸ List.append_assoc ..⟩

/-- If the decoder of an opening reads something then no other one that is as long stands there. -/
theorem eq_of_read (stands : p.opening.toList <+: s.ahead) (reads : p.read a s ≠ .ok none)
    (other : q.opening.toList <+: s.ahead)
    (long : p.opening.toList.length ≤ q.opening.toList.length) : p = q := by
  by_cases further : p.start.length ≤ q.opening.toList.length
  · apply eq_of_start_isPrefix_opening
    exact List.prefix_of_prefix_length_le (start_isPrefix stands reads) other further
  · have same : q.opening.toList.length ≤ p.opening.toList.length := by
      have := length_start_le p
      omega
    exact opening_inj ((List.prefix_of_prefix_length_le stands other long).eq_of_length_le same)

theorem readAt_natCast (a : Arithmetic) (p : Prefixed) (line : List Char) (column : Nat) :
    p.readAt a line column = (p.read a (Spot.inLine line column)).mapError .numeral := by
  cases p with
  | argb => exact congrArg Except.ok (readArgbAt_natCast line column)
  | function f => exact readFunctionFrom_natCast a f line column

theorem read_of_readAt {line : List Char} {column : Nat}
    (reads : p.readAt a line column ≠ .ok none) :
    p.read a (Spot.inLine line column) ≠ .ok none := by
  intro none
  rw [readAt_natCast, none] at reads
  exact reads rfl

end Prefixed

section search

variable {α β ε : Type} {f : α → Except ε (Option β)}

theorem findSomeM?_eq_none {order : List α} (nothing : ∀ p ∈ order, f p = .ok none) :
    order.findSomeM? f = .ok none := by
  induction order with
  | nil => rfl
  | cons p order ih =>
    rw [List.findSomeM?, nothing p List.mem_cons_self]
    exact ih fun q later => nothing q (List.mem_cons_of_mem p later)

theorem findSomeM?_eq_of_others {order : List α} {q : α} (there : q ∈ order)
    (others : ∀ p ∈ order, f p ≠ .ok none → p = q) : order.findSomeM? f = f q := by
  induction order with
  | nil => cases there
  | cons p order ih =>
    by_cases nothing : f p = .ok none
    · rw [List.findSomeM?, nothing]
      have behind : ∀ p ∈ order, f p ≠ .ok none → p = q :=
        fun p later => others p (List.mem_cons_of_mem _ later)
      rcases List.mem_cons.1 there with rfl | later
      · -- Nothing is found behind the first candidate unless it comes again.
        rw [nothing]
        exact findSomeM?_eq_none fun p later => by_contra fun reads =>
          reads (behind p later reads ▸ nothing)
      · exact ih later behind
    · obtain rfl := others p List.mem_cons_self nothing
      rw [List.findSomeM?]
      cases given : f p with
      | error e => rfl
      | ok found =>
        cases found with
        | none => exact absurd given nothing
        | some r => rfl

end search

namespace Matcher

variable {a : Arithmetic} {config : Config} {names : Option NameTable}
  {definitions : Option Definitions} {p : Prefixed} {s : Spot}

theorem exists_prefixedSpot (enabled : p ∈ config.prefixed)
    (stands : p.opening.toList <+: s.ahead) :
    ∃ q ∈ config.prefixed, (ofTable a config names).prefixedSpot s = some q ∧
      p.opening.toList.length ≤ q.opening.toList.length := by
  have kept : (ofTable a config names).openings.contains p.opening.toList = true :=
    (Trie.contains_ofWords _ _).2 ⟨List.mem_map_of_mem enabled, p.opening_ne_nil⟩
  obtain ⟨word, longest, long⟩ := Trie.exists_longestPrefix kept stands
  obtain ⟨there, -⟩ := (Trie.contains_ofWords _ _).1 (Trie.contains_of_longestPrefix longest)
  obtain ⟨q, known, rfl⟩ := List.mem_map.1 there
  refine ⟨q, known, ?_, long⟩
  rw [prefixedSpot, longest, Option.bind_some]
  cases first : config.prefixed.find? fun p => p.opening.toList == q.opening.toList with
  | none => exact absurd (beq_self_eq_true _) (List.find?_eq_none.1 first q known)
  | some p =>
    have same := List.find?_some first
    exact first.trans (congrArg some (Prefixed.opening_inj (beq_iff_eq.1 same)))

theorem prefixedSpot_of_read (enabled : p ∈ config.prefixed) (stands : p.opening.toList <+: s.ahead)
    (reads : p.read a s ≠ .ok none) : (ofTable a config names).prefixedSpot s = some p := by
  obtain ⟨q, -, found, long⟩ := exists_prefixedSpot enabled stands
  rw [found, Prefixed.eq_of_read stands reads (opening_isPrefix found) long]

theorem readSpot_of_prefixedSpot {m : Matcher} (chosen : m.prefixedSpot s = some p) :
    m.readSpot definitions s = p.read m.arithmetic s := by
  obtain ⟨more, begins⟩ := opening_isPrefix chosen
  have head : ∃ c behind, s.ahead = c :: behind ∧ (c == '#') = false := by
    cases p with
    | argb => exact ⟨_, _, begins.symm, rfl⟩
    | function f => cases f <;> exact ⟨_, _, begins.symm, rfl⟩
  obtain ⟨c, behind, shape, other⟩ := head
  simp only [readSpot, shape, other, Bool.false_and, Bool.false_eq_true, if_false, chosen]

theorem readColumn_of_prefixedSpot {m : Matcher} {line : String} {column : Nat}
    (chosen : m.prefixedSpot (Spot.inLine line.toList column) = some p) :
    m.readColumn definitions line column = p.readAt m.arithmetic line.toList column := by
  have inside : column < line.length := by
    rw [← String.length_toList]
    apply Nat.lt_of_not_le
    intro outside
    have begins := opening_isPrefix chosen
    rw [Spot.ahead_inLine, List.drop_eq_nil_of_le outside] at begins
    exact p.opening_ne_nil (List.prefix_nil.1 begins)
  rw [readColumn_natCast inside, readAt_eq, readSpot_of_prefixedSpot chosen,
    Prefixed.readAt_natCast]

/-- Where openings stand, a column is read as any search through their decoders reads it, whatever
their order. At most one of them reads a literal or fails, and its opening is longer than the
others. -/
theorem readColumn_eq_findSomeM? (a : Arithmetic) (config : Config) (palette : Palette)
    (definitions : Option Definitions) (line : String) (column : Nat) (order : List Prefixed)
    (standing : ∀ p, p ∈ order ↔ p ∈ config.prefixed ∧ p.opening.toList <+: line.toList.drop column)
    (nonempty : order ≠ []) :
    (compileWith a config palette).readColumn definitions line column =
        order.findSomeM? (fun p => p.readAt a line.toList column) ∧
      ∀ p ∈ order, p.readAt a line.toList column ≠ .ok none → ∀ q ∈ order, q ≠ p →
        q.readAt a line.toList column = .ok none ∧ q.opening.length < p.opening.length := by
  obtain ⟨first, there⟩ := List.exists_mem_of_ne_nil order nonempty
  obtain ⟨enabled, stands⟩ := (standing first).1 there
  obtain ⟨chosen, known, found, -⟩ : ∃ q ∈ config.prefixed,
      (compileWith a config palette).prefixedSpot (Spot.inLine line.toList column) = some q ∧
        first.opening.toList.length ≤ q.opening.toList.length := exists_prefixedSpot enabled stands
  have among : chosen ∈ order := (standing chosen).2 ⟨known, opening_isPrefix found⟩
  have only : ∀ p ∈ order, p.readAt a line.toList column ≠ .ok none → p = chosen := by
    intro p there reads
    obtain ⟨enabled, stands⟩ := (standing p).1 there
    exact Option.some.inj
      ((prefixedSpot_of_read enabled stands (Prefixed.read_of_readAt reads)).symm.trans found)
  constructor
  · rw [findSomeM?_eq_of_others among only]
    exact readColumn_of_prefixedSpot found
  · intro p there reads q there' other
    constructor
    · by_contra reads'
      exact other ((only q there' reads').trans (only p there reads).symm)
    · rw [← String.length_toList, ← String.length_toList]
      apply Nat.lt_of_not_le
      intro long
      have stands := ((standing p).1 there).2
      exact other (Prefixed.eq_of_read stands (Prefixed.read_of_readAt reads)
        ((standing q).1 there').2 long).symm

def allPrefixed : Config := ⟨false, .none, true, true, true, .off, false, none⟩

def translucent : String := "c: rgba(1, 2, 3, .5)"

theorem standing_translucent (p : Prefixed) : p ∈ [.function .rgb, .function .rgba] ↔
    p ∈ allPrefixed.prefixed ∧ p.opening.toList <+: translucent.toList.drop 3 := by
  rcases p with _ | f
  · decide
  · cases f <;> decide

theorem readColumn_eq_findSomeM?_translucent :
    (compileWith white allPrefixed ⟨[], []⟩).readColumn none translucent 3 =
        [Prefixed.function .rgb, .function .rgba].findSomeM?
          (fun p => p.readAt white translucent.toList 3) ∧
      Prefixed.readAt white (.function .rgb) translucent.toList 3 = .ok none := by
  obtain ⟨same, -⟩ := readColumn_eq_findSomeM? white allPrefixed ⟨[], []⟩ none translucent 3
    [.function .rgb, .function .rgba] standing_translucent (by decide)
  refine ⟨same, ?_⟩
  rw [Prefixed.readAt]
  exact eq_ok_of_toOption (by decide +kernel)

end Matcher

end ColorSpans
