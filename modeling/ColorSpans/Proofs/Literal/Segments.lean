import ColorSpans.Proofs.Literal.Scan
import ColorSpans.Proofs.Trie

/-! Segments of a line. A semicolon stands in no literal, so what comes before it is read as if the
line ended there, and what comes behind it as if the line began there. -/
namespace ColorSpans
open Numeral Text

section run

variable {p : Char → Bool} {stop : Char} (foreign : p stop = false)

include foreign

theorem takeWhile_append_stop (cs more : List Char) :
    (cs ++ stop :: more).takeWhile p = cs.takeWhile p := by
  induction cs with
  | nil => simp [foreign]
  | cons c cs ih => simp [List.takeWhile_cons, ih]

theorem dropWhile_append_stop (cs more : List Char) :
    (cs ++ stop :: more).dropWhile p = cs.dropWhile p ++ stop :: more := by
  induction cs with
  | nil => simp [foreign]
  | cons c cs ih =>
    simp only [List.cons_append, List.dropWhile_cons, ih]
    split <;> rfl

end run

theorem isDigit_semicolon : isDigit ';' = false := by decide

theorem isBlank_semicolon : isBlank ';' = false := by decide

theorem isHexDigit_semicolon : isHexDigit ';' = false := by decide

theorem isNameChar_semicolon : isNameChar ';' = false := by decide

theorem isAlphanumeric_semicolon : ColorSpans.isAlphanumeric ';' = false := by decide

theorem isIdentifier_semicolon : isIdentifier ';' = false := by decide

theorem semicolon_not_mem {p : Char → Bool} (foreign : p ';' = false) {cs : List Char}
    (all : ∀ c ∈ cs, p c = true) : ';' ∉ cs :=
  fun there => Bool.false_ne_true (foreign.symm.trans (all ';' there))

theorem semicolon_not_mem_written {a : Argument} {text : List Char} (h : a.Takes text) :
    ';' ∉ a.written text := by
  have digits {text : List Char} (count : Digits text) : ';' ∉ text :=
    semicolon_not_mem isDigit_semicolon count.all
  cases a with
  | channel =>
    obtain ⟨text, count, rfl | rfl⟩ := h
    · exact digits count
    · simp [Argument.written, digits count]
  | degrees => exact digits h
  | percent => simp [Argument.written, digits h]
  | opacity =>
    have all : ∀ c ∈ text, (c == '.' || isDigit c) = true := by simpa using h.2
    exact semicolon_not_mem (by decide) all

theorem semicolon_not_mem_parts {sep : Separator} {gap : List Char} (h : sep.Parts gap) :
    ';' ∉ gap := by
  have blanks {cs : List Char} (blank : Blank cs) : ';' ∉ cs :=
    semicolon_not_mem isBlank_semicolon blank
  cases sep with
  | comma =>
    obtain ⟨front, back, before, after, rfl⟩ := h
    simp [blanks before, blanks after]
  | gap => exact blanks h.1

theorem semicolon_not_mem_listed {sep : Separator} {arguments : List Argument}
    {texts : List (List Char)} {cs : List Char} (h : Listed sep arguments texts cs) : ';' ∉ cs := by
  induction h with
  | last taken => exact semicolon_not_mem_written taken
  | more taken parts _ ih =>
    simp [semicolon_not_mem_written taken, semicolon_not_mem_parts parts, ih]

/-- What was read stays, and what is left goes on behind a semicolon. -/
def goOn {α : Type} (more : List Char) (part : α × List Char) : α × List Char :=
  (part.1, part.2 ++ ';' :: more)

namespace ColorFunction

theorem Call.semicolon_not_mem {f : ColorFunction} {texts : List (List Char)} {w : List Char}
    (h : f.Call texts w) : ';' ∉ w := by
  obtain ⟨sep, front, listed, back, before, args, after, rfl⟩ := h
  have keyword : ';' ∉ f.keyword.toList := by cases f <;> decide
  simp [keyword, ColorSpans.semicolon_not_mem isBlank_semicolon before,
    semicolon_not_mem_listed args, ColorSpans.semicolon_not_mem isBlank_semicolon after]

theorem readCall_append (f : ColorFunction) (cs more : List Char) :
    f.readCall (cs ++ ';' :: more) = (f.readCall cs).map (goOn more) := by
  refine Option.ext fun ⟨texts, rest⟩ => ?_
  simp only [Option.map_eq_some_iff, Prod.exists, goOn, readCall_eq_some_iff, Prod.mk.injEq]
  constructor
  · rintro ⟨w, call, same⟩
    rcases List.append_eq_append_iff.1 same with ⟨beyond, rfl, tail⟩ | ⟨left, rfl, tail⟩
    · cases beyond with
      | nil => exact ⟨texts, [], ⟨_, call, by simp⟩, rfl, by simpa using tail⟩
      | cons c beyond =>
        obtain rfl := (List.cons.inj tail).1
        exact absurd (List.mem_append_right _ List.mem_cons_self) call.semicolon_not_mem
    · exact ⟨texts, left, ⟨w, call, rfl⟩, rfl, tail.symm⟩
  · rintro ⟨_, left, ⟨w, call, rfl⟩, rfl, rfl⟩
    exact ⟨w, call, List.append_assoc ..⟩

end ColorFunction

section spot

variable (before : Option Char) (cs more : List Char)

theorem readFunction_append (a : Arithmetic) (f : ColorFunction) :
    readFunction a f ⟨before, cs ++ ';' :: more⟩ = readFunction a f ⟨before, cs⟩ := by
  have whole := f.readCall_append cs more
  cases call : f.readCall cs with
  | none =>
    rw [call, Option.map_none] at whole
    rw [readFunction_none ⟨before, cs ++ ';' :: more⟩ whole, readFunction_none ⟨before, cs⟩ call]
  | some part =>
    rw [call, Option.map_some] at whole
    have same : (cs ++ ';' :: more).length - (part.2 ++ ';' :: more).length =
        cs.length - part.2.length := by
      rw [List.length_append, List.length_append]
      omega
    rw [readFunction_some ⟨before, cs ++ ';' :: more⟩ whole,
      readFunction_some ⟨before, cs⟩ call, same]

theorem hexRun_append {skip : Nat} (room : skip ≤ cs.length) :
    Spot.hexRun ⟨before, cs ++ ';' :: more⟩ skip = Spot.hexRun ⟨before, cs⟩ skip := by
  simp only [Spot.hexRun, List.drop_append_of_le_length room,
    takeWhile_append_stop isHexDigit_semicolon]

theorem followedBy_append {n : Nat} (room : n ≤ cs.length) {p : Char → Bool}
    (foreign : p ';' = false) :
    Spot.followedBy ⟨before, cs ++ ';' :: more⟩ n p = Spot.followedBy ⟨before, cs⟩ n p := by
  simp only [Spot.followedBy]
  rcases Nat.lt_or_eq_of_le room with inside | rfl
  · rw [List.getElem?_append_left inside]
  · simp [foreign]

theorem readHash_append (lengths : HexLengths) (nonempty : cs ≠ []) :
    readHash lengths ⟨before, cs ++ ';' :: more⟩ = readHash lengths ⟨before, cs⟩ := by
  have room : 1 ≤ cs.length := List.length_pos_iff.2 nonempty
  have run := Spot.length_hexRun_le ⟨before, cs⟩ 1
  have fits : (Spot.hexRun ⟨before, cs⟩ 1).length + 1 ≤ cs.length := by
    dsimp only at run
    omega
  simp only [readHash_eq, hexRun_append before cs more room,
    followedBy_append before cs more fits isAlphanumeric_semicolon]
  rfl

theorem readArgb_append (room : 2 ≤ cs.length) :
    readArgb ⟨before, cs ++ ';' :: more⟩ = readArgb ⟨before, cs⟩ := by
  have run := Spot.length_hexRun_le ⟨before, cs⟩ 2
  have fits : (Spot.hexRun ⟨before, cs⟩ 2).length + 2 ≤ cs.length := by
    dsimp only at run
    omega
  simp only [readArgb_eq, hexRun_append before cs more room,
    followedBy_append before cs more fits isAlphanumeric_semicolon]

theorem readReference_append (definitions : Definitions) :
    readReference definitions ⟨before, cs ++ ';' :: more⟩ =
      readReference definitions ⟨before, cs⟩ := by
  cases cs with
  | nil => rfl
  | cons c cs =>
    by_cases sign : c = '$'
    · subst sign
      simp only [readReference, List.cons_append, takeWhile_append_stop isNameChar_semicolon]
    · simp [readReference, sign]

theorem readName_append {table : NameTable} (plain : ∀ word ∈ table.trie.words, ';' ∉ word) :
    readName table ⟨before, cs ++ ';' :: more⟩ = readName table ⟨before, cs⟩ := by
  simp only [readName_eq, Trie.longestPrefix_append_cons plain]
  cases found : table.trie.longestPrefix cs with
  | none => rfl
  | some name =>
    have fits := (Trie.longestPrefix_isPrefix found).length_le
    simp only [followedBy_append before cs more fits isIdentifier_semicolon]
    rfl

end spot

namespace Matcher

/-- No opening and no name has a semicolon in it. -/
structure Parted (m : Matcher) : Prop where
  openings : ∀ word ∈ m.openings.words, ';' ∉ word
  names : ∀ table, m.names = some table → ∀ word ∈ table.trie.words, ';' ∉ word

theorem parted_compileWith {a : Arithmetic} {config : Config} {palette : Palette}
    (plain : ∀ table, (compileWith a config palette).names = some table →
      ∀ name ∈ table.colors, ';' ∉ name.toList) :
    (compileWith a config palette).Parted := by
  refine ⟨fun word there => ?_, fun table built word there => ?_⟩
  · obtain ⟨p, _, rfl⟩ := List.mem_map.1 (Trie.mem_of_mem_words_ofWords there)
    rcases p with _ | f
    · decide
    · cases f <;> decide
  · obtain ⟨request, _, same⟩ := Option.map_eq_some_iff.1 built
    subst same
    rw [NameRequest.table, NameTable.trie_build] at there
    obtain ⟨name, known, rfl⟩ := List.mem_map.1 (Trie.mem_of_mem_words_ofWords there)
    exact plain _ built name (Std.ExtTreeMap.mem_keys.1 known)

variable {m : Matcher} {definitions : Option Definitions}

theorem opening_isPrefix {s : Spot} {p : Prefixed} (h : m.prefixedSpot s = some p) :
    p.opening.toList <+: s.ahead := by
  obtain ⟨word, found, first⟩ := Option.bind_eq_some_iff.1 h
  have same := List.find?_some first
  rw [beq_iff_eq.1 same]
  exact Trie.longestPrefix_isPrefix found

section parted

variable (parted : m.Parted)

include parted

theorem prefixedSpot_append (before : Option Char) (cs more : List Char) :
    m.prefixedSpot ⟨before, cs ++ ';' :: more⟩ = m.prefixedSpot ⟨before, cs⟩ := by
  simp only [prefixedSpot, Trie.longestPrefix_append_cons parted.openings]

theorem readSpot_append (before : Option Char) {cs : List Char} (nonempty : cs ≠ [])
    (more : List Char) :
    m.readSpot definitions ⟨before, cs ++ ';' :: more⟩ = m.readSpot definitions ⟨before, cs⟩ := by
  have opening := prefixedSpot_append parted before cs more
  have hash := readHash_append before cs more m.config.hexLengths nonempty
  have reference := fun d => readReference_append before cs more d
  have name : (m.names.bind fun table => readName table ⟨before, cs ++ ';' :: more⟩) =
      m.names.bind fun table => readName table ⟨before, cs⟩ := by
    cases known : m.names with
    | none => rfl
    | some table => exact readName_append before cs more (parted.names table known)
  have literal : ∀ p, m.prefixedSpot ⟨before, cs⟩ = some p →
      p.read m.arithmetic ⟨before, cs ++ ';' :: more⟩ = p.read m.arithmetic ⟨before, cs⟩ := by
    intro p found
    cases p with
    | argb =>
      have room := (opening_isPrefix found).length_le
      exact congrArg Except.ok (readArgb_append before cs more room)
    | function f => exact readFunction_append before cs more m.arithmetic f
  cases cs with
  | nil => exact absurd rfl nonempty
  | cons c cs =>
    simp only [List.cons_append] at opening hash reference name literal ⊢
    simp only [readSpot, opening, hash, name, reference]
    split
    · rfl
    · cases found : m.prefixedSpot ⟨before, c :: cs⟩ with
      | none => rfl
      | some p => exact literal p found

theorem readSpot_semicolon (before : Option Char) (more : List Char) :
    m.readSpot definitions ⟨before, ';' :: more⟩ = .ok none := by
  have opening : m.prefixedSpot ⟨before, ';' :: more⟩ = none := by
    have found := prefixedSpot_append parted before [] more
    simpa [prefixedSpot] using found
  have name : (m.names.bind fun table => readName table ⟨before, ';' :: more⟩) = none := by
    cases known : m.names with
    | none => rfl
    | some table =>
      have found := readName_append before [] more (parted.names table known)
      simpa [readName_eq] using found
  have hash : (';' == '#' && !m.config.hexLengths.isEmpty) = false := rfl
  simp only [readSpot, hash, opening, name]
  rfl

end parted

end Matcher

def Span.shift (columns : Int) (s : Span) : Span := ⟨s.start + columns, s.stop + columns, s.color⟩

namespace Matcher

variable {m : Matcher} {definitions : Option Definitions}

section line

variable {first second : List Char} {column : Nat}

theorem readAt_behind_semicolon :
    m.readAt definitions (first ++ ';' :: second) (first.length + 1 + column) =
      m.readAt definitions second column := by
  have before {p : Char → Bool} (foreign : p ';' = false) :
      (Spot.inLine (first ++ ';' :: second) (first.length + 1 + column)).precededBy p =
        (Spot.inLine second column).precededBy p := by
    rw [Spot.precededBy_inLine, Spot.precededBy_inLine]
    cases column with
    | zero => simp [foreign]
    | succ column =>
      have place : first.length + 1 + (column + 1) - 1 = first.length + (column + 1) := by omega
      rw [place, List.getElem?_append_right (Nat.le_add_right ..), decide_eq_true (by omega),
        decide_eq_true (Nat.succ_pos column)]
      simp
  rw [readAt_eq, readAt_eq]
  refine readSpot_congr ?_ (before isAlphanumeric_semicolon) (before isIdentifier_semicolon)
  rw [Spot.ahead_inLine, Spot.ahead_inLine, List.drop_append, Nat.add_assoc,
    List.drop_eq_nil_of_le (by omega)]
  simp [Nat.add_comm 1]

theorem scanFrom_behind_semicolon :
    m.scanFrom definitions (first ++ ';' :: second) (first.length + 1 + column) =
      (m.scanFrom definitions second column).map (List.map (Span.shift (first.length + 1))) := by
  induction left : second.length - column using Nat.strongRecOn generalizing column with
  | ind left ih =>
    have count : (first ++ ';' :: second).length = first.length + 1 + second.length := by
      rw [List.length_append, List.length_cons]
      omega
    by_cases inside : column < second.length
    · rw [scanFrom_inside inside, scanFrom_inside (by omega), readAt_behind_semicolon]
      cases found : m.readAt definitions second column with
      | error e => rfl
      | ok reading =>
        cases reading with
        | none => exact @ih (second.length - (column + 1)) (by omega) (column + 1) rfl
        | some r =>
          have positive := (within_readAt found).positive
          have tail := ih (second.length - (column + r.length)) (by omega) rfl
          rw [← Nat.add_assoc] at tail
          simp only [bind, Except.bind, tail]
          cases m.scanFrom definitions second (column + r.length) with
          | error e => rfl
          | ok more =>
            simp only [Except.map, pure, Except.pure, List.map_cons, Span.shift]
            congr 3 <;> omega
    · rw [scanFrom_outside (by omega), scanFrom_outside (by omega)]
      rfl

variable (parted : m.Parted)

include parted

theorem readAt_before_semicolon (inside : column < first.length) :
    m.readAt definitions (first ++ ';' :: second) column = m.readAt definitions first column := by
  have nonempty : first.drop column ≠ [] := by
    rw [Ne, List.drop_eq_nil_iff]
    omega
  have spot : Spot.inLine (first ++ ';' :: second) column =
      ⟨(Spot.inLine first column).before, first.drop column ++ ';' :: second⟩ := by
    rw [Spot.inLine, Spot.inLine, List.drop_append_of_le_length (by omega),
      List.getElem?_append_left (by omega)]
  rw [readAt_eq, readAt_eq, spot]
  exact readSpot_append parted _ nonempty second

theorem readAt_at_semicolon :
    m.readAt definitions (first ++ ';' :: second) first.length = .ok none := by
  have ahead : (first ++ ';' :: second).drop first.length = ';' :: second := List.drop_left
  rw [readAt_eq, Spot.inLine, ahead]
  exact readSpot_semicolon parted _ second

theorem scanFrom_append (start : column ≤ first.length) :
    m.scanFrom definitions (first ++ ';' :: second) column = do
      let found ← m.scanFrom definitions first column
      let later ← m.scanFrom definitions (first ++ ';' :: second) (first.length + 1)
      return found ++ later := by
  induction left : first.length - column using Nat.strongRecOn generalizing column with
  | ind left ih =>
    have count : (first ++ ';' :: second).length = first.length + 1 + second.length := by
      rw [List.length_append, List.length_cons]
      omega
    by_cases inside : column < first.length
    · rw [scanFrom_inside inside, scanFrom_inside (by omega), readAt_before_semicolon parted inside]
      cases found : m.readAt definitions first column with
      | error e => rfl
      | ok reading =>
        cases reading with
        | none => exact ih (first.length - (column + 1)) (by omega) inside rfl
        | some r =>
          obtain ⟨positive, room⟩ := within_readAt found
          rw [Spot.ahead_inLine, List.length_drop] at room
          have tail := ih (first.length - (column + r.length)) (by omega) (by omega) rfl
          simp only [bind, Except.bind, tail]
          cases m.scanFrom definitions first (column + r.length) with
          | error e => rfl
          | ok spans =>
            simp only [pure, Except.pure]
            cases m.scanFrom definitions (first ++ ';' :: second) (first.length + 1) <;> rfl
    · obtain rfl : column = first.length := by omega
      rw [scanFrom_inside (by omega), readAt_at_semicolon parted, scanFrom_outside (Nat.le_refl _)]
      simp only [bind, Except.bind]
      cases m.scanFrom definitions (first ++ ';' :: second) (first.length + 1) <;> rfl

end line

theorem scan_append (parted : m.Parted) (first second : String) :
    m.scan definitions (first ++ ";" ++ second) = do
      let found ← m.scan definitions first
      let later ← m.scan definitions second
      return found ++ later.map (Span.shift ((first.length : Int) + 1)) := by
  have text : (first ++ ";" ++ second).toList = first.toList ++ ';' :: second.toList := by simp
  have behind : m.scanFrom definitions (first.toList ++ ';' :: second.toList)
      (first.toList.length + 1 + 0) = _ :=
    scanFrom_behind_semicolon
  rw [scan, scan, scan, text, scanFrom_append parted (Nat.zero_le _), behind, String.length_toList]
  cases m.scanFrom definitions first.toList 0 with
  | error e => rfl
  | ok found => cases m.scanFrom definitions second.toList 0 <;> rfl

theorem scan_edit (parted : m.Parted) {first edited second : String}
    {found found' later : List Span} (before : m.scan definitions first = .ok found)
    (after : m.scan definitions edited = .ok found')
    (whole : m.scan definitions (first ++ ";" ++ second) = .ok (found ++ later)) :
    m.scan definitions (edited ++ ";" ++ second) =
      .ok (found' ++ later.map (Span.shift ((edited.length : Int) - first.length))) := by
  rw [scan_append parted, before] at whole
  rw [scan_append parted, after]
  obtain ⟨_, ⟨⟩, whole⟩ := bind_eq_ok.1 whole
  obtain ⟨own, read, same⟩ := bind_eq_ok.1 whole
  have moved : own.map (Span.shift ((first.length : Int) + 1)) = later :=
    List.append_cancel_left (Except.ok.inj same)
  have along : later.map (Span.shift ((edited.length : Int) - first.length)) =
      own.map (Span.shift ((edited.length : Int) + 1)) := by
    rw [← moved, List.map_map]
    refine List.map_congr_left fun s _ => ?_
    simp only [Function.comp_apply, Span.shift]
    congr 1 <;> omega
  rw [read, along]
  rfl

/-- A line of two segments is read segment by segment, and it cannot be read exactly if one of them
cannot. -/
theorem scan_segments (a : Arithmetic) (config : Config) (palette : Palette)
    (plain : ∀ table, (compileWith a config palette).names = some table →
      ∀ name ∈ table.colors, ';' ∉ name.toList)
    (definitions : Option Definitions) (first second : String) :
    let m := compileWith a config palette
    (m.scan definitions (first ++ ";" ++ second) = do
      let found ← m.scan definitions first
      let later ← m.scan definitions second
      return found ++ later.map (Span.shift ((first.length : Int) + 1))) ∧
    ((∃ e, m.scan definitions (first ++ ";" ++ second) = .error e) ↔
      (∃ e, m.scan definitions first = .error e) ∨ ∃ e, m.scan definitions second = .error e) := by
  intro m
  have whole : m.scan definitions (first ++ ";" ++ second) = _ :=
    scan_append (parted_compileWith plain) first second
  refine ⟨whole, ?_⟩
  rw [whole]
  cases m.scan definitions first with
  | error e => simp [bind, Except.bind]
  | ok found => cases m.scan definitions second <;> simp [bind, Except.bind, pure, Except.pure]

def brandNames : Config :=
  ⟨true, ⟨true, true, true⟩, true, true, true, .off, true, some [("brand", .str "#AbC")]⟩

theorem scan_segments_brand :
    (∀ table, (compileWith .double brandNames ⟨[], []⟩).names = some table →
      ∀ name ∈ table.colors, ';' ∉ name.toList) ∧
    ((compileWith .double brandNames ⟨[], []⟩).scan none
      ("#AbCd;rgb(1,2;3) brand" ++ ";" ++ "brand-rgb(1,2,3)")).toOption =
      some [⟨17, 22, "aabbcc"⟩, ⟨29, 39, "010203"⟩] := by
  have plain : ∀ table, (compileWith .double brandNames ⟨[], []⟩).names = some table →
      ∀ name ∈ table.colors, ';' ∉ name.toList := by
    rintro table ⟨⟩ name known
    have keys : (NameTable.build {} [("brand", .str "#AbC")] none).colors.keys = ["brand"] := by
      decide +kernel
    have only : name ∈ ["brand"] := keys ▸ Std.ExtTreeMap.mem_keys.2 known
    obtain rfl := List.mem_singleton.1 only
    decide
  have both := scan_segments .double brandNames ⟨[], []⟩ plain none "#AbCd;rgb(1,2;3) brand"
    "brand-rgb(1,2,3)"
  have first : ((compileWith .double brandNames ⟨[], []⟩).scan none
      "#AbCd;rgb(1,2;3) brand").toOption = some [⟨17, 22, "aabbcc"⟩] := by
    decide +kernel
  have second : ((compileWith .double brandNames ⟨[], []⟩).scan none
      "brand-rgb(1,2,3)").toOption = some [⟨6, 16, "010203"⟩] := by
    decide +kernel
  refine ⟨plain, ?_⟩
  rw [both.1, eq_ok_of_toOption first, eq_ok_of_toOption second]
  rfl

end Matcher

end ColorSpans
