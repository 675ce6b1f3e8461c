import ColorSpans.Proofs.Literal.Segments
import ColorSpans.Proofs.Numeral

/-! Calls that cannot be converted. An integer of more than 4300 digits is refused, and a percentage
past the largest double has no share of 255; a hue and a percentage of either kind are not caught.
Nothing else that stands in a line makes a decoder fail. -/
namespace ColorSpans
open Numeral Text

/-- An arithmetic that has a result wherever its arguments are in range. -/
structure Arithmetic.Total (a : Arithmetic) : Prop extends a.Bounded where
  folds : ∀ (c : Rgb) (alpha : Float), c.InRange → 0 ≤ alpha → alpha ≤ 1 →
    ¬Raises (a.premultiply c alpha)
  converts : ∀ hue saturation lightness : Nat, hue ≤ 360 → saturation ≤ 100 → lightness ≤ 100 →
    ¬Raises (a.ofHsl (Hsl.ofDegrees hue saturation lightness))

/-- A percentage whose share of 255 is infinite. -/
def InfiniteShare (text : List Char) : Prop :=
  text.getLast? = some '%' ∧
    ∃ x, readFloat text.dropLast = some x ∧ Numeral.floor (x / 100 * 255) = .error .infinite

def Overflows : List (List Char) → Prop
  | [] => False
  | text :: more => InfiniteShare text ∨ (∃ n, readChannel text = .ok (some n)) ∧ Overflows more

/-- Argument texts that are not converted: three channels that overflow, or a hue, a saturation or
a lightness of too many digits. An opacity that is none is seen first. -/
def ColorFunction.Refused (f : ColorFunction) (texts : List (List Char)) : Prop :=
  (∀ alpha ∈ texts.drop 3, (readOpacity alpha).isSome = true) ∧
    match f with
    | .rgb | .rgba => Overflows (texts.take 3)
    | .hsl | .hsla => ∃ text ∈ texts.take 3, digitLimit < text.length

/-- A call of a recognized function begins the text, with arguments that are not converted. -/
def Config.RefusedAt (c : Config) (cs : List Char) : Prop :=
  ∃ f texts rest, .function f ∈ c.prefixed ∧ f.readCall cs = some (texts, rest) ∧ f.Refused texts

theorem raises_percentChannel {x : Float} :
    Raises (percentChannel x) ↔ Numeral.floor (x / 100 * 255) = .error .infinite := by
  have kinds : ∀ e, Numeral.floor (x / 100 * 255) = .error e → e = .infinite ∨ e = .notANumber := by
    intro e failed
    rw [Numeral.floor] at failed
    split at failed
    · cases failed
    · exact .inl (Except.error.inj failed).symm
    · exact .inr (Except.error.inj failed).symm
  rw [percentChannel]
  cases result : Numeral.floor (x / 100 * 255) with
  | ok n => simp
  | error e =>
    rcases kinds e result with rfl | rfl
    · simp
    · simp

theorem raises_readChannel {text : List Char} : Raises (readChannel text) ↔ InfiniteShare text := by
  rw [readChannel, InfiniteShare]
  split
  · rename_i percent
    rw [beq_iff_eq] at percent
    cases number : readFloat text.dropLast with
    | none => simp [percent]
    | some x => simp [percent, raises_map, raises_percentChannel]
  · rename_i plain
    rw [beq_iff_eq] at plain
    simp [plain]

theorem raises_rgbOfTexts {red green blue : List Char} :
    Raises (rgbOfTexts red green blue) ↔ Overflows [red, green, blue] := by
  simp only [Overflows, ← raises_readChannel]
  refine (raises_bind_some (by exact not_raises_ok _)).trans (or_congr_right ?_)
  rw [← exists_and_right]
  refine exists_congr fun r => and_congr_right fun _ => ?_
  refine (raises_bind_some (by exact not_raises_ok _)).trans (or_congr_right ?_)
  rw [← exists_and_right]
  refine exists_congr fun g => and_congr_right fun _ => ?_
  refine (raises_bind_some (by exact not_raises_ok _)).trans ?_
  simp [pure, Except.pure]

theorem raises_readNatural {text : List Char} (digits : Digits text) :
    Raises (readNatural text) ↔ digitLimit < text.length := by
  rw [readNatural, raises_map, digits.readInt]
  split
  · rename_i long
    simp [long]
  · rename_i short
    simp [short]

theorem raises_hslOfTexts {a : Arithmetic} (total : a.Total) {hue saturation lightness : List Char}
    (first : Digits hue) (second : Digits saturation) (third : Digits lightness) :
    Raises (hslOfTexts a hue saturation lightness) ↔
      ∃ text ∈ [hue, saturation, lightness], digitLimit < text.length := by
  have converted (h s l : Nat) :
      ¬Raises (if 360 < h ∨ 100 < s ∨ 100 < l then return none
        else a.ofHsl (Hsl.ofDegrees h s l) : Except NumeralError (Option Rgb)) := by
    split
    · exact not_raises_ok _
    · exact total.converts h s l (by omega) (by omega) (by omega)
  simp only [List.mem_cons, List.not_mem_nil, or_false, exists_eq_or_imp, exists_eq_left,
    ← raises_readNatural first, ← raises_readNatural second, ← raises_readNatural third]
  refine raises_bind_of fun h => raises_bind_of fun s => ?_
  exact (raises_bind_of fun l => iff_false_intro (converted h s l)).trans (or_iff_left id)

theorem raises_withOpacity {a : Arithmetic} (total : a.Total) {alpha : List Char}
    {color : Except NumeralError (Option Rgb)} (inRange : ∀ c, color = .ok (some c) → c.InRange) :
    Raises (withOpacity a alpha color) ↔ (readOpacity alpha).isSome = true ∧ Raises color := by
  rw [withOpacity]
  cases found : readOpacity alpha with
  | none => simp [pure, Except.pure]
  | some value =>
    have unit := (Option.filter_eq_some_iff.1 found).2
    simp only [Bool.and_eq_true, decide_eq_true_eq] at unit
    simp only [Option.isSome_some, true_and]
    refine (raises_bind_some (by exact not_raises_ok _)).trans (or_iff_left ?_)
    rintro ⟨c, same, failed⟩
    refine total.folds c value (inRange c same) unit.1 unit.2 ?_
    rcases raises_bind.1 failed with folding | ⟨_, _, none⟩
    · exact folding
    · exact absurd none (not_raises_ok _)

theorem raises_color {a : Arithmetic} (total : a.Total) {f : ColorFunction}
    {texts : List (List Char)} (taken : List.Forall₂ Argument.Takes f.arguments texts) :
    Raises (f.color a texts) ↔ f.Refused texts := by
  cases f with
  | rgb =>
    obtain _ | ⟨red, _ | ⟨green, _ | ⟨blue, _ | _⟩⟩⟩ := taken
    simp [ColorFunction.color, ColorFunction.Refused, raises_rgbOfTexts]
  | rgba =>
    obtain _ | ⟨red, _ | ⟨green, _ | ⟨blue, _ | ⟨alpha, _ | _⟩⟩⟩⟩ := taken
    simp [ColorFunction.color, ColorFunction.Refused, raises_rgbOfTexts,
      raises_withOpacity total fun _ => inRange_rgbOfTexts]
  | hsl =>
    obtain _ | ⟨hue, _ | ⟨saturation, _ | ⟨lightness, _ | _⟩⟩⟩ := taken
    simp [ColorFunction.color, ColorFunction.Refused,
      raises_hslOfTexts total hue saturation lightness]
  | hsla =>
    obtain _ | ⟨hue, _ | ⟨saturation, _ | ⟨lightness, _ | ⟨alpha, _ | _⟩⟩⟩⟩ := taken
    simp [ColorFunction.color, ColorFunction.Refused,
      raises_hslOfTexts total hue saturation lightness,
      raises_withOpacity total fun _ => inRange_hslOfTexts total.toBounded]

theorem raises_readFunction {a : Arithmetic} (total : a.Total) {f : ColorFunction} {s : Spot} :
    Raises (readFunction a f s) ↔
      ∃ texts rest, f.readCall s.ahead = some (texts, rest) ∧ f.Refused texts := by
  cases call : f.readCall s.ahead with
  | none => simp [readFunction_none s call]
  | some found =>
    obtain ⟨texts, rest⟩ := found
    simp [readFunction_some s call, raises_map,
      raises_color total (ColorFunction.takes_readCall call)]

def behindHue : List Char := [',', '0', '%', ',', '0', '%', ')']

def hueOf (count : Nat) : List Char :=
  ['h', 's', 'l', '('] ++ (List.replicate count '1' ++ behindHue)

theorem readCall_hueOf {count : Nat} (positive : 0 < count) :
    ColorFunction.hsl.readCall (hueOf count) =
      some ([List.replicate count '1', ['0'], ['0']], []) := by
  have hue : Argument.degrees.Takes (List.replicate count '1') := digits_replicate positive
  have zero : Argument.percent.Takes ['0'] :=
    ⟨List.cons_ne_nil _ _, fun c there =>
      List.mem_singleton.1 there ▸ (by decide : isDigit '0' = true)⟩
  have comma : Separator.comma.Parts [','] := ⟨[], [], nofun, nofun, rfl⟩
  have lightness : Listed .comma [.percent] [['0']] ['0', '%'] := .last zero
  have behind : Listed .comma [.percent, .percent] [['0'], ['0']] ['0', '%', ',', '0', '%'] :=
    .more zero comma lightness
  have listed : Listed .comma [.degrees, .percent, .percent]
      [List.replicate count '1', ['0'], ['0']]
      (List.replicate count '1' ++ ([','] ++ ['0', '%', ',', '0', '%'])) :=
    .more hue comma behind
  refine ColorFunction.readCall_eq_some_iff.2 ⟨hueOf count,
    ⟨.comma, [], _, [], nofun, listed, nofun, ?_⟩, ?_⟩
  · simp [hueOf, behindHue, ColorFunction.keyword]
  · rw [List.append_nil]

theorem Matcher.readSpot_hueOf {m : Matcher} {count : Nat}
    (takes : m.prefixedSpot ⟨none, hueOf count⟩ = some (.function .hsl))
    (many : digitLimit < count) :
    m.readSpot none ⟨none, hueOf count⟩ = .error (.tooManyDigits count) := by
  have function : m.readSpot none ⟨none, hueOf count⟩ =
      readFunction m.arithmetic .hsl ⟨none, hueOf count⟩ := by
    have first : ('h' == '#' && !m.config.hexLengths.isEmpty) = false := rfl
    simp only [hueOf, List.cons_append] at takes ⊢
    simp only [readSpot, first, takes]
    rfl
  have positive := Nat.zero_lt_of_lt many
  have refused : readInt (List.replicate count '1') = .error (.tooManyDigits count) := by
    rw [(digits_replicate positive).readInt, List.length_replicate, if_pos many]
  rw [function, readFunction_some ⟨none, hueOf count⟩ (readCall_hueOf positive)]
  simp only [ColorFunction.color, hslOfTexts, readNatural, refused]
  rfl

theorem begins_readCall {f : ColorFunction} {cs : List Char} {found : List (List Char) × List Char}
    (h : f.readCall cs = some found) : ∃ more, cs = f.keyword.toList ++ '(' :: more := by
  obtain ⟨w, ⟨sep, front, listed, back, _, _, _, rfl⟩, rfl⟩ :=
    ColorFunction.readCall_eq_some_iff.1 h
  exact ⟨_, List.append_assoc ..⟩

theorem Config.function_of_keyword {c : Config} {f : ColorFunction}
    (enabled : .function f ∈ c.prefixed) :
    (Trie.ofWords (c.prefixed.map fun p => p.opening.toList)).contains f.keyword.toList = true ∧
      (c.prefixed.find? fun p => p.opening.toList == f.keyword.toList) = some (.function f) := by
  revert enabled
  unfold Config.prefixed
  generalize c.argb = argb, c.rgbFunctions = rgb, c.hslFunctions = hsl
  cases f <;> revert argb rgb hsl <;> decide

namespace Matcher

variable {a : Arithmetic} {config : Config} {names : Option NameTable}
    {definitions : Option Definitions}

theorem prefixedSpot_of_readCall {f : ColorFunction} {s : Spot}
    {found : List (List Char) × List Char} (enabled : .function f ∈ config.prefixed)
    (call : f.readCall s.ahead = some found) :
    (ofTable a config names).prefixedSpot s = some (.function f) := by
  obtain ⟨more, begins⟩ := begins_readCall call
  obtain ⟨known, first⟩ := Config.function_of_keyword enabled
  have foreign : ∀ word ∈ (ofTable a config names).openings.words, '(' ∉ word := by
    intro word there
    obtain ⟨p, _, rfl⟩ := List.mem_map.1 (Trie.mem_of_mem_words_ofWords there)
    rcases p with _ | f
    · decide
    · cases f <;> decide
  have longest : (ofTable a config names).openings.longestPrefix s.ahead =
      some f.keyword.toList := by
    rw [begins, Trie.longestPrefix_append_cons foreign]
    exact Trie.longestPrefix_of_contains known
  rw [prefixedSpot, longest]
  exact first

theorem raises_readSpot (total : a.Total) {s : Spot} :
    Raises ((ofTable a config names).readSpot definitions s) ↔ config.RefusedAt s.ahead := by
  constructor
  · intro raised
    rw [readSpot] at raised
    split at raised
    · exact absurd raised (not_raises_ok _)
    · split at raised
      · exact absurd raised (not_raises_ok _)
      · split at raised
        · rename_i p found
          cases p with
          | argb => exact absurd raised (not_raises_ok _)
          | function f =>
            obtain ⟨word, _, first⟩ := Option.bind_eq_some_iff.1 found
            obtain ⟨texts, rest, call, refused⟩ := (raises_readFunction total).1 raised
            exact ⟨f, texts, rest, List.mem_of_find?_eq_some first, call, refused⟩
        · split at raised
          · exact absurd raised (not_raises_ok _)
          · exact absurd raised (not_raises_ok _)
  · rintro ⟨f, texts, rest, enabled, call, refused⟩
    have function : (ofTable a config names).prefixedSpot s = some (.function f) :=
      prefixedSpot_of_readCall enabled call
    have failed := (raises_readFunction total).2 ⟨texts, rest, call, refused⟩
    obtain ⟨more, begins⟩ := begins_readCall call
    have head : ∃ c behind, s.ahead = c :: behind ∧ (c == '#') = false := by
      cases f <;> exact ⟨_, _, begins, rfl⟩
    obtain ⟨c, behind, shape, other⟩ := head
    simp only [readSpot, shape, other, Bool.false_and, Bool.false_eq_true, if_false, function]
    exact failed

theorem raises_readAt (total : a.Total) {line : List Char} {column : Nat} :
    Raises ((ofTable a config names).readAt definitions line column) ↔
      config.RefusedAt (line.drop column) := by
  rw [readAt_eq]
  exact raises_readSpot total

/-- The columns at which a scan of the line tries to read a literal. -/
inductive Visits (m : Matcher) (definitions : Option Definitions) (line : List Char) : Nat → Prop
  | start : Visits m definitions line 0
  | next {column : Nat} : Visits m definitions line column → column < line.length →
      m.readAt definitions line column = .ok none →
      Visits m definitions line (column + 1)
  | behind {column : Nat} {r : Reading} : Visits m definitions line column →
      m.readAt definitions line column = .ok (some r) →
      Visits m definitions line (column + r.length)

section scan

variable {m : Matcher} {line : List Char}

theorem raises_scanFrom {column : Nat} (inside : column < line.length) :
    Raises (m.scanFrom definitions line column) ↔
      Raises (m.readAt definitions line column) ∨
      (m.readAt definitions line column = .ok none ∧
        Raises (m.scanFrom definitions line (column + 1))) ∨
      ∃ r, m.readAt definitions line column = .ok (some r) ∧
        Raises (m.scanFrom definitions line (column + r.length)) := by
  rw [scanFrom_inside inside]
  cases m.readAt definitions line column with
  | error e => simp [bind, Except.bind]
  | ok reading =>
    cases reading with
    | none => simp [bind, Except.bind]
    | some r =>
      rw [raises_bind]
      simp [raises_bind, pure, Except.pure]

theorem exists_visit_of_raises {column : Nat} (visited : m.Visits definitions line column)
    (raised : Raises (m.scanFrom definitions line column)) :
    ∃ later, m.Visits definitions line later ∧
      Raises (m.readAt definitions line later) := by
  induction size : line.length - column using Nat.strongRecOn generalizing column with
  | ind n ih =>
    by_cases inside : column < line.length
    · rcases (raises_scanFrom inside).1 raised with here | ⟨found, later⟩ | ⟨r, found, later⟩
      · exact ⟨column, visited, here⟩
      · exact ih _ (by omega) (visited.next inside found) later rfl
      · have positive := (within_readAt found).positive
        exact ih _ (by omega) (visited.behind found) later rfl
    · rw [scanFrom_outside (by omega)] at raised
      exact absurd raised (not_raises_ok _)

theorem Visits.raises {column : Nat} (visited : m.Visits definitions line column)
    (raised : Raises (m.scanFrom definitions line column)) :
    Raises (m.scanFrom definitions line 0) := by
  induction visited with
  | start => exact raised
  | next _ inside found ih => exact ih ((raises_scanFrom inside).2 (.inr (.inl ⟨found, raised⟩)))
  | behind _ found ih =>
    exact ih ((raises_scanFrom (inside_of_reading found)).2 (.inr (.inr ⟨_, found, raised⟩)))

theorem raises_scan (text : String) :
    Raises (m.scan definitions text) ↔ ∃ column, m.Visits definitions text.toList column ∧
      Raises (m.readAt definitions text.toList column) := by
  rw [scan]
  constructor
  · exact exists_visit_of_raises .start
  · rintro ⟨column, visited, raised⟩
    refine visited.raises ?_
    by_cases inside : column < text.toList.length
    · exact (raises_scanFrom inside).2 (.inl raised)
    · rw [readAt, List.getElem?_eq_none_iff.2 (Nat.le_of_not_lt inside)] at raised
      exact absurd raised (not_raises_ok _)

theorem raises_scanLines (first : Int) (lines : List String) :
    Raises (m.scanLines definitions first lines) ↔
      ∃ text ∈ lines, Raises (m.scan definitions text) := by
  induction lines generalizing first with
  | nil => simp [scanLines]
  | cons text lines ih =>
    rw [scanLines, List.exists_mem_cons_iff, ← ih (first + 1)]
    refine raises_bind_of fun spans => ?_
    rw [raises_bind]
    simp [pure, Except.pure]

theorem raises_readColumn {text : String} {column : Nat} (inside : column < text.length) :
    Raises (m.readColumn definitions text column) ↔
      Raises (m.readAt definitions text.toList column) := by
  rw [readColumn_natCast inside]
  exact raises_mapError

end scan

/-- What can be read at a column, in a line and in lines can be read unless a scan comes to a call
of a recognized function whose arguments are not converted. Whatever an opening or a name is looked
up in has it. -/
theorem raises_iff (total : a.Total) (config : Config) (palette : Palette)
    (definitions : Option Definitions) :
    let m := compileWith a config palette
    (∀ (line : String) (column : Nat), column < line.length →
      (Raises (m.readColumn definitions line column) ↔
        config.RefusedAt (line.toList.drop column))) ∧
    (∀ line : String, Raises (m.scan definitions line) ↔ ∃ column,
      m.Visits definitions line.toList column ∧ config.RefusedAt (line.toList.drop column)) ∧
    (∀ (first : Int) (lines : List String), Raises (m.scanLines definitions first lines) ↔
      ∃ line ∈ lines, ∃ column, m.Visits definitions line.toList column ∧
        config.RefusedAt (line.toList.drop column)) ∧
    (∀ (line : List Char) (column : Nat) word, m.openings.longestAt line column = some word →
      ∃ p ∈ config.prefixed, p.opening.toList = word) ∧
    ∀ table, m.names = some table → ∀ (line : List Char) (column : Nat) name,
      table.trie.longestAt line column = some name →
      ∃ color, table.lookup? (String.ofList name) = some color := by
  intro m
  have scanned (line : String) : Raises (m.scan definitions line) ↔ ∃ column,
      m.Visits definitions line.toList column ∧ config.RefusedAt (line.toList.drop column) :=
    (raises_scan line).trans (exists_congr fun column => and_congr_right fun _ =>
      raises_readAt total)
  refine ⟨fun line column inside => ?_, scanned, fun first lines => ?_,
    fun line column word found => ?_, fun table built line column name found => ?_⟩
  · rw [raises_readColumn inside]
    exact raises_readAt total
  · rw [raises_scanLines]
    exact exists_congr fun line => and_congr_right fun _ => scanned line
  · rw [Trie.longestAt_natCast] at found
    obtain ⟨p, known, same⟩ :=
      List.mem_map.1 (Trie.mem_of_mem_words_ofWords (Trie.mem_words_of_longestPrefix found))
    exact ⟨p, known, same⟩
  · obtain ⟨request, _, rfl⟩ := Option.map_eq_some_iff.1 built
    rw [Trie.longestAt_natCast, NameRequest.table, NameTable.trie_build] at found
    obtain ⟨key, known, rfl⟩ :=
      List.mem_map.1 (Trie.mem_of_mem_words_ofWords (Trie.mem_words_of_longestPrefix found))
    rw [String.ofList_toList]
    exact ⟨_, Std.ExtTreeMap.getElem?_eq_some_getElem (Std.ExtTreeMap.mem_keys.1 known)⟩

def white : Arithmetic := ⟨fun _ _ => .ok ⟨255, 255, 255⟩, fun _ => .ok (some ⟨255, 255, 255⟩)⟩

theorem total_white : white.Total where
  premultiply _ _ _ _ _ _ same := by
    obtain rfl := Except.ok.inj same
    decide
  ofHsl _ _ _ _ _ _ _ same := by
    obtain rfl := Option.some.inj (Except.ok.inj same)
    decide
  folds _ _ _ _ _ := not_raises_ok _
  converts _ _ _ _ _ _ := not_raises_ok _

def hslCalls : Config := ⟨false, .none, false, false, true, .off, false, none⟩

theorem raises_iff_hueOf :
    Raises ((compileWith white hslCalls ⟨[], []⟩).scan none (String.ofList (hueOf 4301))) ∧
    ¬∃ column, (compileWith white hslCalls ⟨[], []⟩).Visits none "hsl(361,0%,0%)".toList column ∧
      hslCalls.RefusedAt ("hsl(361,0%,0%)".toList.drop column) := by
  have scanned := (raises_iff total_white hslCalls ⟨[], []⟩ none).2.1
  constructor
  · have call : ColorFunction.hsl.readCall (hueOf 4301) =
        some ([List.replicate 4301 '1', ['0'], ['0']], []) := readCall_hueOf (by decide)
    refine (scanned _).2 ⟨0, .start, ?_⟩
    rw [String.toList_ofList, List.drop_zero]
    refine ⟨.hsl, _, _, by decide, call, nofun, _, List.mem_cons_self, ?_⟩
    rw [List.length_replicate]
    decide
  · rw [← scanned]
    have empty : ((compileWith white hslCalls ⟨[], []⟩).scan none "hsl(361,0%,0%)").toOption =
        some [] := by
      decide +kernel
    rw [eq_ok_of_toOption empty]
    exact not_raises_ok _

theorem length_hueOf_pos (count : Nat) : 0 < (String.ofList (hueOf count)).length := by
  rw [← String.length_toList, String.toList_ofList]
  exact Nat.succ_pos _

theorem raises_hueOf {count : Nat} (many : digitLimit < count) :
    Raises ((compile hslCalls ⟨[], []⟩).readColumn none (String.ofList (hueOf count))
      (0 : Nat)) := by
  have takes : (compile hslCalls ⟨[], []⟩).prefixedSpot ⟨none, hueOf count⟩ =
    some (.function .hsl) := rfl
  rw [raises_readColumn (length_hueOf_pos count), readAt_eq, Spot.inLine_zero, String.toList_ofList]
  exact ⟨_, readSpot_hueOf takes many⟩

/-- Not every line can be read at its first column. -/
theorem not_decoded_hueOf :
    0 < (String.ofList (hueOf 4301)).length ∧
    ∀ found, (compile hslCalls ⟨[], []⟩).readColumn none (String.ofList (hueOf 4301)) (0 : Nat) ≠
      .ok found := by
  refine ⟨length_hueOf_pos 4301, fun found decoded => ?_⟩
  obtain ⟨error, failed⟩ := raises_hueOf (show digitLimit < 4301 by decide)
  cases decoded.symm.trans failed

end Matcher

end ColorSpans
