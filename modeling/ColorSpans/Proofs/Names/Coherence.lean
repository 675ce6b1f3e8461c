import ColorSpans.Proofs.ColorText
import ColorSpans.Proofs.Lexicon
import ColorSpans.Proofs.Literal.Lookup
import Mathlib.Order.Bounds.Basic
import Mathlib.Order.Nat

/-! What a table of names is made of. Each name has the color of the palette, else its own, else the
first that came with a lowercase form. The trie of a table lists just its names, in ascending order,
and its lengths are the least and the greatest of theirs. -/
namespace ColorSpans

namespace Palette

def Names (palette : Palette) (name : String) : Prop :=
  ∃ shade ∈ palette.shades, (colorOfText shade.2).isSome ∧
    ∃ pre ∈ palette.prefixes, name = NameTable.paletteName pre shade.1

/-- The last shade that makes a name gives it its color. -/
def colorOf? (palette : Palette) (name : String) : Option String :=
  palette.shades.reverse.findSome? fun shade =>
    if ∃ pre ∈ palette.prefixes, name = NameTable.paletteName pre shade.1
      then colorOfText shade.2 else none

variable {palette : Palette} {name : String}

theorem isSome_colorOf?_iff : (palette.colorOf? name).isSome ↔ palette.Names name := by
  rw [colorOf?, List.isSome_findSome?, List.any_reverse, List.any_eq_true, Names]
  refine exists_congr fun shade => and_congr_right fun _ => ?_
  split
  · rename_i made
    exact (and_iff_left made).symm
  · rename_i unmade
    exact iff_of_false Bool.false_ne_true fun both => unmade both.2

end Palette

namespace NameTable

variable {rules : Rules} {named : HostNames} {palette : Option Palette}

theorem getElem?_addShade (prefixes : List String) (colors : Colors) (shade value name : String) :
    (addShade prefixes colors shade value)[name]? =
      (if ∃ pre ∈ prefixes, name = paletteName pre shade then colorOfText value else none).or
        colors[name]? := by
  rw [addShade]
  cases colorOfText value with
  | none => simp
  | some color =>
    dsimp only
    induction prefixes generalizing colors with
    | nil => simp
    | cons pre prefixes ih =>
      rw [List.foldl_cons, ih, Std.ExtTreeMap.getElem?_insert]
      simp only [Std.LawfulEqCmp.compare_eq_iff_eq, List.exists_mem_cons_iff, eq_comm (a := name)]
      by_cases here : paletteName pre shade = name <;>
        by_cases later : ∃ pre ∈ prefixes, paletteName pre shade = name <;> simp [here, later]

theorem getElem?_addPalette (colors : Colors) (palette : Palette) (name : String) :
    (addPalette colors palette)[name]? = (palette.colorOf? name).or colors[name]? := by
  rw [addPalette, Palette.colorOf?]
  induction palette.shades generalizing colors with
  | nil => simp
  | cons shade shades ih =>
    rw [List.foldl_cons, ih, getElem?_addShade, List.reverse_cons, List.findSome?_append,
      Option.or_assoc]
    simp

def ownColor? (rules : Rules) (named : HostNames) (name : String) : Option String :=
  named.findSome? fun entry => if entry.1 = name then colorOf rules entry else none

def loweredColor? (rules : Rules) (named : HostNames) (name : String) : Option String :=
  named.findSome? fun entry =>
    if rules.lowercase = true ∧ Text.lower entry.1 = name then colorOf rules entry else none

theorem findSome?_cons_or {α β : Type} (f : α → Option β) (a : α) (l : List α) :
    (a :: l).findSome? f = (f a).or (l.findSome? f) := by
  rw [List.findSome?_cons]
  cases f a <;> rfl

theorem getElem?_addHostNames (distinct : (named.map Prod.fst).Nodup) (colors : Colors)
    (name : String) :
    (addHostNames rules colors named)[name]? =
      (ownColor? rules named name).or (colors[name]?.or (loweredColor? rules named name)) := by
  unfold addHostNames ownColor? loweredColor?
  induction named generalizing colors with
  | nil => simp
  | cons entry named ih =>
    obtain ⟨fresh, distinct⟩ := List.nodup_cons.1 distinct
    rw [List.foldl_cons, ih distinct, getElem?_addName, findSome?_cons_or, findSome?_cons_or]
    by_cases own : entry.1 = name
    · -- No later entry has the name.
      have once : named.findSome? (fun other => if other.1 = name then colorOf rules other
          else none) = none := by
        rw [List.findSome?_eq_none_iff]
        intro other there
        refine if_neg fun again => fresh ?_
        rw [own, ← again]
        exact List.mem_map_of_mem there
      rw [once, Option.none_or, Option.or_none, Option.or_assoc, Option.or_assoc]
    · rw [if_neg own, Option.none_or, Option.none_or, Option.or_assoc]

theorem getElem?_build (distinct : (named.map Prod.fst).Nodup) (palette : Option Palette)
    (name : String) :
    (build rules named palette).colors[name]? =
      (palette.bind (·.colorOf? name)).or
        ((ownColor? rules named name).or (loweredColor? rules named name)) := by
  have host : (addHostNames rules ∅ named)[name]? =
      (ownColor? rules named name).or (loweredColor? rules named name) := by
    rw [getElem?_addHostNames distinct, Std.ExtTreeMap.getElem?_empty, Option.none_or]
  rw [build.eq_def, colors_ofColors]
  cases palette with
  | none => exact host
  | some palette => exact (getElem?_addPalette _ palette name).trans (congrArg _ host)

theorem ownColor?_eq_some_iff (distinct : (named.map Prod.fst).Nodup) {name color : String} :
    ownColor? rules named name = some color ↔
      ∃ entry ∈ named, entry.1 = name ∧ colorOf rules entry = some color := by
  constructor
  · intro found
    obtain ⟨entry, there, given⟩ := List.exists_of_findSome?_eq_some found
    split at given
    · rename_i own
      exact ⟨entry, there, own, given⟩
    · cases given
  · rintro ⟨entry, there, rfl, given⟩
    cases found : ownColor? rules named entry.1 with
    | none =>
      have missing := List.findSome?_eq_none_iff.1 found entry there
      rw [if_pos rfl, given] at missing
      cases missing
    | some color' =>
      obtain ⟨other, there', given'⟩ := List.exists_of_findSome?_eq_some found
      split at given'
      · rename_i own
        rw [List.inj_on_of_nodup_map distinct there' there own, given] at given'
        exact given'.symm
      · cases given'

theorem exists_of_loweredColor? {name color : String}
    (found : loweredColor? rules named name = some color) :
    ∃ entry ∈ named, rules.lowercase = true ∧ Text.lower entry.1 = name ∧
      colorOf rules entry = some color := by
  obtain ⟨entry, there, given⟩ := List.exists_of_findSome?_eq_some found
  split at given
  · rename_i lower
    exact ⟨entry, there, lower.1, lower.2, given⟩
  · cases given

theorem isColorText_colorOf {entry : String × Json} {color : String}
    (given : colorOf rules entry = some color) :
    IsColorText color := by
  unfold colorOf at given
  split at given
  · exact isColorText_normalizeColor given
  · cases given

theorem isColorText_paletteColor {palette : Palette} {name color : String}
    (given : palette.colorOf? name = some color) : IsColorText color := by
  obtain ⟨shade, -, made⟩ := List.exists_of_findSome?_eq_some given
  split at made
  · exact isColorText_colorOfText made
  · cases made

theorem isColorText_build (distinct : (named.map Prod.fst).Nodup) {name color : String}
    (found : (build rules named palette).colors[name]? = some color) : IsColorText color := by
  rw [getElem?_build distinct, Option.or_eq_some_iff] at found
  rcases found with made | ⟨-, host⟩
  · obtain ⟨given, -, made⟩ := Option.bind_eq_some_iff.1 made
    exact isColorText_paletteColor made
  · rcases Option.or_eq_some_iff.1 host with own | ⟨-, lowered⟩
    · obtain ⟨entry, -, -, given⟩ := (ownColor?_eq_some_iff distinct).1 own
      exact isColorText_colorOf given
    · obtain ⟨entry, -, -, -, given⟩ := exists_of_loweredColor? lowered
      exact isColorText_colorOf given

theorem keys_ascending (colors : Colors) : colors.keys.Pairwise (· < ·) :=
  colors.ordered_keys.imp compareOfLessAndEq_eq_lt.1

theorem words_keys {colors : Colors} (nonempty : "" ∉ colors) :
    (Lexicon.ofWords colors.keys).words = colors.keys := by
  have listed : (Trie.ofWords (colors.keys.map String.toList)).words =
      colors.keys.map String.toList := by
    refine Trie.words_ofWords ((keys_ascending colors).map _ fun _ _ less =>
      String.lt_iff.1 less) ?_
    intro none
    obtain ⟨name, there, same⟩ := List.mem_map.1 none
    obtain rfl : name = "" := String.toList_inj.1 same
    exact nonempty (Std.ExtTreeMap.mem_keys.1 there)
  have spelled : String.ofList ∘ String.toList = id := funext fun _ => String.ofList_toList
  rw [Lexicon.words, Trie.walk_eq, Lexicon.trie_ofWords, listed, List.map_map, spelled, List.map_id]

theorem size_keys {colors : Colors} (nonempty : "" ∉ colors) :
    (Lexicon.ofWords colors.keys).size = colors.size := by
  have nodup : colors.keys.Nodup := (keys_ascending colors).imp fun less => ne_of_lt less
  have absent : "" ∉ colors.keys.toFinset := by rwa [List.mem_toFinset, Std.ExtTreeMap.mem_keys]
  rw [(Lexicon.keeps_ofWords colors.keys).size, Finset.erase_eq_of_notMem absent,
    List.toFinset_card_of_nodup nodup, Std.ExtTreeMap.length_keys]

def lengths (colors : Colors) : Set Nat := {n | ∃ name ∈ colors, name.length = n}

theorem mem_lengths {colors : Colors} {n : Nat} : n ∈ colors.keys.map String.length ↔
    n ∈ lengths colors := by
  simp [lengths]

theorem lengths_nonempty {colors : Colors} (some : colors ≠ ∅) :
    colors.keys.map String.length ≠ [] := by
  intro none
  rw [List.map_eq_nil_iff, ← List.length_eq_zero_iff, Std.ExtTreeMap.length_keys] at none
  exact some (Std.ExtTreeMap.eq_empty_iff_size_eq_zero.2 none)

theorem extent_empty {colors : Colors} (none : colors = ∅) :
    (ofColors colors).minLength = 0 ∧ (ofColors colors).maxLength = 0 := by
  subst none
  exact ⟨rfl, rfl⟩

theorem isLeast_minLength {colors : Colors} (some : colors ≠ ∅) :
    IsLeast (lengths colors) (ofColors colors).minLength := by
  obtain ⟨least, found⟩ :=
    Option.isSome_iff_exists.1 (List.isSome_min?_iff.2 (lengths_nonempty some))
  have same : (ofColors colors).minLength = least := congrArg (·.getD 0) found
  obtain ⟨there, below⟩ := List.min?_eq_some_iff.1 found
  rw [same]
  exact ⟨mem_lengths.1 there, fun n other => below n (mem_lengths.2 other)⟩

theorem isGreatest_maxLength {colors : Colors} (some : colors ≠ ∅) :
    IsGreatest (lengths colors) (ofColors colors).maxLength := by
  obtain ⟨greatest, found⟩ :=
    Option.isSome_iff_exists.1 (List.isSome_max?_iff.2 (lengths_nonempty some))
  have same : (ofColors colors).maxLength = greatest := congrArg (·.getD 0) found
  obtain ⟨there, above⟩ := List.max?_eq_some_iff.1 found
  rw [same]
  exact ⟨mem_lengths.1 there, fun n other => above n (mem_lengths.2 other)⟩

/-- A table with the names of a host and of a palette, if one is given, all whose parts agree. -/
structure Coherent (rules : Rules) (named : HostNames) (palette : Option Palette)
    (table : NameTable) : Prop where
  ascending : table.colors.keys.Pairwise (· < ·)
  listed : table.lexicon.words = table.colors.keys
  size : table.lexicon.size = table.colors.size
  /-- The lengths of no name at all. -/
  empty : table.colors = ∅ → table.minLength = 0 ∧ table.maxLength = 0
  least : table.colors ≠ ∅ → IsLeast (lengths table.colors) table.minLength
  greatest : table.colors ≠ ∅ → IsGreatest (lengths table.colors) table.maxLength
  colored : ∀ (name color : String), table.colors[name]? = some color → IsColorText color
  known : ∀ name, name ∈ table.colors ↔
    (∃ entry ∈ named, Gives rules entry name) ∨ ∃ given ∈ palette, given.Names name
  /-- The palette's names come first, then a name's own color, whatever else stands for the name. -/
  replaced : ∀ given ∈ palette, ∀ name, given.Names name → table.colors[name]? = given.colorOf? name
  own : ∀ entry ∈ named, ∀ color, colorOf rules entry = some color →
    (∀ given ∈ palette, ¬given.Names entry.1) → table.colors[entry.1]? = some color

/-- Every table that is built of distinct names is coherent, in whatever order they come and with
whatever lowercase forms. -/
theorem coherent_build (rules : Rules) {named : HostNames} (distinct : (named.map Prod.fst).Nodup)
    (palette : Option Palette) : Coherent rules named palette (build rules named palette) := by
  have nonempty : "" ∉ (build rules named palette).colors :=
    fun known => ne_empty_of_mem_build known rfl
  exact {
    ascending := keys_ascending _
    listed := words_keys nonempty
    size := size_keys nonempty
    empty := fun none => extent_empty none
    least := isLeast_minLength
    greatest := isGreatest_maxLength
    colored := fun name color => isColorText_build distinct
    known := mem_build rules named palette
    replaced := fun given there name names => by
      obtain ⟨color, made⟩ := Option.isSome_iff_exists.1 (Palette.isSome_colorOf?_iff.2 names)
      rw [getElem?_build distinct, Option.mem_def.1 there, Option.bind_some, made, Option.some_or]
    own := fun entry there color given unnamed => by
      have unmade : palette.bind (·.colorOf? entry.1) = none := by
        rw [Option.bind_eq_none_iff]
        intro palette given
        exact Option.not_isSome_iff_eq_none.1
          (mt Palette.isSome_colorOf?_iff.1 (unnamed palette given))
      rw [getElem?_build distinct, unmade, Option.none_or,
        (ownColor?_eq_some_iff distinct).2 ⟨entry, there, rfl, given⟩, Option.some_or]
  }

/-- Three names with one lowercase form, a name whose lowercase form is longer than it, a name that
is stripped, one that the palette has as well, and one without a color. -/
def collidingNames : HostNames :=
  [("Red", .int 0xff0000), ("RED", .str "#0f0"), ("red", .str " 0000FF "), ("İris", .str "#5a4fcf"),
    ("Gray50", .str "808080"), ("bg-sky", .int 0x111111), ("none", .str "zzz")]

def skyPalette : Palette := ⟨["bg", "text"], [("sky", "#38bdf8")]⟩

theorem coherent_build_colliding :
    (collidingNames.map Prod.fst).Nodup ∧
    Coherent ⟨true, true⟩ collidingNames (some skyPalette)
      (build ⟨true, true⟩ collidingNames (some skyPalette)) ∧
    (build ⟨true, true⟩ collidingNames (some skyPalette)).colors.toList =
      [("RED", "00ff00"), ("Red", "ff0000"), ("bg-sky", "38bdf8"), ("i̇ris", "5a4fcf"),
        ("red", "0000ff"), ("text-sky", "38bdf8"), ("İris", "5a4fcf")] := by
  have distinct : (collidingNames.map Prod.fst).Nodup := by decide
  exact ⟨distinct, coherent_build ⟨true, true⟩ distinct (some skyPalette), by decide +kernel⟩

end NameTable

end ColorSpans
