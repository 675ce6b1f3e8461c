import ColorSpans.Literal.Column
import ColorSpans.Proofs.HostNames
import ColorSpans.Proofs.Literal.Hexadecimal
import ColorSpans.Proofs.Trie

/-! Names in a line. What is read at a column is the longest name of the table that stands there, if
no character of a name touches it. Where all names consist of such characters, it is the whole run
of them that is looked up. -/
namespace ColorSpans

def isNamePart (c : Char) : Bool := c.isAlphanum || c == '-'

theorem isIdentifier_eq (c : Char) : isIdentifier c = isNamePart c := by
  have dash : ((c.toNat : Int) == 0x2d) = (c == '-') := by
    rw [Bool.eq_iff_iff, beq_iff_eq, beq_iff_eq]
    refine ⟨fun same => Char.toNat_inj.1 (Int.ofNat.inj same), fun same => same ▸ rfl⟩
  rw [isIdentifier, isIdentifierCode, dash, isNamePart, Bool.or_comm, ← isAlphanumeric_eq]
  rfl

def Free (c? : Option Char) : Prop := ∀ c ∈ c?, isNamePart c = false

theorem free_iff {c? : Option Char} : Free c? ↔ c?.any isIdentifier = false := by
  cases c? <;> simp [Free, isIdentifier_eq]

theorem free_before {cs : List Char} {column : Nat} :
    (Spot.inLine cs column).precededBy isIdentifier = false ↔
      column = 0 ∨ Free cs[column - 1]? := by
  rw [free_iff, Spot.precededBy_inLine_eq_false_iff]

theorem free_behind {cs : List Char} {column n : Nat} :
    (Spot.inLine cs column).followedBy n isIdentifier = false ↔ Free cs[column + n]? := by
  rw [free_iff, Spot.followedBy_inLine]

namespace NameTable

/-- A host name stands for itself and, if so wanted, for its lowercase form. -/
def Gives (rules : Rules) (entry : String × Json) (name : String) : Prop :=
  (colorOf rules entry).isSome ∧
    (name = entry.1 ∨ rules.lowercase = true ∧ name = Text.lower entry.1)

theorem mem_addName (rules : Rules) (colors : Colors) (entry : String × Json) (name : String) :
    name ∈ addName rules colors entry.1 entry.2 ↔ name ∈ colors ∨ Gives rules entry name := by
  simp only [Std.ExtTreeMap.mem_iff_isSome_getElem?, getElem?_addName, Gives, eq_comm (a := name)]
  cases colorOf rules entry <;> cases colors[name]? <;>
    by_cases own : entry.1 = name <;> by_cases lower : rules.lowercase = true ∧
      Text.lower entry.1 = name <;>
    simp [own, lower]

theorem mem_addHostNames (rules : Rules) (colors : Colors) (named : HostNames) (name : String) :
    name ∈ addHostNames rules colors named ↔ name ∈ colors ∨ ∃ entry ∈ named,
      Gives rules entry name := by
  unfold addHostNames
  induction named generalizing colors with
  | nil => simp
  | cons entry named ih => rw [List.foldl_cons, ih, mem_addName, or_assoc, List.exists_mem_cons_iff]

theorem mem_addShade (prefixes : List String) (colors : Colors) (shade value name : String) :
    name ∈ addShade prefixes colors shade value ↔
      name ∈ colors ∨ (colorOfText value).isSome ∧ ∃ pre ∈ prefixes,
        name = paletteName pre shade := by
  rw [addShade]
  cases colorOfText value with
  | none => simp
  | some color =>
    dsimp only
    induction prefixes generalizing colors with
    | nil => simp
    | cons pre prefixes ih =>
      rw [List.foldl_cons, ih, Std.ExtTreeMap.mem_insert, Std.LawfulEqCmp.compare_eq_iff_eq]
      simp [eq_comm, or_assoc, or_left_comm]

theorem mem_addPalette (colors : Colors) (palette : Palette) (name : String) :
    name ∈ addPalette colors palette ↔ name ∈ colors ∨ ∃ shade ∈ palette.shades,
      (colorOfText shade.2).isSome ∧ ∃ pre ∈ palette.prefixes, name = paletteName pre shade.1 := by
  rw [addPalette]
  induction palette.shades generalizing colors with
  | nil => simp
  | cons shade shades ih =>
      rw [List.foldl_cons, ih, mem_addShade, or_assoc, List.exists_mem_cons_iff]

theorem mem_build (rules : Rules) (named : HostNames) (palette : Option Palette) (name : String) :
    name ∈ (build rules named palette).colors ↔ (∃ entry ∈ named, Gives rules entry name) ∨
      ∃ given ∈ palette, ∃ shade ∈ given.shades,
        (colorOfText shade.2).isSome ∧ ∃ pre ∈ given.prefixes, name = paletteName pre shade.1 := by
  rw [build.eq_def, colors_ofColors]
  cases palette with
  | none => simp [mem_addHostNames]
  | some palette => simp [mem_addPalette, mem_addHostNames]

theorem lower_ne_empty {name : String} (nonempty : name ≠ "") : Text.lower name ≠ "" := by
  intro same
  have nothing : Text.lowerFrom [] name.toList = [] := by
    rw [← String.toList_ofList (l := Text.lowerFrom [] name.toList)]
    exact congrArg String.toList same
  cases letters : name.toList with
  | nil => exact nonempty (String.toList_inj.1 letters)
  | cons c rest =>
    rw [letters, Text.lowerFrom] at nothing
    obtain ⟨here, -⟩ := List.append_eq_nil_iff.1 nothing
    split at here
    · cases here
    · split at here <;> cases here

theorem ne_empty_of_mem_build {rules : Rules} {named : HostNames} {palette : Option Palette}
    {name : String} (known : name ∈ (build rules named palette).colors) : name ≠ "" := by
  rcases (mem_build rules named palette name).1 known with
    ⟨entry, -, colored, own⟩ | ⟨given, -, shade, -, -, pre, -, rfl⟩
  · have nonempty : entry.1 ≠ "" := by
      rintro same
      simp [colorOf, Rules.keeps, same] at colored
    rcases own with rfl | ⟨-, rfl⟩
    · exact nonempty
    · exact lower_ne_empty nonempty
  · intro same
    have length := congrArg String.length same
    simp [paletteName] at length

structure IsLongest (table : NameTable) (text : List Char) (name : String) : Prop where
  known : name ∈ table.colors
  begins : name.toList <+: text
  longest : ∀ other ∈ table.colors, other.toList <+: text → other.length ≤ name.length

/-- The longest name that a column begins with, if no character of a name touches it on either
side. -/
structure StandsAt (table : NameTable) (cs : List Char) (column : Nat) (name : String) :
    Prop extends
    IsLongest table (cs.drop column) name where
  before : column = 0 ∨ Free cs[column - 1]?
  behind : Free cs[column + name.length]?

def runFrom (cs : List Char) (column : Nat) : String :=
  String.ofList ((cs.drop column).takeWhile isNamePart)

variable {rules : Rules} {named : HostNames} {palette : Option Palette} {cs : List Char}
  {column : Nat} {name : String}

theorem contains_trie_build (rules : Rules) (named : HostNames) (palette : Option Palette)
    (name : String) :
    (build rules named palette).trie.contains name.toList = true ↔
      name ∈ (build rules named palette).colors := by
  rw [trie_build, Trie.contains_ofWords,
    List.mem_map_of_injective fun _ _ => String.toList_injective,
    Std.ExtTreeMap.mem_keys, and_iff_left_iff_imp]
  exact fun known nothing => ne_empty_of_mem_build known (String.toList_inj.1 nothing)

theorem longestPrefix_build_iff {text : List Char} :
    (build rules named palette).trie.longestPrefix text = some name.toList ↔
      (build rules named palette).IsLongest text name := by
  rw [Trie.longestPrefix_eq_some_iff, contains_trie_build]
  constructor
  · rintro ⟨known, begins, longest⟩
    refine ⟨known, begins, fun other known begins => ?_⟩
    rw [← String.length_toList, ← String.length_toList]
    exact longest other.toList ((contains_trie_build ..).2 known) begins
  · rintro ⟨known, begins, longest⟩
    refine ⟨known, begins, fun other known begins => ?_⟩
    rw [← String.toList_ofList (l := other)] at known begins ⊢
    rw [String.length_toList, String.length_toList]
    exact longest _ ((contains_trie_build ..).1 known) begins

theorem readNameAt_natCast (table : NameTable) (cs : List Char) (column : Nat) :
    readNameAt table cs column = .ok (readName table (Spot.inLine cs column)) := by
  rw [readNameAt, if_neg (Int.not_lt.2 (Int.natCast_nonneg column)), Int.toNat_natCast, readAt_eq]

theorem StandsAt.readName {color : String}
    (stands : (build rules named palette).StandsAt cs column name)
    (given : (build rules named palette).colors[name]? = some color) :
    readName (build rules named palette) (Spot.inLine cs column) = some ⟨name.length, color⟩ := by
  have longest := longestPrefix_build_iff.2 stands.toIsLongest
  have behind := free_behind.2 stands.behind
  rw [← String.length_toList] at behind ⊢
  rw [readName_eq, free_before.2 stands.before, if_neg Bool.false_ne_true,
    Spot.ahead_inLine, longest]
  dsimp only
  rw [behind, if_neg Bool.false_ne_true, lookup?, String.ofList_toList, given]
  rfl

theorem standsAt_of_readName {r : Reading}
    (found : readName (build rules named palette) (Spot.inLine cs column) = some r) :
    ∃ name, (build rules named palette).StandsAt cs column name := by
  rw [readName_eq] at found
  split at found
  case isTrue => cases found
  case isFalse before =>
    split at found
    case h_1 => cases found
    case h_2 word longest =>
      split at found
      case isTrue => cases found
      case isFalse behind =>
        rw [← String.toList_ofList (l := word)] at longest behind
        rw [String.length_toList] at behind
        exact ⟨String.ofList word, longestPrefix_build_iff.1 longest,
          free_before.1 (Bool.eq_false_iff.2 before), free_behind.1 (Bool.eq_false_iff.2 behind)⟩

theorem free_behind_takeWhile (text : List Char) :
    Free text[(text.takeWhile isNamePart).length]? := by
  induction text with
  | nil => nofun
  | cons c text ih =>
    by_cases part : isNamePart c = true
    · rwa [List.takeWhile_cons_of_pos part]
    · rw [List.takeWhile_cons_of_neg part]
      intro first same
      exact Option.some.inj same ▸ Bool.eq_false_iff.2 part

theorem free_behind_runFrom (cs : List Char) (column : Nat) :
    Free cs[column + (runFrom cs column).length]? := by
  rw [← List.getElem?_drop, runFrom, String.length_ofList]
  exact free_behind_takeWhile (cs.drop column)

theorem standsAt_runFrom (parts : ∀ name ∈ (build rules named palette).colors,
      name.toList.all isNamePart = true)
    (before : column = 0 ∨ Free cs[column - 1]?)
    (known : runFrom cs column ∈ (build rules named palette).colors) :
    (build rules named palette).StandsAt cs column (runFrom cs column) := by
  refine ⟨⟨known, ?_, fun other there begins => ?_⟩, before, free_behind_runFrom cs column⟩
  · rw [runFrom, String.toList_ofList]
    exact List.takeWhile_prefix isNamePart
  · obtain ⟨rest, whole⟩ := begins
    rw [runFrom, ← whole, List.takeWhile_append_of_pos (List.all_eq_true.1 (parts other there)),
      ← String.length_toList, ← String.length_toList, String.toList_ofList, List.length_append]
    exact Nat.le_add_right ..

theorem StandsAt.eq_runFrom {table : NameTable} (stands : table.StandsAt cs column name)
    (parts : name.toList.all isNamePart = true) : runFrom cs column = name := by
  obtain ⟨rest, whole⟩ := stands.begins
  have behind := stands.behind
  rw [← List.getElem?_drop, ← whole, ← String.length_toList,
    List.getElem?_append_right (Nat.le_refl _), Nat.sub_self] at behind
  have ended : rest.takeWhile isNamePart = [] := by
    cases rest with
    | nil => rfl
    | cons c rest => exact List.takeWhile_cons_of_neg (Bool.eq_false_iff.1 (behind c rfl))
  rw [runFrom, ← whole, List.takeWhile_append_of_pos (List.all_eq_true.1 parts), ended,
    List.append_nil, String.ofList_toList]

end NameTable

open NameTable

/-- At every column of every line the longest name is read that begins there, if no character of a
name touches it, and otherwise nothing. If all names are made of such characters then the whole run
is looked up. -/
theorem readNameAt_build (rules : Rules) (named : HostNames) (palette : Option Palette)
    (cs : List Char) (column : Nat) :
    (∀ name, (build rules named palette).StandsAt cs column name →
      ∃ color, (build rules named palette).colors[name]? = some color ∧
        readNameAt (build rules named palette) cs column = .ok (some ⟨name.length, color⟩)) ∧
    ((∀ name, ¬(build rules named palette).StandsAt cs column name) →
      readNameAt (build rules named palette) cs column = .ok none) ∧
    ((∀ name ∈ (build rules named palette).colors, name.toList.all isNamePart = true) →
      column = 0 ∨ Free cs[column - 1]? →
      readNameAt (build rules named palette) cs column =
        .ok ((build rules named palette).colors[runFrom cs column]?.map fun color =>
          ⟨(runFrom cs column).length, color⟩)) := by
  rw [readNameAt_natCast]
  have nothing (none : ∀ name, ¬(build rules named palette).StandsAt cs column name) :
      readName (build rules named palette) (Spot.inLine cs column) = Option.none := by
    rw [Option.eq_none_iff_forall_ne_some]
    intro r found
    obtain ⟨name, stands⟩ := standsAt_of_readName found
    exact none name stands
  refine ⟨fun name stands => ?_, fun none => congrArg Except.ok (nothing none),
    fun parts before => ?_⟩
  · obtain ⟨color, given⟩ :=
      Option.isSome_iff_exists.1 (Std.ExtTreeMap.mem_iff_isSome_getElem?.1 stands.known)
    exact ⟨color, given, congrArg Except.ok (stands.readName given)⟩
  · cases given : (build rules named palette).colors[runFrom cs column]? with
    | some color =>
      have known : runFrom cs column ∈ (build rules named palette).colors := by
        rw [Std.ExtTreeMap.mem_iff_isSome_getElem?, given]
        rfl
      exact congrArg Except.ok ((standsAt_runFrom parts before known).readName given)
    | none =>
      refine congrArg Except.ok (nothing fun name stands => ?_)
      have known := Std.ExtTreeMap.mem_iff_isSome_getElem?.1 stands.known
      rw [← stands.eq_runFrom (parts name stands.known), given] at known
      cases known

def skies : NameTable := build {} [("sky", .str "#8ce"), ("Sky Blue", .str "#87CEEB")] none

def reds : NameTable := build {} [("red", .int 0xff0000), ("red-500", .str "ef4444")] none

theorem readNameAt_build_overlapping :
    readNameAt skies "a sky blue, skyline".toList 2 = .ok (some ⟨8, "87ceeb"⟩) ∧
    readNameAt skies "a sky blue, skyline".toList 12 = .ok none ∧
    readNameAt reds "(red-500 red-50)".toList 1 = .ok (some ⟨7, "ef4444"⟩) ∧
    readNameAt reds "(red-500 red-50)".toList 9 = .ok none := by
  have keys : skies.colors.keys = ["Sky Blue", "sky", "sky blue"] := by decide +kernel
  have blue : skies.StandsAt "a sky blue, skyline".toList 2 "sky blue" := by
    have short : ∀ name ∈ ["Sky Blue", "sky", "sky blue"], name.length ≤ "sky blue".length := by
      decide
    refine ⟨⟨?_, by decide, fun name known _ => ?_⟩, free_before.1 (by decide),
      free_behind.1 (by decide)⟩
    · rw [← Std.ExtTreeMap.mem_keys, keys]
      decide
    · rw [← Std.ExtTreeMap.mem_keys, keys] at known
      exact short name known
  have touched (name : String) : ¬skies.StandsAt "a sky blue, skyline".toList 12 name := by
    have only : ∀ name ∈ ["Sky Blue", "sky", "sky blue"], name.toList <+: "skyline".toList →
        name = "sky" := by
      decide
    intro stands
    have known := stands.known
    rw [← Std.ExtTreeMap.mem_keys, keys] at known
    obtain rfl := only name known stands.begins
    exact absurd (stands.behind 'l' rfl) (by decide)
  have parts : ∀ name ∈ reds.colors, name.toList.all isNamePart = true := by
    have all : ∀ name ∈ reds.colors.keys, name.toList.all isNamePart = true := by decide +kernel
    exact fun name known => all name (Std.ExtTreeMap.mem_keys.2 known)
  obtain ⟨color, given, read⟩ :=
    (readNameAt_build {} _ none "a sky blue, skyline".toList 2).1 "sky blue" blue
  have same : skies.colors["sky blue"]? = some "87ceeb" := by decide +kernel
  obtain rfl := Option.some.inj (given.symm.trans same)
  refine ⟨read, (readNameAt_build {} _ none _ 12).2.1 touched, ?_, ?_⟩
  · exact ((readNameAt_build {} _ none _ 1).2.2 parts (free_before.1 (by decide))).trans
      (congrArg Except.ok (by decide +kernel))
  · exact ((readNameAt_build {} _ none _ 9).2.2 parts (free_before.1 (by decide))).trans
      (congrArg Except.ok (by decide +kernel))

end ColorSpans
