import ColorSpans.Proofs.Sass.Declaring
import ColorSpans.Proofs.Sass.Precedence
import ColorSpans.Proofs.Sass.Ranges
import ColorSpans.Proofs.Sass.Resolution

/-! Chains of aliases. A variable is declared with a color and each further one as an alias of the
one before it, on lines in any order. Every one of them gets the color, and references to it are
read as it. -/
namespace ColorSpans
open Numeral Text

namespace Sass

def chain (d : Declaration) : List String → List (String × Declaration)
  | [] => []
  | name :: names => (name, d) :: chain (.alias name) names

def chainLines (text : String) : List String → List String
  | [] => []
  | name :: names => declaring name text :: chainLines ("$" ++ name) names

theorem names_chain (d : Declaration) (names : List String) :
    (chain d names).map Prod.fst = names := by
  induction names generalizing d with
  | nil => rfl
  | cons name names ih => rw [chain, List.map_cons, ih]

def single (entry : String × Declaration) : Declarations :=
  (∅ : Declarations).insert entry.1 entry.2

theorem getElem?_single (entry : String × Declaration) (name : String) :
    (single entry)[name]? = if entry.1 = name then some entry.2 else none := by
  rw [single, Std.ExtTreeMap.getElem?_insert, Std.ExtTreeMap.getElem?_empty]
  simp only [Std.LawfulEqCmp.compare_eq_iff_eq]

theorem declared_single (entry : String × Declaration) :
    Sheet.declared (single entry) = some (single entry) :=
  if_neg (by simp [single])

/-- A line that declares one variable and imports nothing. -/
structure Declares (matcher : Option Matcher) (line : String) (entry : String × Declaration) :
    Prop where
  declared : readDeclarations matcher (dropComments line.toList) = .ok (single entry)
  silent : readImports false (dropComments line.toList) = ⟨[], false⟩

theorem declares_chainLines {matcher : Option Matcher} {names : List String}
    (named : ∀ name ∈ names, IsName name.toList) {text : String} (plain : Declarable text.toList)
    {d : Declaration} (read : readValue matcher text.toList = .ok (some d)) :
    List.Forall₂ (Declares matcher) (chainLines text names) (chain d names) := by
  induction names generalizing text d with
  | nil => exact .nil
  | cons name names ih =>
    have own : IsName name.toList := named name List.mem_cons_self
    have sign : ("$" ++ name).toList = '$' :: name.toList := by simp
    refine .cons ⟨?_, readImports_declaring own plain⟩ (ih (fun other there =>
      named other (List.mem_cons_of_mem _ there)) (sign ▸ own.declarable) ?_)
    · rw [readDeclarations_declaring own plain, read]
      rfl
    · rw [sign, own.readValue_eq, String.ofList_toList]

namespace Sheet

section

variable {matcher : Option Matcher} {lines : List String} {entries : List (String × Declaration)}
  (declares : List.Forall₂ (Declares matcher) lines entries)

include declares

theorem declarationsOf_eq : declarationsOf matcher lines = .ok (entries.map single) := by
  induction declares with
  | nil => rfl
  | cons here _ ih =>
    rw [declarationsOf, here.declared, ih]
    rfl

theorem importsOf_eq : importsOf false lines = entries.map fun _ => [] := by
  induction declares with
  | nil => rfl
  | cons here _ ih =>
    rw [importsOf, here.silent, ih]
    rfl

end

end Sheet

theorem Sheet.getElem?_flatten {sheet : Sheet} {number : Int} {found : Declarations} {name : String}
    {d : Declaration} (here : sheet.declarations[number]? = some found)
    (said : found[name]? = some d) (last : ∀ (later : Int) (other : Declarations), number < later →
      sheet.declarations[later]? = some other → other[name]? = none) :
    sheet.flatten[name]? = some d := by
  have place : (number, found) ∈ sheet.declarations.toList :=
    Std.ExtTreeMap.mem_toList_iff_getElem?_eq_some.2 here
  obtain ⟨before, after, split⟩ := List.append_of_mem place
  have sorted := sheet.declarations.ordered_keys_toList
  rw [split, List.pairwise_append, List.pairwise_cons] at sorted
  have silent : ∀ line ∈ after, line.2[name]? = none := by
    intro line there
    have behind : number < line.1 := Int.compare_eq_lt.1 (sorted.2.1.1 line there)
    refine last line.1 line.2 behind (Std.ExtTreeMap.mem_toList_iff_getElem?_eq_some.1 ?_)
    rw [split]
    exact List.mem_append_right _ (List.mem_cons_of_mem _ there)
  rw [flatten, Std.ExtTreeMap.foldl_eq_foldl_toList, split, List.foldl_append, List.foldl_cons]
  refine List.foldlRecOn (motive := fun out => out[name]? = some d) _ _ ?_
    fun out kept line there => ?_
  · rw [getElem?_insertMany_toList, said, Option.some_or]
  · rw [getElem?_insertMany_toList, silent line there, Option.none_or]
    exact kept

namespace Sheet

theorem flatten_of_declares {matcher : Option Matcher} {lines : List String}
    {entries : List (String × Declaration)}
    (declares : List.Forall₂ (Declares matcher) lines entries)
    (distinct : (entries.map Prod.fst).Nodup) {base sheet : Sheet}
    (read : readFrom matcher (base.erase .whole) 0 false lines = .ok sheet)
    {entry : String × Declaration} (there : entry ∈ entries) :
    sheet.flatten[entry.1]? = some entry.2 := by
  rw [readFrom_eq, declarationsOf_eq declares] at read
  have declarations : sheet.declarations =
      takeDown (base.erase .whole).declarations 0 ((entries.map single).map declared) :=
    congrArg Sheet.declarations (Except.ok.inj read).symm
  have said (place : Nat) : sheet.declarations[(place : Int)]? = entries[place]?.map single := by
    rw [declarations, Sheet.erase, getElem?_takeDown_whole, if_neg (by omega), numbered,
      if_pos (by omega), List.map_map, List.getElem?_map, Int.sub_zero, Int.toNat_natCast]
    cases entries[place]? with
    | none => rfl
    | some entry => exact declared_single entry
  obtain ⟨place, inside, rfl⟩ := List.mem_iff_getElem.1 there
  have here := said place
  rw [List.getElem?_eq_getElem inside] at here
  refine getElem?_flatten here ?_ fun later other behind found => ?_
  · rw [getElem?_single, if_pos rfl]
  · obtain ⟨below, rfl⟩ := Int.eq_ofNat_of_zero_le (show 0 ≤ later by omega)
    rw [said] at found
    obtain ⟨entry, listed, rfl⟩ := Option.map_eq_some_iff.1 found
    obtain ⟨within, rfl⟩ := List.getElem?_eq_some_iff.1 listed
    have apart := List.pairwise_iff_getElem.1 distinct place below (by simpa using inside)
      (by simpa using within) (by omega)
    rw [List.getElem_map, List.getElem_map] at apart
    rw [getElem?_single, if_neg apart.symm]

theorem exists_of_declares {matcher : Option Matcher} {lines : List String}
    {entries : List (String × Declaration)}
    (declares : List.Forall₂ (Declares matcher) lines entries) {base : Sheet}
    (numbered : ∀ number ∈ base.imports, 0 ≤ number) :
    ∃ sheet, readFrom matcher (base.erase .whole) 0 false lines = .ok sheet ∧
      sheet.imports = ∅ := by
  rw [readFrom_eq, declarationsOf_eq declares, importsOf_eq declares]
  refine ⟨_, rfl, Std.ExtTreeMap.ext_getElem? fun number => ?_⟩
  rw [Sheet.erase, getElem?_takeDown_whole, Std.ExtTreeMap.getElem?_empty]
  split
  · rename_i negative
    refine Std.ExtTreeMap.getElem?_eq_none fun there => ?_
    have positive := numbered number there
    omega
  · rw [Sass.numbered, List.map_map, List.getElem?_map]
    split
    · cases entries[(number - 0).toNat]? <;> rfl
    · rfl

end Sheet

section

variable {merged : Declarations} {names : List String} {name : String}

theorem follows_chain {target : String}
    (declared : ∀ entry ∈ chain (.alias target) names, merged[entry.1]? = some entry.2)
    (there : name ∈ names) :
    Follows merged name target := by
  induction names generalizing target with
  | nil => cases there
  | cons first names ih =>
    have own : Hop merged first target := declared (first, .alias target) List.mem_cons_self
    rcases List.mem_cons.1 there with rfl | later
    · exact .single own
    · have rest := ih (fun entry listed => declared entry (List.mem_cons_of_mem _ listed)) later
      exact rest.tail own

theorem getElem?_resolveAll_chain {hex : String}
    (declared : ∀ entry ∈ chain (.color hex) names, merged[entry.1]? = some entry.2)
    (there : name ∈ names) :
    (resolveAll merged)[name]? = some hex := by
  rw [getElem?_resolveAll]
  cases names with
  | nil => cases there
  | cons first names =>
    have own : merged[first]? = some (.color hex) := declared (first, .color hex) List.mem_cons_self
    rcases List.mem_cons.1 there with rfl | later
    · exact ⟨name, .refl, own⟩
    · exact ⟨first, follows_chain (fun entry listed =>
        declared entry (List.mem_cons_of_mem _ listed)) later, own⟩

end

theorem Course.alone {l : Loader} {visiting : List String} {importer : String} {s t : Loaded}
    {notes : List Note} {outcome : Except LoadError (List String)}
    (h : Course l visiting (.imports importer) s notes outcome t) {sheet : Sheet}
    (there : s.sheets[importer]? = some sheet) (nothing : sheet.candidates importer = []) :
    outcome = .ok [] := by
  cases h with
  | linked => rfl
  | absent gone => cases there.symm.trans gone
  | lost found rest gone =>
    obtain rfl := Option.some.inj (there.symm.trans found)
    rw [nothing] at rest
    cases rest
    cases there.symm.trans gone
  | broken found rest =>
    obtain rfl := Option.some.inj (there.symm.trans found)
    rw [nothing] at rest
    cases rest

namespace State

variable {s : State} {path : Option String} {lines : List String} {range : Sheet.Range}

theorem definitions_updated (done : s.outcome (.update path lines range) = .ok ()) :
    let held := (s.step (.update path lines range)).held
    held.definitions = resolveAll
      (mergeSheets held.sheets
        (reachable held.sheets (some (Variables.keyOf s.world.disk path)))) := by
  have move := s.moves (.update path lines range)
  rw [done] at move
  generalize s.step (.update path lines range) = t at move ⊢
  cases move with
  | updated named => exact named ▸ Variables.definitions_commit rfl

theorem exists_merged (done : s.outcome (.update path lines range) = .ok ()) :
    ∃ (sheet : Sheet) (merged : Declarations),
      s.held.rereadSheet (Variables.keyOf s.world.disk path) lines range = .ok sheet ∧
      (s.step (.update path lines range)).held.definitions = resolveAll merged ∧
      ∀ (name : String) (d : Declaration), sheet.flatten[name]? = some d →
        merged[name]? = some d := by
  obtain ⟨sheet, read, kept⟩ := content_updated Sheet.flatten (fun _ _ => rfl) done
  obtain ⟨own, there, same⟩ := Option.map_eq_some_iff.1 kept
  exact ⟨sheet, _, read, definitions_updated done, fun name d said =>
    getElem?_mergeSheets there (same ▸ said)⟩

theorem outcome_update_alone {sheet : Sheet}
    (read : s.held.rereadSheet (Variables.keyOf s.world.disk path) lines range = .ok sheet)
    (alone : sheet.imports = ∅) : s.outcome (.update path lines range) = .ok () := by
  have nothing (importer : String) : sheet.candidates importer = [] := by
    rw [Sheet.candidates, Sheet.targets, alone]
    rfl
  have move := s.moves (.update path lines range)
  generalize s.outcome (.update path lines range) = outcome at move ⊢
  generalize s.step (.update path lines range) = t at move
  cases move with
  | unread bad => cases read.symm.trans bad
  | updated => rfl
  | unloaded named good course =>
    obtain rfl := Except.ok.inj (read.symm.trans (named ▸ good))
    cases course.alone Std.ExtTreeMap.getElem?_insert_self (nothing _)

theorem definitions_chain {entries : List (String × Declaration)}
    (declares : List.Forall₂ (Declares s.held.matcher) lines entries) {hex : String}
    {names : List String} (order : entries.Perm (chain (.color hex) names)) (distinct : names.Nodup)
    (done : s.outcome (.whole path lines) = .ok ()) {name : String} (there : name ∈ names) :
    (s.step (.whole path lines)).held.definitions[name]? = some hex := by
  obtain ⟨sheet, merged, read, definitions, said⟩ := exists_merged done
  have fresh : (entries.map Prod.fst).Nodup := by
    rw [(order.map Prod.fst).nodup_iff, names_chain]
    exact distinct
  have declared : ∀ entry ∈ chain (.color hex) names,
      merged[entry.1]? = some entry.2 := fun entry listed =>
    said _ _ (Sheet.flatten_of_declares declares fresh (Variables.readFrom_of_rereadSheet read)
      (order.mem_iff.2 listed))
  rw [Step.whole, definitions]
  exact getElem?_resolveAll_chain declared there

end State

end Sass

namespace Matcher

variable {m : Matcher}

theorem prefixedSpot_sign {s : Spot} {rest : List Char} (ahead : s.ahead = '$' :: rest) :
    m.prefixedSpot s = none := by
  cases found : m.prefixedSpot s with
  | none => rfl
  | some p =>
    obtain ⟨c, opening, chars, other⟩ : ∃ c opening, p.opening.toList = c :: opening ∧ c ≠ '$' := by
      rcases p with _ | f
      · exact ⟨_, _, rfl, by decide⟩
      · cases f <;> exact ⟨_, _, rfl, by decide⟩
    have begins := opening_isPrefix found
    rw [ahead, chars] at begins
    exact absurd (List.cons_prefix_cons.1 begins).1 other

theorem readSpot_sign {definitions : Definitions} {s : Spot} {rest : List Char}
    (ahead : s.ahead = '$' :: rest) :
    m.readSpot (some definitions) s = .ok (readReference definitions s) := by
  have hash : ('$' == '#' && !m.config.hexLengths.isEmpty) = false := rfl
  rw [readSpot, ahead]
  simp only [hash, prefixedSpot_sign ahead]
  rfl

theorem readColumn_reference {definitions : Definitions} {name color : String}
    (named : Sass.IsName name.toList) (resolved : definitions[name]? = some color) {line : String}
    {column : Nat} (stands : ("$" ++ name).toList <+: line.toList.drop column)
    (ends : ∀ c, line.toList[column + (name.length + 1)]? = some c → isNameChar c = false) :
    m.readColumn (some definitions) line column = .ok (some ⟨name.length + 1, color⟩) := by
  obtain ⟨after, same⟩ := stands
  have ahead : line.toList.drop column = '$' :: (name.toList ++ after) := by
    rw [← same]
    simp
  have inside : column < line.length := by
    have length := congrArg List.length ahead
    rw [List.length_drop, List.length_cons, String.length_toList] at length
    omega
  have whole : (name.toList ++ after).takeWhile isNameChar = name.toList := by
    have stop : after.takeWhile isNameChar = [] := by
      cases after with
      | nil => rfl
      | cons c after =>
        refine List.takeWhile_cons_of_neg (Bool.eq_false_iff.1 (ends c ?_))
        rw [← List.getElem?_drop, ahead, ← String.length_toList]
        simp
    rw [List.takeWhile_append_of_pos named.chars, stop, List.append_nil]
  have nonempty : name.toList.isEmpty = false := by
    simpa using named.nonempty
  have read : readReference definitions (Spot.inLine line.toList column) =
      some ⟨name.length + 1, color⟩ := by
    simp only [readReference, Spot.ahead_inLine, ahead, whole, nonempty,
      String.ofList_toList, resolved, String.length_toList]
    rfl
  rw [readColumn_natCast inside, readAt_eq, readSpot_sign ahead, read]
  rfl

end Matcher

namespace Sass

/-- A text that stands for a color of its own: nothing surrounds it, it is no reference, and a
declaration takes it up as it is. -/
structure IsValue (value : String) : Prop where
  stripped : trim value.toList = value.toList
  own : value.toList.head? ≠ some '$'
  unflagged : '!' ∉ value.toList
  declarable : Declarable value.toList

/-- Once a buffer has been read whose lines, in whatever order, give a variable a color and make
each further one an alias of the one before it, all of them have the color, and a reference to any
of them is read as that color in every line. Nothing keeps such a buffer from being read but imports
that stood above its first line. -/
theorem chain_resolved {s : State} {m : Matcher} (matcher : s.held.matcher = some m)
    {names : List String} (distinct : names.Nodup) (named : ∀ name ∈ names, IsName name.toList)
    {value : String} (plain : IsValue value) {r : Reading}
    (color : m.readColumn none value 0 = .ok (some r)) {lines : List String}
    (order : lines.Perm (chainLines value names)) (path : Option String) :
    ((∀ number ∈ (s.held.sheets.sheet (Variables.keyOf s.world.disk path)).imports, 0 ≤ number) →
      s.outcome (.whole path lines) = .ok ()) ∧
    (s.outcome (.whole path lines) = .ok () → ∀ name ∈ names,
      (s.step (.whole path lines)).held.resolve name = some r.color ∧
      ∀ (line : String) (column : Nat), ("$" ++ name).toList <+: line.toList.drop column →
        (∀ c, line.toList[column + (name.length + 1)]? = some c → isNameChar c = false) →
        m.readColumn (some (s.step (.whole path lines)).held.definitions) line column =
          .ok (some ⟨name.length + 1, r.color⟩)) := by
  have value := readValue_color plain.stripped plain.unflagged plain.own color
  obtain ⟨entries, declares, same⟩ :=
    List.perm_comp_forall₂ order (declares_chainLines named plain.declarable value)
  rw [← matcher] at declares
  constructor
  · intro numbered
    obtain ⟨sheet, read, alone⟩ := Sheet.exists_of_declares declares numbered
    have good : s.held.rereadSheet (Variables.keyOf s.world.disk path) lines .whole =
        .ok sheet := by
      rw [Variables.rereadSheet_eq, show Sheet.Range.whole.start = 0 from rfl, read]
      rfl
    exact State.outcome_update_alone good alone
  · intro done name there
    have resolved := State.definitions_chain declares same distinct done there
    refine ⟨?_, fun line column stands ends =>
      Matcher.readColumn_reference (named name there) resolved stands ends⟩
    have unsigned : name.toList.dropWhile (· == '$') =
        name.toList := dropWhile_eq_self fun c inside =>
      beq_eq_false_iff_ne.2 fun sign => (named name there).not_mem (by decide) (sign ▸ inside)
    rw [Variables.resolve, unsigned, String.ofList_toList]
    exact resolved

def importer : State := State.unread.step (.whole (some "/main.scss") ["@import \"v\";"])

def shuffledLines : List String := ["$e: $b-1;", "$c: #222222;", "$b-1: $c;"]

theorem chain_resolved_shuffled :
    let held := (importer.step (.whole (some "/main.scss") shuffledLines)).held
    importer.outcome (.whole (some "/main.scss") shuffledLines) = .ok () ∧
      held.resolve "e" = some "222222" ∧
      Upkeep.sixDigits.readColumn (some held.definitions) "color: $e;" (7 : Nat) =
        .ok (some ⟨2, "222222"⟩) := by
  have named : ∀ name ∈ ["c", "b-1", "e"], IsName name.toList := by
    intro name there
    simp only [List.mem_cons, List.not_mem_nil, or_false] at there
    rcases there with rfl | rfl | rfl <;> exact ⟨by decide, List.all_eq_true.1 (by decide)⟩
  have declarable : Declarable "#222222".toList := ⟨by decide, .of_not_mem (by decide), by decide⟩
  have plain : IsValue "#222222" := ⟨by decide, by decide, by decide, declarable⟩
  have color : Upkeep.sixDigits.readColumn none "#222222" 0 = .ok (some ⟨7, "222222"⟩) :=
    eq_ok_of_toOption (by decide +kernel)
  have order : shuffledLines.Perm (chainLines "#222222" ["c", "b-1", "e"]) := by decide +kernel
  have reachable : Reachable 0 (some Upkeep.sixDigits) importer := .step _ (.start _)
  obtain ⟨read, resolved⟩ :=
    chain_resolved reachable.matcher_eq (by decide) named plain color order (some "/main.scss")
  have numbered : ∀ number ∈ (importer.held.sheets.sheet "/main.scss").imports.keys,
      0 ≤ number := by
    decide +kernel
  have done := read fun number there => numbered number (Std.ExtTreeMap.mem_keys.2 there)
  obtain ⟨e, references⟩ := resolved done "e" (by decide)
  refine ⟨done, e, references _ 7 (by decide +kernel) fun c here => ?_⟩
  have stop : "color: $e;".toList[9]? = some ';' := by decide +kernel
  obtain rfl := Option.some.inj (stop.symm.trans here)
  decide

end Sass

end ColorSpans
