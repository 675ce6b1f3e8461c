import ColorSpans.Proofs.Sass.Renaming

/-! Buffers that are read in parts. A part that is read anew takes the place of what its lines said
before, and all other lines are left as they were. That is what reading all lines gives exactly if
no open list of imports shows across an edge of the part. -/
namespace ColorSpans.Sass
open Numeral

section numbered

variable {α : Type}

def numbered (first : Int) (xs : List α) (number : Int) : Option α :=
  if first ≤ number then xs[(number - first).toNat]? else none

theorem numbered_nil (first number : Int) : numbered first ([] : List α) number = none := by
  rw [numbered, List.getElem?_nil, ite_self]

theorem numbered_cons (first : Int) (x : α) (xs : List α) (number : Int) :
    numbered first (x :: xs) number = if number = first then some x
      else numbered (first + 1) xs number := by
  rw [numbered, numbered]
  by_cases here : number = first
  · subst here
    simp
  · rw [if_neg here]
    by_cases later : first + 1 ≤ number
    · have place : (number - first).toNat = (number - (first + 1)).toNat + 1 := by omega
      rw [if_pos later, if_pos (by omega), place, List.getElem?_cons_succ]
    · rw [if_neg later, if_neg (by omega)]

theorem numbered_append (first : Int) (xs ys : List α) (number : Int) :
    numbered first (xs ++ ys) number =
      (numbered first xs number).or (numbered (first + xs.length) ys number) := by
  induction xs generalizing first with
  | nil => simp [numbered_nil]
  | cons x xs ih =>
    rw [List.cons_append, numbered_cons, numbered_cons, ih, List.length_cons]
    split
    · rfl
    · congr 2
      omega

theorem numbered_eq_none {first number : Int} (xs : List α)
    (outside : number < first ∨ first + xs.length ≤ number) : numbered first xs number = none := by
  rw [numbered]
  split
  · exact List.getElem?_eq_none (by omega)
  · rfl

theorem numbered_inj (first : Int) {xs ys : List (Option α)} (length : xs.length = ys.length)
    (same : ∀ number, (numbered first xs number).join = (numbered first ys number).join) :
    xs = ys := by
  refine List.ext_getElem length fun place left right => ?_
  have here := same (first + place)
  have within : first ≤ first + (place : Int) := by omega
  have back : (first + (place : Int) - first).toNat = place := by omega
  rw [numbered, numbered, if_pos within, if_pos within, back, List.getElem?_eq_getElem left,
    List.getElem?_eq_getElem right] at here
  exact here

def takeDown (m : Std.ExtTreeMap Int α) (first : Int) : List (Option α) → Std.ExtTreeMap Int α
  | [] => m
  | x :: xs => takeDown (x.elim m (m.insert first)) (first + 1) xs

theorem getElem?_takeDown (m : Std.ExtTreeMap Int α) (first : Int) (xs : List (Option α))
    (number : Int) :
    (takeDown m first xs)[number]? = (numbered first xs number).join.or m[number]? := by
  induction xs generalizing m first with
  | nil => rw [takeDown, numbered_nil, Option.join_none, Option.none_or]
  | cons x xs ih =>
    rw [takeDown, ih, numbered_cons]
    by_cases here : number = first
    · subst here
      rw [if_pos rfl, numbered_eq_none xs (.inl (by omega)), Option.join_none, Option.none_or]
      cases x with
      | none => simp
      | some a => simp
    · rw [if_neg here]
      congr 1
      cases x with
      | none => rfl
      | some a =>
        rw [Option.elim_some, Std.ExtTreeMap.getElem?_insert,
          if_neg fun same => here (Std.LawfulEqCmp.eq_of_compare same).symm]

theorem toList_insert_last {m : Std.ExtTreeMap Int α} {key : Int} (below : ∀ other ∈ m, other < key)
    (value : α) : (m.insert key value).toList = m.toList ++ [(key, value)] := by
  have before : ∀ entry ∈ m.toList, entry.1 < key := fun entry there =>
    below entry.1 (Std.ExtTreeMap.mem_iff_isSome_getElem?.2
      (by rw [Std.ExtTreeMap.mem_toList_iff_getElem?_eq_some.1 there]; rfl))
  have sorted : (m.toList ++ [(key, value)]).Pairwise fun a b => compare a.1 b.1 = .lt := by
    refine List.pairwise_append.2
      ⟨m.ordered_keys_toList, List.pairwise_singleton _ _, fun entry there last only => ?_⟩
    rw [List.mem_singleton.1 only]
    exact Int.compare_eq_lt.2 (before entry there)
  have distinct {entries : List (Int × α)} (sorted : entries.Pairwise fun a b =>
    compare a.1 b.1 = .lt) :
      entries.Nodup := by
    refine sorted.imp fun {a b} less same => ?_
    subst same
    exact Int.lt_irrefl _ (Int.compare_eq_lt.1 less)
  have sorted' := (m.insert key value).ordered_keys_toList
  refine List.Perm.eq_of_pairwise (fun a b _ _ less more => ?_) sorted' sorted
    ((List.perm_ext_iff_of_nodup (distinct sorted') (distinct sorted)).2 fun entry => ?_)
  · exact absurd (Int.compare_eq_lt.1 less) (Int.not_lt.2 (Int.le_of_lt (Int.compare_eq_lt.1 more)))
  · obtain ⟨other, said⟩ := entry
    rw [Std.ExtTreeMap.mem_toList_iff_getElem?_eq_some, List.mem_append, List.mem_singleton,
      Std.ExtTreeMap.mem_toList_iff_getElem?_eq_some, Std.ExtTreeMap.getElem?_insert]
    by_cases same : key = other
    · subst same
      have absent : m[key]? = none := Std.ExtTreeMap.getElem?_eq_none fun there =>
        Int.lt_irrefl _ (below key there)
      simp [absent, eq_comm]
    · simp [same, Ne.symm same]

theorem getElem?_filter_outside (m : Std.ExtTreeMap Int α) (range : Sheet.Range) (number : Int) :
    (m.filter fun number _ => !range.contains number)[number]? =
      if range.contains number then none else m[number]? := by
  rw [Std.ExtTreeMap.getElem?_filter']
  cases range.contains number <;> cases m[number]? <;> rfl

theorem numbered_three (above part rest : List α) (number : Int) :
    numbered 0 (above ++ (part ++ rest)) number =
      if number < above.length then numbered 0 above number
      else if number < above.length + part.length then numbered above.length part number
      else numbered (above.length + part.length) rest number := by
  rw [numbered_append, numbered_append, Int.zero_add]
  split
  · rw [numbered_eq_none part (.inl ‹_›), numbered_eq_none rest (.inl (by omega)), Option.or_none,
      Option.or_none]
  · rw [numbered_eq_none above (.inr (by omega)), Option.none_or]
    split
    · rw [numbered_eq_none rest (.inl (by omega)), Option.or_none]
    · rw [numbered_eq_none part (.inr (by omega)), Option.none_or]

section part

variable {m held : Std.ExtTreeMap Int α} {above old new part rest rest' : List (Option α)}
  {range : Sheet.Range}

theorem getElem?_takeDown_part (range : Sheet.Range) (start : range.start = above.length)
    (stop : range.stop = some ((above.length + part.length : Nat) : Int)) (number : Int) :
    (takeDown (held.filter fun number _ => !range.contains number) range.start part)[number]? =
      if number < above.length ∨ above.length + part.length ≤ number then held[number]?
      else (numbered above.length part number).join := by
  have contains : range.contains number =
      decide (above.length ≤ number ∧ number < above.length + part.length) := by
    simp [Sheet.Range.contains, start, stop]
  rw [getElem?_takeDown, getElem?_filter_outside, contains, start]
  by_cases outside : number < above.length ∨ above.length + part.length ≤ number
  · rw [if_pos outside, numbered_eq_none part outside, if_neg (by rw [decide_eq_true_eq]; omega),
      Option.join_none, Option.none_or]
  · rw [if_neg outside, if_pos (by rw [decide_eq_true_eq]; omega), Option.or_none]

theorem getElem?_takeDown_whole (xs : List (Option α)) (number : Int) :
    (takeDown (held.filter fun number _ => !Sheet.Range.whole.contains number) 0 xs)[number]? =
      if number < 0 then held[number]? else (numbered 0 xs number).join := by
  have contains : Sheet.Range.whole.contains number = decide (0 ≤ number) := Bool.and_true _
  rw [getElem?_takeDown, getElem?_filter_outside, contains]
  by_cases outside : number < 0
  · rw [if_pos outside, numbered_eq_none xs (.inl outside),
      if_neg (by rw [decide_eq_true_eq]; omega), Option.join_none, Option.none_or]
  · rw [if_neg outside, if_pos (by rw [decide_eq_true_eq]; omega), Option.or_none]

/-- A part taken down anew among what all lines said gives what all lines say now, exactly if it
says that by itself and so did the lines behind it. -/
theorem takeDown_part_iff (range : Sheet.Range) (part new rest' : List (Option α))
    (start : range.start = above.length)
    (stop : range.stop = some ((above.length + part.length : Nat) : Int))
    (said : held = takeDown (m.filter fun number _ => !Sheet.Range.whole.contains number) 0
      (above ++ (old ++ rest)))
    (replaced : old.length = part.length) (length : new.length = part.length)
    (behind : rest.length = rest'.length) :
    takeDown (held.filter fun number _ => !range.contains number) range.start part =
        takeDown (held.filter fun number _ => !Sheet.Range.whole.contains number) 0
          (above ++ (new ++ rest')) ↔
      part = new ∧ rest = rest' := by
  have before (number : Int) (within : ¬number < 0) :
      held[number]? = (numbered 0 (above ++ (old ++ rest)) number).join := by
    rw [said, getElem?_takeDown_whole, if_neg within]
  constructor
  · intro same
    have now (number : Int) := congrArg (fun m : Std.ExtTreeMap Int α => m[number]?) same
    simp only [getElem?_takeDown_part range start stop, getElem?_takeDown_whole] at now
    constructor
    · refine numbered_inj above.length length.symm fun number => ?_
      by_cases outside : number < above.length ∨ above.length + part.length ≤ number
      · rw [numbered_eq_none _ outside, numbered_eq_none _ (by omega)]
      · have here := now number
        rw [if_neg outside, if_neg (by omega), numbered_three, if_neg (by omega),
          if_pos (by omega)] at here
        exact here
    · refine numbered_inj (above.length + part.length) behind fun number => ?_
      by_cases outside : number < above.length + part.length
      · rw [numbered_eq_none _ (.inl outside), numbered_eq_none _ (.inl outside)]
      · have here := now number
        rw [if_pos (by omega), if_neg (by omega), before number (by omega), numbered_three,
          numbered_three,
          if_neg (by omega), if_neg (by omega), if_neg (by omega), if_neg (by omega), replaced,
            length] at here
        exact here
  · rintro ⟨rfl, rfl⟩
    refine Std.ExtTreeMap.ext_getElem? fun number => ?_
    rw [getElem?_takeDown_part range start stop, getElem?_takeDown_whole]
    by_cases negative : number < 0
    · rw [if_pos negative, if_pos (by omega)]
    · rw [if_neg negative, before number negative, numbered_three, numbered_three, replaced]
      split_ifs <;> first | rfl | omega

end part

end numbered

namespace Sheet

variable {matcher : Option Matcher}

/-- Whether a list of imports is open behind some lines. -/
def openAfter (pending : Bool) (lines : List String) : Bool :=
  lines.foldl (fun pending line => (readImports pending (dropComments line.toList)).pending) pending

def importsOf (pending : Bool) : List String → List (List String)
  | [] => []
  | line :: lines =>
      let imports := readImports pending (dropComments line.toList)
      imports.targets :: importsOf imports.pending lines

def declarationsOf (matcher : Option Matcher) :
    List String → Except NumeralError (List Declarations)
  | [] => .ok []
  | line :: lines => do
      let found ← readDeclarations matcher (dropComments line.toList)
      let more ← declarationsOf matcher lines
      return found :: more

theorem length_importsOf (pending : Bool) (lines : List String) :
    (importsOf pending lines).length = lines.length := by
  induction lines generalizing pending with
  | nil => rfl
  | cons line lines ih => rw [importsOf, List.length_cons, List.length_cons, ih]

theorem importsOf_append (pending : Bool) (lines more : List String) :
    importsOf pending (lines ++ more) =
      importsOf pending lines ++ importsOf (openAfter pending lines) more := by
  induction lines generalizing pending with
  | nil => rfl
  | cons line lines ih =>
    rw [List.cons_append, importsOf, importsOf, ih]
    rfl

theorem importsOf_three (above part below : List String) :
    importsOf false (above ++ (part ++ below)) =
    importsOf false above ++
      (importsOf (openAfter false above) part ++
        importsOf (openAfter false (above ++ part)) below) := by
  have behind : openAfter false (above ++ part) = openAfter (openAfter false above) part :=
    List.foldl_append
  rw [importsOf_append, importsOf_append, behind]

theorem length_declarationsOf {lines : List String} {found : List Declarations}
    (read : declarationsOf matcher lines = .ok found) : found.length = lines.length := by
  induction lines generalizing found with
  | nil =>
    cases read
    rfl
  | cons line lines ih =>
    obtain ⟨first, -, read⟩ := bind_eq_ok.1 read
    obtain ⟨more, rest, read⟩ := bind_eq_ok.1 read
    cases read
    rw [List.length_cons, List.length_cons, ih rest]

theorem declarationsOf_append (lines more : List String) :
    declarationsOf matcher (lines ++ more) = do
      let found ← declarationsOf matcher lines
      let rest ← declarationsOf matcher more
      return found ++ rest := by
  induction lines with
  | nil =>
    rw [List.nil_append, declarationsOf]
    cases declarationsOf matcher more <;> rfl
  | cons line lines ih =>
    rw [List.cons_append, declarationsOf, declarationsOf, ih]
    cases readDeclarations matcher (dropComments line.toList) with
    | error e => rfl
    | ok first =>
      cases declarationsOf matcher lines with
      | error e => rfl
      | ok found => cases declarationsOf matcher more <;> rfl

def declared (found : Declarations) : Option Declarations :=
  if found.isEmpty then none else some found

def imported (targets : List String) : Option (List String) :=
  if targets.isEmpty then none else some targets

theorem imported_injective : Function.Injective imported := by
  intro targets targets' same
  unfold imported at same
  split at same <;> split at same <;> simp_all

theorem readFrom_eq (sheet : Sheet) (first : Int) (pending : Bool) (lines : List String) :
    readFrom matcher sheet first pending lines = (declarationsOf matcher lines).map fun found =>
      ⟨takeDown sheet.declarations first (found.map declared),
        takeDown sheet.imports first ((importsOf pending lines).map imported), sheet.edges⟩ := by
  induction lines generalizing sheet first pending with
  | nil => rfl
  | cons line lines ih =>
    rw [readFrom, declarationsOf]
    cases readDeclarations matcher (dropComments line.toList) with
    | error e => rfl
    | ok found =>
      show readFrom matcher _ _ _ lines = _
      rw [ih]
      cases declarationsOf matcher lines with
      | error e => rfl
      | ok more =>
        have added : ∀ targets : List String,
            (sheet.addDeclarations first found).addImports first targets =
            ⟨(declared found).elim sheet.declarations (sheet.declarations.insert first),
              (imported targets).elim sheet.imports (sheet.imports.insert first), sheet.edges⟩ := by
          intro targets
          unfold addImports addDeclarations declared imported
          split <;> split <;> rfl
        rw [added]
        rfl

theorem flatMap_takeDown {m : Std.ExtTreeMap Int (List String)} {first : Int}
    (below : ∀ key ∈ m, key < first) (found : List (List String)) :
    (takeDown m first (found.map imported)).toList.flatMap Prod.snd =
      m.toList.flatMap Prod.snd ++ found.flatten := by
  induction found generalizing m first with
  | nil => exact (List.append_nil _).symm
  | cons targets found ih =>
    rw [List.map_cons, takeDown, List.flatten_cons, imported]
    split
    · rename_i nothing
      have below' : ∀ key ∈ m, key < first + 1 :=
        fun key there => Int.lt_add_one_of_le (Int.le_of_lt (below key there))
      rw [Option.elim_none, ih below', List.isEmpty_iff.1 nothing]
      rfl
    · rw [Option.elim_some, ih, toList_insert_last below, List.flatMap_append,
        List.flatMap_singleton, List.append_assoc]
      intro key there
      rw [Std.ExtTreeMap.mem_insert, Std.LawfulEqCmp.compare_eq_iff_eq] at there
      rcases there with rfl | there
      · exact Int.lt_succ _
      · exact Int.lt_add_one_of_le (Int.le_of_lt (below key there))

theorem targets_of_read {lines : List String} {sheet : Sheet}
    (read : Sheet.read matcher lines = .ok sheet) :
    sheet.targets = (importsOf false lines).flatten := by
  rw [Sheet.read, readFrom_eq] at read
  obtain ⟨found, -, rfl⟩ := map_eq_ok.1 read
  exact (flatMap_takeDown (fun key there => absurd there Std.ExtTreeMap.not_mem_empty) _).trans
    (List.nil_append _)

end Sheet

/-- What the lines of a part import does not depend on a list that is open above it, nor what the
lines below it import on the change. -/
structure Seamless (above old new below : List String) : Prop where
  part : Sheet.importsOf (Sheet.openAfter false above) new = Sheet.importsOf false new
  below : Sheet.importsOf (Sheet.openAfter false (above ++ old)) below =
    Sheet.importsOf (Sheet.openAfter false (above ++ new)) below

def Sheet.Range.part (above lines : List String) : Sheet.Range :=
  ⟨above.length, some ((above.length + lines.length : Nat) : Int)⟩

namespace Sheet

variable {matcher : Option Matcher} {above old new below : List String} {base held : Sheet}

theorem exists_found
    (read : readFrom matcher (base.erase .whole) 0 false (above ++ (old ++ below)) = .ok held) :
    ∃ first mid rest : List Declarations, declarationsOf matcher above = .ok first ∧
      declarationsOf matcher old = .ok mid ∧ declarationsOf matcher below = .ok rest ∧
      held.declarations = takeDown (base.erase .whole).declarations 0
        (first.map declared ++ (mid.map declared ++ rest.map declared)) ∧
      held.imports = takeDown (base.erase .whole).imports 0
        ((importsOf false above).map imported ++
          ((importsOf (openAfter false above) old).map imported ++
            (importsOf (openAfter false (above ++ old)) below).map imported)) := by
  rw [readFrom_eq] at read
  obtain ⟨all, found, rfl⟩ := map_eq_ok.1 read
  rw [declarationsOf_append, declarationsOf_append] at found
  obtain ⟨first, foundAbove, found⟩ := bind_eq_ok.1 found
  obtain ⟨more, found, same⟩ := bind_eq_ok.1 found
  obtain ⟨mid, foundOld, found⟩ := bind_eq_ok.1 found
  obtain ⟨rest, foundBelow, same'⟩ := bind_eq_ok.1 found
  obtain rfl : mid ++ rest = more := Except.ok.inj same'
  obtain rfl : first ++ (mid ++ rest) = all := Except.ok.inj same
  refine ⟨first, mid, rest, foundAbove, foundOld, foundBelow, ?_, ?_⟩
  · rw [List.map_append, List.map_append]
  · show takeDown _ 0 ((importsOf false (above ++ (old ++ below))).map imported) = _
    rw [importsOf_three, List.map_append, List.map_append]

theorem exists_part (length : new.length = old.length)
    (read : readFrom matcher (base.erase .whole) 0 false (above ++ (old ++ below)) = .ok held) :
    ∃ (declarations : List Declarations → Std.ExtTreeMap Int Declarations)
      (part whole : Std.ExtTreeMap Int (List String)),
      readFrom matcher (held.erase (.part above new)) (Range.part above new).start false new =
          (declarationsOf matcher new).map (fun found => ⟨declarations found, part, []⟩) ∧
        readFrom matcher (held.erase .whole) 0 false (above ++ (new ++ below)) =
          (declarationsOf matcher new).map (fun found => ⟨declarations found, whole, []⟩) ∧
        (part = whole ↔ Seamless above old new below) := by
  obtain ⟨first, mid, rest, foundAbove, foundOld, foundBelow, declarations, imports⟩ :=
    exists_found read
  have foundFirst := length_declarationsOf foundAbove
  have foundMid := length_declarationsOf foundOld
  have foundRest := length_declarationsOf foundBelow
  refine ⟨fun found => takeDown (held.erase (.part above new)).declarations above.length
    (found.map declared),
    takeDown (held.erase (.part above new)).imports above.length
      ((importsOf false new).map imported),
    takeDown (held.erase .whole).imports 0
      ((importsOf false (above ++ (new ++ below))).map imported),
    readFrom_eq _ _ _ _, ?_, ?_⟩
  · rw [readFrom_eq, declarationsOf_append, declarationsOf_append, foundAbove, foundBelow]
    cases read' : declarationsOf matcher new with
    | error e => rfl
    | ok found =>
      have foundNew := length_declarationsOf read'
      have same := (takeDown_part_iff (.part above new) (found.map declared) (found.map declared)
        (rest.map declared)
        (by rw [Range.part, List.length_map, foundFirst])
          (by simp [Range.part, foundFirst, foundNew])
        declarations (by simp [foundMid, foundNew, length]) rfl rfl).2 ⟨rfl, rfl⟩
      rw [← List.map_append, ← List.map_append] at same
      exact congrArg (fun declarations => Except.ok (Sheet.mk declarations _ [])) same.symm
  · have same := takeDown_part_iff (.part above new) ((importsOf false new).map imported)
      ((importsOf (openAfter false above) new).map imported)
      ((importsOf (openAfter false (above ++ new)) below).map imported)
      (by simp [Range.part, length_importsOf]) (by simp [Range.part, length_importsOf])
      imports (by simp [length_importsOf, length]) (by simp [length_importsOf])
      (by simp [length_importsOf])
    rw [importsOf_three, List.map_append, List.map_append]
    refine same.trans ⟨fun both => ⟨?_, ?_⟩, fun seamless => ⟨?_, ?_⟩⟩
    · exact (List.map_injective_iff.2 imported_injective both.1).symm
    · exact List.map_injective_iff.2 imported_injective both.2
    · rw [seamless.part]
    · rw [seamless.below]

end Sheet

namespace Step

def whole (path : Option String) (lines : List String) : Step := .update path lines .whole

def part (path : Option String) (above lines : List String) : Step :=
  .update path lines (.part above lines)

end Step

namespace State

variable {s : State} {path : Option String} {above old new below : List String}

theorem after_update_congr {lines lines' : List String} {range range' : Sheet.Range}
    (same : s.held.rereadSheet (Variables.keyOf s.world.disk path) lines range =
      s.held.rereadSheet (Variables.keyOf s.world.disk path) lines' range') :
    s.after (.update path lines range) = s.after (.update path lines' range') := by
  simp only [after, Variables.update, same]

theorem exists_reread (length : new.length = old.length)
    (done : s.outcome (.whole path (above ++ (old ++ below))) = .ok ()) :
    ∃ (read : Except LoadError (List Declarations))
      (declarations : List Declarations → Std.ExtTreeMap Int Declarations)
      (part whole : Std.ExtTreeMap Int (List String)),
      let t := s.step (.whole path (above ++ (old ++ below)))
      let key := Variables.keyOf t.world.disk path
      t.held.rereadSheet key new (.part above new) =
          read.map (fun found => ⟨declarations found, part, []⟩) ∧
        t.held.rereadSheet key (above ++ (new ++ below)) .whole =
          read.map (fun found => ⟨declarations found, whole, []⟩) ∧
        (part = whole ↔ Seamless above old new below) := by
  obtain ⟨sheet, reread, held⟩ :=
    content_updated (fun sheet => (sheet.declarations, sheet.imports)) (fun _ _ => rfl) done
  have key : Variables.keyOf (s.step (.whole path (above ++ (old ++ below)))).world.disk path =
      Variables.keyOf s.world.disk path := by rw [s.disk_step fun _ => Step.noConfusion]
  have matcher := (s.moves (.whole path (above ++ (old ++ below)))).matcher_eq
  obtain ⟨declarations, part, whole, readPart, readWhole, same⟩ :=
    Sheet.exists_part length (Variables.readFrom_of_rereadSheet reread)
  have erased (range : Sheet.Range) :
      ((s.step (.whole path (above ++ (old ++ below)))).held.sheets.sheet
        (Variables.keyOf s.world.disk path)).erase range = sheet.erase range := by
    obtain ⟨now, found, content⟩ := Option.map_eq_some_iff.1 held
    have there : (s.step (.whole path (above ++ (old ++ below)))).held.sheets.sheet
        (Variables.keyOf s.world.disk path) = now :=
      congrArg (fun found => Option.getD found Sheet.empty) found
    obtain ⟨declared, imported⟩ := Prod.mk.inj content
    rw [there, Sheet.erase, Sheet.erase, declared, imported]
  have mapped (found : Except NumeralError (List Declarations))
    (imports : Std.ExtTreeMap Int (List String)) :
      (found.map fun found => Sheet.mk (declarations found) imports []).mapError LoadError.numeral =
        (found.mapError LoadError.numeral).map fun found => ⟨declarations found, imports, []⟩ := by
    cases found <;> rfl
  refine ⟨(Sheet.declarationsOf s.held.matcher new).mapError .numeral, declarations, part, whole,
    ?_, ?_, same⟩
  · rw [key, Variables.rereadSheet_eq, erased, matcher, ← mapped]
    exact congrArg _ readPart
  · rw [key, Variables.rereadSheet_eq, erased, matcher, ← mapped]
    exact congrArg _ readWhole

theorem alike_scratch_twice {owner : Nat} {matcher : Option Matcher} {world : World}
    {given : String} {lines lines' : List String} (named : given ≠ "")
    (consistent : world.disk.IsConsistent)
    (done : (start owner matcher world).outcome (.whole (some given) lines) = .ok ())
    (done' : ((start owner matcher world).step (.whole (some given) lines)).outcome
      (.whole (some given) lines') = .ok ()) (other : Nat) {again : World}
      (same : again.disk = world.disk) :
    Alike world.disk
      (((start owner matcher world).step (.whole (some given) lines)).step
        (.whole (some given) lines')).held
      (Upkeep.scratch other matcher again given (some lines')).held := by
  have first : Upkeep.Next given (.start owner matcher world)
      ((Upkeep.start owner matcher world).updated given lines) := .update lines rfl done
  have second : Upkeep.Next given ((Upkeep.start owner matcher world).updated given lines)
      (((Upkeep.start owner matcher world).updated given lines).updated given lines') :=
    .update lines' rfl done'
  have disk : (((start owner matcher world).step (.whole (some given) lines)).step
      (.whole (some given) lines')).world.disk = world.disk :=
    (disk_step _ fun _ => Step.noConfusion).trans (disk_step _ fun _ => Step.noConfusion)
  have stands := Upkeep.Stands.run named consistent
    ((Relation.ReflTransGen.single first).tail second)
  have tracks : Tracks ⟨_, matcher, _, lines'⟩ [] _ _ := stands.tracks lines' rfl
  rw [show (((Upkeep.start owner matcher world).updated given lines).updated given
    lines').state.world.disk = again.disk from disk.trans same.symm] at tracks
  have mirrors := tracks.mirrors
  rw [← same] at consistent
  exact mirrors.alike (Upkeep.mirrors_scratch consistent named other mirrors) _

/-- A part that is read anew leaves just what reading all lines leaves, errors and reads included,
if no seam shows; otherwise the two hold other imports of the buffer. For new variables it is the
same to have read all lines at once. -/
theorem after_part_iff (length : new.length = old.length)
    (done : s.outcome (.whole path (above ++ (old ++ below))) = .ok ()) :
    let t := s.step (.whole path (above ++ (old ++ below)))
    let part := Step.part path above new
    let whole := Step.whole path (above ++ (new ++ below))
    (Seamless above old new below → t.after part = t.after whole) ∧
    (t.outcome whole = .ok () → t.after part = t.after whole → Seamless above old new below) ∧
    ∀ (owner other : Nat) (matcher : Option Matcher) (given : String) (again : World),
      s.held = .new owner matcher → path = some given → given ≠ "" → s.world.disk.IsConsistent →
      again.disk = s.world.disk → t.outcome whole = .ok () → Seamless above old new below →
      Alike s.world.disk (t.step part).held
        (Upkeep.scratch other matcher again given (some (above ++ (new ++ below)))).held := by
  obtain ⟨read, declarations, part, whole, readPart, readWhole, same⟩ := exists_reread length done
  have joins (seamless : Seamless above old new below) :
      (s.step (.whole path (above ++ (old ++ below)))).after (.part path above new) =
        (s.step (.whole path (above ++ (old ++ below)))).after
          (.whole path (above ++ (new ++ below))) := by
    refine after_update_congr ?_
    rw [readPart, readWhole, same.2 seamless]
  refine ⟨joins, fun ended equal => ?_, ?_⟩
  · have ended' : (s.step (.whole path (above ++ (old ++ below)))).outcome (.part path above new) =
        .ok () :=
      (congrArg Prod.fst equal).trans ended
    obtain ⟨sheet, reread, held⟩ := content_updated Sheet.imports (fun _ _ => rfl) ended'
    obtain ⟨sheet', reread', held'⟩ := content_updated Sheet.imports (fun _ _ => rfl) ended
    obtain ⟨_, _, rfl⟩ := map_eq_ok.1 (readPart.symm.trans reread)
    obtain ⟨_, _, rfl⟩ := map_eq_ok.1 (readWhole.symm.trans reread')
    have states := congrArg Prod.snd equal
    refine same.1 (Option.some.inj (held.symm.trans (.trans ?_ held')))
    exact congrArg (fun t : State => t.held.sheets[_]?.map Sheet.imports) states
  · rintro owner other matcher given again new rfl named consistent again' ended seamless
    obtain ⟨held, world⟩ := s
    obtain rfl : held = .new owner matcher := new
    rw [show State.step _ _ = _ from congrArg Prod.snd (joins seamless)]
    exact alike_scratch_twice named consistent done ended other again'

def Torn (s : State) (path : String) (above old new below : List String) : Prop :=
  let t := s.step (.whole (some path) (above ++ (old ++ below)))
  let part := t.step (.part (some path) above new)
  let whole := t.step (.whole (some path) (above ++ (new ++ below)))
  new.length = old.length ∧ s.outcome (.whole (some path) (above ++ (old ++ below))) = .ok () ∧
    t.outcome (.part (some path) above new) = .ok () ∧
    t.outcome (.whole (some path) (above ++ (new ++ below))) = .ok () ∧
    part.held.definitions ≠ whole.held.definitions ∧
      part.held.sheets.keys ≠ whole.held.sheets.keys ∧
    part.held.watches.keys ≠ whole.held.watches.keys ∧
    part.held.importsOf s.world.disk (some path) ≠ whole.held.importsOf s.world.disk (some path)

def unread : State := start 0 (some Upkeep.sixDigits) Upkeep.worldBefore

def closedLines : List String := ["@import", "\"v\";", "$d: #333333;", "$e: $d;"]

def closedLinesNow : List String := ["@import", "\"v\";", "$d: $c;", "$e: $d;"]

def partedAfter : State :=
  (unread.step (.whole (some "/main.scss") closedLines)).step
    (.part (some "/main.scss") ["@import", "\"v\";"] ["$d: $c;"])

theorem after_part_closed :
    unread.outcome (.whole (some "/main.scss") closedLines) = .ok () ∧
      partedAfter.held.definitions.toList = [("c", "111111"), ("d", "111111"), ("e", "111111")] ∧
      (unread.step (.whole (some "/main.scss") closedLines)).after
          (.part (some "/main.scss") ["@import", "\"v\";"] ["$d: $c;"]) =
        (unread.step (.whole (some "/main.scss") closedLines)).after
          (.whole (some "/main.scss") closedLinesNow) ∧
      Alike unread.world.disk partedAfter.held
        (Upkeep.scratch 1 (some Upkeep.sixDigits) Upkeep.worldBefore "/main.scss"
          (some closedLinesNow)).held := by
  have done : unread.outcome (.whole (some "/main.scss")
      (["@import", "\"v\";"] ++ (["$d: #333333;"] ++ ["$e: $d;"]))) = .ok () :=
    eq_ok_of_toOption (by decide +kernel)
  have ended : (unread.step (.whole (some "/main.scss") closedLines)).outcome
      (.whole (some "/main.scss") closedLinesNow) = .ok () :=
    eq_ok_of_toOption (by decide +kernel)
  have seamless : Seamless ["@import", "\"v\";"] ["$d: #333333;"] ["$d: $c;"] ["$e: $d;"] :=
    ⟨by decide +kernel, by decide +kernel⟩
  have consistent : unread.world.disk.IsConsistent := Upkeep.isConsistent_diskWith _ _
  have length : ["$d: $c;"].length = ["$d: #333333;"].length := rfl
  obtain ⟨joins, -, anew⟩ := after_part_iff length done
  exact ⟨done, by decide +kernel, joins seamless,
    anew 0 1 (some Upkeep.sixDigits) "/main.scss" Upkeep.worldBefore rfl rfl (by decide)
      consistent rfl ended
      seamless⟩

/-- A list that is open above a part goes unseen in it, and one that the part opens goes unseen
below it. -/
theorem torn_open : Torn unread "/main.scss" ["@import"] ["\"w\";"] ["\"v\";"] [] ∧
    Torn unread "/main.scss" [] ["$d: #333333;"] ["@import"] ["\"v\";"] := by
  refine ⟨⟨rfl, eq_ok_of_toOption ?_, eq_ok_of_toOption ?_, eq_ok_of_toOption ?_, ?_⟩,
    ⟨rfl, eq_ok_of_toOption ?_, eq_ok_of_toOption ?_, eq_ok_of_toOption ?_, ?_⟩⟩ <;> decide +kernel

end State

end ColorSpans.Sass
