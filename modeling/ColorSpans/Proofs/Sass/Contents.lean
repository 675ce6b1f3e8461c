import ColorSpans.Proofs.Sass.Steps

/-! What holds of every sheet, whatever is loaded and whatever fails on the way. -/
namespace ColorSpans.Sass

/-- A property of sheets that reading lines keeps, and that has nothing to do with edges. -/
structure KeptByReading (matcher : Option Matcher) (P : Sheet → Prop) : Prop where
  empty : P .empty
  erase : ∀ (sheet : Sheet) (range : Sheet.Range), P sheet → P (sheet.erase range)
  read : ∀ (sheet out : Sheet) (first : Int) (pending : Bool) (lines : List String), P sheet →
    Sheet.readFrom matcher sheet first pending lines = .ok out → P out
  edges : ∀ (sheet : Sheet) (edges : List String), P sheet → P { sheet with edges }

def Throughout (P : Sheet → Prop) (sheets : Sheets) : Prop :=
  ∀ (path : String) (sheet : Sheet), sheets[path]? = some sheet → P sheet

namespace Throughout

variable {P : Sheet → Prop} {sheets : Sheets}

theorem insert (h : Throughout P sheets) (path : String) {sheet : Sheet} (good : P sheet) :
    Throughout P (sheets.insert path sheet) := by
  intro other found there
  rcases of_getElem?_insert there with ⟨-, rfl⟩ | ⟨-, there⟩
  · exact good
  · exact h other found there

theorem erase (h : Throughout P sheets) (path : String) : Throughout P (sheets.erase path) := by
  intro other found there
  rw [Std.ExtTreeMap.getElem?_erase] at there
  split at there
  · cases there
  · exact h other found there

theorem commit {v : Variables} {s : Loaded} (h : Throughout P s.sheets) :
    Throughout P (v.commit s).1.sheets := by
  exact fun path sheet kept => h path sheet (Variables.of_sheets_commit kept)

theorem sheetsWithoutOldRoot {v : Variables} (h : Throughout P v.sheets) (key : String) :
    Throughout P (v.sheetsWithoutOldRoot key) := by
  rw [Variables.sheetsWithoutOldRoot]
  split
  · split
    · exact h
    · exact h.erase _
  · exact h

end Throughout

theorem Course.throughout {l : Loader} {visiting : List String} {task : Task} {s s' : Loaded}
    {notes : List Note} {outcome : Except LoadError (List String)} {P : Sheet → Prop}
    (h : Course l visiting task s notes outcome s') (kept : KeptByReading l.matcher P)
    (before : Throughout P s.sheets) : Throughout P s'.sheets := by
  induction h with
  | @unreadable _ path _ s =>
    rw [Loaded.sheets_drop]
    exact before.erase path
  | unparsable | absent | done => exact before
  | @parsed _ path _ s lines sheet _ _ _ _ good _ ih =>
    refine ih ?_
    rw [Loaded.sheets_take]
    exact before.insert path (kept.read _ _ _ _ lines kept.empty good)
  | @linked _ importer _ _ _ edges s' sheet' _ _ still ih =>
    rw [Loaded.sheets_link]
    exact (ih before).insert importer (kept.edges sheet' edges (ih before importer sheet' still))
  | lost _ _ _ ih | broken _ _ ih | own _ _ ih | known _ _ _ _ ih | failed _ _ _ _ _ ih =>
    exact ih before
  | missing _ _ _ ih =>
    refine ih ?_
    rw [Loaded.sheets_drop]
    exact before.erase _
  | loaded _ _ _ _ _ _ first second => exact second (first before)

theorem Moves.throughout {s s' : State} {a : Step} {outcome : Except LoadError Unit}
    {P : Sheet → Prop} (h : Moves s a outcome s') (kept : KeptByReading s.held.matcher P)
    (before : Throughout P s.held.sheets) :
    Throughout P s'.held.sheets := by
  cases h with
  | unread | unloaded | unwatched | stuck | outside => exact before
  | @updated path lines range key sheet _ _ _ _ good course =>
    have old : P (((s.held.sheetsWithoutOldRoot key)[key]?).getD .empty) := by
      cases found : (s.held.sheetsWithoutOldRoot key)[key]? with
      | none => exact kept.empty
      | some own => exact before.sheetsWithoutOldRoot key key own found
    have new : P sheet := by
      rw [Variables.rereadSheet] at good
      cases read : Sheet.readFrom s.held.matcher
          ((((s.held.sheetsWithoutOldRoot key)[key]?).getD .empty).erase range)
          range.start false lines with
      | error e => rw [read] at good; cases good
      | ok out =>
        rw [read] at good
        obtain rfl := Except.ok.inj good
        exact kept.read _ _ _ _ lines (kept.erase _ range old) read
    exact (course.throughout kept ((before.sheetsWithoutOldRoot key).insert key new)).commit
  | @gone path =>
    refine Throughout.commit ?_
    rw [Loaded.sheets_drop]
    exact before.erase path
  | reloaded _ _ course => exact (course.throughout kept before).commit
  | closed => exact fun path sheet there => by simp [Variables.close, Variables.new] at there

theorem Moves.matcher_eq {s s' : State} {a : Step} {outcome : Except LoadError Unit}
    (h : Moves s a outcome s') : s'.held.matcher = s.held.matcher := by
  cases h <;> rfl

namespace Reachable

variable {owner : Nat} {matcher : Option Matcher} {s : State}

theorem matcher_eq (h : Reachable owner matcher s) : s.held.matcher = matcher := by
  induction h with
  | start world => rfl
  | step a _ ih => exact (State.moves _ a).matcher_eq.trans ih

theorem throughout (h : Reachable owner matcher s) {P : Sheet → Prop}
    (kept : KeptByReading matcher P) :
    Throughout P s.held.sheets := by
  induction h with
  | start world => exact fun path sheet there => by simp [State.start, Variables.new] at there
  | step a before ih => exact (State.moves _ a).throughout (before.matcher_eq ▸ kept) ih

theorem resolveAll_empty : resolveAll ∅ = ∅ := by
  refine Std.ExtTreeMap.filterMap_eq_empty_iff.2 fun name there => ?_
  exact absurd there Std.ExtTreeMap.not_mem_empty

theorem definitions_eq (h : Reachable owner matcher s) :
    ∃ order, s.held.definitions = resolveAll (mergeSheets s.held.sheets order) := by
  induction h with
  | start world => exact ⟨[], resolveAll_empty.symm⟩
  | @step s a _ ih =>
    have move := s.moves a
    generalize s.step a = t at move ⊢
    generalize s.outcome a = outcome at move
    cases move with
    | unread | unloaded | unwatched | stuck | outside => exact ih
    | updated | gone | reloaded => exact ⟨_, rfl⟩
    | closed => exact ⟨[], resolveAll_empty.symm⟩

end Reachable

end ColorSpans.Sass
