import ColorSpans.Proofs.Sass.Contents
import ColorSpans.Proofs.Sass.Likeness
import ColorSpans.Proofs.Sass.Reading
import ColorSpans.Proofs.Sass.Trail

/-! New variables that read a whole text. What they define depends on the disk, the matcher, the
path and the text, and not on who owns them or which watches there are. -/
namespace ColorSpans.Sass

theorem Course.of_same {l l' : Loader} {visiting : List String} {task : Task} {s s' t : Loaded}
    {notes : List Note} {outcome : Except LoadError (List String)}
    (h : Course l visiting task s notes outcome s') (matcher : l'.matcher = l.matcher)
    (root : l'.root = l.root) (same : s.Same t) :
    ∃ t', Course l' visiting task t notes outcome t' ∧ s'.Same t' := by
  induction h generalizing t with
  | unreadable lines => exact ⟨_, .unreadable (same.disk ▸ lines), (same.noteRead _).drop _⟩
  | unparsable found bad =>
      exact ⟨_, .unparsable (same.disk ▸ found) (matcher ▸ bad), same.noteRead _⟩
  | parsed found good _ ih =>
    obtain ⟨t', course, after⟩ := ih ((same.noteRead _).take _ l'.owner _ _ _)
    exact ⟨t', .parsed (same.disk ▸ found) (matcher ▸ good) course, after⟩
  | absent gone => exact ⟨t, .absent (same.sheets ▸ gone), same⟩
  | linked there _ still ih =>
    obtain ⟨t', course, after⟩ := ih same
    exact ⟨_, .linked (same.sheets ▸ there) course (after.sheets ▸ still), after.link _ _ _⟩
  | lost there _ gone ih =>
    obtain ⟨t', course, after⟩ := ih same
    exact ⟨t', .lost (same.sheets ▸ there) course (after.sheets ▸ gone), after⟩
  | broken there _ ih =>
    obtain ⟨t', course, after⟩ := ih same
    exact ⟨t', .broken (same.sheets ▸ there) course, after⟩
  | done => exact ⟨t, .done, same⟩
  | own other _ ih =>
    obtain ⟨t', course, after⟩ := ih same
    rw [same.disk] at other course
    exact ⟨t', .own (root.trans other) course, after⟩
  | missing other gone _ ih =>
    obtain ⟨t', course, after⟩ := ih (same.drop _)
    rw [same.disk] at other gone course ⊢
    exact ⟨t', .missing (root ▸ other) gone course, after⟩
  | known other there seen _ ih =>
    obtain ⟨t', course, after⟩ := ih same
    rw [same.isCurrent_eq, same.disk] at seen
    rw [same.disk] at other there course
    exact ⟨t', .known (root ▸ other) there seen course, after⟩
  | loaded other there unseen stale _ _ first second =>
    obtain ⟨t', course, between⟩ := first same
    obtain ⟨t'', course', after⟩ := second between
    rw [same.isCurrent_eq, same.disk] at stale
    rw [same.disk] at other there unseen course course'
    exact ⟨t'', .loaded (root ▸ other) there unseen stale course course', after⟩
  | failed other there unseen stale _ ih =>
    obtain ⟨t', course, after⟩ := ih same
    rw [same.isCurrent_eq, same.disk] at stale
    rw [same.disk] at other there unseen course
    exact ⟨t', .failed (root ▸ other) there unseen stale course, after⟩

theorem mergeSheets_silent {sheets : Sheets} (silent : Throughout (·.declarations = ∅) sheets)
    (order : List String) : mergeSheets sheets order = ∅ := by
  rw [mergeSheets]
  induction order with
  | nil => rfl
  | cons path order ih =>
    rw [List.foldl_cons]
    cases there : sheets[path]? with
    | none => exact ih
    | some sheet =>
      have flat : sheet.flatten = ∅ := by
        rw [Sheet.flatten, silent path sheet there]
        rfl
      dsimp only
      rw [flat]
      exact ih

namespace State

variable {owner : Nat} {matcher : Option Matcher} {world : World} {path : Option String}
  {lines : List String}

def anew (disk : Disk) (matcher : Option Matcher) (path : Option String) (lines : List String) :
    Definitions :=
  ((start 0 matcher ⟨disk, [], []⟩).step (.update path lines .whole)).held.definitions

theorem definitions_eq_anew
    (done : (start owner matcher world).outcome (.update path lines .whole) = .ok ()) :
    ((start owner matcher world).step (.update path lines .whole)).held.definitions =
      anew world.disk matcher path lines := by
  have move := (start owner matcher world).moves (.update path lines .whole)
  have move' := (start 0 matcher ⟨world.disk, [], []⟩).moves (.update path lines .whole)
  rw [done] at move
  unfold anew
  generalize (start owner matcher world).step (.update path lines .whole) = t at move ⊢
  generalize (start 0 matcher ⟨world.disk, [], []⟩).step (.update path lines .whole) = t' at move' ⊢
  generalize (start 0 matcher ⟨world.disk, [], []⟩).outcome (.update path lines .whole) =
    outcome at move'
  cases move with
  | @updated _ _ _ key sheet notes edges after named good course =>
    -- For both owners the buffer's own sheet is all that there is at first.
    have again : ∃ after',
        Course ((start 0 matcher ⟨world.disk, [], []⟩).held.setRoot key).loader [key]
        (.imports key) ((start 0 matcher ⟨world.disk, [], []⟩).held.startRoot
          (start 0 matcher ⟨world.disk, [], []⟩).world key sheet) notes (.ok edges) after' ∧
        after.Same after' :=
      course.of_same rfl rfl ⟨rfl, rfl, rfl, fun _ => Iff.rfl⟩
    obtain ⟨after', alike, same⟩ := again
    cases move' with
    | unread bad =>
      cases named
      cases good.symm.trans bad
    | unloaded named' good' course' =>
      obtain rfl := named.symm.trans named'
      obtain rfl := Except.ok.inj (good.symm.trans good')
      cases (alike.unique course').2.1
    | updated named' good' course' =>
      obtain rfl := named.symm.trans named'
      obtain rfl := Except.ok.inj (good.symm.trans good')
      obtain ⟨-, -, rfl⟩ := alike.unique course'
      exact Variables.definitions_commit_congr rfl same.sheets

theorem anew_nil (disk : Disk) (matcher : Option Matcher) (path : Option String) :
    anew disk matcher path [] = ∅ := by
  have move := (start 0 matcher ⟨disk, [], []⟩).moves (.update path [] .whole)
  unfold anew
  generalize (start 0 matcher ⟨disk, [], []⟩).step (.update path [] .whole) = t at move ⊢
  generalize (start 0 matcher ⟨disk, [], []⟩).outcome (.update path [] .whole) = outcome at move
  cases move with
  | unread | unloaded => rfl
  | @updated _ _ _ key sheet _ _ after named good course =>
    have read : (Sheet.readFrom matcher ((((∅ : Sheets)[key]?).getD .empty).erase .whole) 0 false
        []).mapError LoadError.numeral = .ok sheet := good
    rw [Std.ExtTreeMap.getElem?_empty, Option.getD_none,
      Sheet.erase_whole Sheet.numbered_empty] at read
    obtain rfl := Except.ok.inj read
    have single : Throughout (·.declarations = ∅) ((∅ : Sheets).insert key .empty) :=
      Throughout.insert (fun _ _ there => by simp at there) key rfl
    have silent : Throughout (·.declarations = ∅) after.sheets := by
      cases course with
      | @linked _ _ _ own _ _ _ own' there rest still =>
        have began : ((∅ : Sheets).insert key .empty)[key]? = some own := there
        rw [Std.ExtTreeMap.getElem?_insert_self] at began
        obtain rfl := Option.some.inj began
        have nothing : Sheet.empty.candidates key = [] := rfl
        rw [nothing] at rest
        cases rest
        exact single.insert key (single key own' still)
    exact (Variables.definitions_commit rfl).trans
      ((congrArg resolveAll (mergeSheets_silent silent.commit _)).trans Reachable.resolveAll_empty)

end State

end ColorSpans.Sass
