import ColorSpans.Proofs.Sass.Failure

/-! Whose lines are held. The buffer's own file is given by updates and never read from the disk,
unless an update takes up a file that an import has brought in before. -/
namespace ColorSpans.Sass

def Sheets.sheet (sheets : Sheets) (path : String) : Sheet := sheets[path]?.getD .empty

theorem Sheets.declarations_sheet_congr {sheets sheets' : Sheets} {path : String}
    (same : sheets'[path]?.map Sheet.declarations = sheets[path]?.map Sheet.declarations) :
    (sheets'.sheet path).declarations = (sheets.sheet path).declarations := by
  rw [sheet, sheet]
  cases there : sheets[path]? with
  | none =>
    rw [there, Option.map_none, Option.map_eq_none_iff] at same
    rw [same]
  | some held =>
    rw [there] at same
    obtain ⟨held', found, equal⟩ := Option.map_eq_some_iff.1 same
    rw [found]
    exact equal

theorem Sheets.mem_of_declarations {sheets : Sheets} {path : String}
    {found : Std.ExtTreeMap Int Declarations}
    (there : sheets[path]?.map Sheet.declarations = some found) : path ∈ sheets := by
  obtain ⟨sheet, held, _⟩ := Option.map_eq_some_iff.1 there
  exact mem_of_sheet held

theorem Sheet.exists_said {matcher : Option Matcher} {base out : Sheet} {first : Int}
    {pending : Bool}
    {lines : List String} (read : readFrom matcher base first pending lines = .ok out) :
    ∃ said : Int → Option Declarations, ∀ other : Sheet,
      ∃ out', readFrom matcher other first pending lines = .ok out' ∧ ∀ number : Int,
        out'.declarations[number]? = (said number).or other.declarations[number]? := by
  induction lines generalizing base first pending with
  | nil => exact ⟨fun _ => none, fun other => ⟨other, rfl, fun _ => rfl⟩⟩
  | cons line lines ih =>
    obtain ⟨found, declared, rest⟩ := bind_eq_ok.1 read
    obtain ⟨said, covers⟩ := ih rest
    refine ⟨fun number => (said number).or
      (if first = number ∧ found.isEmpty = false then some found else none),
      fun other => ?_⟩
    obtain ⟨out', read', same⟩ := covers ((other.addDeclarations first found).addImports first
      (readImports pending (dropComments line.toList)).targets)
    refine ⟨out', ?_, fun number => ?_⟩
    · rw [readFrom]
      exact bind_eq_ok.2 ⟨found, declared, read'⟩
    · rw [same number, Option.or_assoc]
      refine congrArg (Option.or (said number)) ?_
      have unaffected : ∀ (sheet : Sheet) (targets : List String),
          (sheet.addImports first targets).declarations = sheet.declarations := by
        intro sheet targets
        rw [addImports]
        split <;> rfl
      rw [unaffected, addDeclarations]
      cases empty : found.isEmpty with
      | true => simp
      | false => by_cases here : first = number <;> simp [Std.ExtTreeMap.getElem?_insert, here]

theorem Sheet.exists_alone {matcher : Option Matcher} {base out : Sheet} {first : Int}
    {pending : Bool}
    {lines : List String} (read : readFrom matcher base first pending lines = .ok out) :
    ∃ alone, readFrom matcher .empty first pending lines = .ok alone ∧
      ∀ other : Sheet, ∃ out', readFrom matcher other first pending lines = .ok out' ∧
        ∀ number : Int, out'.declarations[number]? =
          alone.declarations[number]?.or other.declarations[number]? := by
  obtain ⟨said, covers⟩ := exists_said read
  obtain ⟨alone, read', same⟩ := covers .empty
  have told : ∀ number : Int, alone.declarations[number]? = said number := by
    intro number
    rw [same number]
    exact Option.or_none
  refine ⟨alone, read', fun other => ?_⟩
  obtain ⟨out', read'', same'⟩ := covers other
  refine ⟨out', read'', fun number => ?_⟩
  rw [same' number, told number]

theorem Sheet.declarations_eq_none_iff {sheet : Sheet} {number : Int} :
    sheet.declarations[number]? = none ↔ number ∉ sheet.declarations := by
  rw [Std.ExtTreeMap.mem_iff_isSome_getElem?, Option.not_isSome_iff_eq_none]

theorem Sheet.declarations_eq_iff {alone base base' out out' : Sheet}
    (covers : ∀ number : Int,
      out.declarations[number]? = alone.declarations[number]?.or base.declarations[number]?)
    (covers' : ∀ number : Int,
      out'.declarations[number]? = alone.declarations[number]?.or base'.declarations[number]?) :
    out.declarations = out'.declarations ↔ ∀ number : Int, number ∉ alone.declarations →
      base.declarations[number]? = base'.declarations[number]? := by
  constructor
  · intro same number unsaid
    have equal := covers number
    rw [same, covers' number, declarations_eq_none_iff.2 unsaid] at equal
    exact equal.symm
  · intro same
    refine Std.ExtTreeMap.ext_getElem? fun number => ?_
    rw [covers number, covers' number]
    cases said : alone.declarations[number]? with
    | some found => rfl
    | none => rw [same number (declarations_eq_none_iff.1 said)]

namespace Variables

variable {v : Variables} {s : Loaded} {root : String}

theorem rereadSheet_eq (key : String) (lines : List String) (range : Sheet.Range) :
    v.rereadSheet key lines range =
      (Sheet.readFrom v.matcher ((v.sheets.sheet key).erase range) range.start
      false lines).mapError .numeral := by
  have kept : (v.sheetsWithoutOldRoot key)[key]? = v.sheets[key]? := by
    rw [sheetsWithoutOldRoot]
    split
    · split
      · rfl
      · rename_i other
        rw [Std.ExtTreeMap.getElem?_erase, if_neg (mt Std.LawfulEqCmp.eq_of_compare other)]
    · rfl
  rw [rereadSheet, kept]
  rfl

theorem readFrom_of_rereadSheet {key : String} {lines : List String} {range : Sheet.Range}
    {sheet : Sheet} (good : v.rereadSheet key lines range = .ok sheet) :
    Sheet.readFrom v.matcher ((v.sheets.sheet key).erase range) range.start false lines =
      .ok sheet := by
  rw [rereadSheet_eq] at good
  cases read : Sheet.readFrom v.matcher ((v.sheets.sheet key).erase range) range.start
    false lines with
  | error e =>
    rw [read] at good
    cases good
  | ok out =>
    rw [read] at good
    rw [Except.ok.inj good]

theorem getElem?_sheets_commit_root (rooted : v.root = some root) :
    (v.commit s).1.sheets[root]? = s.sheets[root]? := by
  rw [v.getElem?_sheets_commit, rooted]
  split
  · rfl
  · rename_i lost
    have absent : root ∉ s.sheets := fun there => lost (root_mem_reachable there)
    exact (Std.ExtTreeMap.getElem?_eq_none absent).symm

theorem mem_watches_commit_root (rooted : v.root = some root) :
    root ∈ (v.commit s).1.watches ↔ root ∈ s.watches := by
  have kept : root ∉ v.swept s := by
    rw [mem_swept, rooted]
    exact fun ⟨there, lost⟩ => lost (root_mem_reachable there)
  rw [Std.ExtTreeMap.mem_iff_isSome_getElem?, getElem?_watches_commit, if_neg kept,
    Std.ExtTreeMap.mem_iff_isSome_getElem?]

end Variables

theorem Course.spares {l : Loader} {visiting : List String} {task : Task} {s t : Loaded}
    {notes : List Note}
    {outcome : Except LoadError (List String)} (h : Course l visiting task s notes outcome t)
    {root : String}
    (rooted : l.root = some root) (other : ∀ stamp, task ≠ .file root stamp) (paired : s.Paired) :
    (root ∈ t.watches ↔ root ∈ s.watches) ∧
      t.sheets[root]?.map Sheet.declarations = s.sheets[root]?.map Sheet.declarations := by
  have untold := h.notes_spare rooted other
  have none : Note.last notes root = none := by
    cases told : Note.last notes root with
    | none => rfl
    | some note => exact absurd (Note.path_of_last told) (untold note (Note.mem_of_last told))
  have stamps : t.stamps[root]? = s.stamps[root]? := by
    rw [h.getElem?_stamps, none]
    rfl
  refine ⟨?_, h.declarations_untold untold⟩
  rw [h.paired paired root, paired root, Std.ExtTreeMap.mem_iff_isSome_getElem?, stamps,
    Std.ExtTreeMap.mem_iff_isSome_getElem?]

namespace State

def readsOf (s : State) : Step → List String
  | .outside _ => []
  | a => (s.step a).world.reads.drop s.world.reads.length

theorem readsOf_eq {s : State} {a : Step} {new : List String} (inside : ∀ world, a ≠ .outside world)
    (grown : (s.step a).world.reads = s.world.reads ++ new) : s.readsOf a = new := by
  cases a with
  | outside world => exact absurd rfl (inside world)
  | update | fire | close => simp only [readsOf, grown, List.drop_left]

section

variable {owner : Nat} {matcher : Option Matcher} {s : State} {a : Step} {root : String}

theorem root_of_step (other : ∀ given lines range, a ≠ .update given lines range)
    (rooted : (s.step a).held.root = some root) : s.held.root = some root := by
  have move := s.moves a
  generalize s.step a = t at move rooted
  generalize s.outcome a = outcome at move
  cases move with
  | unread | unloaded | updated => exact absurd rfl (other _ _ _)
  | unwatched | gone | stuck | reloaded | outside => exact rooted
  | closed => exact absurd rooted (Option.some_ne_none _).symm

theorem unread_root (rooted : (s.step a).held.root = some root)
    (apart : ∀ path, a = .fire path → root ∉ s.held.watches) : root ∉ s.readsOf a := by
  by_cases inside : ∀ world, a ≠ .outside world
  · have reads : ∃ new, (s.step a).world.reads = s.world.reads ++ new ∧ root ∉ new := by
      have move := s.moves a
      generalize s.step a = t at move rooted ⊢
      generalize s.outcome a = outcome at move
      cases move with
      | unread | unwatched => exact ⟨[], by simp, List.not_mem_nil⟩
      | unloaded named good course =>
        obtain ⟨new, grown, spare⟩ := course.reads_grow
        exact ⟨new, grown, spare root rooted fun _ => Task.noConfusion⟩
      | updated named good course =>
        obtain ⟨new, grown, spare⟩ := course.reads_grow
        exact ⟨new, (Variables.reads_commit _ _).trans grown,
          spare root rooted fun _ => Task.noConfusion⟩
      | gone => exact ⟨[], by simp [Variables.start], List.not_mem_nil⟩
      | @stuck path stamp _ _ _ watched there course =>
        obtain ⟨new, grown, spare⟩ := course.reads_grow
        refine ⟨new, grown, spare root rooted fun _ same => apart path rfl ?_⟩
        exact (Task.file.inj same).1 ▸ watched
      | @reloaded path stamp _ _ _ watched there course =>
        obtain ⟨new, grown, spare⟩ := course.reads_grow
        refine ⟨new, (Variables.reads_commit _ _).trans grown,
          spare root rooted fun _ same => apart path rfl ?_⟩
        exact (Task.file.inj same).1 ▸ watched
      | closed => exact absurd rooted (Option.some_ne_none _).symm
      | outside => exact absurd rfl (inside _)
    obtain ⟨new, grown, unread⟩ := reads
    rwa [readsOf_eq inside grown]
  · simp only [not_forall, not_not] at inside
    obtain ⟨world, rfl⟩ := inside
    exact List.not_mem_nil

theorem watched_root (reachable : Reachable owner matcher s)
    (rooted : (s.step a).held.root = some root)
    (apart : ∀ path, a = .fire path → root ∉ s.held.watches) :
    root ∈ (s.step a).held.watches ↔ root ∈ s.held.watches := by
  have paired := reachable.paired
  have move := s.moves a
  generalize s.step a = t at move rooted ⊢
  generalize s.outcome a = outcome at move
  cases move with
  | unread | unwatched | outside => exact Iff.rfl
  | unloaded _ _ course => exact (course.spares rooted (fun _ => Task.noConfusion) paired).1
  | updated _ _ course =>
    exact (Variables.mem_watches_commit_root rooted).trans
      (course.spares rooted (fun _ => Task.noConfusion) paired).1
  | @gone path watched =>
    have rooted : s.held.root = some root := rooted
    have other : path ≠ root := fun same => apart path rfl (same ▸ watched)
    rw [Variables.mem_watches_commit_root rooted, Loaded.watches_drop, Std.ExtTreeMap.mem_erase]
    exact ⟨And.right, fun there => ⟨mt Std.LawfulEqCmp.eq_of_compare other, there⟩⟩
  | @stuck path _ _ _ _ watched _ course =>
    exact (course.spares rooted
      (fun _ same => apart path rfl ((Task.file.inj same).1 ▸ watched)) paired).1
  | @reloaded path _ _ _ _ watched _ course =>
    exact (Variables.mem_watches_commit_root rooted).trans
      (course.spares rooted (fun _ same =>
        apart path rfl ((Task.file.inj same).1 ▸ watched)) paired).1
  | closed => exact absurd rooted (Option.some_ne_none _).symm

theorem declarations_root (reachable : Reachable owner matcher s)
    (rooted : (s.step a).held.root = some root)
    (apart : ∀ path, a = .fire path → root ∉ s.held.watches)
    (idle : ∀ path lines range, a = .update path lines range → s.outcome a ≠ .ok ()) :
    (s.step a).held.sheets[root]?.map Sheet.declarations =
      s.held.sheets[root]?.map Sheet.declarations := by
  have paired := reachable.paired
  have move := s.moves a
  generalize s.step a = t at move rooted ⊢
  generalize s.outcome a = outcome at move idle
  cases move with
  | unread | unloaded | unwatched | stuck | outside => rfl
  | updated => exact absurd rfl (idle _ _ _ rfl)
  | @gone path watched =>
    have rooted : s.held.root = some root := rooted
    have other : path ≠ root := fun same => apart path rfl (same ▸ watched)
    rw [Variables.getElem?_sheets_commit_root rooted, Loaded.sheets_drop,
      Std.ExtTreeMap.getElem?_erase,
      if_neg (mt Std.LawfulEqCmp.eq_of_compare other)]
    rfl
  | @reloaded path _ _ _ _ watched _ course =>
    have rooted : s.held.root = some root := rooted
    rw [Variables.getElem?_sheets_commit_root rooted]
    exact (course.spares rooted
      (fun _ same => apart path rfl ((Task.file.inj same).1 ▸ watched)) paired).2
  | closed => exact absurd rooted (Option.some_ne_none _).symm

theorem content_updated {β : Type} (content : Sheet → β)
    (blind : ∀ (sheet : Sheet) (edges : List String), content { sheet with edges } = content sheet)
    {path : Option String} {lines : List String} {range : Sheet.Range}
    (done : s.outcome (.update path lines range) = .ok ()) :
    ∃ sheet, s.held.rereadSheet (Variables.keyOf s.world.disk path) lines range = .ok sheet ∧
      (s.step (.update path lines range)).held.sheets[Variables.keyOf s.world.disk path]?.map
        content = some (content sheet) := by
  have move := s.moves (.update path lines range)
  rw [done] at move
  generalize s.step (.update path lines range) = t at move ⊢
  cases move with
  | @updated _ _ _ key sheet _ _ _ named good course =>
    subst named
    refine ⟨sheet, good, ?_⟩
    rw [Variables.getElem?_sheets_commit_root rfl,
      course.content_untold blind (course.notes_spare rfl fun _ => Task.noConfusion),
      Variables.startRoot, Std.ExtTreeMap.getElem?_insert_self]
    rfl

end

theorem declarations_unread {s : State} {a : Step} {path : String} {sheet' : Sheet}
    (found : (s.step a).held.sheets[path]? = some sheet') (unread : path ∉ s.readsOf a)
    (other : ∀ given lines range,
      a = .update given lines range → Variables.keyOf s.world.disk given ≠ path) :
    ∃ sheet, s.held.sheets[path]? = some sheet ∧ sheet.declarations = sheet'.declarations := by
  have reads : ∀ new, (∀ world, a ≠ .outside world) →
      (s.step a).world.reads = s.world.reads ++ new → path ∉ new :=
    fun new inside grown => readsOf_eq inside grown ▸ unread
  have move := s.moves a
  generalize s.step a = t at move found reads
  generalize s.outcome a = outcome at move
  cases move with
  | unread | unloaded | unwatched | stuck | outside => exact ⟨sheet', found, rfl⟩
  | @updated given lines range key _ _ _ t named good course =>
    obtain ⟨new, grown, _⟩ := course.reads_grow
    have unread := reads new (fun _ => Step.noConfusion) ((Variables.reads_commit _ _).trans grown)
    obtain ⟨sheet, there, same⟩ :=
      course.declarations_unread grown unread (Variables.of_sheets_commit found)
    have apart : key ≠ path := named ▸ other given lines range rfl
    rw [Variables.startRoot, Std.ExtTreeMap.getElem?_insert,
      if_neg (mt Std.LawfulEqCmp.eq_of_compare apart),
      Variables.sheetsWithoutOldRoot] at there
    split at there
    · split at there
      · exact ⟨sheet, there, same⟩
      · rw [Std.ExtTreeMap.getElem?_erase] at there
        split at there
        · cases there
        · exact ⟨sheet, there, same⟩
    · exact ⟨sheet, there, same⟩
  | gone => exact ⟨sheet', (Loaded.of_sheets_drop (Variables.of_sheets_commit found)).2, rfl⟩
  | reloaded _ _ course =>
    obtain ⟨new, grown, _⟩ := course.reads_grow
    have unread := reads new (fun _ => Step.noConfusion) ((Variables.reads_commit _ _).trans grown)
    exact course.declarations_unread grown unread (Variables.of_sheets_commit found)
  | closed => simp [Variables.close, Variables.new] at found

end State

/-- Variables with what the lines given to updates say, file by file. A file's own lines are
forgotten when its sheet is, and when it is read from the disk. -/
structure Buffered where
  state : State
  own : Sheets

namespace Buffered

def start (owner : Nat) (matcher : Option Matcher) (world : World) : Buffered :=
  ⟨.start owner matcher world, ∅⟩

def key (b : Buffered) (path : Option String) : String := Variables.keyOf b.state.world.disk path

/-- The lines given to an update take the place of a range of those given before. -/
def given (b : Buffered) : Step → Sheets
  | .update path lines range =>
      let key := b.key path
      match Sheet.readFrom b.state.held.matcher
        ((b.own.sheet key).erase range) range.start false lines with
      | .ok sheet => b.own.insert key sheet
      | .error _ => b.own
  | _ => b.own

/-- A step that fails gives nothing. -/
def step (b : Buffered) (a : Step) : Buffered where
  state := b.state.step a
  own := match b.state.outcome a with
    | .ok _ => (b.given a).filter fun path _ =>
        (b.state.step a).held.sheets.contains path && !(b.state.readsOf a).contains path
    | .error _ => b.own

/-- The root is not watched, and declares what its own lines say. -/
structure Owned (b : Buffered) (root : String) : Prop where
  unwatched : root ∉ b.state.held.watches
  declared : (b.state.held.sheets.sheet root).declarations = (b.own.sheet root).declarations

theorem Owned.declarationsOf_eq {b : Buffered} {path : Option String} (h : b.Owned (b.key path)) :
    b.state.held.declarationsOf b.state.world.disk path = (b.own.sheet (b.key path)).flatten := by
  rw [Variables.declarationsOf, Sheet.flatten, ← h.declared]
  show (b.state.held.sheets[b.key path]?.map Sheet.flatten).getD ∅ = _
  rw [Sheets.sheet]
  cases b.state.held.sheets[b.key path]? with
  | some sheet => rfl
  | none =>
    show (∅ : Declarations) = Std.ExtTreeMap.foldl _ ∅ ∅
    rw [Std.ExtTreeMap.foldl_eq_foldl_toList, Std.ExtTreeMap.toList_eq_nil_iff.2 rfl,
      List.foldl_nil]

/-- A step leaves the disk out of the buffer's own file: the root is not read, and is owned
afterwards. -/
def Apart (b : Buffered) (a : Step) : Prop :=
  ∀ root, (b.step a).state.held.root = some root → root ∉ b.state.readsOf a ∧ (b.step a).Owned root

/-- A line of the sheet held of a file outlasts an update of that file. An update that fails changes
no line. -/
def Outlasts (b : Buffered) (path : Option String) (lines : List String) (range : Sheet.Range)
    (number : Int) : Prop :=
  number ∈ (b.state.held.sheets.sheet (b.key path)).declarations ∧
    (b.state.outcome (.update path lines range) = .ok () → range.contains number = false ∧
      ∀ sheet, Sheet.readFrom b.state.held.matcher .empty range.start false lines = .ok sheet →
        number ∉ sheet.declarations)

/-- A step takes up no file of the disk: an update is for a file that is not watched and of which no
line outlasts the update unless the lines are the file's own. -/
def TakesOwn (b : Buffered) : Step → Prop
  | .update path lines range =>
      b.key path ∉ b.state.held.watches ∧
        (b.key path ∈ b.own ∨ ∀ number, ¬ b.Outlasts path lines range number)
  | _ => True

def All (P : Buffered → Step → Prop) : Buffered → List Step → Prop
  | _, [] => True
  | b, a :: steps => P b a ∧ All P (b.step a) steps

/-- What holds all along a run that takes up no file of the disk. -/
structure Sound (b : Buffered) : Prop where
  reachable : ∃ owner matcher, Reachable owner matcher b.state
  own : ∀ (path : String) (sheet : Sheet), b.own[path]? = some sheet →
    ∃ held, b.state.held.sheets[path]? = some held ∧ held.declarations = sheet.declarations
  owned : ∀ root, b.state.held.root = some root → b.Owned root

variable {b : Buffered} {a : Step} {path root : String}

theorem getElem?_given (other : ∀ given lines range, a = .update given lines range →
    b.key given ≠ path) : (b.given a)[path]? = b.own[path]? := by
  cases a with
  | update given lines range =>
    rw [Buffered.given]
    split
    · rw [Std.ExtTreeMap.getElem?_insert,
        if_neg (mt Std.LawfulEqCmp.eq_of_compare (other _ _ _ rfl))]
    · rfl
  | fire | close | outside => rfl

theorem own_step_ok (done : b.state.outcome a = .ok ()) : (b.step a).own[path]? =
    ((b.given a)[path]?).filter fun _ =>
      (b.state.step a).held.sheets.contains path && !(b.state.readsOf a).contains path := by
  rw [Buffered.step]
  simp only [done]
  rw [Std.ExtTreeMap.getElem?_filter']

theorem own_step_error {e : LoadError} (failed : b.state.outcome a = .error e) :
    (b.step a).own = b.own := by
  rw [Buffered.step]
  simp only [failed]

theorem Sound.own_step (h : b.Sound) {sheet : Sheet} (there : (b.step a).own[path]? = some sheet)
    (other : b.state.outcome a = .ok () → ∀ given lines range, a = .update given lines range →
      b.key given ≠ path) :
    ∃ held, (b.step a).state.held.sheets[path]? = some held ∧
      held.declarations = sheet.declarations := by
  cases ended : b.state.outcome a with
  | error e =>
    obtain ⟨notes, fails⟩ := State.exists_fails ended
    rw [own_step_error ended] at there
    show ∃ held, (b.state.step a).held.sheets[path]? = some held ∧ _
    rw [fails.leaves.2.sheets]
    exact h.own path sheet there
  | ok =>
    rw [own_step_ok ended, getElem?_given (other ended)] at there
    obtain ⟨kept, condition⟩ := Option.filter_eq_some_iff.1 there
    rw [Bool.and_eq_true, Bool.not_eq_true', Std.ExtTreeMap.contains_iff_mem] at condition
    obtain ⟨held, found⟩ := exists_sheet condition.1
    have unread : path ∉ b.state.readsOf a := by simpa using condition.2
    obtain ⟨before, was, same⟩ := State.declarations_unread found unread (other ended)
    obtain ⟨before', was', same'⟩ := h.own path sheet kept
    obtain rfl := Option.some.inj (was.symm.trans was')
    exact ⟨held, found, same.symm.trans same'⟩

theorem sheet_of_not_mem {sheets : Sheets} {path : String} (absent : path ∉ sheets) :
    sheets.sheet path = .empty := by
  rw [Sheets.sheet, Std.ExtTreeMap.getElem?_eq_none absent]
  rfl

theorem Sound.declarations_own (h : b.Sound) {key : String} (given : key ∈ b.own) :
    (b.state.held.sheets.sheet key).declarations = (b.own.sheet key).declarations := by
  obtain ⟨sheet, there⟩ := exists_sheet given
  obtain ⟨held, found, same⟩ := h.own key sheet there
  rw [Sheets.sheet, Sheets.sheet, there, found]
  exact same

theorem Sound.declared_update_error (h : b.Sound) {lines : List String} {range : Sheet.Range}
    {given : Option String} {e : LoadError}
    (failed : b.state.outcome (.update given lines range) = .error e) :
    (b.state.held.sheets.sheet (b.key given)).declarations =
        (b.own.sheet (b.key given)).declarations ↔
      b.key given ∈ b.own ∨ ∀ number, ¬ b.Outlasts given lines range number := by
  have outlasts : ∀ number, b.Outlasts given lines range number ↔
      number ∈ (b.state.held.sheets.sheet (b.key given)).declarations := by
    intro number
    refine ⟨And.left, fun there => ⟨there, fun done => ?_⟩⟩
    cases failed.symm.trans done
  generalize b.key given = key at outlasts ⊢
  by_cases own : key ∈ b.own
  · exact ⟨fun _ => .inl own, fun _ => h.declarations_own own⟩
  · rw [sheet_of_not_mem own]
    constructor
    · intro same
      refine .inr fun number lasts => ?_
      rw [outlasts, same] at lasts
      exact absurd lasts Std.ExtTreeMap.not_mem_empty
    · intro none
      refine Std.ExtTreeMap.ext_getElem? fun number => ?_
      have absent := mt (outlasts number).2 ((none.resolve_left own) number)
      rw [Std.ExtTreeMap.getElem?_eq_none absent]
      rfl

theorem root_update (b : Buffered) (given : Option String) (lines : List String)
    (range : Sheet.Range) :
    (b.state.step (.update given lines range)).held.root = some (b.key given) := by
  have move := b.state.moves (.update given lines range)
  generalize b.state.step (.update given lines range) = t at move ⊢
  generalize b.state.outcome (.update given lines range) = outcome at move
  cases move with
  | unread => rfl
  | unloaded named | updated named => rw [key, named]; rfl

theorem outlasts_iff {given : Option String} {lines : List String} {range : Sheet.Range}
    {alone : Sheet} (done : b.state.outcome (.update given lines range) = .ok ())
    (read : Sheet.readFrom b.state.held.matcher .empty range.start false lines = .ok alone)
    (number : Int) :
    b.Outlasts given lines range number ↔ number ∉ alone.declarations ∧
      number ∈ ((b.state.held.sheets.sheet (b.key given)).erase range).declarations := by
  have kept : number ∈ ((b.state.held.sheets.sheet (b.key given)).erase range).declarations ↔
      number ∈ (b.state.held.sheets.sheet (b.key given)).declarations ∧
        range.contains number = false := by
    rw [Sheet.erase, Std.ExtTreeMap.mem_filter]
    simp
  rw [kept]
  constructor
  · rintro ⟨there, lasts⟩
    obtain ⟨outside, new⟩ := lasts done
    exact ⟨new alone read, there, outside⟩
  · rintro ⟨silent, there, outside⟩
    refine ⟨there, fun _ => ⟨outside, fun sheet read' => ?_⟩⟩
    rw [← Except.ok.inj (read.symm.trans read')]
    exact silent

theorem own_update {given : Option String} {lines : List String} {range : Sheet.Range} {out : Sheet}
    (done : b.state.outcome (.update given lines range) = .ok ())
    (read : Sheet.readFrom b.state.held.matcher
      ((b.own.sheet (b.key given)).erase range) range.start false lines =
      .ok out) :
    (b.step (.update given lines range)).own.sheet (b.key given) = out := by
  obtain ⟨sheet, reread, held⟩ := State.content_updated Sheet.declarations (fun _ _ => rfl) done
  have unread := State.unread_root (b.root_update given lines range) fun _ => Step.noConfusion
  have known :
      (b.state.step (.update given lines range)).held.sheets.contains (b.key given) = true :=
    Std.ExtTreeMap.contains_iff_mem.2 (Sheets.mem_of_declarations held)
  have spared : (b.state.readsOf (.update given lines range)).contains (b.key given) = false := by
    simpa using unread
  have new : (b.given (.update given lines range))[b.key given]? = some out := by
    simp only [Buffered.given, read, Std.ExtTreeMap.getElem?_insert_self]
  rw [Sheets.sheet, own_step_ok done, new, known, spared]
  rfl

theorem Sound.declared_update_ok (h : b.Sound) {lines : List String} {range : Sheet.Range}
    {given : Option String} (done : b.state.outcome (.update given lines range) = .ok ()) :
    ((b.step (.update given lines range)).state.held.sheets.sheet (b.key given)).declarations =
        ((b.step (.update given lines range)).own.sheet (b.key given)).declarations ↔
      b.key given ∈ b.own ∨ ∀ number, ¬ b.Outlasts given lines range number := by
  obtain ⟨sheet, reread, held⟩ := State.content_updated Sheet.declarations (fun _ _ => rfl) done
  obtain ⟨alone, read, covers⟩ := Sheet.exists_alone (Variables.readFrom_of_rereadSheet reread)
  obtain ⟨out, readOwn, ownCovers⟩ := covers ((b.own.sheet (b.key given)).erase range)
  obtain ⟨sheet', reread', heldCovers⟩ :=
    covers ((b.state.held.sheets.sheet (b.key given)).erase range)
  obtain rfl : sheet = sheet' :=
    Except.ok.inj ((Variables.readFrom_of_rereadSheet reread).symm.trans reread')
  have left : ((b.step (.update given lines range)).state.held.sheets.sheet
      (b.key given)).declarations =
      sheet.declarations := by
    obtain ⟨now, found, this⟩ := Option.map_eq_some_iff.1 held
    show ((b.state.step (.update given lines range)).held.sheets.sheet
      (b.key given)).declarations = sheet.declarations
    rw [Sheets.sheet, key, found]
    exact this
  rw [left, own_update done readOwn, Sheet.declarations_eq_iff heldCovers ownCovers]
  simp only [outlasts_iff done read, not_and]
  by_cases own : b.key given ∈ b.own
  · have same : ((b.state.held.sheets.sheet (b.key given)).erase range).declarations =
        ((b.own.sheet (b.key given)).erase range).declarations := by
      rw [Sheet.erase, Sheet.erase, h.declarations_own own]
    exact ⟨fun _ => .inl own, fun _ number _ => by rw [same]⟩
  · -- nothing stood there of the file's own
    have none : ∀ number : Int,
        ((b.own.sheet (b.key given)).erase range).declarations[number]? = none := by
      intro number
      rw [sheet_of_not_mem own]
      simp [Sheet.erase, Sheet.empty]
    simp only [own, false_or, none, Sheet.declarations_eq_none_iff]

theorem Sound.owned_update_iff (h : b.Sound) (given : Option String) (lines : List String)
    (range : Sheet.Range) :
    (b.step (.update given lines range)).Owned (b.key given) ↔
      b.TakesOwn (.update given lines range) := by
  obtain ⟨owner, matcher, reachable⟩ := h.reachable
  have rooted := b.root_update given lines range
  have watched := State.watched_root reachable rooted fun _ => Step.noConfusion
  have declared : ((b.step (.update given lines range)).state.held.sheets.sheet
      (b.key given)).declarations =
      ((b.step (.update given lines range)).own.sheet (b.key given)).declarations ↔
        b.key given ∈ b.own ∨ ∀ number, ¬ b.Outlasts given lines range number := by
    cases ended : b.state.outcome (.update given lines range) with
    | error e =>
      obtain ⟨notes, fails⟩ := State.exists_fails ended
      have kept : (b.step (.update given lines range)).state.held.sheets = b.state.held.sheets :=
        fails.leaves.2.sheets
      rw [kept, own_step_error ended]
      exact h.declared_update_error ended
    | ok => exact h.declared_update_ok ended
  constructor
  · intro owned
    exact ⟨mt watched.2 owned.unwatched, declared.1 owned.declared⟩
  · rintro ⟨unwatched, own⟩
    exact ⟨mt watched.1 unwatched, declared.2 own⟩

theorem Sound.owned_step (h : b.Sound) (other : ∀ given lines range, a ≠ .update given lines range)
    (rooted : (b.state.step a).held.root = some root) :
    root ∉ b.state.readsOf a ∧ (b.step a).Owned root := by
  obtain ⟨owner, matcher, reachable⟩ := h.reachable
  have owned := h.owned root (State.root_of_step other rooted)
  have apart : ∀ path, a = .fire path → root ∉ b.state.held.watches := fun _ _ => owned.unwatched
  have unread := State.unread_root rooted apart
  have held := State.declarations_root reachable rooted apart fun given lines range same =>
    absurd same (other _ _ _)
  have own : (b.step a).own[root]? = b.own[root]? := by
    cases ended : b.state.outcome a with
    | error e => rw [own_step_error ended]
    | ok =>
      rw [own_step_ok ended, getElem?_given fun given lines range same => absurd same (other _ _ _)]
      cases there : b.own[root]? with
      | none => rfl
      | some sheet =>
        -- the root's own lines are held, and stay so
        obtain ⟨before, found, _⟩ := h.own root sheet there
        have stays : (b.state.step a).held.sheets[root]?.map Sheet.declarations =
            some before.declarations := by
          rw [held, found]
          rfl
        have known : (b.state.step a).held.sheets.contains root = true :=
          Std.ExtTreeMap.contains_iff_mem.2 (Sheets.mem_of_declarations stays)
        have spared : (b.state.readsOf a).contains root = false := by simpa using unread
        rw [known, spared]
        rfl
  refine ⟨unread, mt (State.watched_root reachable rooted apart).1 owned.unwatched, ?_⟩
  have same : (b.own.sheet root).declarations = ((b.step a).own.sheet root).declarations := by
    rw [Sheets.sheet, Sheets.sheet, own]
  exact (Sheets.declarations_sheet_congr held).trans (owned.declared.trans same)

theorem Sound.apart_iff (h : b.Sound) (a : Step) : b.Apart a ↔ b.TakesOwn a := by
  cases a with
  | update given lines range =>
    rw [← h.owned_update_iff given lines range]
    have rooted := b.root_update given lines range
    constructor
    · intro apart
      exact (apart (b.key given) rooted).2
    · intro owned root rooted'
      obtain rfl := Option.some.inj (rooted.symm.trans rooted')
      exact ⟨State.unread_root rooted fun _ => Step.noConfusion, owned⟩
  | fire | close | outside =>
    exact ⟨fun _ => trivial, fun _ root rooted =>
      h.owned_step (fun _ _ _ => Step.noConfusion) rooted⟩

theorem Sound.step (h : b.Sound) (apart : b.Apart a) : (b.step a).Sound := by
  obtain ⟨owner, matcher, reachable⟩ := h.reachable
  refine ⟨⟨owner, matcher, reachable.step a⟩, fun path sheet there => ?_,
    fun root rooted => (apart root rooted).2⟩
  by_cases gives : b.state.outcome a = .ok () ∧
      ∃ given lines range, a = .update given lines range ∧ b.key given = path
  · obtain ⟨done, given, lines, range, rfl, rfl⟩ := gives
    obtain ⟨_, _, held⟩ := State.content_updated Sheet.declarations (fun _ _ => rfl) done
    obtain ⟨found, this, _⟩ := Option.map_eq_some_iff.1 held
    have declared := (apart (b.key given) (b.root_update given lines range)).2.declared
    have found' :
        (b.step (.update given lines range)).state.held.sheets[b.key given]? = some found := this
    rw [Sheets.sheet, Sheets.sheet, found', there] at declared
    exact ⟨found, found', declared⟩
  · refine h.own_step there fun done given lines range this same =>
      gives ⟨done, given, lines, range, this, same⟩

/-- In every run the buffer's own file is never watched, never read and declares what lines given to
updates say, exactly if no update takes up a file of the disk. -/
theorem all_apart_iff (owner : Nat) (matcher : Option Matcher) (world : World) (steps : List Step) :
    All Apart (start owner matcher world) steps ↔
      All TakesOwn (start owner matcher world) steps := by
  have sound : (start owner matcher world).Sound := by
    refine ⟨⟨owner, matcher, .start world⟩, fun path sheet there => ?_, fun root rooted => ?_⟩
    · simp [start] at there
    · cases rooted
  generalize start owner matcher world = b at sound
  induction steps generalizing b with
  | nil => exact Iff.rfl
  | cons a steps ih =>
    rw [All, All, sound.apart_iff a]
    refine and_congr_right fun takes => ?_
    exact ih _ (sound.step ((sound.apart_iff a).2 takes))

def borrowing : Buffered :=
  start 0 (some State.hueMatcher) (State.worldWith ⟨1, ["$x: #111111;"]⟩ ⟨1, []⟩)

def takeUp : Step := .update (some "/a.scss") ["$y: #222222;"] .whole

def takenUp : Buffered := (borrowing.step State.importFirst).step takeUp

/-- The file stays watched, and its watch puts what the disk says in the place of the buffer's
lines. -/
theorem not_all_apart_takeUp :
    ¬ All Apart borrowing [State.importFirst, takeUp] ∧
      takenUp.state.held.root = some "/a.scss" ∧ "/a.scss" ∈ takenUp.state.held.watches ∧
      takenUp.state.readsOf (.fire "/a.scss") = ["/a.scss"] ∧
      (takenUp.step (.fire "/a.scss")).state.held.root = some "/a.scss" ∧
      ((takenUp.step (.fire "/a.scss")).state.held.declarationsOf takenUp.state.world.disk
        (some "/a.scss")).toList =
        [("x", .color "111111")] := by
  have root : takenUp.state.held.root = some "/a.scss" := by decide +kernel
  have watched : "/a.scss" ∈ takenUp.state.held.watches := by decide +kernel
  refine ⟨fun all => ?_, root, watched, by decide +kernel, by decide +kernel, by decide +kernel⟩
  exact (all.2.1 "/a.scss" root).2.unwatched watched

end Buffered

end ColorSpans.Sass
