import ColorSpans.Proofs.Sass.Walk
import ColorSpans.Proofs.Stateful

/-! The course of a load, told without fuel: which file is looked at in which state, what is noted
of it, and how the load ends. Every load takes such a course, so what holds of all courses holds of
all loads. -/
namespace ColorSpans.Sass

/-- What a load has to do. -/
inductive Task
  | file (path : String) (stamp : Int)
  | imports (importer : String)
  | candidates (paths : List String) (edges : List String)

inductive Note
  | kept (path : String) (stamp : Int)
  | dropped (path : String)

namespace Note

def path : Note → String
  | kept path _ => path
  | dropped path => path

def stamp? : Note → Option Int
  | kept _ stamp => some stamp
  | dropped _ => none

end Note

/-- From `s` a task is done with an outcome in `s'`, while the imports of some files are being
followed. The edges of an importer are the result of its candidates. -/
inductive Course (l : Loader) :
    List String → Task → Loaded → List Note → Except LoadError (List String) → Loaded → Prop
  | unreadable {visiting path stamp s} (lines : s.world.disk.lines? path = none) :
      Course l visiting (.file path stamp) s [.dropped path] (.ok []) ((s.noteRead path).drop path)
  | unparsable {visiting path stamp s lines e} (found : s.world.disk.lines? path = some lines)
      (bad : Sheet.read l.matcher lines = .error e) :
      Course l visiting (.file path stamp) s [] (.error (.numeral e)) (s.noteRead path)
  | parsed {visiting path stamp s lines sheet notes outcome s'}
      (found : s.world.disk.lines? path = some lines)
      (good : Sheet.read l.matcher lines = .ok sheet)
      (rest : Course l visiting (.imports path) ((s.noteRead path).take l.owner path stamp sheet)
        notes outcome s') :
      Course l visiting (.file path stamp) s (.kept path stamp :: notes) outcome s'
  | absent {visiting importer s} (gone : s.sheets[importer]? = none) :
      Course l visiting (.imports importer) s [] (.error (.forgotten importer)) s
  | linked {visiting importer s sheet notes edges s' sheet'}
      (there : s.sheets[importer]? = some sheet)
      (rest : Course l visiting (.candidates (sheet.candidates importer) []) s notes (.ok edges) s')
      (still : s'.sheets[importer]? = some sheet') :
      Course l visiting (.imports importer) s notes (.ok []) (s'.link importer sheet' edges)
  | lost {visiting importer s sheet notes edges s'}
      (there : s.sheets[importer]? = some sheet)
      (rest : Course l visiting (.candidates (sheet.candidates importer) []) s notes (.ok edges) s')
      (gone : s'.sheets[importer]? = none) :
      Course l visiting (.imports importer) s notes (.error (.forgotten importer)) s'
  | broken {visiting importer s sheet notes e s'}
      (there : s.sheets[importer]? = some sheet)
      (rest : Course l visiting (.candidates (sheet.candidates importer) []) s notes
        (.error e) s') :
      Course l visiting (.imports importer) s notes (.error e) s'
  | done {visiting edges s} : Course l visiting (.candidates [] edges) s [] (.ok edges) s
  | own {visiting candidate paths edges s notes outcome s'}
      (root : l.root = some (s.world.disk.real candidate))
      (rest : Course l visiting
        (.candidates paths (addEdge edges (s.world.disk.real candidate))) s notes
        outcome s') :
      Course l visiting (.candidates (candidate :: paths) edges) s notes outcome s'
  | missing {visiting candidate paths edges s notes outcome s'}
      (other : l.root ≠ some (s.world.disk.real candidate))
      (gone : s.world.disk.stamp? candidate = none)
      (rest : Course l visiting (.candidates paths edges)
        (s.drop (s.world.disk.real candidate)) notes
        outcome s') :
      Course l visiting (.candidates (candidate :: paths) edges) s
        (.dropped (s.world.disk.real candidate) :: notes) outcome s'
  | known {visiting candidate paths edges s stamp notes outcome s'}
      (other : l.root ≠ some (s.world.disk.real candidate))
      (there : s.world.disk.stamp? candidate = some stamp)
      (seen : s.world.disk.real candidate ∈ visiting ∨
        s.isCurrent (s.world.disk.real candidate) stamp = true)
      (rest : Course l visiting
        (.candidates paths (addEdge edges (s.world.disk.real candidate))) s notes
        outcome s') :
      Course l visiting (.candidates (candidate :: paths) edges) s notes outcome s'
  | loaded {visiting candidate paths edges s stamp notes ignored s' more outcome s''}
      (other : l.root ≠ some (s.world.disk.real candidate))
      (there : s.world.disk.stamp? candidate = some stamp)
      (unseen : s.world.disk.real candidate ∉ visiting)
      (stale : s.isCurrent (s.world.disk.real candidate) stamp = false)
      (load : Course l (s.world.disk.real candidate :: visiting)
        (.file (s.world.disk.real candidate) stamp) s notes (.ok ignored) s')
      (rest : Course l visiting
        (.candidates paths (addEdge edges (s.world.disk.real candidate))) s' more
        outcome s'') :
      Course l visiting (.candidates (candidate :: paths) edges) s (notes ++ more) outcome s''
  | failed {visiting candidate paths edges s stamp notes e s'}
      (other : l.root ≠ some (s.world.disk.real candidate))
      (there : s.world.disk.stamp? candidate = some stamp)
      (unseen : s.world.disk.real candidate ∉ visiting)
      (stale : s.isCurrent (s.world.disk.real candidate) stamp = false)
      (load : Course l (s.world.disk.real candidate :: visiting)
        (.file (s.world.disk.real candidate) stamp) s notes (.error e) s') :
      Course l visiting (.candidates (candidate :: paths) edges) s notes (.error e) s'

/-- What no single change of a load breaks. -/
structure Loader.Maintains (l : Loader) (P : Loaded → Prop) : Prop where
  noteRead (s : Loaded) (path : String) (h : P s) : P (s.noteRead path)
  drop (s : Loaded) (path : String) (h : P s) : P (s.drop path)
  take (s : Loaded) (path : String) (stamp : Int) (sheet : Sheet) (h : P s) :
    P (s.take l.owner path stamp sheet)
  link (s : Loaded) (importer : String) (sheet : Sheet) (edges : List String) (h : P s) :
    P (s.link importer sheet edges)

theorem Loader.Maintains.dropAll {l : Loader} {P : Loaded → Prop} (maintains : l.Maintains P)
    {s : Loaded} (h : P s) (paths : List String) : P (s.dropAll paths) := by
  induction paths generalizing s with
  | nil => exact h
  | cons path paths ih => exact ih (maintains.drop s path h)

namespace Course

variable {l : Loader} {visiting : List String} {task : Task} {s s' : Loaded} {notes : List Note}
  {outcome : Except LoadError (List String)}

theorem maintains (h : Course l visiting task s notes outcome s') {P : Loaded → Prop}
    (maintains : l.Maintains P) (before : P s) : P s' := by
  induction h with
  | unreadable => exact maintains.drop _ _ (maintains.noteRead _ _ before)
  | unparsable => exact maintains.noteRead _ _ before
  | absent | done => exact before
  | parsed _ _ _ ih => exact ih (maintains.take _ _ _ _ (maintains.noteRead _ _ before))
  | linked _ _ _ ih => exact maintains.link _ _ _ _ (ih before)
  | lost _ _ _ ih | broken _ _ ih | own _ _ ih | known _ _ _ _ ih | failed _ _ _ _ _ ih =>
      exact ih before
  | missing _ _ _ ih => exact ih (maintains.drop _ _ before)
  | loaded _ _ _ _ _ _ first second => exact second (first before)

theorem disk_eq (h : Course l visiting task s notes outcome s') : s'.world.disk = s.world.disk := by
  refine h.maintains (P := fun t => t.world.disk = s.world.disk) ⟨?_, ?_, ?_, ?_⟩ rfl
  · exact fun _ _ same => same
  · exact fun t path same => (t.disk_drop path).trans same
  · exact fun t path stamp sheet same => (t.disk_take _ path stamp sheet).trans same
  · exact fun _ _ _ _ same => same

end Course

namespace Loader

variable (l : Loader) (descend : String → Int → Loading Unit) (visiting : List String)

theorem run_followCandidate_own {edges : List String} {candidate : String} {s : Loaded}
    (root : l.root = some (s.world.disk.real candidate)) :
    (l.followCandidate descend visiting edges candidate).run.run s =
      (.ok (addEdge edges (s.world.disk.real candidate)), s) := by
  simp only [followCandidate, Stateful.run_bind, Stateful.run_get, if_pos root]
  rfl

theorem run_followCandidate_missing {edges : List String} {candidate : String} {s : Loaded}
    (other : l.root ≠ some (s.world.disk.real candidate))
    (gone : s.world.disk.stamp? candidate = none) :
    (l.followCandidate descend visiting edges candidate).run.run s =
      (.ok edges, s.drop (s.world.disk.real candidate)) := by
  simp only [followCandidate, Stateful.run_bind, Stateful.run_get, if_neg other, gone]
  rfl

theorem run_followCandidate_known {edges : List String} {candidate : String} {s : Loaded}
    {stamp : Int} (other : l.root ≠ some (s.world.disk.real candidate))
    (there : s.world.disk.stamp? candidate = some stamp)
    (seen : s.world.disk.real candidate ∈ visiting ∨
      s.isCurrent (s.world.disk.real candidate) stamp = true) :
    (l.followCandidate descend visiting edges candidate).run.run s =
      (.ok (addEdge edges (s.world.disk.real candidate)), s) := by
  have skip : (visiting.contains (s.world.disk.real candidate) ||
      s.isCurrent (s.world.disk.real candidate) stamp) = true := by simpa using seen
  simp only [followCandidate, Stateful.run_bind, Stateful.run_get, if_neg other, there,
    skip, if_pos]
  rfl

theorem run_followCandidate_loaded {edges : List String} {candidate : String} {s : Loaded}
    {stamp : Int} (other : l.root ≠ some (s.world.disk.real candidate))
    (there : s.world.disk.stamp? candidate = some stamp)
    (unseen : s.world.disk.real candidate ∉ visiting)
    (stale : s.isCurrent (s.world.disk.real candidate) stamp = false) :
    (l.followCandidate descend visiting edges candidate).run.run s =
      match (descend (s.world.disk.real candidate) stamp).run.run s with
      | (.ok _, s') => (.ok (addEdge edges (s.world.disk.real candidate)), s')
      | (.error e, s') => (.error e, s') := by
  have go : (visiting.contains (s.world.disk.real candidate) ||
      s.isCurrent (s.world.disk.real candidate) stamp) = false := by simpa [stale] using unseen
  simp only [followCandidate, Stateful.run_bind, Stateful.run_get, if_neg other, there, go,
    Bool.false_eq_true, if_false, Stateful.run_pure]
  generalize (descend (s.world.disk.real candidate) stamp).run.run s = outcome
  obtain ⟨_ | _, _⟩ := outcome <;> rfl

def Descends (disk : Disk) : Prop :=
  ∀ (s : Loaded) (candidate : String) (stamp : Int), s.world.disk = disk →
    disk.stamp? candidate = some stamp → disk.real candidate ∉ visiting →
    ∃ notes, Course l (disk.real candidate :: visiting) (.file (disk.real candidate) stamp) s notes
      (((descend (disk.real candidate) stamp).run.run s).1.map fun _ => [])
      ((descend (disk.real candidate) stamp).run.run s).2

theorem candidates_course {disk : Disk}
    (down : l.Descends descend visiting disk)
    (paths edges : List String) (s : Loaded) (same : s.world.disk = disk) :
    ∃ notes, Course l visiting (.candidates paths edges) s notes
      ((paths.foldlM (l.followCandidate descend visiting) edges).run.run s).1
      ((paths.foldlM (l.followCandidate descend visiting) edges).run.run s).2 := by
  induction paths generalizing edges s with
  | nil => exact ⟨[], .done⟩
  | cons candidate paths ih =>
    subst same
    rw [List.foldlM_cons, Stateful.run_bind]
    by_cases root : l.root = some (s.world.disk.real candidate)
    · rw [run_followCandidate_own l descend visiting root]
      obtain ⟨notes, rest⟩ := ih (addEdge edges (s.world.disk.real candidate)) s rfl
      exact ⟨notes, .own root rest⟩
    cases there : s.world.disk.stamp? candidate with
    | none =>
      rw [run_followCandidate_missing l descend visiting root there]
      obtain ⟨notes, rest⟩ := ih edges (s.drop (s.world.disk.real candidate)) (by simp)
      exact ⟨_, .missing root there rest⟩
    | some stamp =>
      by_cases seen : s.world.disk.real candidate ∈ visiting ∨
          s.isCurrent (s.world.disk.real candidate) stamp = true
      · rw [run_followCandidate_known l descend visiting root there seen]
        obtain ⟨notes, rest⟩ := ih (addEdge edges (s.world.disk.real candidate)) s rfl
        exact ⟨notes, .known root there seen rest⟩
      · obtain ⟨unseen, stale⟩ := not_or.1 seen
        rw [Bool.not_eq_true] at stale
        rw [run_followCandidate_loaded l descend visiting root there unseen stale]
        obtain ⟨notes, load⟩ := down s candidate stamp rfl there unseen
        revert load
        generalize (descend (s.world.disk.real candidate) stamp).run.run s = outcome
        obtain ⟨e | _, s'⟩ := outcome
        · intro load
          exact ⟨notes, .failed root there unseen stale load⟩
        · intro load
          obtain ⟨more, rest⟩ := ih (addEdge edges (s.world.disk.real candidate)) s' load.disk_eq
          exact ⟨_, .loaded root there unseen stale load rest⟩

theorem run_sheetOf (path : String) (s : Loaded) :
    (sheetOf path).run.run s = match s.sheets[path]? with
      | some sheet => (.ok sheet, s)
      | none => (.error (.forgotten path), s) := by
  simp only [sheetOf, Stateful.run_bind, Stateful.run_get]
  cases s.sheets[path]? <;> rfl

theorem imports_course {disk : Disk}
    (down : l.Descends descend visiting disk)
    (importer : String) (s : Loaded) (same : s.world.disk = disk) :
    ∃ notes, Course l visiting (.imports importer) s notes
      (((l.followImports descend importer visiting).run.run s).1.map fun _ => [])
      ((l.followImports descend importer visiting).run.run s).2 := by
  rw [followImports, Stateful.run_bind, run_sheetOf]
  cases there : s.sheets[importer]? with
  | none => exact ⟨[], .absent there⟩
  | some sheet =>
    obtain ⟨notes, rest⟩ :=
      l.candidates_course descend visiting down (sheet.candidates importer) [] s same
    refine ⟨notes, ?_⟩
    simp only [Stateful.run_bind]
    revert rest
    generalize ((sheet.candidates importer).foldlM (l.followCandidate descend visiting)
      []).run.run s =
      outcome
    obtain ⟨e | edges, s'⟩ := outcome
    · exact .broken there
    · intro rest
      dsimp only
      rw [run_sheetOf]
      cases still : s'.sheets[importer]? with
      | none => exact .lost there rest still
      | some sheet' => exact .linked there rest still

theorem mem_files_of_lines? {disk : Disk} {path : String} {lines : List String}
    (found : disk.lines? path = some lines) : path ∈ disk.files := by
  simp only [Disk.lines?] at found
  split at found
  · cases found
  · obtain ⟨file, there, _⟩ := Option.map_eq_some_iff.1 found
    exact Std.ExtTreeMap.mem_iff_isSome_getElem?.2 (by simp [there])

/-- The fuel lasts: every step down visits one more file of the disk. -/
theorem loadFile_course (fuel : Nat) (path : String) (stamp : Int) (s : Loaded)
    (positive : 0 < fuel) (enough : path ∈ s.world.disk.files →
      (remaining s.world.disk.files.keys visiting).length + 1 < fuel) :
    ∃ notes, Course l visiting (.file path stamp) s notes
      (((l.loadFile fuel visiting path stamp).run.run s).1.map fun _ => [])
      ((l.loadFile fuel visiting path stamp).run.run s).2 := by
  induction fuel generalizing visiting path stamp s with
  | zero => omega
  | succ fuel ih =>
    simp only [loadFile, Stateful.run_bind, Stateful.run_modify, Stateful.run_get]
    cases found : s.world.disk.lines? path with
    | none =>
      simp only [Loaded.disk_noteRead, found]
      exact ⟨_, .unreadable found⟩
    | some lines =>
      simp only [Loaded.disk_noteRead, found]
      cases good : Sheet.read l.matcher lines with
      | error e => exact ⟨_, .unparsable found good⟩
      | ok sheet =>
        have room := enough (mem_files_of_lines? found)
        have down : l.Descends (fun next stamp =>
            l.loadFile fuel (next :: visiting) next stamp) visiting
            s.world.disk := by
          intro t candidate stamp same there unseen
          refine ih _ _ _ t (by omega) fun known => ?_
          rw [same] at known ⊢
          have fewer := length_remaining_cons_lt (Std.ExtTreeMap.mem_keys.2 known) unseen
          omega
        obtain ⟨notes, rest⟩ := l.imports_course _ visiting down path
          ((s.noteRead path).take l.owner path stamp sheet) (by simp)
        exact ⟨_, .parsed found good rest⟩

theorem load_course (path : String) (stamp : Int) (s : Loaded) (seen : path ∈ visiting) :
    ∃ notes, Course l visiting (.file path stamp) s notes
      (((l.load visiting path stamp).run.run s).1.map fun _ => [])
      ((l.load visiting path stamp).run.run s).2 := by
  simp only [load, Stateful.run_bind, Stateful.run_get]
  refine l.loadFile_course visiting _ path stamp s (by omega) fun there => ?_
  have fewer := length_remaining_lt (Std.ExtTreeMap.mem_keys.2 there) seen
  rw [Std.ExtTreeMap.length_keys] at fewer
  omega

end Loader

end ColorSpans.Sass
