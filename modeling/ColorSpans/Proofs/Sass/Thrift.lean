import ColorSpans.Proofs.Sass.Renaming

/-! What a step reads from the disk. However files import each other, a load ends without its bound
on depth, and since a file that was read is up to date from then on, it is not read again. -/
namespace ColorSpans.Sass

def Loaded.UpToDate (disk : Disk) (s : Loaded) (path : String) : Prop :=
  path ∈ s.sheets ∧ ∃ stamp, s.stamps[path]? = some stamp ∧ disk.stamp? path = some stamp

namespace Loaded.UpToDate

variable {disk : Disk} {s : Loaded} {path other : String} {stamp : Int}

theorem isCurrent (h : s.UpToDate disk path) (there : disk.stamp? path = some stamp) :
    s.isCurrent path stamp = true := by
  obtain ⟨held, stamp', recorded, there'⟩ := h
  obtain rfl := Option.some.inj (there.symm.trans there')
  rw [Loaded.isCurrent, Std.ExtTreeMap.contains_iff_mem.2 held, recorded]
  exact beq_self_eq_true _

theorem drop (h : s.UpToDate disk path) (apart : path ≠ other) :
    (s.drop other).UpToDate disk path := by
  obtain ⟨held, stamp, recorded, there⟩ := h
  refine ⟨(s.mem_sheets_drop other path).2 ⟨apart, held⟩, stamp, ?_, there⟩
  rw [Loaded.stamps_drop, Std.ExtTreeMap.getElem?_erase,
    if_neg fun same => apart (Std.LawfulEqCmp.eq_of_compare same).symm]
  exact recorded

theorem take (h : s.UpToDate disk path) (apart : path ≠ other) (owner : Nat) (sheet : Sheet) :
    (s.take owner other stamp sheet).UpToDate disk path := by
  obtain ⟨held, stamp', recorded, there⟩ := h
  refine ⟨(s.mem_sheets_take owner other stamp sheet path).2 (.inr held), stamp', ?_, there⟩
  rw [Loaded.getElem?_stamps_take, if_neg apart.symm]
  exact recorded

theorem taken (there : disk.stamp? path = some stamp) (owner : Nat) (sheet : Sheet) :
    (s.take owner path stamp sheet).UpToDate disk path := by
  refine ⟨(s.mem_sheets_take owner path stamp sheet path).2 (.inl rfl), stamp, ?_, there⟩
  rw [Loaded.getElem?_stamps_take, if_pos rfl]

theorem link (h : s.UpToDate disk path) {sheet : Sheet} (held : other ∈ s.sheets)
    (edges : List String) :
    (s.link other sheet edges).UpToDate disk path :=
  ⟨(Loaded.mem_sheets_link held sheet edges path).2 h.1, h.2⟩

end Loaded.UpToDate

/-- From `s` to `s'` some files were read, each at most once if it could be read at all, and none
that was up to date but maybe a given one. What was up to date stays so, and what was read is,
unless the load failed. -/
structure Frugal (disk : Disk) (own : Option String) (s : Loaded) (new : List String)
    (outcome : Except LoadError (List String)) (s' : Loaded) : Prop where
  reads : s'.world.reads = s.world.reads ++ new
  keeps : ∀ path, own ≠ some path → s.UpToDate disk path → s'.UpToDate disk path
  stale : ∀ path ∈ new, own ≠ some path → ¬ s.UpToDate disk path
  once : ∀ path, (disk.lines? path).isSome = true → new.count path ≤ 1
  settled : ∀ edges, outcome = .ok edges → ∀ path ∈ new, (disk.lines? path).isSome = true →
    s'.UpToDate disk path

namespace Frugal

variable {disk : Disk} {own : Option String} {s t u : Loaded} {new late : List String}
  {outcome : Except LoadError (List String)} {path : String} {stamp : Int}

theorem nothing (s : Loaded) : Frugal disk own s [] outcome s :=
  ⟨by rw [List.append_nil], fun _ _ current => current, fun _ none => absurd none List.not_mem_nil,
    fun _ _ => Nat.zero_le _, fun _ _ _ none => absurd none List.not_mem_nil⟩

theorem ordinary (h : Frugal disk (some path) s new outcome t) (old : ¬ s.UpToDate disk path) :
    Frugal disk none s new outcome t := by
  refine ⟨h.reads, fun q _ current => ?_, fun q there _ current => ?_, h.once, h.settled⟩
  · exact h.keeps q (fun same => old (Option.some.inj same ▸ current)) current
  · exact h.stale q there (fun same => old (Option.some.inj same ▸ current)) current

theorem append {edges : List String} (h : Frugal disk none s new (.ok edges) t)
    (h' : Frugal disk none t late outcome u) : Frugal disk none s (new ++ late) outcome u where
  reads := by rw [h'.reads, h.reads, List.append_assoc]
  keeps path own current := h'.keeps path own (h.keeps path own current)
  stale path there own current := by
    rcases List.mem_append.1 there with early | late
    · exact h.stale path early own current
    · exact h'.stale path late own (h.keeps path own current)
  once path readable := by
    rw [List.count_append]
    by_cases early : path ∈ new
    · -- It is up to date by then, so it is not read again.
      have again : path ∉ late := fun late =>
        h'.stale path late nofun (h.settled edges rfl path early readable)
      rw [List.count_eq_zero.2 again]
      exact h.once path readable
    · rw [List.count_eq_zero.2 early, Nat.zero_add]
      exact h'.once path readable
  settled result ended path there readable := by
    rcases List.mem_append.1 there with early | late
    · exact h'.keeps path nofun (h.settled edges rfl path early readable)
    · exact h'.settled result ended path late readable

theorem drop (gone : disk.stamp? path = none) (h : Frugal disk none (s.drop path) new outcome t) :
    Frugal disk none s new outcome t := by
  have stays {q : String} (current : s.UpToDate disk q) : (s.drop path).UpToDate disk q := by
    refine current.drop ?_
    rintro rfl
    obtain ⟨_, _, _, there⟩ := current
    cases gone.symm.trans there
  refine ⟨by simpa using h.reads, fun q own current => h.keeps q own (stays current), ?_,
    h.once, h.settled⟩
  exact fun q there own current => h.stale q there own (stays current)

theorem unreadable (lost : disk.lines? path = none) :
    Frugal disk (some path) s [path] outcome ((s.noteRead path).drop path) := by
  have apart {q : String} (own : some path ≠ some q) : q ≠ path :=
    fun same => own (congrArg some same.symm)
  refine ⟨by simp, fun q own current => ?_, fun q there own => ?_, fun q readable => ?_, ?_⟩
  · exact Loaded.UpToDate.drop (s := s.noteRead path) current (apart own)
  · exact absurd (List.mem_singleton.1 there) (apart own)
  · exact (List.count_singleton ..).trans_le (by split <;> omega)
  · intro _ _ q there readable
    rw [List.mem_singleton.1 there, lost] at readable
    cases readable

theorem unparsable (e : LoadError) :
    Frugal disk (some path) s [path] (.error e) (s.noteRead path) :=
  ⟨rfl, fun _ _ current => current,
    fun _ there own _ => own (congrArg some (List.mem_singleton.1 there).symm),
    fun _ _ => (List.count_singleton ..).trans_le (by split <;> omega), nofun⟩

theorem take (there : disk.stamp? path = some stamp) {owner : Nat} {sheet : Sheet}
    (h : Frugal disk none ((s.noteRead path).take owner path stamp sheet) new outcome t) :
    Frugal disk (some path) s (path :: new) outcome t := by
  have current := Loaded.UpToDate.taken (s := s.noteRead path) there owner sheet
  have stays {q : String} (own : some path ≠ some q) (current : s.UpToDate disk q) :
      ((s.noteRead path).take owner path stamp sheet).UpToDate disk q :=
    Loaded.UpToDate.take (s := s.noteRead path) current (fun same => own (congrArg some same.symm))
      owner sheet
  have again : path ∉ new := fun again => h.stale path again nofun current
  refine ⟨by simpa using h.reads, fun q own current => h.keeps q nofun (stays own current),
    ?_, ?_, ?_⟩
  · intro q there own current
    rcases List.mem_cons.1 there with rfl | later
    · exact own rfl
    · exact h.stale q later nofun (stays own current)
  · intro q readable
    by_cases same : path = q
    · subst same
      rw [List.count_cons_self, List.count_eq_zero.2 again]
    · rw [List.count_cons_of_ne same]
      exact h.once q readable
  · intro edges ended q there readable
    rcases List.mem_cons.1 there with rfl | later
    · exact h.keeps q nofun current
    · exact h.settled edges ended q later readable

theorem link {edges : List String} (h : Frugal disk own s new (.ok edges) t) {sheet : Sheet}
    (held : path ∈ t.sheets) : Frugal disk own s new outcome (t.link path sheet edges) :=
  ⟨h.reads, fun q own current => (h.keeps q own current).link held edges, h.stale, h.once,
    fun _ _ q there readable => (h.settled edges rfl q there readable).link held edges⟩

theorem fail (h : Frugal disk own s new outcome t) (e : LoadError) :
    Frugal disk own s new (.error e) t :=
  ⟨h.reads, h.keeps, h.stale, h.once, nofun⟩

end Frugal

def Task.Agrees (disk : Disk) (s : Loaded) : Task → Prop
  | file path stamp => Path.isAbsolute path = true ∧ disk.stamp? path = some stamp
  | imports importer =>
      ∀ sheet, s.sheets[importer]? = some sheet → disk.Knows (sheet.candidates importer)
  | candidates paths _ => disk.Knows paths

def Task.own : Task → Option String
  | file path _ => some path
  | _ => none

namespace Course

variable {l : Loader} {visiting : List String} {task : Task} {s s' : Loaded} {notes : List Note}
  {outcome : Except LoadError (List String)}

theorem frugal (h : Course l visiting task s notes outcome s') {disk : Disk}
    (same : s.world.disk = disk) (consistent : disk.IsConsistent) (agrees : task.Agrees disk s) :
    ∃ new, Frugal disk task.own s new outcome s' := by
  induction h with
  | unreadable lines => exact ⟨_, .unreadable (same ▸ lines)⟩
  | unparsable => exact ⟨_, .unparsable _⟩
  | @parsed _ path stamp s _ sheet _ _ _ _ _ _ ih =>
    obtain ⟨absolute, there⟩ := agrees
    have asked : (Task.imports path).Agrees disk
        ((s.noteRead path).take l.owner path stamp sheet) :=
      fun sheet _ => consistent.knows absolute sheet
    obtain ⟨new, rest⟩ := ih (by simpa using same) asked
    exact ⟨_, rest.take there⟩
  | absent | done => exact ⟨_, .nothing _⟩
  | linked there _ still ih =>
    obtain ⟨new, rest⟩ := ih same (agrees _ there)
    exact ⟨new, rest.link (mem_of_sheet still)⟩
  | lost there _ _ ih =>
    obtain ⟨new, rest⟩ := ih same (agrees _ there)
    exact ⟨new, rest.fail _⟩
  | broken there _ ih => exact ih same (agrees _ there)
  | own _ _ ih | known _ _ _ _ ih =>
    exact ih same fun q asked => agrees q (List.mem_cons_of_mem _ asked)
  | @missing _ candidate _ _ s _ _ _ _ gone _ ih =>
    subst same
    obtain ⟨new, rest⟩ := ih (s.disk_drop _) fun q asked => agrees q (List.mem_cons_of_mem _ asked)
    exact ⟨new, rest.drop ((agrees candidate List.mem_cons_self).trans gone)⟩
  | @loaded _ candidate _ _ s _ _ _ _ _ _ _ _ there _ stale load _ first second =>
    subst same
    have there' := (agrees candidate List.mem_cons_self).trans there
    obtain ⟨new, below⟩ := first rfl ⟨Path.isAbsolute_real _ _, there'⟩
    obtain ⟨late, rest⟩ := second load.disk_eq fun q asked =>
      agrees q (List.mem_cons_of_mem _ asked)
    have old : ¬ s.UpToDate s.world.disk (s.world.disk.real candidate) := fun current =>
      Bool.eq_false_iff.1 stale (current.isCurrent there')
    exact ⟨_, (below.ordinary old).append rest⟩
  | @failed _ candidate _ _ s _ _ _ _ _ there _ stale _ ih =>
    subst same
    have there' := (agrees candidate List.mem_cons_self).trans there
    obtain ⟨new, below⟩ := ih rfl ⟨Path.isAbsolute_real _ _, there'⟩
    have old : ¬ s.UpToDate s.world.disk (s.world.disk.real candidate) := fun current =>
      Bool.eq_false_iff.1 stale (current.isCurrent there')
    exact ⟨_, below.ordinary old⟩

theorem absolute_watches (h : Course l visiting task s notes outcome s')
    (own : ∀ path stamp, task = .file path stamp → Path.isAbsolute path = true)
    (before : ∀ path ∈ s.watches, Path.isAbsolute path = true) :
    ∀ path ∈ s'.watches, Path.isAbsolute path = true := by
  have drop {s : Loaded} (before : ∀ path ∈ s.watches, Path.isAbsolute path = true)
    (gone : String) :
      ∀ path ∈ (s.drop gone).watches, Path.isAbsolute path = true := by
    intro path there
    rw [Loaded.watches_drop, Std.ExtTreeMap.mem_erase] at there
    exact before path there.2
  induction h with
  | @unreadable _ path _ s => exact drop (s := s.noteRead path) before path
  | unparsable | absent | done => exact before
  | parsed _ _ _ ih =>
    refine ih (fun _ _ => nofun) fun q there => ?_
    rcases (Loaded.mem_watches_take ..).1 there with rfl | there
    · exact own _ _ rfl
    · exact before q there
  | linked _ _ _ ih | lost _ _ _ ih | broken _ _ ih | own _ _ ih | known _ _ _ _ ih =>
    exact ih (fun _ _ => nofun) before
  | missing _ _ _ ih => exact ih (fun _ _ => nofun) (drop before _)
  | loaded _ _ _ _ _ _ first second =>
    refine second (fun _ _ => nofun) (first (fun path stamp same => ?_) before)
    exact (Task.file.inj same).1 ▸ Path.isAbsolute_real _ _
  | failed _ _ _ _ _ ih =>
    refine ih (fun path stamp same => ?_) before
    exact (Task.file.inj same).1 ▸ Path.isAbsolute_real _ _

end Course

theorem Loader.loadFile_eq_load (l : Loader) {visiting : List String} {path : String} (stamp : Int)
    {s : Loaded} (seen : path ∈ visiting) {bound : Nat} (enough : s.world.disk.files.size < bound) :
    (l.loadFile bound visiting path stamp).run.run s = (l.load visiting path stamp).run.run s := by
  have room : path ∈ s.world.disk.files →
      (remaining s.world.disk.files.keys visiting).length + 1 < bound := by
    intro there
    have fewer := length_remaining_lt (Std.ExtTreeMap.mem_keys.2 there) seen
    rw [Std.ExtTreeMap.length_keys] at fewer
    omega
  obtain ⟨notes, course⟩ :=
    l.loadFile_course visiting bound path stamp s (Nat.zero_lt_of_lt enough) room
  obtain ⟨notes', course'⟩ := l.load_course visiting path stamp s seen
  obtain ⟨_, outcomes, states⟩ := course.unique course'
  refine Prod.ext ?_ states
  generalize ((l.loadFile bound visiting path stamp).run.run s).1 = ended at outcomes
  generalize ((l.load visiting path stamp).run.run s).1 = ended' at outcomes ⊢
  cases ended <;> cases ended' <;> simp_all [Except.map]

namespace State

/-- What a step looks at is on the disk under its real spelling as it is under the given one: this
is so for all absolute paths, and for what the imports of a buffer that has no file may stand
for. -/
structure Agrees (s : State) (a : Step) : Prop where
  consistent : s.world.disk.IsConsistent
  known (given : Option String) (lines : List String) (range : Sheet.Range) :
    a = .update given lines range →
    Variables.keyOf s.world.disk given = Variables.bufferKey → ∀ sheet,
      s.held.rereadSheet Variables.bufferKey lines range = .ok sheet →
      s.world.disk.Knows (sheet.candidates Variables.bufferKey)

/-- What a step may read: a file that can be read at most once, and one that is up to date only if
it is the buffer's own or its watch calls back. -/
structure ReadsOnce (s : State) (a : Step) (new : List String) : Prop where
  once (path : String) : (s.world.disk.lines? path).isSome = true → new.count path ≤ 1
  stale (path : String) : path ∈ new → s.held.root ≠ some path → a ≠ .fire path →
    ¬ (s.held.start s.world).UpToDate s.world.disk path

variable {owner : Nat} {matcher : Option Matcher} {s : State} {a : Step}

theorem readsOnce_nil : s.ReadsOnce a [] :=
  ⟨fun _ _ => Nat.zero_le _, fun _ none => absurd none List.not_mem_nil⟩

theorem absolute_watches_commit {v : Variables} {t : Loaded}
    (before : ∀ path ∈ t.watches, Path.isAbsolute path = true) :
    ∀ path ∈ (v.commit t).1.watches, Path.isAbsolute path = true := by
  intro path there
  rw [Std.ExtTreeMap.mem_iff_isSome_getElem?, Variables.getElem?_watches_commit] at there
  split at there
  · cases there
  · exact before path (Std.ExtTreeMap.mem_iff_isSome_getElem?.2 there)

theorem absolute_watches (reachable : Reachable owner matcher s) :
    ∀ path ∈ s.held.watches, Path.isAbsolute path = true := by
  induction reachable with
  | start world => exact fun path there => absurd there Std.ExtTreeMap.not_mem_empty
  | @step s a _ before =>
    have move := s.moves a
    generalize s.step a = t at move ⊢
    generalize s.outcome a = outcome at move
    cases move with
    | unread | unwatched | outside => exact before
    | unloaded _ _ course => exact course.absolute_watches (fun _ _ => nofun) before
    | updated _ _ course =>
        exact absolute_watches_commit (course.absolute_watches (fun _ _ => nofun) before)
    | gone =>
      refine absolute_watches_commit fun path there => ?_
      rw [Loaded.watches_drop, Std.ExtTreeMap.mem_erase] at there
      exact before path there.2
    | stuck watched _ course =>
      exact course.absolute_watches (fun _ _ same => (Task.file.inj same).1 ▸ before _ watched)
        before
    | reloaded watched _ course =>
      exact absolute_watches_commit
        (course.absolute_watches (fun _ _ same => (Task.file.inj same).1 ▸ before _ watched) before)
    | closed => exact fun path there => absurd there Std.ExtTreeMap.not_mem_empty

theorem upToDate_startRoot {key path : String}
    (current : (s.held.start s.world).UpToDate s.world.disk path)
    (imported : s.held.root ≠ some path) (sheet : Sheet) :
    (s.held.startRoot s.world key sheet).UpToDate s.world.disk path :=
  ⟨(Variables.mem_startRoot ..).2 (.inr ⟨current.1, imported⟩), current.2⟩

theorem exists_readsOnce (absolute : ∀ path ∈ s.held.watches, Path.isAbsolute path = true)
    (agrees : s.Agrees a) (inside : ∀ world, a ≠ .outside world) :
    ∃ new, (s.step a).world.reads = s.world.reads ++ new ∧ s.ReadsOnce a new := by
  have begins {key : String} {given : Option String} {lines : List String} {range : Sheet.Range}
      {sheet : Sheet}
      (update : a = .update given lines range) (named : Variables.keyOf s.world.disk given = key)
      (good : s.held.rereadSheet key lines range = .ok sheet) :
      (Task.imports key).Agrees s.world.disk (s.held.startRoot s.world key sheet) := by
    intro sheet' found
    rw [Variables.getElem?_startRoot, if_pos rfl] at found
    obtain rfl := Option.some.inj found
    subst named
    exact knows_keyOf agrees.consistent fun unnamed =>
      agrees.known given lines range update unnamed sheet (unnamed ▸ good)
  have move := s.moves a
  generalize s.step a = t at move ⊢
  generalize s.outcome a = outcome at move
  cases move with
  | unread | unwatched | closed => exact ⟨[], (List.append_nil _).symm, readsOnce_nil⟩
  | gone =>
    refine ⟨[], ?_, readsOnce_nil⟩
    rw [List.append_nil]
    exact (Variables.reads_commit _ _).trans (Loaded.reads_drop _ _)
  | unloaded named good course =>
    obtain ⟨new, frugal⟩ := course.frugal rfl agrees.consistent (begins rfl named good)
    exact ⟨new, frugal.reads, frugal.once, fun path there imported _ current =>
      frugal.stale path there nofun (upToDate_startRoot current imported _)⟩
  | updated named good course =>
    obtain ⟨new, frugal⟩ := course.frugal rfl agrees.consistent (begins rfl named good)
    exact ⟨new, (Variables.reads_commit _ _).trans frugal.reads, frugal.once,
        fun path there imported _ current =>
      frugal.stale path there nofun (upToDate_startRoot current imported _)⟩
  | stuck watched there course =>
    obtain ⟨new, frugal⟩ := course.frugal rfl agrees.consistent ⟨absolute _ watched, there⟩
    exact ⟨new, frugal.reads, frugal.once, fun path there _ other =>
      frugal.stale path there fun same => other (congrArg Step.fire (Option.some.inj same))⟩
  | reloaded watched there course =>
    obtain ⟨new, frugal⟩ := course.frugal rfl agrees.consistent ⟨absolute _ watched, there⟩
    exact ⟨new, (Variables.reads_commit _ _).trans frugal.reads, frugal.once,
        fun path there _ other =>
      frugal.stale path there fun same => other (congrArg Step.fire (Option.some.inj same))⟩
  | outside => exact absurd rfl (inside _)

/-- However files import each other, a step comes to its end: all that it does is told without a
bound on depth, and no greater bound makes a difference to a load. It reads no readable file twice,
and none that is up to date but the buffer's own or the one whose watch calls back. -/
theorem readsOnce_step (reachable : Reachable owner matcher s) (agrees : s.Agrees a) :
    Moves s a (s.outcome a) (s.step a) ∧
    (∀ (l : Loader) (visiting : List String) (path : String) (stamp : Int) (t : Loaded)
      (bound : Nat), path ∈ visiting → t.world.disk.files.size < bound →
      (l.loadFile bound visiting path stamp).run.run t = (l.load visiting path stamp).run.run t) ∧
    s.ReadsOnce a (s.readsOf a) := by
  refine ⟨s.moves a, fun l _ _ stamp _ _ seen enough => l.loadFile_eq_load stamp seen enough, ?_⟩
  by_cases inside : ∀ world, a ≠ .outside world
  · obtain ⟨new, grown, once⟩ := exists_readsOnce (absolute_watches reachable) agrees inside
    rw [readsOf_eq inside grown]
    exact once
  · simp only [not_forall, not_not] at inside
    obtain ⟨world, rfl⟩ := inside
    exact readsOnce_nil

end State

namespace Upkeep

def tangled : Disk :=
  placed (placed ⟨"/", ∅, []⟩ "a.scss" ⟨1, ["@use \"a.scss\", \"b.scss\", \"main.scss\";"]⟩)
    "b.scss" ⟨1, ["@use \"a.scss\";"]⟩

def tangling : Step := .update (some "/main.scss") ["@use \"a.scss\", \"b.scss\";"] .whole

def beforeTangling : State := .start 0 (some sixDigits) ⟨tangled, [], []⟩

theorem readsOnce_step_tangled :
    beforeTangling.readsOf tangling = ["/a.scss", "/b.scss"] ∧
      (beforeTangling.step tangling).readsOf tangling = [] ∧
      (beforeTangling.step tangling).readsOf (.fire "/b.scss") = ["/b.scss"] ∧
      beforeTangling.ReadsOnce tangling ["/a.scss", "/b.scss"] ∧
      (beforeTangling.step tangling).ReadsOnce (.fire "/b.scss") ["/b.scss"] := by
  have consistent : tangled.IsConsistent := by
    have empty := Disk.isConsistent_empty "/" []
    have a := isConsistent_placed empty "a.scss" (by decide) ⟨1,
      ["@use \"a.scss\", \"b.scss\", \"main.scss\";"]⟩
    exact isConsistent_placed a "b.scss" (by decide) ⟨1, ["@use \"a.scss\";"]⟩
  have reads : beforeTangling.readsOf tangling = ["/a.scss", "/b.scss"] ∧
      (beforeTangling.step tangling).readsOf tangling = [] ∧
      (beforeTangling.step tangling).readsOf (.fire "/b.scss") = ["/b.scss"] := by decide +kernel
  have disk : (beforeTangling.step tangling).world.disk = tangled :=
    State.disk_step _ fun _ => nofun
  have named : Variables.keyOf tangled (some "/main.scss") ≠ Variables.bufferKey := by
    decide +kernel
  have update : beforeTangling.Agrees tangling := by
    refine ⟨consistent, fun given lines range same unnamed => ?_⟩
    obtain ⟨rfl, -⟩ := Step.update.inj same
    exact absurd unnamed named
  have fire : (beforeTangling.step tangling).Agrees (.fire "/b.scss") := ⟨disk ▸ consistent, nofun⟩
  have first := State.readsOnce_step (.start _) update
  have later := State.readsOnce_step (.step _ (.start _)) fire
  exact ⟨reads.1, reads.2.1, reads.2.2, reads.1 ▸ first.2.2, reads.2.2 ▸ later.2.2⟩

end Upkeep

end ColorSpans.Sass
