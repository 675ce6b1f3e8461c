import ColorSpans.Proofs.Outcome
import ColorSpans.Proofs.Sass.Contents
import ColorSpans.Proofs.Sass.Likeness
import ColorSpans.Proofs.Sass.Reading
import ColorSpans.Proofs.Sass.Trail
import ColorSpans.Proofs.Sass.Unreadable

/-! Failed steps. One leaves sheets and definitions as they were, but not always the root and the
records of the files that it came across. -/
namespace ColorSpans.Sass

/-- How a step fails, with what it has noted by then. -/
inductive Fails (s : State) : Step → List Note → LoadError → Prop
  | unread {path lines range e}
      (bad : s.held.rereadSheet (Variables.keyOf s.world.disk path) lines range = .error e) :
      Fails s (.update path lines range) [] e
  | unloaded {path lines range key sheet notes e t}
      (named : Variables.keyOf s.world.disk path = key)
      (good : s.held.rereadSheet key lines range = .ok sheet)
      (course : Course (s.held.setRoot key).loader [key] (.imports key)
        (s.held.startRoot s.world key sheet) notes (.error e) t) :
      Fails s (.update path lines range) notes e
  | stuck {path stamp notes e t} (watched : path ∈ s.held.watches)
      (there : s.world.disk.stamp? path = some stamp)
      (course : Course s.held.loader [path] (.file path stamp) (s.held.start s.world) notes
        (.error e) t) :
      Fails s (.fire path) notes e

namespace State

/-- An update makes its file the root before anything else. -/
def rootDuring (s : State) : Step → Option String
  | .update path _ _ => some (Variables.keyOf s.world.disk path)
  | _ => s.held.root

/-- Of every file the last note says what was on record already. -/
def Knew (s : State) (notes : List Note) : Prop :=
  ∀ (path : String) (note : Note), Note.last notes path = some note →
    s.held.stamps[path]? = note.stamp?

end State

theorem Fails.unique {s : State} {a : Step} {notes notes' : List Note} {e e' : LoadError}
    (h : Fails s a notes e) (h' : Fails s a notes' e') : notes' = notes ∧ e' = e := by
  cases h with
  | unread bad =>
    cases h' with
    | unread bad' => exact ⟨rfl, Except.error.inj (bad'.symm.trans bad)⟩
    | unloaded named good => exact absurd ((named ▸ good).symm.trans bad) nofun
  | unloaded named good course =>
    subst named
    cases h' with
    | unread bad => exact absurd (good.symm.trans bad) nofun
    | unloaded named good' course' =>
      subst named
      obtain rfl := Except.ok.inj (good.symm.trans good')
      obtain ⟨rfl, same, _⟩ := course.unique course'
      exact ⟨rfl, (Except.error.inj same).symm⟩
  | stuck watched there course =>
    cases h' with
    | stuck _ there' course' =>
      obtain rfl := Option.some.inj (there.symm.trans there')
      obtain ⟨rfl, same, _⟩ := course.unique course'
      exact ⟨rfl, (Except.error.inj same).symm⟩

theorem Reachable.paired {owner : Nat} {matcher : Option Matcher} {s : State}
    (h : Reachable owner matcher s) :
    (s.held.start s.world).Paired := by
  induction h with
  | start world => exact fun _ => Iff.rfl
  | @step s a _ ih =>
    have move := s.moves a
    generalize s.step a = t at move ⊢
    generalize s.outcome a = outcome at move
    cases move with
    | unread | unwatched | outside => exact ih
    | unloaded _ _ course | stuck _ _ course => exact course.paired ih
    | updated _ _ course | reloaded _ _ course => exact (course.paired ih).dropAll _
    | gone => exact (ih.drop _).dropAll _
    | closed => exact fun _ => Iff.rfl

/-- What a failed step leaves: the old sheets and definitions, its own root, and what it has
noted. -/
structure Leaves (s : State) (a : Step) (notes : List Note) (v : Variables) : Prop where
  owner : v.owner = s.held.owner
  matcher : v.matcher = s.held.matcher
  root : v.root = s.rootDuring a
  sheets : v.sheets = s.held.sheets
  definitions : v.definitions = s.held.definitions
  stamps : ∀ path, v.stamps[path]? = (Note.last notes path).elim s.held.stamps[path]? Note.stamp?

theorem Fails.leaves {s : State} {a : Step} {notes : List Note} {e : LoadError}
    (h : Fails s a notes e) :
    s.outcome a = .error e ∧ Leaves s a notes (s.step a).held := by
  have move := s.moves a
  generalize s.step a = t at move ⊢
  generalize s.outcome a = outcome at move ⊢
  cases h with
  | unread bad =>
    cases move with
    | unread bad' =>
      obtain rfl := Except.error.inj (bad.symm.trans bad')
      exact ⟨rfl, rfl, rfl, rfl, rfl, rfl, fun _ => rfl⟩
    | unloaded named good | updated named good => exact absurd ((named ▸ good).symm.trans bad) nofun
  | @unloaded path _ _ key sheet _ _ _ named good course =>
    subst named
    cases move with
    | unread bad => exact absurd (good.symm.trans bad) nofun
    | unloaded named good' course' =>
      subst named
      obtain rfl := Except.ok.inj (good.symm.trans good')
      obtain ⟨rfl, same, rfl⟩ := course.unique course'
      obtain rfl := Except.error.inj same
      exact ⟨rfl, rfl, rfl, rfl, rfl, rfl, fun path => course.getElem?_stamps path⟩
    | updated named good' course' =>
      subst named
      obtain rfl := Except.ok.inj (good.symm.trans good')
      exact absurd (course.unique course').2.1 nofun
  | stuck watched there course =>
    cases move with
    | unwatched other => exact absurd watched other
    | gone _ missing => exact absurd (there.symm.trans missing) nofun
    | stuck _ there' course' =>
      obtain rfl := Option.some.inj (there.symm.trans there')
      obtain ⟨rfl, same, rfl⟩ := course.unique course'
      obtain rfl := Except.error.inj same
      exact ⟨rfl, rfl, rfl, rfl, rfl, rfl, fun path => course.getElem?_stamps path⟩
    | reloaded _ there' course' =>
      obtain rfl := Option.some.inj (there.symm.trans there')
      exact absurd (course.unique course').2.1 nofun

theorem Reachable.same_of_kept {owner : Nat} {matcher : Option Matcher} {s : State}
    (h : Reachable owner matcher s) {a : Step} {path : String} {stamp : Int}
    (leaves : Leaves s a [.kept path stamp] (s.step a).held) (same : s.rootDuring a = s.held.root)
    (watched : path ∈ s.held.watches) :
    (s.step a).held.Same { s.held with stamps := s.held.stamps.insert path stamp } := by
  have stamps : (s.step a).held.stamps = s.held.stamps.insert path stamp := by
    refine Std.ExtTreeMap.ext_getElem? fun other => ?_
    rw [leaves.stamps other, Note.elim_last_cons, Std.ExtTreeMap.getElem?_insert]
    simp only [Std.LawfulEqCmp.compare_eq_iff_eq]
    rfl
  have paired : ∀ other, other ∈ (s.step a).held.watches ↔ other ∈ (s.step a).held.stamps :=
    (Reachable.step a h).paired
  have before : ∀ other, other ∈ s.held.watches ↔ other ∈ s.held.stamps := h.paired
  refine ⟨leaves.owner, leaves.matcher, leaves.root.trans same, leaves.sheets, stamps,
    fun other => ?_,
    leaves.definitions⟩
  rw [paired, stamps, Std.ExtTreeMap.mem_insert, Std.LawfulEqCmp.compare_eq_iff_eq, ← before]
  exact ⟨fun known => known.elim (fun this => this ▸ watched) id, Or.inr⟩

namespace State

variable {s : State} {a : Step} {e : LoadError}

theorem exists_fails (failed : s.outcome a = .error e) : ∃ notes, Fails s a notes e := by
  have move := s.moves a
  rw [failed] at move
  generalize s.step a = t at move
  cases move with
  | unread bad => exact ⟨[], .unread bad⟩
  | unloaded named good course => exact ⟨_, .unloaded named good course⟩
  | stuck watched there course => exact ⟨_, .stuck watched there course⟩

theorem knew_iff {notes : List Note} {stamps : Std.ExtTreeMap String Int}
    (h : ∀ path : String, stamps[path]? =
      (Note.last notes path).elim s.held.stamps[path]? Note.stamp?) :
    stamps = s.held.stamps ↔ s.Knew notes := by
  constructor
  · rintro rfl path note told
    rw [h path, told]
    rfl
  · intro knew
    refine Std.ExtTreeMap.ext_getElem? fun path => ?_
    rw [h path]
    cases told : Note.last notes path with
    | none => rfl
    | some note => exact (knew path note told).symm

/-- A failed step leaves sheets and definitions as they were. It leaves everything as it was exactly
if it kept the root and came across nothing new, and then no later step can tell that it was
tried. -/
theorem failed_leaves {owner : Nat} {matcher : Option Matcher}
    (reachable : Reachable owner matcher s) (failed : s.outcome a = .error e) :
    (s.step a).held.sheets = s.held.sheets ∧ (s.step a).held.definitions = s.held.definitions ∧
      ∃ notes, (∀ notes' e', Fails s a notes' e' ↔ notes' = notes ∧ e' = e) ∧
        ((s.step a).held.Same s.held ↔ s.rootDuring a = s.held.root ∧ s.Knew notes) ∧
        (s.rootDuring a = s.held.root ∧ s.Knew notes → ∀ steps,
          ((s.step a).run steps).Same (s.run steps) ∧
          ∀ next, ((s.step a).run steps).outcome next = (s.run steps).outcome next) := by
  obtain ⟨notes, fails⟩ := exists_fails failed
  have leaves := fails.leaves.2
  have paired := (Reachable.step a reachable).paired
  have iff : (s.step a).held.Same s.held ↔ s.rootDuring a = s.held.root ∧ s.Knew notes := by
    rw [← knew_iff leaves.stamps, ← leaves.root]
    refine ⟨fun same => ⟨same.root, same.stamps⟩, fun ⟨root, stamps⟩ => ?_⟩
    refine ⟨leaves.owner, leaves.matcher, root, leaves.sheets, stamps, fun path => ?_,
      leaves.definitions⟩
    have known : path ∈ (s.step a).held.watches ↔ path ∈ (s.step a).held.stamps := paired path
    rw [known, stamps]
    exact (reachable.paired path).symm
  refine ⟨leaves.sheets, leaves.definitions, notes, fun notes' e' => ⟨fails.unique, ?_⟩, iff,
    fun kept steps => ?_⟩
  · rintro ⟨rfl, rfl⟩
    exact fails
  · have inside : ∀ world, a ≠ .outside world := by
      rintro world rfl
      cases failed
    have same := State.Same.run ⟨iff.2 kept, disk_step s inside⟩ steps
    exact ⟨same, fun next => (same.step next).1⟩

def hueMatcher : Matcher :=
  .compile ⟨false, ⟨false, true, false⟩, false, false, true, .off, true, none⟩ ⟨[], []⟩

theorem hueMatcher_takes (count : Nat) :
    hueMatcher.prefixedSpot ⟨none, hueOf count⟩ = some (.function .hsl) := rfl

def worldWith (first second : File) : World :=
  ⟨⟨"/", ((∅ : Std.ExtTreeMap String File).insert "/a.scss" first).insert "/b.scss" second, []⟩,
    [⟨"/a.scss", 0, true⟩], []⟩

def importFirst : Step := .update (some "/main.scss") ["@import \"a\";"] .whole

def importing : State :=
  (start 0 (some hueMatcher) (worldWith ⟨1, ["$x: #111111;"]⟩ ⟨1, [hueLine 4301]⟩)).step importFirst

def spoiled : State :=
  importing.step (.outside (worldWith ⟨2, ["@import \"b\";", "$x: #222222;"]⟩ ⟨1, [hueLine 4301]⟩))

def mend : Step :=
  .outside (worldWith ⟨2, ["@import \"b\";", "$x: #222222;"]⟩ ⟨2, ["$y: #333333;"]⟩)

theorem importing_reachable : Reachable 0 (some hueMatcher) importing := .step _ (.start _)

theorem failed_leaves_importing :
    importing.outcome (.update (some "/main.scss") [hueLine 4301] .whole) =
      .error (.numeral (.tooManyDigits 4301)) ∧
    ∀ steps, ((importing.step (.update (some "/main.scss") [hueLine 4301] .whole)).run steps).Same
      (importing.run steps) := by
  have bad : importing.held.rereadSheet (Variables.keyOf importing.world.disk (some "/main.scss"))
      [hueLine 4301] .whole = .error (.numeral (.tooManyDigits 4301)) := by
    rw [Variables.rereadSheet, importing_reachable.matcher_eq,
      readFrom_hueLine (hueMatcher_takes 4301) (by decide)]
    rfl
  have fails : Fails importing (.update (some "/main.scss") [hueLine 4301] .whole) []
      (.numeral (.tooManyDigits 4301)) := .unread bad
  have failed := fails.leaves.1
  obtain ⟨-, -, notes, only, -, after⟩ := failed_leaves importing_reachable failed
  obtain ⟨rfl, -⟩ := (only _ _).1 fails
  have kept : importing.rootDuring (.update (some "/main.scss") [hueLine 4301] .whole) =
      importing.held.root := by
    decide +kernel
  have knew : importing.Knew [] := by
    intro path note told
    cases told
  exact ⟨failed, fun steps => (after ⟨kept, knew⟩ steps).1⟩

def firstLines : List String := ["@import \"b\";", "$x: #222222;"]

def firstSheet : Sheet := (Sheet.read (some hueMatcher) firstLines).toOption.getD .empty

theorem spoiled_reachable : Reachable 0 (some hueMatcher) spoiled := .step _ importing_reachable

theorem spoiled_course {l : Loader} (matcher : l.matcher = some hueMatcher)
    (root : l.root = some "/main.scss") {s : Loaded} (disk : s.world.disk = spoiled.world.disk)
    (there : s.sheets["/a.scss"]? = some firstSheet) (new : "/b.scss" ∉ s.sheets) :
    ∃ t, Course l ["/a.scss"] (.imports "/a.scss") s []
      (.error (.numeral (.tooManyDigits 4301))) t := by
  have targets : firstSheet.candidates "/a.scss" =
      ["/b.scss", "/_b.scss", "/b.sass", "/_b.sass"] := by
    decide +kernel
  have real : s.world.disk.real "/b.scss" = "/b.scss" := by
    rw [disk]
    decide +kernel
  have other : l.root ≠ some (s.world.disk.real "/b.scss") := by
    rw [root, real]
    decide
  have second : s.world.disk.stamp? "/b.scss" = some 1 := by
    rw [disk]
    decide +kernel
  have unseen : s.world.disk.real "/b.scss" ∉ ["/a.scss"] := by
    rw [real]
    decide
  have stale : s.isCurrent (s.world.disk.real "/b.scss") 1 = false := by
    have absent : s.sheets.contains "/b.scss" = false :=
      Bool.eq_false_iff.2 (mt Std.ExtTreeMap.contains_iff_mem.1 new)
    rw [real, Loaded.isCurrent, absent]
    rfl
  have found : s.world.disk.lines? (s.world.disk.real "/b.scss") = some [hueLine 4301] := by
    rw [real, disk]
    rfl
  have bad : Sheet.read l.matcher [hueLine 4301] = .error (.tooManyDigits 4301) := by
    rw [matcher]
    exact readFrom_hueLine (hueMatcher_takes 4301) (by decide) _ _ _ _
  have course : Course l ["/a.scss"]
      (.candidates ["/b.scss", "/_b.scss", "/b.sass", "/_b.sass"] []) s []
      (.error (.numeral (.tooManyDigits 4301))) (s.noteRead (s.world.disk.real "/b.scss")) :=
    .failed other second unseen stale (.unparsable found bad)
  rw [← targets] at course
  exact ⟨_, .broken there course⟩

theorem spoiled_fails :
    Fails spoiled (.fire "/a.scss") [.kept "/a.scss" 2] (.numeral (.tooManyDigits 4301)) := by
  have watched : "/a.scss" ∈ spoiled.held.watches := by decide +kernel
  have changed : spoiled.world.disk.stamp? "/a.scss" = some 2 := by decide +kernel
  have first : (spoiled.held.start spoiled.world).world.disk.lines? "/a.scss" =
      some firstLines := by decide +kernel
  have matcher : spoiled.held.loader.matcher = some hueMatcher := spoiled_reachable.matcher_eq
  have good : Sheet.read spoiled.held.loader.matcher firstLines = .ok firstSheet := by
    have readable : (Sheet.read (some hueMatcher) firstLines).toOption.isSome = true := by
      decide +kernel
    obtain ⟨sheet, found⟩ := Option.isSome_iff_exists.1 readable
    rw [matcher, firstSheet, found]
    exact eq_ok_of_toOption found
  have root : spoiled.held.loader.root = some "/main.scss" := by decide +kernel
  have new : "/b.scss" ∉ spoiled.held.sheets := by decide +kernel
  obtain ⟨t, course⟩ := spoiled_course matcher root
    (s := ((spoiled.held.start spoiled.world).noteRead "/a.scss").take
      spoiled.held.loader.owner "/a.scss" 2 firstSheet)
    (by rw [Loaded.disk_take]; rfl)
    (by rw [Loaded.sheets_take, Std.ExtTreeMap.getElem?_insert_self])
    (by rw [Loaded.sheets_take, Std.ExtTreeMap.mem_insert]; exact fun h => h.elim (by decide) new)
  exact .stuck watched changed (.parsed first good course)

def recorded : State :=
  ⟨{ spoiled.held with stamps := spoiled.held.stamps.insert "/a.scss" 2 }, spoiled.world⟩

theorem recorded_same : (spoiled.step (.fire "/a.scss")).Same recorded where
  held := spoiled_reachable.same_of_kept spoiled_fails.leaves.2 rfl (by decide +kernel)
  disk := disk_step _ fun _ => Step.noConfusion

/-- A failed reload has lost the change of its file: later updates take the file for current. -/
theorem failed_leaves_spoiled :
    Reachable 0 (some hueMatcher) spoiled ∧
    spoiled.outcome (.fire "/a.scss") = .error (.numeral (.tooManyDigits 4301)) ∧
    ((spoiled.step (.fire "/a.scss")).run [mend, importFirst]).held.definitions.toList =
      [("x", "111111")] ∧
    (spoiled.run [mend, importFirst]).held.definitions.toList =
      [("x", "222222"), ("y", "333333")] := by
  refine ⟨spoiled_reachable, spoiled_fails.leaves.1, ?_, by decide +kernel⟩
  rw [(recorded_same.run [mend, importFirst]).held.definitions]
  decide +kernel

end State

end ColorSpans.Sass
