import ColorSpans.Proofs.Sass.Course
import ColorSpans.Proofs.Sass.Sweep

/-! The steps that the variables of a buffer go through, and what each of them can do. -/
namespace ColorSpans.Sass

structure State where
  held : Variables
  world : World

inductive Step
  | update (path : Option String) (lines : List String) (range : Sheet.Range)
  /-- A watch on a file calls back. -/
  | fire (path : String)
  | close
  /-- Files, watches of others and reads of others change. -/
  | outside (world : World)

namespace State

def start (owner : Nat) (matcher : Option Matcher) (world : World) : State :=
  ⟨.new owner matcher, world⟩

def after (s : State) : Step → Except LoadError Unit × State
  | .update path lines range =>
      let (outcome, v, world) := s.held.update s.world path lines range
      (outcome, ⟨v, world⟩)
  | .fire path =>
      let (outcome, v, world) := s.held.fileChanged s.world path
      (outcome.map fun _ => (), ⟨v, world⟩)
  | .close =>
      let (v, world) := s.held.close s.world
      (.ok (), ⟨v, world⟩)
  | .outside world => (.ok (), ⟨s.held, world⟩)

def outcome (s : State) (a : Step) : Except LoadError Unit := (s.after a).1

def step (s : State) (a : Step) : State := (s.after a).2

def run (s : State) (steps : List Step) : State := steps.foldl step s

end State

/-- The states that variables can get into, whatever fails on the way. -/
inductive Reachable (owner : Nat) (matcher : Option Matcher) : State → Prop
  | start (world : World) : Reachable owner matcher (.start owner matcher world)
  | step {s : State} (a : Step) (before : Reachable owner matcher s) :
      Reachable owner matcher (s.step a)

namespace Variables

def startRoot (v : Variables) (world : World) (key : String) (sheet : Sheet) : Loaded :=
  { v.start world with sheets := (v.sheetsWithoutOldRoot key).insert key sheet }

/-- What a failed load leaves behind. -/
def record (v : Variables) (s : Loaded) : Variables :=
  { v with stamps := s.stamps, watches := s.watches }

theorem loadRoot_course (v : Variables) (world : World) (key : String) (sheet : Sheet) :
    ∃ notes, Course (v.setRoot key).loader [key] (.imports key) (v.startRoot world key sheet) notes
      (((v.loadRoot key sheet).run.run (v.start world)).1.map fun _ => [])
      ((v.loadRoot key sheet).run.run (v.start world)).2 := by
  have down : (v.setRoot key).loader.Descends
      (fun next stamp => (v.setRoot key).loader.load [next, key] next stamp) [key] world.disk := by
    intro s candidate stamp _ _ _
    exact (v.setRoot key).loader.load_course _ _ stamp s List.mem_cons_self
  simp only [loadRoot, Stateful.run_bind, Stateful.run_modify]
  exact (v.setRoot key).loader.imports_course _ [key] down key _ rfl

end Variables

inductive Moves (s : State) : Step → Except LoadError Unit → State → Prop
  | unread {path lines range e}
      (bad : s.held.rereadSheet (Variables.keyOf s.world.disk path) lines range = .error e) :
      Moves s (.update path lines range) (.error e)
        ⟨s.held.setRoot (Variables.keyOf s.world.disk path), s.world⟩
  | unloaded {path lines range key sheet notes e t}
      (named : Variables.keyOf s.world.disk path = key)
      (good : s.held.rereadSheet key lines range = .ok sheet)
      (course : Course (s.held.setRoot key).loader [key] (.imports key)
        (s.held.startRoot s.world key sheet) notes (.error e) t) :
      Moves s (.update path lines range) (.error e) ⟨(s.held.setRoot key).record t, t.world⟩
  | updated {path lines range key sheet notes edges t}
      (named : Variables.keyOf s.world.disk path = key)
      (good : s.held.rereadSheet key lines range = .ok sheet)
      (course : Course (s.held.setRoot key).loader [key] (.imports key)
        (s.held.startRoot s.world key sheet) notes (.ok edges) t) :
      Moves s (.update path lines range) (.ok ())
        ⟨((s.held.setRoot key).commit t).1, ((s.held.setRoot key).commit t).2⟩
  | unwatched {path} (other : path ∉ s.held.watches) : Moves s (.fire path) (.ok ()) s
  | gone {path} (watched : path ∈ s.held.watches) (missing : s.world.disk.stamp? path = none) :
      Moves s (.fire path) (.ok ())
        ⟨(s.held.commit ((s.held.start s.world).drop path)).1,
          (s.held.commit ((s.held.start s.world).drop path)).2⟩
  | stuck {path stamp notes e t} (watched : path ∈ s.held.watches)
      (there : s.world.disk.stamp? path = some stamp)
      (course : Course s.held.loader [path] (.file path stamp) (s.held.start s.world) notes
        (.error e) t) :
      Moves s (.fire path) (.error e) ⟨s.held.record t, t.world⟩
  | reloaded {path stamp notes edges t} (watched : path ∈ s.held.watches)
      (there : s.world.disk.stamp? path = some stamp)
      (course : Course s.held.loader [path] (.file path stamp) (s.held.start s.world) notes
        (.ok edges) t) :
      Moves s (.fire path) (.ok ()) ⟨(s.held.commit t).1, (s.held.commit t).2⟩
  | closed : Moves s .close (.ok ()) ⟨(s.held.close s.world).1, (s.held.close s.world).2⟩
  | outside {world} : Moves s (.outside world) (.ok ()) ⟨s.held, world⟩

namespace State

theorem update_moves (s : State) (path : Option String) (lines : List String)
    (range : Sheet.Range) :
    Moves s (.update path lines range) (s.outcome (.update path lines range))
      (s.step (.update path lines range)) := by
  simp only [outcome, step, after, Variables.update]
  cases good : s.held.rereadSheet (Variables.keyOf s.world.disk path) lines range with
  | error e => exact .unread good
  | ok sheet =>
    obtain ⟨notes, course⟩ :=
      s.held.loadRoot_course s.world (Variables.keyOf s.world.disk path) sheet
    dsimp only
    revert course
    generalize (s.held.loadRoot (Variables.keyOf s.world.disk path) sheet).run.run
      (s.held.start s.world) = outcome
    obtain ⟨_ | _, t⟩ := outcome
    · exact .unloaded rfl good
    · exact .updated rfl good

theorem fire_moves (s : State) (path : String) :
    Moves s (.fire path) (s.outcome (.fire path)) (s.step (.fire path)) := by
  simp only [outcome, step, after, Variables.fileChanged]
  by_cases watched : path ∈ s.held.watches
  · rw [if_pos (Std.ExtTreeMap.contains_iff_mem.2 watched)]
    simp only [Variables.reload, Stateful.run_bind, Stateful.run_get]
    cases there : s.world.disk.stamp? path with
    | none =>
      have same : (s.held.start s.world).world.disk.stamp? path = none := there
      simp only [same, Stateful.run_modify]
      exact .gone watched there
    | some stamp =>
      have same : (s.held.start s.world).world.disk.stamp? path = some stamp := there
      simp only [same]
      obtain ⟨notes, course⟩ := s.held.loader.load_course [path] path stamp
        (s.held.start s.world) List.mem_cons_self
      revert course
      generalize (s.held.loader.load [path] path stamp).run.run (s.held.start s.world) = outcome
      obtain ⟨_ | _, t⟩ := outcome
      · exact .stuck watched there
      · exact .reloaded watched there
  · rw [if_neg (mt Std.ExtTreeMap.contains_iff_mem.1 watched)]
    exact .unwatched watched

theorem moves (s : State) (a : Step) : Moves s a (s.outcome a) (s.step a) := by
  cases a with
  | update path lines range => exact s.update_moves path lines range
  | fire path => exact s.fire_moves path
  | close => exact .closed
  | outside world => exact .outside

theorem owner_step (s : State) (a : Step) : (s.step a).held.owner = s.held.owner := by
  have move := s.moves a
  generalize s.step a = t at move ⊢
  generalize s.outcome a = outcome at move
  cases move <;> rfl

theorem disk_step (s : State) {a : Step} (inside : ∀ world, a ≠ .outside world) :
    (s.step a).world.disk = s.world.disk := by
  have move := s.moves a
  generalize s.step a = t at move ⊢
  generalize s.outcome a = outcome at move
  cases move with
  | unread | unwatched | closed => rfl
  | unloaded _ _ course => exact course.disk_eq
  | updated _ _ course => exact (Variables.disk_commit _ _).trans course.disk_eq
  | gone => exact (Variables.disk_commit _ _).trans (Loaded.disk_drop _ _)
  | stuck _ _ course => exact course.disk_eq
  | reloaded _ _ course => exact (Variables.disk_commit _ _).trans course.disk_eq
  | outside => exact absurd rfl (inside _)

end State

end ColorSpans.Sass
