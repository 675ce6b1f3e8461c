import ColorSpans.Proofs.Outcome
import ColorSpans.Proofs.Sass.Upkeep

/-! Runs of the variables of one buffer. Once every change is taken in they look as if they had just
been made from the last lines of the buffer on the disk as it is now. -/
namespace ColorSpans.Sass

/-- The variables of one buffer, the watched files whose last change was not reported yet, and the
lines that the buffer was given last. -/
structure Upkeep where
  state : State
  unreported : List String
  lines : Option (List String)

namespace Upkeep

def start (owner : Nat) (matcher : Option Matcher) (world : World) : Upkeep :=
  ⟨.start owner matcher world, [], none⟩

def updated (u : Upkeep) (path : String) (lines : List String) : Upkeep :=
  ⟨u.state.step (.update (some path) lines .whole), [], some lines⟩

/-- A watch that was cancelled has nothing to report. -/
def fired (u : Upkeep) (file : String) : Upkeep :=
  let s := u.state.step (.fire file)
  ⟨s, u.unreported.filter fun other => other != file && s.held.watches.contains other, u.lines⟩

def closed (u : Upkeep) : Upkeep := ⟨u.state.step .close, [], none⟩

/-- The watches on changed files are to call back. -/
def revised (u : Upkeep) (world : World) : Upkeep :=
  ⟨u.state.step (.outside world),
    u.state.held.watches.keys.filter fun file =>
      u.unreported.contains file || u.state.world.disk.files[file]? != world.disk.files[file]?,
    u.lines⟩

/-- One step that does not fail. The buffer is read anew only when every change has been
reported. -/
inductive Next (path : String) (u : Upkeep) : Upkeep → Prop
  | update (lines : List String) (reported : u.unreported = [])
      (done : u.state.outcome (.update (some path) lines .whole) = .ok ()) :
      Next path u (u.updated path lines)
  | fire (file : String) (done : u.state.outcome (.fire file) = .ok ()) : Next path u (u.fired file)
  | close : Next path u u.closed
  | revise (world : World) (revises : u.state.world.disk.Revises world.disk)
      (consistent : world.disk.IsConsistent) : Next path u (u.revised world)

/-- Variables made anew from the last lines of a buffer, if there are any. -/
def scratch (owner : Nat) (matcher : Option Matcher) (world : World) (path : String) :
    Option (List String) → State
  | none => .start owner matcher world
  | some lines => (State.start owner matcher world).step (.update (some path) lines .whole)

structure Stands (path : String) (matcher : Option Matcher) (u : Upkeep) : Prop where
  consistent : u.state.world.disk.IsConsistent
  watched : ∀ file ∈ u.unreported, file ∈ u.state.held.watches
  closed : u.lines = none → ∃ owner, u.state.held = .new owner matcher
  tracks : ∀ lines, u.lines = some lines →
    Tracks ⟨u.state.world.disk, matcher, u.state.world.disk.real path, lines⟩ u.unreported
      u.state.held u.state.world

theorem keyOf_some (disk : Disk) {path : String} (named : path ≠ "") :
    Variables.keyOf disk (some path) = disk.real path := by
  simp [Variables.keyOf]

section update

variable {s : State} {owner : Nat} {matcher : Option Matcher} {path : String} {lines : List String}

theorem rereadSheet_new (new : s.held = .new owner matcher) (key : String) {sheet : Sheet} :
    s.held.rereadSheet key lines .whole = .ok sheet ↔ Sheet.read matcher lines = .ok sheet := by
  have rootless : s.held.sheetsWithoutOldRoot key = ∅ := by
    rw [Variables.sheetsWithoutOldRoot_eq (.inl (by rw [new]; rfl)), new]
    rfl
  rw [Variables.rereadSheet_whole fun sheet found => by simp [rootless] at found, new]
  rfl

theorem ready_new (new : s.held = .new owner matcher) (sheet : Sheet)
    (good : s.held.rereadSheet (s.world.disk.real path) lines .whole = .ok sheet) :
    Faithful ⟨s.world.disk, matcher, s.world.disk.real path, lines⟩ [s.world.disk.real path] []
      (s.held.startRoot s.world (s.world.disk.real path) sheet) := by
  have read := (rereadSheet_new new _).1 good
  refine Faithful.single rfl (Path.isAbsolute_real _ _)
    ⟨lines, sheet, Source.lines?_root, read, rfl, rfl⟩ ?_ ?_ ?_
  · rw [Variables.startRoot, Variables.sheetsWithoutOldRoot_eq (.inl (by rw [new]; rfl)), new]
    rfl
  · rw [new]
    rfl
  · rw [new]
    rfl

theorem ready_tracks {before : List String}
    (h : Tracks ⟨s.world.disk, matcher, s.world.disk.real path, before⟩ [] s.held s.world)
    (sheet : Sheet) (good : s.held.rereadSheet (s.world.disk.real path) lines .whole = .ok sheet) :
    Faithful ⟨s.world.disk, matcher, s.world.disk.real path, lines⟩ [s.world.disk.real path] []
      (s.held.startRoot s.world (s.world.disk.real path) sheet) := by
  have kept := Variables.sheetsWithoutOldRoot_eq (v := s.held) (.inr h.rooted)
  rw [Variables.rereadSheet_whole fun sheet found => (h.faithful.tells _ sheet (kept ▸ found)
    List.not_mem_nil).numbered, h.matched] at good
  rw [Variables.startRoot, kept]
  exact h.faithful.reread ⟨lines, sheet, Source.lines?_root, good, rfl, rfl⟩

end update

namespace Stands

variable {path : String} {matcher : Option Matcher} {u u' : Upkeep}

theorem apart (h : Stands path matcher u) {lines : List String} (given : u.lines = some lines) :
    u.state.world.disk.real path ∉ u.unreported := by
  intro out
  have tracks := (h.tracks lines given).faithful
  exact ((tracks.stamped _).1 ((tracks.watched _).1 (h.watched _ out))).2 rfl

theorem start (owner : Nat) (world : World) (consistent : world.disk.IsConsistent) :
    Stands path matcher (start owner matcher world) :=
  ⟨consistent, fun _ none => absurd none List.not_mem_nil, fun _ => ⟨owner, rfl⟩,
    fun _ given => by cases given⟩

theorem matched (h : Stands path matcher u) : u.state.held.matcher = matcher := by
  cases given : u.lines with
  | none =>
    obtain ⟨owner, new⟩ := h.closed given
    rw [new]
    rfl
  | some lines => exact (h.tracks lines given).matched

theorem update (h : Stands path matcher u) (named : path ≠ "") (lines : List String)
    (reported : u.unreported = [])
    (done : u.state.outcome (.update (some path) lines .whole) = .ok ()) :
    Stands path matcher (u.updated path lines) := by
  have ready : ∀ sheet,
      u.state.held.rereadSheet (u.state.world.disk.real path) lines .whole = .ok sheet →
      Faithful ⟨u.state.world.disk, matcher, u.state.world.disk.real path, lines⟩
        [u.state.world.disk.real path] []
        (u.state.held.startRoot u.state.world (u.state.world.disk.real path) sheet) := by
    cases given : u.lines with
    | none =>
      obtain ⟨owner, new⟩ := h.closed given
      exact ready_new new
    | some before => exact ready_tracks (reported ▸ h.tracks before given)
  have tracks := State.tracks_of_update
    ⟨u.state.world.disk, matcher, u.state.world.disk.real path, lines⟩
    (keyOf_some u.state.world.disk named) h.matched h.consistent ready done
  have disk : (u.updated path lines).state.world.disk = u.state.world.disk := tracks.faithful.disk
  refine ⟨disk.symm ▸ h.consistent, fun _ none => absurd none List.not_mem_nil,
    fun none => absurd none (Option.some_ne_none _), fun other given => ?_⟩
  obtain rfl : lines = other := Option.some.inj given
  rw [disk]
  exact tracks

theorem fire (h : Stands path matcher u) (file : String)
    (done : u.state.outcome (.fire file) = .ok ()) : Stands path matcher (u.fired file) := by
  have watched : ∀ other ∈ (u.fired file).unreported, other ∈ (u.fired file).state.held.watches :=
    fun other out => Std.ExtTreeMap.contains_iff_mem.1
      (Bool.and_eq_true_iff.1 (List.mem_filter.1 out).2).2
  cases given : u.lines with
  | none =>
    obtain ⟨owner, new⟩ := h.closed given
    have same : (u.fired file).state = u.state :=
      State.step_fire_unwatched (by rw [new]; exact Std.ExtTreeMap.not_mem_empty)
    refine ⟨by rw [same]; exact h.consistent, watched, fun _ => ⟨owner, by rw [same]; exact new⟩,
      fun other given' => ?_⟩
    exact absurd (given.symm.trans given') (Option.some_ne_none _).symm
  | some lines =>
    have tracks := State.tracks_of_fire (h.tracks lines given) h.consistent (h.apart given) done
    have disk : (u.fired file).state.world.disk = u.state.world.disk := tracks.faithful.disk
    refine ⟨disk.symm ▸ h.consistent, watched, fun none => ?_, fun other given' => ?_⟩
    · exact absurd (given.symm.trans none) (Option.some_ne_none _)
    · obtain rfl : lines = other := Option.some.inj (given.symm.trans given')
      rw [disk]
      exact tracks

theorem close (h : Stands path matcher u) : Stands path matcher u.closed :=
  ⟨h.consistent, fun _ none => absurd none List.not_mem_nil,
    fun _ => ⟨u.state.held.owner, by rw [← h.matched]; rfl⟩, fun _ given => by cases given⟩

theorem revise (h : Stands path matcher u) {world : World}
    (revises : u.state.world.disk.Revises world.disk) (consistent : world.disk.IsConsistent) :
    Stands path matcher (u.revised world) := by
  refine ⟨consistent, fun file out => Std.ExtTreeMap.mem_keys.1 (List.mem_filter.1 out).1, h.closed,
    fun lines given => ?_⟩
  have tracks := (h.tracks lines given).revise revises (h.apart given)
  rw [← revises.real_eq path] at tracks
  exact tracks

theorem next (h : Stands path matcher u) (named : path ≠ "") (step : Next path u u') :
    Stands path matcher u' := by
  cases step with
  | update lines reported done => exact h.update named lines reported done
  | fire file done => exact h.fire file done
  | close => exact h.close
  | revise world revises consistent => exact h.revise revises consistent

theorem run {owner : Nat} {world : World} (named : path ≠ "") (consistent : world.disk.IsConsistent)
    (steps : Relation.ReflTransGen (Next path) (Upkeep.start owner matcher world) u) :
    Stands path matcher u := by
  induction steps with
  | refl => exact start owner world consistent
  | tail _ step ih => exact ih.next named step

end Stands

theorem sound_of_tracks {src : Source} {v : Variables} {world : World} (h : Tracks src [] v world) :
    src.Sound fun path => path ∈ v.sheets := by
  intro path there
  obtain ⟨sheet, found⟩ := exists_sheet there
  obtain ⟨lines, fresh, text, read, declarations, imports⟩ :=
    h.faithful.tells path sheet found List.not_mem_nil
  have links := h.faithful.links path sheet found List.not_mem_nil List.not_mem_nil
  refine ⟨lines, fresh, text, read, fun q edge readable => ?_⟩
  rw [← Source.edgesOf_congr imports, ← links] at edge
  exact h.faithful.closed path sheet found List.not_mem_nil q (List.mem_filter.1 edge).1 readable

/-- Once every change is taken in, nothing tells a long-lived table from one that is made anew. -/
theorem alike_scratch {owner : Nat} {matcher : Option Matcher} {world : World} {path : String}
    {u : Upkeep} (named : path ≠ "") (consistent : world.disk.IsConsistent)
    (steps : Relation.ReflTransGen (Next path) (start owner matcher world) u)
    (reported : u.unreported = [])
    (other : Nat) {again : World} (same : again.disk = u.state.world.disk) :
    (∀ lines, u.lines = some lines →
      (State.start other matcher again).outcome (.update (some path) lines .whole) = .ok ()) ∧
    Alike u.state.world.disk u.state.held (scratch other matcher again path u.lines).held := by
  have stands := Stands.run named consistent steps
  cases given : u.lines with
  | none =>
    obtain ⟨owner', new⟩ := stands.closed given
    refine ⟨fun _ given => (by cases given), ?_⟩
    rw [new]
    exact ⟨rfl, fun _ => Iff.rfl, fun _ => Iff.rfl, fun _ => rfl, fun _ => rfl⟩
  | some lines =>
    have tracks := reported ▸ stands.tracks lines given
    rw [← same] at tracks
    have consistent' : again.disk.IsConsistent := same ▸ stands.consistent
    have key := keyOf_some again.disk named
    obtain ⟨own, there⟩ := exists_sheet tracks.faithful.root
    obtain ⟨text, fresh, found, read, _⟩ := tracks.faithful.tells _ own there List.not_mem_nil
    rw [Source.lines?_root, Option.some.injEq] at found
    subst found
    have done : (State.start other matcher again).outcome (.update (some path) lines .whole) =
        .ok () :=
      State.update_succeeds ⟨again.disk, matcher, again.disk.real path, lines⟩ key rfl consistent'
        (ready_new rfl) ((rereadSheet_new rfl _).2 read)
        (sound_of_tracks tracks) tracks.faithful.root
    have fresh := State.tracks_of_update (s := .start other matcher again)
      ⟨again.disk, matcher, again.disk.real path, lines⟩ key rfl consistent' (ready_new rfl) done
    exact ⟨fun _ given => (by cases given; exact done), tracks.alike fresh _⟩

def sixDigits : Matcher :=
  .compile ⟨false, ⟨false, true, false⟩, false, false, false, .off, true, none⟩ ⟨[], []⟩

def diskWith (line : String) (stamp : Int) : Disk :=
  ⟨"/", ((∅ : Std.ExtTreeMap String File).insert "/v.scss" ⟨stamp, [line]⟩).insert "//v.scss"
    ⟨stamp, [line]⟩,
    []⟩

theorem revises_diskWith (line line' : String) (stamp stamp' : Int) :
    (diskWith line stamp).Revises (diskWith line' stamp') :=
  ⟨rfl, fun _ => Iff.rfl, fun path there => by simpa [diskWith] using there⟩

theorem isConsistent_diskWith (line : String) (stamp : Int) : (diskWith line stamp).IsConsistent :=
  (Disk.isConsistent_empty "/" []).insert "v.scss".toList (by decide) ⟨stamp, [line]⟩

def placed (disk : Disk) (body : String) (file : File) : Disk :=
  ⟨disk.working, (disk.files.insert (String.ofList ('/' :: body.toList)) file).insert
    (String.ofList ('/' :: '/' :: body.toList)) file, disk.unreadable⟩

theorem isConsistent_placed {disk : Disk} (consistent : disk.IsConsistent) (body : String)
    (rooted : body.toList.head? ≠ some '/') (file : File) : (placed disk body file).IsConsistent :=
  consistent.insert body.toList rooted file

def worldBefore : World := ⟨diskWith "$c: #111111;" 1, [], []⟩

def imported : Upkeep := (start 0 (some sixDigits) worldBefore).updated "/main.scss"
  ["@import \"v\";"]

def rewritten : Upkeep := imported.revised ⟨diskWith "$c: #222222;" 2, [], []⟩

def reported : Upkeep := rewritten.fired "/v.scss"

theorem alike_scratch_reported :
    reported.unreported = [] ∧ reported.state.held.definitions.toList = [("c", "222222")] ∧
      Alike reported.state.world.disk reported.state.held
        (scratch 1 (some sixDigits) reported.state.world "/main.scss" reported.lines).held := by
  have update : Next "/main.scss" (start 0 (some sixDigits) worldBefore) imported :=
    .update _ rfl (eq_ok_of_toOption (by decide +kernel))
  have disk : imported.state.world.disk = worldBefore.disk :=
    State.disk_step _ fun _ => Step.noConfusion
  have revises : imported.state.world.disk.Revises (diskWith "$c: #222222;" 2) := by
    rw [disk]
    exact revises_diskWith _ _ _ _
  have revise : Next "/main.scss" imported rewritten :=
    .revise _ revises (isConsistent_diskWith _ _)
  have fire : Next "/main.scss" rewritten reported :=
    .fire _ (eq_ok_of_toOption (by decide +kernel))
  have done : reported.unreported = [] := by decide +kernel
  have steps := ((Relation.ReflTransGen.single update).tail revise).tail fire
  have named : "/main.scss" ≠ "" := by decide
  have consistent : worldBefore.disk.IsConsistent := isConsistent_diskWith _ _
  have alike := (alike_scratch named consistent steps done 1 (Eq.refl reported.state.world.disk)).2
  exact ⟨done, by decide +kernel, alike⟩

end Upkeep

end ColorSpans.Sass
