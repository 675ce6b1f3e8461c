import ColorSpans.Proofs.Sass.Steps

/-! Variables that differ only in the numbers of their watches. No step tells them apart, so they
fare alike in every run; so do those of two owners, as far as a relation on their loads says. -/
namespace ColorSpans.Sass

/-- The same but for the numbers of watches, the watches of others and what was read so far. -/
structure Loaded.Same (s t : Loaded) : Prop where
  disk : s.world.disk = t.world.disk
  sheets : s.sheets = t.sheets
  stamps : s.stamps = t.stamps
  watched : ∀ path, path ∈ s.watches ↔ path ∈ t.watches

namespace Loaded.Same

variable {s t : Loaded} (h : s.Same t)

include h

theorem noteRead (path : String) : (s.noteRead path).Same (t.noteRead path) :=
  ⟨h.disk, h.sheets, h.stamps, h.watched⟩

theorem link (importer : String) (sheet : Sheet) (edges : List String) :
    (s.link importer sheet edges).Same (t.link importer sheet edges) :=
  ⟨h.disk, by rw [sheets_link, sheets_link, h.sheets], h.stamps, h.watched⟩

theorem drop (path : String) : (s.drop path).Same (t.drop path) where
  disk := by rw [disk_drop, disk_drop, h.disk]
  sheets := by rw [sheets_drop, sheets_drop, h.sheets]
  stamps := by rw [stamps_drop, stamps_drop, h.stamps]
  watched other := by
    rw [watches_drop, watches_drop, Std.ExtTreeMap.mem_erase, Std.ExtTreeMap.mem_erase,
      h.watched other]

theorem take (owner owner' : Nat) (path : String) (stamp : Int) (sheet : Sheet) :
    (s.take owner path stamp sheet).Same (t.take owner' path stamp sheet) where
  disk := by rw [disk_take, disk_take, h.disk]
  sheets := by rw [sheets_take, sheets_take, h.sheets]
  stamps := by rw [stamps_take, stamps_take, h.stamps]
  watched other := by rw [mem_watches_take, mem_watches_take, h.watched other]

theorem isCurrent_eq (path : String) (stamp : Int) :
    s.isCurrent path stamp = t.isCurrent path stamp := by
  rw [isCurrent, isCurrent, h.sheets, h.stamps]

end Loaded.Same

/-- A relation that no single change of a load breaks when two owners make it. -/
structure Parallel (owner owner' : Nat) (R : Loaded → Loaded → Prop) : Prop where
  same {s t : Loaded} (h : R s t) : s.Same t
  noteRead {s t : Loaded} (h : R s t) (path : String) : R (s.noteRead path) (t.noteRead path)
  drop {s t : Loaded} (h : R s t) (path : String) : R (s.drop path) (t.drop path)
  take {s t : Loaded} (h : R s t) (path : String) (stamp : Int) (sheet : Sheet) :
    R (s.take owner path stamp sheet) (t.take owner' path stamp sheet)
  sheets {s t : Loaded} (h : R s t) (sheets : Sheets) : R { s with sheets } { t with sheets }

theorem parallel_same (owner owner' : Nat) : Parallel owner owner' Loaded.Same where
  same h := h
  noteRead h := h.noteRead
  drop h := h.drop
  take h := h.take owner owner'
  sheets h _ := { h with sheets := rfl }

namespace Parallel
open Stateful

variable {owner owner' : Nat} {R : Loaded → Loaded → Prop} (parallel : Parallel owner owner' R)

include parallel

theorem link {s t : Loaded} (h : R s t) (importer : String) (sheet : Sheet) (edges : List String) :
    R (s.link importer sheet edges) (t.link importer sheet edges) := by
  rw [Loaded.link, Loaded.link, (parallel.same h).sheets]
  exact parallel.sheets h _

theorem dropAll {s t : Loaded} (h : R s t) (paths : List String) :
    R (s.dropAll paths) (t.dropAll paths) := by
  induction paths generalizing s t with
  | nil => exact h
  | cons path paths ih => exact ih (parallel.drop h path)

theorem sheetOf (path : String) : Lockstep R (Loader.sheetOf path) (Loader.sheetOf path) := by
  refine lockstep_get_bind fun s t h => ?_
  rw [(parallel.same h).sheets]
  split
  · exact lockstep_pure _ s t h
  · exact lockstep_throw _ s t h

variable (matcher : Option Matcher) (root : Option String)

theorem followCandidate {descend descend' : String → Int → Loading Unit}
    (down : ∀ path stamp, Lockstep R (descend path stamp) (descend' path stamp))
    (visiting edges : List String) (candidate : String) :
    Lockstep R ((Loader.mk owner matcher root).followCandidate descend visiting edges candidate)
      ((Loader.mk owner' matcher root).followCandidate descend' visiting edges candidate) := by
  refine lockstep_get_bind fun s t h => ?_
  dsimp only
  rw [(parallel.same h).disk]
  split
  · exact lockstep_pure _ s t h
  · split
    · exact lockstep_bind (lockstep_modify fun s t h => parallel.drop h _)
        (fun _ => lockstep_pure _) s t h
    · refine lockstep_get_bind (fun s t h => ?_) s t h
      rw [(parallel.same h).isCurrent_eq]
      split
      · exact lockstep_pure _ s t h
      · exact lockstep_bind (down _ _) (fun _ => lockstep_pure _) s t h

theorem followImports {descend descend' : String → Int → Loading Unit}
    (down : ∀ path stamp, Lockstep R (descend path stamp) (descend' path stamp)) (importer : String)
    (visiting : List String) :
    Lockstep R ((Loader.mk owner matcher root).followImports descend importer visiting)
      ((Loader.mk owner' matcher root).followImports descend' importer visiting) := by
  refine lockstep_bind (parallel.sheetOf importer) fun sheet => ?_
  refine lockstep_bind (lockstep_foldlM
    (fun edges path => parallel.followCandidate matcher root down visiting edges path) _ _)
      fun edges => ?_
  refine lockstep_bind (parallel.sheetOf importer) fun sheet => ?_
  exact lockstep_modify fun s t h => parallel.link h importer sheet edges

theorem loadFile (fuel : Nat) (visiting : List String) (path : String) (stamp : Int) :
    Lockstep R ((Loader.mk owner matcher root).loadFile fuel visiting path stamp)
      ((Loader.mk owner' matcher root).loadFile fuel visiting path stamp) := by
  induction fuel generalizing visiting path stamp with
  | zero => exact lockstep_pure _
  | succ fuel ih =>
    refine lockstep_bind (lockstep_modify fun s t h => parallel.noteRead h path) fun _ => ?_
    refine lockstep_get_bind fun s t h => ?_
    dsimp only
    rw [(parallel.same h).disk]
    split
    · exact lockstep_modify (fun s t h => parallel.drop h path) s t h
    · split
      · exact lockstep_throw _ s t h
      · refine lockstep_bind (lockstep_modify fun s t h => parallel.take h _ _ _)
          (fun _ => ?_) s t h
        exact parallel.followImports matcher root
          (fun next stamp => ih (next :: visiting) next stamp) path
          visiting

theorem load (visiting : List String) (path : String) (stamp : Int) :
    Lockstep R ((Loader.mk owner matcher root).load visiting path stamp)
      ((Loader.mk owner' matcher root).load visiting path stamp) := by
  refine lockstep_get_bind fun s t h => ?_
  rw [(parallel.same h).disk]
  exact parallel.loadFile matcher root _ visiting path stamp s t h

end Parallel

theorem Variables.definitions_commit_congr {v v' : Variables} {s t : Loaded}
    (root : v.root = v'.root) (sheets : s.sheets = t.sheets) :
    (v.commit s).1.definitions = (v'.commit t).1.definitions := by
  have swept : v.swept s = v'.swept t := by rw [swept, swept, sheets, root]
  show resolveAll (mergeSheets (s.dropAll (v.swept s)).sheets (reachable s.sheets v.root)) =
    resolveAll (mergeSheets (t.dropAll (v'.swept t)).sheets (reachable t.sheets v'.root))
  rw [Loaded.sheets_dropAll, Loaded.sheets_dropAll, swept, sheets, root]

namespace State

/-- Variables that read alike and define the same; loads of theirs begin in states that are
related. -/
structure Akin (R : Loaded → Loaded → Prop) (s t : State) : Prop where
  matcher : s.held.matcher = t.held.matcher
  root : s.held.root = t.held.root
  definitions : s.held.definitions = t.held.definitions
  loaded : R (s.held.start s.world) (t.held.start t.world)

namespace Akin
open Stateful

variable {R : Loaded → Loaded → Prop}

theorem finish {v v' : Variables} {world world' : World} (h : Akin R ⟨v, world⟩ ⟨v', world'⟩)
    (parallel : Parallel v.owner v'.owner R) {x y : Loading Unit} (alike : Lockstep R x y) :
    (v.finish (x.run.run (v.start world))).1 = (v'.finish (y.run.run (v'.start world'))).1 ∧
      Akin R ⟨(v.finish (x.run.run (v.start world))).2.1,
        (v.finish (x.run.run (v.start world))).2.2⟩
        ⟨(v'.finish (y.run.run (v'.start world'))).2.1,
          (v'.finish (y.run.run (v'.start world'))).2.2⟩ := by
  have sheets : v.sheets = v'.sheets := (parallel.same h.loaded).sheets
  obtain ⟨outcome, after⟩ := alike _ _ h.loaded
  generalize x.run.run (v.start world) = left at outcome after
  generalize y.run.run (v'.start world') = right at outcome after
  obtain ⟨e | _, s⟩ := left
  · obtain ⟨_, t⟩ := right
    obtain rfl := outcome
    have kept : R { s with sheets := v.sheets } { t with sheets := v'.sheets } := by
      rw [← sheets]
      exact parallel.sheets after v.sheets
    exact ⟨rfl, { h with loaded := kept }⟩
  · obtain ⟨_, t⟩ := right
    obtain rfl := outcome
    have same := (parallel.same after).sheets
    have root : v.root = v'.root := h.root
    have swept : v.swept s = v'.swept t := by rw [Variables.swept, Variables.swept, same, root]
    have kept : R (s.dropAll (v.swept s)) (t.dropAll (v'.swept t)) := by
      rw [← swept]
      exact parallel.dropAll after _
    exact ⟨rfl, h.matcher, h.root, Variables.definitions_commit_congr h.root same, kept⟩

variable {s t : State} (h : Akin R s t) (parallel : Parallel s.held.owner t.held.owner R)

include h parallel

theorem lockstep_loadRoot (key : String) (sheet : Sheet) :
    Lockstep R (s.held.loadRoot key sheet) (t.held.loadRoot key sheet) := by
  have without : s.held.sheetsWithoutOldRoot key = t.held.sheetsWithoutOldRoot key := by
    have sheets : s.held.sheets = t.held.sheets := (parallel.same h.loaded).sheets
    rw [Variables.sheetsWithoutOldRoot, Variables.sheetsWithoutOldRoot, h.root, sheets]
  rw [Variables.loadRoot, Variables.loadRoot, without]
  refine lockstep_bind (lockstep_modify fun s t h => parallel.sheets h _) fun _ => ?_
  simp only [Variables.loader, Variables.setRoot, h.matcher]
  exact parallel.followImports _ _ (fun next stamp => parallel.load _ _ [next, key] next stamp)
    key [key]

theorem update (path : Option String) (lines : List String) (range : Sheet.Range) :
    s.outcome (.update path lines range) = t.outcome (.update path lines range) ∧
      Akin R (s.step (.update path lines range)) (t.step (.update path lines range)) := by
  have disk : s.world.disk = t.world.disk := (parallel.same h.loaded).disk
  have sheets : s.held.sheets = t.held.sheets := (parallel.same h.loaded).sheets
  have reread : s.held.rereadSheet = t.held.rereadSheet := by
    funext key lines range
    rw [Variables.rereadSheet, Variables.rereadSheet, Variables.sheetsWithoutOldRoot,
      Variables.sheetsWithoutOldRoot, h.root, sheets, h.matcher]
  have begun : Akin R ⟨s.held.setRoot (Variables.keyOf t.world.disk path), s.world⟩
      ⟨t.held.setRoot (Variables.keyOf t.world.disk path), t.world⟩ := { h with root := rfl }
  simp only [outcome, step, after, Variables.update, disk, reread]
  cases t.held.rereadSheet (Variables.keyOf t.world.disk path) lines range with
  | error e => exact ⟨rfl, begun⟩
  | ok sheet => exact begun.finish parallel (h.lockstep_loadRoot parallel _ sheet)

theorem fire (path : String) :
    (s.held.fileChanged s.world path).1 = (t.held.fileChanged t.world path).1 ∧
      Akin R (s.step (.fire path)) (t.step (.fire path)) := by
  have alike : Lockstep R (s.held.reload path) (t.held.reload path) := by
    refine lockstep_get_bind fun u w h' => ?_
    simp only [Variables.loader, h.matcher, h.root, (parallel.same h').disk]
    split
    · exact lockstep_modify (fun s t h => parallel.drop h path) u w h'
    · exact parallel.load _ _ _ _ _ u w h'
  have watched : s.held.watches.contains path = t.held.watches.contains path := by
    rw [Bool.eq_iff_iff, Std.ExtTreeMap.contains_iff_mem, Std.ExtTreeMap.contains_iff_mem]
    exact (parallel.same h.loaded).watched path
  simp only [step, after, Variables.fileChanged, watched]
  split
  · obtain ⟨outcome, after⟩ := finish h parallel alike
    exact ⟨congrArg (Except.map fun _ => true) outcome, after⟩
  · exact ⟨rfl, h⟩

end Akin

end State

structure Variables.Same (v v' : Variables) : Prop where
  owner : v.owner = v'.owner
  matcher : v.matcher = v'.matcher
  root : v.root = v'.root
  sheets : v.sheets = v'.sheets
  stamps : v.stamps = v'.stamps
  watched : ∀ path, path ∈ v.watches ↔ path ∈ v'.watches
  definitions : v.definitions = v'.definitions

namespace State

structure Same (s t : State) : Prop where
  held : s.held.Same t.held
  disk : s.world.disk = t.world.disk

namespace Same

variable {s t : State}

theorem akin (h : s.Same t) : s.Akin Loaded.Same t :=
  ⟨h.held.matcher, h.held.root, h.held.definitions, h.disk, h.held.sheets, h.held.stamps,
    h.held.watched⟩

theorem of_akin (owner : s.held.owner = t.held.owner) (h : s.Akin Loaded.Same t) : s.Same t :=
  ⟨⟨owner, h.matcher, h.root, h.loaded.sheets, h.loaded.stamps, h.loaded.watched, h.definitions⟩,
    h.loaded.disk⟩

theorem step (h : s.Same t) (a : Step) :
    s.outcome a = t.outcome a ∧ (s.step a).Same (t.step a) := by
  have owner : (s.step a).held.owner = (t.step a).held.owner := by
    rw [owner_step, owner_step, h.held.owner]
  cases a with
  | update path lines range =>
    obtain ⟨outcome, after⟩ := h.akin.update (parallel_same _ _) path lines range
    exact ⟨outcome, of_akin owner after⟩
  | fire path =>
    obtain ⟨outcome, after⟩ := h.akin.fire (parallel_same _ _) path
    exact ⟨congrArg (Except.map fun _ => ()) outcome, of_akin owner after⟩
  | close =>
    refine ⟨rfl, ?_, h.disk⟩
    exact ⟨h.held.owner, h.held.matcher, rfl, rfl, rfl, fun _ => Iff.rfl, rfl⟩
  | outside world => exact ⟨rfl, h.held, rfl⟩

theorem run (h : s.Same t) (steps : List Step) : (s.run steps).Same (t.run steps) := by
  induction steps generalizing s t with
  | nil => exact h
  | cons a steps ih => exact ih (h.step a).2

end Same

end State

end ColorSpans.Sass
