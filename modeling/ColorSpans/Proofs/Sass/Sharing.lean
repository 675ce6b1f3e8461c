import ColorSpans.Proofs.Sass.Likeness
import ColorSpans.Proofs.Sass.Watching

/-! Owners that share a board. Each sees of it what it registered itself: the paths, in their order,
and which of these watches are live. A step of its variables depends on no more of the board than
that, and lets no other owner see a change. -/
namespace ColorSpans

def Watch.silence (owner : Nat) (path : String) (watch : Watch) : Watch :=
  if watch.owner = owner ∧ watch.path = path then { watch with live := false } else watch

def Watch.veil (owner : Nat) (watch : Watch) : Watch :=
  if watch.owner = owner then { watch with live := false } else watch

theorem Watch.owner_veil (owner : Nat) (watch : Watch) :
    (watch.veil owner).owner = watch.owner := by
  rw [veil]
  split <;> rfl

namespace Board

/-- Every watch that an owner ever registered, with its path and whether it is live. -/
def seenBy (board : Board) (owner : Nat) : List (String × Bool) :=
  board.filterMap fun watch => if watch.owner = owner then some (watch.path, watch.live) else none

def mute (path : String) (entry : String × Bool) : String × Bool :=
  if entry.1 = path then (path, false) else entry

variable {board board' : Board} {owner : Nat} {watches : Std.ExtTreeMap String Nat}

theorem seenBy_register_self (board : Board) (path : String) (owner : Nat) :
    (board.register path owner).seenBy owner = board.seenBy owner ++ [(path, true)] := by
  simp [seenBy, register]

theorem mem_seenBy_live {path : String} :
    (path, true) ∈ board.seenBy owner ↔ ∃ i : Nat, board[i]? = some ⟨path, owner, true⟩ := by
  rw [seenBy, List.mem_filterMap]
  constructor
  · rintro ⟨⟨at_, other, live⟩, there, shown⟩
    split at shown
    case isTrue own =>
      obtain ⟨rfl, rfl⟩ := Prod.mk.inj (Option.some.inj shown)
      obtain rfl : other = owner := own
      exact List.mem_iff_getElem?.1 there
    case isFalse => cases shown
  · rintro ⟨i, there⟩
    exact ⟨_, List.mem_of_getElem? there, if_pos rfl⟩

theorem seenBy_map_silence (board : Board) (owner : Nat) (path : String) :
    Board.seenBy (board.map (Watch.silence owner path)) owner =
      (board.seenBy owner).map (mute path) := by
  rw [seenBy, seenBy, List.filterMap_map, List.map_filterMap]
  refine congrArg (List.filterMap · board) (funext fun watch => ?_)
  rw [Function.comp_apply, Watch.silence]
  by_cases own : watch.owner = owner <;> by_cases here : watch.path = path
    <;> simp [own, here, mute]

namespace Holds

variable (h : board.Holds owner watches)

include h

theorem mem_watches_iff (path : String) : path ∈ watches ↔ (path, true) ∈ board.seenBy owner := by
  rw [mem_seenBy_live, Std.ExtTreeMap.mem_iff_isSome_getElem?, Option.isSome_iff_exists]
  exact exists_congr fun i => h path i

theorem cancel_eq_map {path : String} {watch : Nat} (held : watches[path]? = some watch) :
    board.cancel watch = board.map (Watch.silence owner path) := by
  refine List.ext_getElem? fun i => ?_
  rw [getElem?_cancel, List.getElem?_map]
  cases there : board[i]? with
  | none => split <;> rfl
  | some entry =>
    obtain ⟨at_, other, live⟩ := entry
    split
    case isTrue same =>
      subst same
      obtain ⟨rfl, rfl, rfl⟩ :=
        Watch.mk.inj (Option.some.inj (there.symm.trans ((h path watch).1 held)))
      simp [Watch.silence]
    case isFalse other_place =>
      -- Another watch of the owner on the path is cancelled already.
      have dead : other = owner ∧ at_ = path → live = false := by
        rintro ⟨rfl, rfl⟩
        by_contra on
        rw [Bool.not_eq_false] at on
        subst on
        exact other_place (Option.some.inj (held.symm.trans ((h at_ i).2 there)))
      simp only [Option.map_some, Option.some.injEq, Watch.silence]
      split
      case isTrue own => rw [dead own]
      case isFalse => rfl

theorem seenBy_cancel {path : String} {watch : Nat} (held : watches[path]? = some watch) :
    (board.cancel watch).seenBy owner = (board.seenBy owner).map (mute path) := by
  rw [h.cancel_eq_map held, seenBy_map_silence]

theorem seenBy_unwatched {path : String} (unwatched : path ∉ watches) :
    board.seenBy owner = (board.seenBy owner).map (mute path) := by
  rw [h.mem_watches_iff] at unwatched
  refine (List.map_id _).symm.trans (List.map_congr_left fun entry there => ?_)
  obtain ⟨at_, live⟩ := entry
  rw [mute]
  split
  case isTrue same =>
    obtain rfl : at_ = path := same
    cases live with
    | true => exact absurd there unwatched
    | false => rfl
  case isFalse => rfl

end Holds

def Extends (owner : Nat) (board board' : Board) : Prop :=
  ∃ more : List Watch, board'.map (Watch.veil owner) = board.map (Watch.veil owner) ++ more ∧
    ∀ watch ∈ more, watch.owner = owner

namespace Extends

variable {board'' : Board}

theorem refl (owner : Nat) (board : Board) : Extends owner board board :=
  ⟨[], (List.append_nil _).symm, nofun⟩

theorem trans (h : Extends owner board board') (h' : Extends owner board' board'') :
    Extends owner board board'' := by
  obtain ⟨more, same, own⟩ := h
  obtain ⟨more', same', own'⟩ := h'
  refine ⟨more ++ more', by rw [same', same, List.append_assoc], fun watch there => ?_⟩
  exact (List.mem_append.1 there).elim (own watch) (own' watch)

theorem register (owner : Nat) (board : Board) (path : String) :
    Extends owner board (board.register path owner) := by
  refine ⟨[⟨path, owner, false⟩], ?_, fun watch there => ?_⟩
  · rw [Board.register, List.map_append, List.map_singleton, Watch.veil, if_pos rfl]
  · rw [List.mem_singleton.1 there]

theorem cancel {i : Nat} (own : ∀ watch, board[i]? = some watch → watch.owner = owner) :
    Extends owner board (board.cancel i) := by
  refine ⟨[], ?_, nofun⟩
  rw [List.append_nil]
  refine List.ext_getElem? fun j => ?_
  rw [List.getElem?_map, List.getElem?_map, getElem?_cancel]
  split
  case isTrue same =>
    subst same
    cases there : board[i]? with
    | none => rfl
    | some watch => simp [Watch.veil, own watch there]
  case isFalse => rfl

variable (h : Extends owner board board')

include h

theorem seenBy {other : Nat} (apart : other ≠ owner) :
    board'.seenBy other = board.seenBy other := by
  obtain ⟨more, same, own⟩ := h
  have veiled (board : Board) : Board.seenBy (board.map (Watch.veil owner)) other =
      board.seenBy other := by
    rw [Board.seenBy, Board.seenBy, List.filterMap_map]
    refine congrArg (List.filterMap · board) (funext fun watch => ?_)
    rw [Function.comp_apply, Watch.veil]
    by_cases mine : watch.owner = owner
    · rw [if_pos mine, if_neg (mine ▸ apart.symm), if_neg (mine ▸ apart.symm)]
    · rw [if_neg mine]
  have unseen : Board.seenBy more other = [] := by
    refine List.filterMap_eq_nil_iff.2 fun watch there => if_neg ?_
    rw [own watch there]
    exact apart.symm
  rw [← veiled board', same, Board.seenBy, List.filterMap_append]
  change Board.seenBy _ other ++ Board.seenBy more other = _
  rw [unseen, List.append_nil, veiled]

theorem owners : ∃ n, board'.map Watch.owner = board.map Watch.owner ++ List.replicate n owner := by
  obtain ⟨more, same, own⟩ := h
  have shown := congrArg (List.map Watch.owner) same
  have veiled : Watch.owner ∘ Watch.veil owner = Watch.owner := funext (Watch.owner_veil owner)
  rw [List.map_append, List.map_map, List.map_map, veiled, List.map_eq_replicate_iff.2 own] at shown
  exact ⟨_, shown⟩

theorem owner_of_mem {watch : Watch} (there : watch ∈ board') :
    watch.owner = owner ∨ ∃ before ∈ board, before.owner = watch.owner := by
  obtain ⟨n, owners⟩ := h.owners
  have listed := List.mem_map_of_mem (f := Watch.owner) there
  rw [owners, List.mem_append, List.mem_map] at listed
  exact listed.symm.imp_left List.eq_of_mem_replicate

end Extends

theorem Holds.extends_close (h : board.Holds owner watches) :
    Extends owner board (watches.foldl (fun board _ watch => board.cancel watch) board) := by
  have cancelled (entries : List (String × Nat)) (board : Board)
      (own : ∀ entry ∈ entries, ∀ watch, board[entry.2]? = some watch → watch.owner = owner) :
      Extends owner board (entries.foldl (fun board entry => board.cancel entry.2) board) := by
    induction entries generalizing board with
    | nil => exact .refl _ _
    | cons entry entries ih =>
      have first := Extends.cancel (own entry List.mem_cons_self)
      refine first.trans (ih _ fun later there watch found => ?_)
      rw [getElem?_cancel] at found
      split at found
      case isTrue same =>
        obtain ⟨before, listed, rfl⟩ := Option.map_eq_some_iff.1 found
        exact own later (List.mem_cons_of_mem _ there) before listed
      case isFalse => exact own later (List.mem_cons_of_mem _ there) watch found
  rw [Std.ExtTreeMap.foldl_eq_foldl_toList]
  refine cancelled _ _ fun entry listed watch found => ?_
  have held := (h entry.1 entry.2).1 (Std.ExtTreeMap.mem_toList_iff_getElem?_eq_some.1 listed)
  rw [held] at found
  rw [← Option.some.inj found]

end Board

namespace Sass

namespace Loaded

variable {s t : Loaded} {owner owner' : Nat}

theorem seenBy_drop (h : s.world.board.Holds owner s.watches) (path : String) :
    (s.drop path).world.board.seenBy owner =
      (s.world.board.seenBy owner).map (Board.mute path) := by
  simp only [drop, cancelWatch]
  cases held : s.watches[path]? with
  | none =>
    refine h.seenBy_unwatched fun known => ?_
    rw [Std.ExtTreeMap.mem_iff_isSome_getElem?, held] at known
    cases known
  | some watch => exact h.seenBy_cancel held

theorem seenBy_take (h : s.world.board.Holds owner s.watches) (path : String) (stamp : Int)
    (sheet : Sheet) :
    (s.take owner path stamp sheet).world.board.seenBy owner =
      if (path, true) ∈ s.world.board.seenBy owner then s.world.board.seenBy owner
      else s.world.board.seenBy owner ++ [(path, true)] := by
  by_cases known : path ∈ s.watches
  · rw [if_pos ((h.mem_watches_iff path).1 known)]
    simp [take, keep, watch, known]
  · rw [if_neg (mt (h.mem_watches_iff path).2 known)]
    simp [take, keep, watch, known, Board.seenBy_register_self]

theorem extends_maintained (l : Loader) (first : Board) : l.Maintains fun s =>
    s.world.board.Holds l.owner s.watches ∧ first.Extends l.owner s.world.board where
  noteRead _ _ h := h
  drop s path h := by
    refine ⟨holds_drop h.1 path, h.2.trans ?_⟩
    simp only [drop, cancelWatch]
    cases held : s.watches[path]? with
    | none => exact .refl _ _
    | some i =>
      refine .cancel fun watch there => ?_
      rw [(h.1 path i).1 held] at there
      rw [← Option.some.inj there]
  take s path stamp sheet h := by
    refine ⟨holds_take h.1 path stamp sheet, h.2.trans ?_⟩
    simp only [take, watch]
    split
    · exact .refl _ _
    · exact .register _ _ _
  link _ _ _ _ h := h

/-- Loads of two owners that have come equally far, and see the same of the boards that they are
on. -/
structure Twins (owner owner' : Nat) (s t : Loaded) : Prop where
  same : s.Same t
  seen : s.world.board.seenBy owner = t.world.board.seenBy owner'
  left : s.world.board.Holds owner s.watches
  right : t.world.board.Holds owner' t.watches

theorem parallel_twins (owner owner' : Nat) : Parallel owner owner' (Twins owner owner') where
  same h := h.same
  noteRead h path := ⟨h.same.noteRead path, h.seen, h.left, h.right⟩
  drop h path := by
    refine ⟨h.same.drop path, ?_, holds_drop h.left path, holds_drop h.right path⟩
    rw [seenBy_drop h.left, seenBy_drop h.right, h.seen]
  take h path stamp sheet := by
    refine ⟨h.same.take _ _ path stamp sheet, ?_, holds_take h.left _ _ _, holds_take h.right _ _ _⟩
    rw [seenBy_take h.left, seenBy_take h.right, h.seen]
  sheets h _ := ⟨{ h.same with sheets := rfl }, h.seen, h.left, h.right⟩

end Loaded

/-- All that there is to variables but who owns them, and where their watches stand on the board. -/
structure Aspect where
  matcher : Option Matcher
  root : Option String
  sheets : Sheets
  stamps : Std.ExtTreeMap String Int
  definitions : Definitions
  /-- Every watch that they ever registered, with its path and whether it is live. -/
  watches : List (String × Bool)

namespace State

def aspect (s : State) : Aspect :=
  ⟨s.held.matcher, s.held.root, s.held.sheets, s.held.stamps, s.held.definitions,
    s.world.board.seenBy s.held.owner⟩

theorem extends_step (s : State) {a : Step} (inside : ∀ world, a ≠ .outside world)
    (h : s.world.board.Holds s.held.owner s.held.watches) :
    s.world.board.Extends s.held.owner (s.step a).world.board := by
  by_cases closed : a = .close
  · subst closed
    exact h.extends_close
  · exact (s.maintains_step inside closed
      (P := fun world watches => world.board.Holds s.held.owner watches ∧
        s.world.board.Extends s.held.owner world.board)
      (fun _ _ => Loaded.extends_maintained _ _) ⟨h, .refl _ _⟩).2

variable {s t : State}

theorem akin_of_aspect (disk : s.world.disk = t.world.disk) (same : s.aspect = t.aspect)
    (left : s.world.board.Holds s.held.owner s.held.watches)
    (right : t.world.board.Holds t.held.owner t.held.watches) :
    s.Akin (Loaded.Twins s.held.owner t.held.owner) t := by
  obtain ⟨matcher, root, sheets, stamps, definitions, seen⟩ := Aspect.mk.inj same
  refine ⟨matcher, root, definitions, ⟨disk, sheets, stamps, fun path => ?_⟩, seen, left, right⟩
  exact (left.mem_watches_iff path).trans (seen ▸ (right.mem_watches_iff path).symm)

theorem Akin.aspect_eq {owner owner' : Nat} (h : s.Akin (Loaded.Twins owner owner') t)
    (left : s.held.owner = owner) (right : t.held.owner = owner') : s.aspect = t.aspect := by
  subst left right
  exact Aspect.mk.injEq .. ▸ ⟨h.matcher, h.root, h.loaded.same.sheets, h.loaded.same.stamps,
    h.definitions, h.loaded.seen⟩

theorem aspect_update (disk : s.world.disk = t.world.disk) (same : s.aspect = t.aspect)
    (left : s.world.board.Holds s.held.owner s.held.watches)
    (right : t.world.board.Holds t.held.owner t.held.watches) (path : Option String)
    (lines : List String) (range : Sheet.Range) :
    s.outcome (.update path lines range) = t.outcome (.update path lines range) ∧
      (s.step (.update path lines range)).aspect = (t.step (.update path lines range)).aspect := by
  obtain ⟨outcome, after⟩ :=
    (akin_of_aspect disk same left right).update (Loaded.parallel_twins _ _) path
    lines range
  exact ⟨outcome, after.aspect_eq (owner_step _ _) (owner_step _ _)⟩

theorem aspect_fire (disk : s.world.disk = t.world.disk) (same : s.aspect = t.aspect)
    (left : s.world.board.Holds s.held.owner s.held.watches)
    (right : t.world.board.Holds t.held.owner t.held.watches) (path : String) :
    (s.held.fileChanged s.world path).1 = (t.held.fileChanged t.world path).1 ∧
      (s.step (.fire path)).aspect = (t.step (.fire path)).aspect := by
  obtain ⟨outcome, after⟩ :=
    (akin_of_aspect disk same left right).fire (Loaded.parallel_twins _ _) path
  exact ⟨outcome, after.aspect_eq (owner_step _ _) (owner_step _ _)⟩

end State

end Sass

end ColorSpans
