import ColorSpans.Proofs.Sass.Trail

/-! Watches and the board. The watches that a buffer holds are just the live ones of its owner on
the board, so every file that it watches has one live watch, and no other file has any. -/
namespace ColorSpans

/-- An owner's live watches are those that it holds, each on its own path. -/
def Board.Holds (board : Board) (owner : Nat) (watches : Std.ExtTreeMap String Nat) : Prop :=
  ∀ (path : String) (i : Nat), watches[path]? = some i ↔ board[i]? = some ⟨path, owner, true⟩

namespace Board

variable {board : Board} {owner : Nat} {watches : Std.ExtTreeMap String Nat}

theorem getElem?_cancel (board : Board) (watch i : Nat) :
    (board.cancel watch)[i]? =
      if watch = i then board[i]?.map ({ · with live := false }) else board[i]? := by
  rw [cancel, List.getElem?_modify]
  by_cases same : watch = i <;> cases board[i]? <;> simp [same]

theorem getElem?_cancel_live (board : Board) (watch i : Nat) (path : String) (owner : Nat) :
    (board.cancel watch)[i]? = some ⟨path, owner, true⟩ ↔
      i ≠ watch ∧ board[i]? = some ⟨path, owner, true⟩ := by
  rw [getElem?_cancel]
  by_cases same : watch = i
  · subst same
    cases board[watch]? <;> simp
  · simp [same, Ne.symm same]

theorem getElem?_cancelAll_live (watches : Std.ExtTreeMap String Nat) (board : Board) (i : Nat)
    (path : String) (owner : Nat) :
    (watches.foldl (fun board _ watch => board.cancel watch) board)[i]? = some ⟨path, owner, true⟩ ↔
      (∀ (other : String) (watch : Nat), watches[other]? = some watch → i ≠ watch) ∧
        board[i]? = some ⟨path, owner, true⟩ := by
  have cancelled : ∀ (entries : List (String × Nat)) (board : Board),
      (entries.foldl (fun board entry => board.cancel entry.2) board)[i]? = some ⟨path,
        owner, true⟩ ↔ (∀ entry ∈ entries, i ≠ entry.2) ∧ board[i]? = some ⟨path, owner, true⟩ := by
    intro entries
    induction entries with
    | nil => simp
    | cons entry entries ih =>
      intro board
      rw [List.foldl_cons, ih, getElem?_cancel_live, List.forall_mem_cons]
      exact ⟨fun ⟨a, b, c⟩ => ⟨⟨b, a⟩, c⟩, fun ⟨⟨b, a⟩, c⟩ => ⟨a, b, c⟩⟩
  rw [Std.ExtTreeMap.foldl_eq_foldl_toList, cancelled]
  refine and_congr_left fun _ => ⟨fun spared other watch held => ?_, fun spared entry listed => ?_⟩
  · exact spared (other, watch) (Std.ExtTreeMap.mem_toList_iff_getElem?_eq_some.2 held)
  · exact spared entry.1 entry.2 (Std.ExtTreeMap.mem_toList_iff_getElem?_eq_some.1 listed)

/-- The live watches of every other owner are as they were. -/
def Spares (owner : Nat) (board board' : Board) : Prop :=
  ∀ (i : Nat) (path : String) (other : Nat), other ≠ owner →
    (board'[i]? = some ⟨path, other, true⟩ ↔ board[i]? = some ⟨path, other, true⟩)

namespace Spares

variable {board' board'' : Board}

theorem refl (owner : Nat) (board : Board) : Spares owner board board := fun _ _ _ _ => Iff.rfl

theorem trans (h : Spares owner board board') (h' : Spares owner board' board'') :
    Spares owner board board'' := fun i path other apart =>
  (h' i path other apart).trans (h i path other apart)

theorem register (owner : Nat) (board : Board) (path : String) :
    Spares owner board (board.register path owner) := by
  intro i at_ other apart
  rw [Board.register, List.getElem?_append]
  split
  · rfl
  case isFalse beyond =>
    have none : board[i]? = none := List.getElem?_eq_none (Nat.le_of_not_lt beyond)
    simp only [none, List.getElem?_singleton, reduceCtorEq, iff_false]
    split
    · simp [apart.symm]
    · exact nofun

theorem holds {other : Nat} (h : Spares owner board board') (apart : other ≠ owner)
    (holds : board.Holds other watches) : board'.Holds other watches := fun path i =>
  (holds path i).trans (h i path other apart).symm

end Spares

namespace Holds

theorem spares_cancel (h : board.Holds owner watches) {path : String} {watch : Nat}
    (held : watches[path]? = some watch) : Spares owner board (board.cancel watch) := by
  intro i at_ other apart
  rw [getElem?_cancel_live]
  refine and_iff_right_of_imp fun live same => apart ?_
  rw [same, (h path watch).1 held] at live
  exact (Watch.mk.inj (Option.some.inj live)).2.1.symm

theorem spares_close (h : board.Holds owner watches) :
    Spares owner board (watches.foldl (fun board _ watch => board.cancel watch) board) := by
  intro i at_ other apart
  rw [getElem?_cancelAll_live]
  refine and_iff_right_of_imp fun live path watch held same => apart ?_
  rw [same, (h path watch).1 held] at live
  exact (Watch.mk.inj (Option.some.inj live)).2.1.symm

theorem register (h : board.Holds owner watches) {path : String} (absent : path ∉ watches) :
    (board.register path owner).Holds owner (watches.insert path board.length) := by
  intro other i
  rw [Std.ExtTreeMap.getElem?_insert]
  simp only [Std.LawfulEqCmp.compare_eq_iff_eq]
  unfold Board.register
  rcases Nat.lt_trichotomy i board.length with before | rfl | after
  · rw [List.getElem?_append_left before]
    by_cases same : path = other
    · subst same
      have unheld : watches[path]? ≠ some i := by simp [Std.ExtTreeMap.getElem?_eq_none absent]
      rw [← h path i]
      simp [unheld, Nat.ne_of_gt before]
    · rw [if_neg same]
      exact h other i
  · have unheld : watches[other]? ≠ some board.length := by
      intro held
      have live := (h other board.length).1 held
      simp at live
    by_cases same : path = other <;> simp [same, unheld]
  · have past : (board ++ [⟨path, owner, true⟩])[i]? = none := by
      rw [List.getElem?_eq_none_iff, List.length_append, List.length_singleton]
      omega
    have unheld : watches[other]? ≠ some i := by
      intro held
      have live := (h other i).1 held
      rw [List.getElem?_eq_none (by omega)] at live
      cases live
    rw [past]
    by_cases same : path = other
    · simp [same, Nat.ne_of_lt after]
    · simp [same, unheld]

theorem cancel (h : board.Holds owner watches) {path : String} {watch : Nat}
    (held : watches[path]? = some watch) :
    (board.cancel watch).Holds owner (watches.erase path) := by
  intro other i
  rw [getElem?_cancel_live, ← h other i, Std.ExtTreeMap.getElem?_erase]
  simp only [Std.LawfulEqCmp.compare_eq_iff_eq]
  by_cases same : path = other
  · subst same
    simp [held, eq_comm]
  · -- two paths never share a watch
    have apart : watches[other]? = some i → i ≠ watch := by
      rintro there rfl
      have live := (h path i).1 held
      rw [(h other i).1 there] at live
      exact same (Watch.mk.inj (Option.some.inj live)).1.symm
    simp only [if_neg same]
    exact ⟨fun there => ⟨apart there, there⟩, And.right⟩

theorem close (h : board.Holds owner watches) :
    (watches.foldl (fun board _ watch => board.cancel watch) board).Holds owner ∅ := by
  intro path i
  rw [getElem?_cancelAll_live]
  refine ⟨fun none => by simp at none, fun ⟨spared, live⟩ => ?_⟩
  exact absurd rfl (spared path i ((h path i).2 live))

theorem existsUnique (h : board.Holds owner watches) {path : String} (watched : path ∈ watches) :
    ∃! i : Nat, board[i]? = some ⟨path, owner, true⟩ := by
  obtain ⟨i, held⟩ := Option.isSome_iff_exists.1 (Std.ExtTreeMap.mem_iff_isSome_getElem?.1 watched)
  refine ⟨i, (h path i).1 held, fun j live => ?_⟩
  exact Option.some.inj (((h path j).2 live).symm.trans held)

theorem not_live (h : board.Holds owner watches) {path : String} (unwatched : path ∉ watches)
    (i : Nat) : board[i]? ≠ some ⟨path, owner, true⟩ := by
  intro live
  refine unwatched (Std.ExtTreeMap.mem_iff_isSome_getElem?.2 ?_)
  rw [(h path i).2 live]
  rfl

end Holds

end Board

namespace Sass.Loaded

variable {s : Loaded} {owner : Nat}

theorem holds_drop (h : s.world.board.Holds owner s.watches) (path : String) :
    (s.drop path).world.board.Holds owner (s.drop path).watches := by
  simp only [drop, cancelWatch]
  cases held : s.watches[path]? with
  | none => exact h
  | some watch => exact h.cancel held

theorem holds_take (h : s.world.board.Holds owner s.watches) (path : String) (stamp : Int)
    (sheet : Sheet) : (s.take owner path stamp sheet).world.board.Holds owner
      (s.take owner path stamp sheet).watches := by
  simp only [take, watch]
  split
  · exact h
  · rename_i absent
    exact h.register (mt Std.ExtTreeMap.contains_iff_mem.2 absent)

def Holding (owner : Nat) (first : Board) (s : Loaded) : Prop :=
  s.world.board.Holds owner s.watches ∧ first.Spares owner s.world.board

theorem holding_maintained (l : Loader) (first : Board) : l.Maintains (Holding l.owner first) where
  noteRead _ _ h := h
  drop s path h := by
    refine ⟨holds_drop h.1 path, h.2.trans ?_⟩
    simp only [drop, cancelWatch]
    cases held : s.watches[path]? with
    | none => exact .refl _ _
    | some watch => exact h.1.spares_cancel held
  take s path stamp sheet h := by
    refine ⟨holds_take h.1 path stamp sheet, h.2.trans ?_⟩
    simp only [take, watch]
    split
    · exact .refl _ _
    · exact .register _ _ _
  link _ _ _ _ h := h

end Sass.Loaded

namespace Sass.State

theorem maintains_step (s : State) {a : Step} (inside : ∀ world, a ≠ .outside world)
    (opened : a ≠ .close) {P : World → Std.ExtTreeMap String Nat → Prop}
    (maintains : ∀ matcher root,
      (Loader.mk s.held.owner matcher root).Maintains fun t => P t.world t.watches)
    (before : P s.world s.held.watches) : P (s.step a).world (s.step a).held.watches := by
  have own := maintains s.held.matcher s.held.root
  have move := s.moves a
  generalize s.step a = t at move ⊢
  generalize s.outcome a = outcome at move
  cases move with
  | unread | unwatched => exact before
  | unloaded _ _ course => exact course.maintains (maintains _ _) before
  | updated _ _ course => exact own.dropAll (course.maintains (maintains _ _) before) _
  | gone => exact own.dropAll (own.drop (s.held.start s.world) _ before) _
  | stuck _ _ course => exact course.maintains own before
  | reloaded _ _ course => exact own.dropAll (course.maintains own before) _
  | closed => exact absurd rfl opened
  | outside => exact absurd rfl (inside _)

theorem holding_step (s : State) {a : Step} (inside : ∀ world, a ≠ .outside world)
    (h : s.world.board.Holds s.held.owner s.held.watches) :
    (s.step a).held.owner = s.held.owner ∧
      (s.step a).world.board.Holds s.held.owner (s.step a).held.watches ∧
      s.world.board.Spares s.held.owner (s.step a).world.board := by
  refine ⟨s.owner_step a, ?_⟩
  by_cases closed : a = .close
  · subst closed
    exact ⟨h.close, h.spares_close⟩
  · exact s.maintains_step inside closed
      (P := fun world watches => world.board.Holds s.held.owner watches ∧
        s.world.board.Spares s.held.owner world.board)
      (fun _ _ => Loaded.holding_maintained _ _) ⟨h, .refl _ _⟩

end Sass.State

end ColorSpans
