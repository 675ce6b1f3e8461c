import ColorSpans.Proofs.Sass.Watching
import ColorSpans.Proofs.Session.Options
import Mathlib.Data.List.Nodup

/-! Who holds which watches in a session. Each buffer with variables is an owner of its own, and
every live watch on the board is held by its owner: so it is at the start, and each step keeps it
so. -/
namespace ColorSpans
open Stateful

structure Holding where
  owner : Nat
  watches : Std.ExtTreeMap String Nat

/-- What a session has to do with watches. -/
structure Holdings where
  board : Board
  /-- Owner numbers from here on are free. -/
  nextOwner : Nat
  held? : BufferId → Option Holding

structure Holdings.Sound (h : Holdings) : Prop where
  below {id : BufferId} {x : Holding} (has : h.held? id = some x) : x.owner < h.nextOwner
  apart {id id' : BufferId} {x x' : Holding} (has : h.held? id = some x)
    (has' : h.held? id' = some x')
    (same : x.owner = x'.owner) : id = id'
  holds {id : BufferId} {x : Holding} (has : h.held? id = some x) : h.board.Holds x.owner x.watches
  owned {i : Nat} {path : String} {owner : Nat} (live : h.board[i]? = some ⟨path, owner, true⟩) :
    ∃ id x, h.held? id = some x ∧ x.owner = owner

namespace Holdings.Sound

variable {h h' : Holdings} {id : BufferId}

theorem change (sound : h.Sound) {x : Holding} (has : h.held? id = some x)
    (kept : Option (Std.ExtTreeMap String Nat)) (holds : h'.board.Holds x.owner (kept.getD ∅))
    (spares : h.board.Spares x.owner h'.board) (free : h'.nextOwner = h.nextOwner)
    (held : ∀ other, h'.held? other = if other = id then kept.map (Holding.mk x.owner)
      else h.held? other) :
    h'.Sound := by
  -- Whoever is an owner now was the same owner before.
  have before {other : BufferId} {y : Holding} (has' : h'.held? other = some y) :
      ∃ z, h.held? other = some z ∧ z.owner = y.owner := by
    rw [held] at has'
    split at has'
    case isTrue same =>
      obtain ⟨watches, -, rfl⟩ := Option.map_eq_some_iff.1 has'
      exact ⟨x, same ▸ has, rfl⟩
    case isFalse => exact ⟨y, has', rfl⟩
  refine ⟨fun has' => ?_, fun has' has'' same => ?_, fun {other y} has' => ?_,
    fun {i path owner} live => ?_⟩
  · obtain ⟨z, old, same⟩ := before has'
    rw [← same, free]
    exact sound.below old
  · obtain ⟨z, old, owner⟩ := before has'
    obtain ⟨z', old', owner'⟩ := before has''
    exact sound.apart old old' (owner.trans (same.trans owner'.symm))
  · rw [held] at has'
    split at has'
    case isTrue same =>
      obtain ⟨watches, rfl, rfl⟩ := Option.map_eq_some_iff.1 has'
      exact holds
    case isFalse other_ne =>
      exact spares.holds (fun same => other_ne (sound.apart has' has same)) (sound.holds has')
  · by_cases own : owner = x.owner
    · have there := (holds path i).2 (own ▸ live)
      cases kept with
      | none => simp at there
      | some watches => exact ⟨id, ⟨x.owner, watches⟩, by rw [held, if_pos rfl]; rfl, own.symm⟩
    · obtain ⟨other, y, old, same⟩ := sound.owned ((spares i path owner own).1 live)
      have ne : other ≠ id := by
        rintro rfl
        exact own (Option.some.inj (has.symm.trans old) ▸ same.symm)
      exact ⟨other, y, by rw [held, if_neg ne, old], same⟩

theorem begin (sound : h.Sound) (free : h.held? id = none) (board : h'.board = h.board)
    (next : h'.nextOwner = h.nextOwner + 1)
    (held : ∀ other, h'.held? other = if other = id then some ⟨h.nextOwner, ∅⟩ else h.held? other) :
    h'.Sound := by
  refine ⟨fun {other y} has => ?_, fun {other other' y y'} has has' same => ?_,
    fun {other y} has => ?_, fun {i path owner} live => ?_⟩
  · rw [held] at has
    rw [next]
    split at has
    · rw [← Option.some.inj has]
      exact Nat.lt_succ_self _
    · exact Nat.lt_succ_of_lt (sound.below has)
  · rw [held] at has has'
    split at has <;> split at has'
    case isTrue.isTrue first second => exact first.trans second.symm
    case isTrue.isFalse =>
      obtain rfl := Option.some.inj has
      exact absurd (sound.below has') (same ▸ Nat.lt_irrefl _)
    case isFalse.isTrue =>
      obtain rfl := Option.some.inj has'
      exact absurd (sound.below has) (same ▸ Nat.lt_irrefl _)
    case isFalse.isFalse => exact sound.apart has has' same
  · rw [held] at has
    rw [board]
    split at has
    · obtain rfl := Option.some.inj has
      refine fun path i => ⟨fun none => by simp at none, fun live => ?_⟩
      obtain ⟨other, z, old, same⟩ := sound.owned live
      exact absurd (sound.below old) (same ▸ Nat.lt_irrefl _)
    · exact sound.holds has
  · rw [board] at live
    obtain ⟨other, y, old, same⟩ := sound.owned live
    have ne : other ≠ id := by
      rintro rfl
      cases free.symm.trans old
    exact ⟨other, y, by rw [held, if_neg ne, old], same⟩

end Holdings.Sound

def Buffer.holding? (b : Buffer) : Option Holding := b.table.map fun v => ⟨v.owner, v.watches⟩

namespace Session

def holdings (s : Session) : Holdings :=
  ⟨s.world.board, s.nextOwner, fun id => (s.buffer? id).bind Buffer.holding?⟩

def accounts (s : Session) : List BufferId × Holdings := (s.ids, s.holdings)

/-- No buffer is there twice, and the board is as the buffers have it. -/
structure Accounted (s : Session) : Prop where
  distinct : s.ids.Nodup
  sound : s.holdings.Sound

theorem Accounted.of_accounts {s t : Session} (same : t.accounts = s.accounts) (h : s.Accounted) :
    t.Accounted := by
  obtain ⟨ids, holdings⟩ := Prod.mk.inj same
  exact ⟨ids ▸ h.distinct, holdings ▸ h.sound⟩

theorem preserves_of_keeps {α : Type} {x : SessionStep α} (keeps : Keeps accounts x) :
    Preserves Accounted x := keeps.preserves fun _ _ => Accounted.of_accounts

theorem held?_eq (s : Session) (id : BufferId) :
    s.holdings.held? id = (s.buffer? id).bind Buffer.holding? := rfl

theorem held?_of_buffers {s t : Session} (same : s.buffers = t.buffers) (id : BufferId) :
    s.holdings.held? id = t.holdings.held? id := by
  rw [held?_eq, held?_eq, buffer?, buffer?, same]

theorem held?_modifyBuffer (s : Session) {id : BufferId} {b : Buffer}
    (there : s.buffer? id = some b) (f : Buffer → Buffer) (other : BufferId) :
    (s.modifyBuffer id f).holdings.held? other =
      if other = id then (f b).holding? else s.holdings.held? other := by
  simp only [holdings, buffer?_modifyBuffer]
  split
  case isTrue same => rw [same, there, Option.map_some, Option.bind_some]
  case isFalse => rfl

theorem accounts_modifyBuffer (s : Session) (id : BufferId) {f : Buffer → Buffer}
    (same : ∀ b, s.buffer? id = some b → (f b).holding? = b.holding?) :
    (s.modifyBuffer id f).accounts = s.accounts := by
  refine Prod.ext (s.ids_modifyBuffer id f) ?_
  simp only [accounts, holdings, Holdings.mk.injEq]
  refine ⟨rfl, rfl, funext fun other => ?_⟩
  rw [buffer?_modifyBuffer]
  split
  case isTrue here =>
    cases there : s.buffer? id with
    | none => rw [here, there, Option.map_none]
    | some b => rw [here, there, Option.map_some, Option.bind_some, Option.bind_some, same b there]
  case isFalse => rfl

theorem silent_accounts : Silent accounts := fun _ _ => rfl

theorem colorless_accounts : Colorless accounts where
  silent := silent_accounts
  colors s id _ _ := s.accounts_modifyBuffer id fun _ _ => rfl
  done _ _ := rfl

theorem keeps_modifyBuffer (id : BufferId) {f : Buffer → Buffer}
    (same : ∀ b, (f b).holding? = b.holding?) :
    Keeps accounts (modify (·.modifyBuffer id f) : SessionStep Unit) :=
  keeps_modify fun s => s.accounts_modifyBuffer id fun b _ => same b

theorem nextOwner_closeVariables (s : Session) (b : Buffer) :
    (s.closeVariables b).nextOwner = s.nextOwner := by
  unfold closeVariables
  split <;> rfl

theorem world_closeVariables {s t : Session} (same : s.world = t.world) (b : Buffer) :
    (s.closeVariables b).world = (t.closeVariables b).world := by
  rw [closeVariables, closeVariables]
  split
  · rw [same]
  · exact same

theorem held?_detach (s : Session) (id other : BufferId) : (s.detach id).holdings.held? other =
    if other = id then none else s.holdings.held? other := by
  rw [held?_of_buffers (t := { s with buffers := s.buffers.filter fun e => e.1 ≠ id })
    (s.buffers_detach id), held?_eq, buffer?_detached]
  split <;> rfl

namespace Accounted

variable {s : Session} {id : BufferId} {b : Buffer} {v : Sass.Variables}

theorem holding (there : s.buffer? id = some b) (table : b.table = some v) :
    s.holdings.held? id = some ⟨v.owner, v.watches⟩ := by
  simp only [holdings, there, Option.bind_some, Buffer.holding?, table, Option.map_some]

theorem holds (h : s.Accounted) (there : s.buffer? id = some b) (table : b.table = some v) :
    s.world.board.Holds v.owner v.watches := h.sound.holds (holding there table)

theorem step (h : s.Accounted) (there : s.buffer? id = some b) (table : b.table = some v)
    {a : Sass.Step} (inside : ∀ world, a ≠ .outside world) {t : Sass.State}
    (stepped : Sass.State.step ⟨v, s.world⟩ a = t) :
    ({ s with world := t.world }.modifyBuffer id ({ · with table := some t.held })).Accounted := by
  obtain ⟨owner, holds, spares⟩ := Sass.State.holding_step ⟨v, s.world⟩ inside (h.holds there table)
  rw [stepped] at owner holds spares
  refine ⟨?_, h.sound.change (holding there table) (some t.held.watches) holds spares rfl ?_⟩
  · rw [ids_modifyBuffer]
    exact h.distinct
  · intro other
    rw [held?_modifyBuffer { s with world := t.world } there]
    simp only [Buffer.holding?, Option.map_some, owner]
    rfl

theorem vacate (h : s.Accounted) (there : s.buffer? id = some b) {t : Session}
    (distinct : t.ids.Nodup) (board : t.world.board = (s.closeVariables b).world.board)
    (free : t.nextOwner = s.nextOwner)
    (held : ∀ other, t.holdings.held? other = if other = id then none else s.holdings.held? other) :
    t.Accounted := by
  refine ⟨distinct, ?_⟩
  rw [closeVariables] at board
  cases table : b.table with
  | none =>
    have same : t.holdings = s.holdings := by
      have none : s.holdings.held? id = none := by
        rw [held?_eq, there, Option.bind_some, Buffer.holding?, table, Option.map_none]
      rw [table] at board
      refine Holdings.mk.injEq .. ▸ ⟨board, free, funext fun other => ?_⟩
      refine (held other).trans ?_
      split
      case isTrue same => rw [same, ← none]; rfl
      case isFalse => rfl
    exact same ▸ h.sound
  | some v =>
    rw [table] at board
    refine h.sound.change (holding there table) none ?_ ?_ free held
    · exact (congrArg (Board.Holds · _ _) board).mpr (h.holds there table).close
    · exact (congrArg (Board.Spares _ _) board).mpr (h.holds there table).spares_close

theorem close (h : s.Accounted) (there : s.buffer? id = some b) :
    ((s.closeVariables b).modifyBuffer id ({ · with table := none })).Accounted := by
  have again : (s.closeVariables b).buffer? id = some b := by
    rw [buffer?, buffers_closeVariables]
    exact there
  refine h.vacate there ?_ rfl (nextOwner_closeVariables s b) fun other => ?_
  · rw [ids_modifyBuffer, ids, buffers_closeVariables]
    exact h.distinct
  · rw [held?_modifyBuffer _ again, held?_of_buffers (buffers_closeVariables s b)]
    rfl

theorem begin (h : s.Accounted) (there : s.buffer? id = some b) (table : b.table = none)
    (matcher : Option Matcher) : ({ s with nextOwner := s.nextOwner + 1 }.modifyBuffer id
      ({ · with table := some (.new s.nextOwner matcher) })).Accounted := by
  have free : s.holdings.held? id = none := by
    rw [held?_eq, there, Option.bind_some, Buffer.holding?, table, Option.map_none]
  refine ⟨?_, h.sound.begin free rfl rfl fun other => ?_⟩
  · rw [ids_modifyBuffer]
    exact h.distinct
  · rw [held?_modifyBuffer { s with nextOwner := s.nextOwner + 1 } there]
    rfl

theorem attached (h : s.Accounted) (gone : s.buffer? id = none) (path : Option String) :
    ({ s with buffers := s.buffers ++ [(id, .new path)] } : Session).Accounted := by
  have same : ({ s with buffers := s.buffers ++ [(id, .new path)] } : Session).holdings =
      s.holdings := by
    simp only [holdings, Holdings.mk.injEq, true_and]
    refine funext fun other => ?_
    rw [buffer?_attached]
    split
    case isTrue here =>
      rw [here, gone]
      rfl
    case isFalse => rw [Option.or_none]
  refine ⟨?_, same ▸ h.sound⟩
  rw [ids, List.map_append]
  exact List.Nodup.append h.distinct (List.nodup_singleton _)
    (List.disjoint_singleton.2 ((s.buffer?_eq_none_iff id).1 gone))

theorem detach (h : s.Accounted) (id : BufferId) : (s.detach id).Accounted := by
  cases there : s.buffer? id with
  | none =>
    rw [Session.detach, there]
    exact h
  | some b =>
    refine h.vacate there ?_ ?_ ?_ (s.held?_detach id)
    · rw [ids, buffers_detach]
      exact h.distinct.sublist (List.filter_sublist.map _)
    · rw [Session.detach, there]
      refine congrArg World.board (world_closeVariables ?_ b)
      rw [cancelPending]
      split <;> rfl
    · rw [Session.detach, there]
      refine (nextOwner_closeVariables _ b).trans ?_
      rw [cancelPending]
      split <;> rfl

theorem close_session (h : s.Accounted) : s.close.Accounted := by
  unfold Session.close
  induction s.ids generalizing s with
  | nil => exact h
  | cons id ids ih => exact ih (h.detach id)

end Accounted

theorem preserves_updateTable (id : BufferId) (lines : List String) (range : Sass.Sheet.Range) :
    Preserves Accounted (updateTable id lines range) := by
  refine preserves_get_bind fun s h => ?_
  split
  case h_1 path _ v _ _ _ _ there =>
    refine preservesFrom_set_bind (h.step there rfl (a := .update path lines range) nofun rfl) ?_
    exact preserves_of_keeps (keeps_bind (keeps_orFail _ _) fun _ => keeps_pure _)
  case h_2 => exact h

theorem preserves_syncVariables (id : BufferId) : Preserves Accounted (syncVariables id) := by
  refine preserves_get_bind fun s h => ?_
  split
  case h_1 b there =>
    split
    case isTrue => exact h.close there
    case isFalse =>
      split
      case h_1 v table =>
        refine h.of_accounts (s.accounts_modifyBuffer id fun b' there' => ?_)
        obtain rfl := Option.some.inj (there.symm.trans there')
        rw [Buffer.holding?, Buffer.holding?, table]
        rfl
      case h_2 table =>
        refine preservesFrom_set_bind (h.begin there table s.matcher) ?_
        split
        · exact preserves_pure _
        · exact preserves_bind (preserves_updateTable _ _ _) fun _ => preserves_pure _
  case h_2 => exact h

theorem preserves_attach (id : BufferId) (path : Option String) :
    Preserves Accounted (attach id path) := by
  refine preserves_get_bind fun s h => ?_
  split
  case h_1 gone => exact preserves_syncVariables id _ (h.attached gone path)
  case h_2 b there =>
    refine preserves_syncVariables id _ (h.of_accounts (s.accounts_modifyBuffer id fun _ _ => ?_))
    rfl

theorem preserves_ensure (id : BufferId) : Preserves Accounted (ensure id) := by
  refine preserves_get_bind fun s h => ?_
  split
  · exact preserves_attach id none s h
  · exact h

theorem preserves_highlight (id : BufferId) (lines : List String) (first : Int) :
    Preserves Accounted (highlight id lines first) := by
  refine preserves_bind (preserves_ensure id) fun _ => preserves_of_keeps ?_
  split
  · exact keeps_bind (keeps_modifyBuffer id fun _ => rfl) fun _ =>
      keeps_scanBuffer silent_accounts _ _ _
  · exact keeps_scanBuffer silent_accounts _ _ _

theorem preserves_rehighlight (id : BufferId) (lines : List String) (window : LineRange) :
    Preserves Accounted (rehighlight id lines window) := by
  refine preserves_bind (preserves_ensure id) fun _ => preserves_of_keeps ?_
  refine keeps_bind (keeps_modifyBuffer id fun _ => rfl) fun _ => keeps_get_bind fun s => ?_
  split
  · refine keeps_bind (keeps_orFail _ _) (fun seen => ?_) s
    refine keeps_bind (keeps_modifyBuffer id fun _ => rfl) fun _ => ?_
    dsimp only
    split
    · exact keeps_pure _
    · exact keeps_scanBuffer silent_accounts _ _ _
  · exact keeps_pure _ s

theorem preserves_updateVariables (id : BufferId) (lines : List String) (range : Sass.Sheet.Range) :
    Preserves Accounted (updateVariables id lines range) := by
  refine preserves_bind (preserves_ensure id) fun _ => ?_
  split
  · refine preserves_bind (preserves_of_keeps (keeps_modifyBuffer id fun _ => rfl)) fun _ => ?_
    exact preserves_updateTable _ _ _
  · exact preserves_updateTable _ _ _

theorem accounts_cancelPending (s : Session) (b : Buffer) :
    (s.cancelPending b).accounts = s.accounts := by
  unfold cancelPending
  split <;> rfl

theorem preserves_refresh (id : BufferId) : Preserves Accounted (refresh id) := by
  refine preserves_get_bind fun s h => ?_
  split
  case h_1 b there =>
    split
    · refine preserves_syncVariables id _ (h.of_accounts ?_)
      refine (accounts_modifyBuffer _ id fun _ _ => ?_).trans (s.accounts_cancelPending b)
      rfl
    · exact preserves_syncVariables id _ (h.of_accounts (s.accounts_modifyBuffer id fun _ _ => rfl))
  case h_2 => exact h

theorem preserves_setOptions (options : Options) : Preserves Accounted (setOptions options) := by
  refine preserves_get_bind fun s h => ?_
  refine preserves_bind (preserves_of_keeps (keeps_orFail _ _)) (fun config => ?_) s h
  refine preserves_bind (preserves_of_keeps (keeps_modify fun _ => rfl)) fun _ => ?_
  exact preserves_get_bind fun t => preserves_forM preserves_refresh _ t

theorem buffer?_of_ownerOf? {s : Session} (distinct : s.ids.Nodup) {owner : Nat} {id : BufferId}
    {b : Buffer} (found : s.ownerOf? owner = some (id, b)) : s.buffer? id = some b :=
  (mem_buffers_iff distinct).1 (List.mem_of_find?_eq_some found)

theorem preserves_callWatch (watch : Watch) : Preserves Accounted (callWatch watch) := by
  refine preserves_get_bind fun s h => ?_
  split
  case h_1 id _ _ v _ _ _ _ found =>
    have there := buffer?_of_ownerOf? h.distinct found
    refine preservesFrom_set_bind (h.step there rfl (a := .fire watch.path) nofun rfl) ?_
    refine preserves_of_keeps (keeps_bind (keeps_orFail _ _) fun taken => ?_)
    split
    · exact keeps_notify silent_accounts _
    · exact keeps_pure _
  case h_2 => exact h

theorem preserves_fire (path : String) (stale : Bool) : Preserves Accounted (fire path stale) := by
  refine preserves_get_bind fun s h => ?_
  refine preserves_forM (fun i => preserves_get_bind fun t h' => ?_) _ s h
  split
  · split
    · exact preserves_callWatch _ t h'
    · exact h'
  · exact h'

theorem preserves_request (id : BufferId) (range : LineRange) :
    Preserves Accounted (request id range) := by
  refine preserves_get_bind fun s h => ?_
  split
  · exact h
  · refine preserves_bind (preserves_ensure id) (fun _ => preserves_get_bind fun t h' => ?_) s h
    split
    case h_1 b there =>
      refine preservesFrom_set_bind (h'.of_accounts ?_) (preserves_pure _)
      refine (accounts_modifyBuffer _ id fun _ _ => ?_).trans (t.accounts_cancelPending b)
      rfl
    case h_2 => exact h'

theorem Accounted.after {s : Session} (h : s.Accounted) {a : Step}
    (alone : ∀ hasSource world, a = .outside hasSource world → world.board = s.world.board) :
    (s.after a).Accounted := by
  cases a with
  | attach id path => exact preserves_attach id path s h
  | detach id => exact h.detach id
  | close => exact h.close_session
  | setOptions options => exact preserves_setOptions options s h
  | highlight id lines first => exact preserves_highlight id lines first s h
  | rehighlight id lines window => exact preserves_rehighlight id lines window s h
  | updateVariables id lines range => exact preserves_updateVariables id lines range s h
  | request id range => exact preserves_request id range s h
  | answer number colors => exact h.of_accounts (colorless_accounts.view_answer s number colors)
  | arrive number found =>
    dsimp only [Session.after]
    cases s.requests[number]? with
    | none => exact h
    | some r =>
        exact h.of_accounts (colorless_accounts.keeps_receive r.buffer r.range r.version found s)
  | fire path stale => exact preserves_fire path stale s h
  | outside hasSource world =>
    refine h.of_accounts ?_
    rw [accounts, holdings, Session.after, alone hasSource world rfl]
    rfl

/-- The sessions that can come about where nobody else watches files. -/
inductive Sole (host : Host) (options : Options) : Session → Prop
  | start {world : World} {s : Session} (idle : ∀ watch ∈ world.board, watch.live = false)
      (begun : Session.new host options world = .ok s) : Sole host options s
  | step {s : Session} {a : Step} (before : Sole host options s)
      (alone : ∀ hasSource world, a = .outside hasSource world → world.board = s.world.board) :
      Sole host options (s.after a)

theorem Sole.accounted {host : Host} {options : Options} {s : Session}
    (sole : Sole host options s) :
    s.Accounted := by
  induction sole with
  | start idle begun =>
    obtain ⟨config, -, rfl⟩ := map_eq_ok.1 begun
    refine ⟨List.nodup_nil, nofun, nofun, nofun, fun live => ?_⟩
    cases idle _ (List.mem_of_getElem? live)
  | step _ alone ih => exact ih.after alone

end Session

end ColorSpans
