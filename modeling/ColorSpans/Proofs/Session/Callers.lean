import ColorSpans.Proofs.Session.Confined
import ColorSpans.Proofs.Session.Watches

/-! Watches by the buffers that they call. A file that changed concerns each buffer by watches of
its own, whatever stands between them on the board. -/
namespace ColorSpans
open Stateful

namespace Session

def tell (id : BufferId) (path : String) : SessionStep Unit := do
  let s ← get
  if let some { table := some v, .. } := s.buffer? id then
    let (outcome, v, world) := v.fileChanged s.world path
    set ({ s with world }.modifyBuffer id ({ · with table := some v }))
    if ← orFail .table outcome then notify id

theorem run_tell {s : Session} {id : BufferId} {b : Buffer} {v : Sass.Variables}
    (there : s.buffer? id = some b) (table : b.table = some v) (path : String) :
    (tell id path).run.run s =
      (do if ← orFail .table (v.fileChanged s.world path).1 then notify id :
        SessionStep Unit).run.run
      ({ s with world := (Sass.State.step ⟨v, s.world⟩ (.fire path)).world }.modifyBuffer id
        ({ · with table := some (Sass.State.step ⟨v, s.world⟩ (.fire path)).held })) := by
  obtain ⟨at_, viewport, _, known, version, pending, external⟩ := b
  obtain rfl := table
  rw [tell, run_bind, run_get]
  dsimp only
  rw [there]
  rfl

theorem tell_tableless {s : Session} {id : BufferId}
    (none : ∀ b, s.buffer? id = some b → b.table = none) (path : String) :
    (tell id path).run.run s = (.ok (), s) := by
  rw [tell, run_bind, run_get]
  dsimp only
  split
  case h_1 there => cases none _ there
  case h_2 => rfl

theorem confined_tell (id : BufferId) (path : String) : Confined id (tell id path) := by
  intro s₀ t₀ s t h
  rcases h.tables with ⟨none, none'⟩ | ⟨b, c, v, w, there, there', same, table, table', seen⟩
  · rw [LockstepFrom, tell_tableless none, tell_tableless none']
    exact ⟨rfl, h⟩
  · obtain ⟨outcome, after⟩ := Sass.State.aspect_fire (s := ⟨v, s.world⟩) (t := ⟨w, t.world⟩)
      h.settings.2.2.2.2 seen (h.left.orderly.accounted.holds there table)
      (h.right.orderly.accounted.holds there' table') path
    have told : (v.fileChanged s.world path).1 = (w.fileChanged t.world path).1 := outcome
    rw [LockstepFrom, run_tell there table, run_tell there' table', told]
    refine confined_bind (confined_orFail _ _) (fun taken => ?_) s₀ t₀ _ _
      (h.step there there' same table table' (fun _ => Sass.Step.noConfusion) after)
    split
    · exact confined_notify id
    · exact confined_pure _

end Session

def Part.watches (p : Part) : List (String × Bool) :=
  (p.buffer?.bind Buffer.Aspect.table).elim [] Sass.Aspect.watches

def Part.callers (p : Part) (path : String) : List Nat :=
  (p.watches.zipIdx.filter fun e => e.1.1 == path).map Prod.snd

namespace Session

def ring (stale : Bool) (id : BufferId) (k : Nat) : SessionStep Unit := do
  match ((← get).part id).watches[k]? with
  | some (path, live) => if live || stale then tell id path
  | none => return

theorem confined_ring (stale : Bool) (id : BufferId) (k : Nat) : Confined id (ring stale id k) := by
  refine fun s₀ t₀ => lockstep_get_bind fun s t h => ?_
  rw [h.part]
  split
  · split
    · exact confined_tell id _ s₀ t₀ s t h
    · exact confined_pure _ s₀ t₀ s t h
  · exact confined_pure _ s₀ t₀ s t h

end Session

theorem Board.seenBy_eq (board : Board) (owner : Nat) : board.seenBy owner =
    (board.filter fun watch => watch.owner = owner).map fun watch => (watch.path, watch.live) := by
  rw [seenBy]
  induction board with
  | nil => rfl
  | cons watch board ih => by_cases own : watch.owner = owner <;> simp [own, ih]

namespace Session

variable {s : Session}

def owner? (s : Session) (id : BufferId) : Option Nat := (s.holdings.held? id).map Holding.owner

def bufferOf? (s : Session) (owner : Nat) : Option BufferId := (s.ownerOf? owner).map Prod.fst

theorem watches_part (s : Session) (id : BufferId) :
    (s.part id).watches = (s.owner? id).elim [] s.world.board.seenBy := by
  rw [Part.watches, part, owner?, held?_eq]
  cases there : s.buffer? id with
  | none => rfl
  | some b =>
    simp only [Option.map_some, Option.bind_some, Buffer.holding?, aspectOf]
    cases b.table <;> rfl

theorem of_ownerOf? (h : s.Accounted) {owner : Nat} {e : BufferId × Buffer}
    (found : s.ownerOf? owner = some e) :
    ∃ v, s.buffer? e.1 = some e.2 ∧ e.2.table = some v ∧ v.owner = owner := by
  have own := List.find?_some found
  rw [Option.any_eq_true] at own
  obtain ⟨v, table, same⟩ := own
  exact ⟨v, buffer?_of_ownerOf? h.distinct found, table, beq_iff_eq.1 same⟩

theorem bufferOf?_eq_some_iff (h : s.Accounted) {owner : Nat} {id : BufferId} :
    s.bufferOf? owner = some id ↔ s.owner? id = some owner := by
  constructor
  · intro found
    obtain ⟨e, called, rfl⟩ := Option.map_eq_some_iff.1 found
    obtain ⟨v, there, table, rfl⟩ := of_ownerOf? h called
    rw [owner?, Accounted.holding there table]
    rfl
  · intro own
    obtain ⟨x, has, rfl⟩ := Option.map_eq_some_iff.1 own
    obtain ⟨b, listed, holding⟩ := h.held?_eq_some_iff.1 has
    have some : (s.ownerOf? x.owner).isSome := by
      rw [ownerOf?, List.find?_isSome]
      refine ⟨_, listed, ?_⟩
      obtain ⟨v, table, rfl⟩ := Option.map_eq_some_iff.1 holding
      simp [table]
    obtain ⟨e, found⟩ := Option.isSome_iff_exists.1 some
    obtain ⟨v, there, table, same⟩ := of_ownerOf? h found
    rw [bufferOf?, found, Option.map_some, h.sound.apart (Accounted.holding there table) has same]

/-- Whose watch stands at a place on the board, and which of the watches of that buffer it is. -/
def target? (s : Session) (i : Nat) : Option (BufferId × Nat) :=
  s.world.board[i]?.bind fun watch => (s.bufferOf? watch.owner).map fun id =>
    (id, rank (fun other => other.owner = watch.owner) s.world.board i)

def callers (s : Session) (path : String) : List (BufferId × Nat) :=
  (s.world.board.onPath path).filterMap s.target?

theorem filter_target? (h : s.Accounted) (id : BufferId) (i : Nat) :
    (s.target? i).filter (fun e => e.1 = id) = s.world.board[i]?.bind fun watch =>
      if s.owner? id = some watch.owner then
        some (id, rank (fun other => other.owner = watch.owner) s.world.board i) else none := by
  rw [target?]
  cases s.world.board[i]? with
  | none => rfl
  | some watch =>
    simp only [Option.bind_some, ← bufferOf?_eq_some_iff h]
    cases s.bufferOf? watch.owner with
    | none => rfl
    | some other => by_cases same : other = id <;> simp [same, Option.filter]

theorem filter_callers (h : s.Accounted) (path : String) (id : BufferId) :
    (s.callers path).filter (fun e => e.1 = id) = ((s.part id).callers path).map (Prod.mk id) := by
  rw [callers, List.filter_filterMap, Part.callers, watches_part]
  simp only [filter_target? h]
  cases s.owner? id with
  | none => simp
  | some owner =>
    have own (i : Nat) : (s.world.board[i]?.bind fun watch => if some owner = some watch.owner then
        some (id, rank (fun other => other.owner = watch.owner) s.world.board i) else none) =
        (s.world.board[i]?.bind fun watch => if decide (watch.owner = owner) then
          some (rank (fun other => other.owner = owner) s.world.board i) else none).map
            (Prod.mk id) := by
      cases s.world.board[i]? with
      | none => rfl
      | some watch =>
        by_cases same : watch.owner = owner
        · simp [same]
        · simp [same, Ne.symm same]
    simp only [own]
    rw [← List.map_filterMap, Board.onPath,
      filterMap_rank (fun watch : Watch => watch.path == path) (fun watch => watch.owner = owner),
      Option.elim_some, Board.seenBy_eq, List.zipIdx_map, List.filter_map,
        List.map_map (f := Prod.map _ _)]
    rfl

def callAt (stale : Bool) (i : Nat) : SessionStep Unit := do
  if let some watch := (← get).world.board[i]? then
    if watch.live || stale then callWatch watch

theorem fire_eq (path : String) (stale : Bool) : fire path stale =
    (get >>= fun s : Session => (s.world.board.onPath path).forM (callAt stale) :
      SessionStep Unit) := rfl

theorem callWatch_eq (h : s.Accounted) {watch : Watch} {id : BufferId}
    (found : s.bufferOf? watch.owner = some id) :
    (callWatch watch).run.run s = (tell id watch.path).run.run s := by
  obtain ⟨e, called, rfl⟩ := Option.map_eq_some_iff.1 found
  obtain ⟨v, there, table, -⟩ := of_ownerOf? h called
  obtain ⟨id, path, viewport, _, lines, version, pending, external⟩ := e
  obtain rfl := table
  rw [callWatch, tell, run_bind, run_bind, run_get]
  dsimp only
  rw [called, there]

theorem callWatch_vain {watch : Watch} (none : s.bufferOf? watch.owner = none) :
    (callWatch watch).run.run s = (.ok (), s) := by
  rw [callWatch, run_bind, run_get]
  dsimp only
  rw [Option.map_eq_none_iff.1 none]
  rfl

/-- A watch that calls is a watch of a buffer, or calls in vain. -/
theorem run_callAt (h : s.Accounted) (stale : Bool) (i : Nat) : (callAt stale i).run.run s =
    match s.target? i with
    | some (id, k) => (ring stale id k).run.run s
    | none => (.ok (), s) := by
  rw [callAt, run_bind, run_get, target?]
  dsimp only
  cases there : s.world.board[i]? with
  | none => rfl
  | some watch =>
    dsimp only [Option.bind_some]
    cases found : s.bufferOf? watch.owner with
    | none =>
      dsimp only [Option.map_none]
      split
      · exact callWatch_vain found
      · rfl
    | some id =>
      have stands :
          (s.part id).watches[rank (fun other => other.owner = watch.owner) s.world.board i]? =
          some (watch.path, watch.live) := by
        rw [watches_part, (bufferOf?_eq_some_iff h).1 found, Option.elim_some, Board.seenBy_eq,
          List.getElem?_map, getElem?_filter_rank there (decide_eq_true rfl)]
        rfl
      dsimp only [Option.map_some]
      rw [ring, run_bind, run_get]
      dsimp only
      rw [stands]
      dsimp only
      split
      · exact callWatch_eq h found
      · rfl

/-- All watches of one session are watches of the other, of the same buffers and in the same
places. -/
structure Settled (s s' : Session) : Prop where
  board : ∃ more, s'.world.board.map Watch.owner = s.world.board.map Watch.owner ++ more
  owner? (id : BufferId) : s'.owner? id = s.owner? id

theorem target?_of_settled {s' : Session} (settled : Settled s s') (h : s.Accounted)
    (h' : s'.Accounted) {i : Nat} (bound : i < s.world.board.length) :
    s'.target? i = s.target? i := by
  obtain ⟨more, owners⟩ := settled.board
  have there := List.getElem?_eq_getElem bound
  have place : (s'.world.board.map Watch.owner)[i]? = (s.world.board.map Watch.owner)[i]? := by
    rw [owners, List.getElem?_append_left (by simpa using bound)]
  rw [List.getElem?_map, List.getElem?_map, there, Option.map_some] at place
  obtain ⟨watch, found, same⟩ := Option.map_eq_some_iff.1 place
  have ranks : rank (fun other => decide (other.owner = watch.owner)) s'.world.board i =
      rank (fun other => decide (other.owner = watch.owner)) s.world.board i := by
    have mapped (board : Board) : rank (fun other => decide (other.owner = watch.owner)) board i =
        rank (fun owner => decide (owner = watch.owner)) (board.map Watch.owner) i := by
      rw [rank, rank, ← List.map_take, List.countP_map]
      rfl
    rw [mapped, mapped, owners, rank_append (by simpa using Nat.le_of_lt bound)]
  have buffers : s'.bufferOf? watch.owner = s.bufferOf? watch.owner := by
    refine Option.ext fun id => ?_
    rw [bufferOf?_eq_some_iff h', bufferOf?_eq_some_iff h, settled.owner?]
  rw [target?, target?, found, there, Option.bind_some, Option.bind_some, buffers, ranks, same]

theorem Settled.refl (s : Session) : Settled s s := ⟨⟨[], (List.append_nil _).symm⟩, fun _ => rfl⟩

theorem Settled.of_holdings {t t' : Session} (h : Settled s t) (same : t'.holdings = t.holdings) :
    Settled s t' := by
  have board : t'.world.board = t.world.board := congrArg Holdings.board same
  have owners (id : BufferId) : t'.owner? id = t.owner? id := by
    rw [Session.owner?, same, Session.owner?]
  exact ⟨board ▸ h.board, fun id => (owners id).trans (h.owner? id)⟩

theorem settled_step (h : s.Accounted) {id : BufferId} {b : Buffer} {v : Sass.Variables}
    (there : s.buffer? id = some b) (table : b.table = some v) {a : Sass.Step}
    (inside : ∀ world, a ≠ .outside world) :
    Settled s ({ s with world := (Sass.State.step ⟨v, s.world⟩ a).world }.modifyBuffer id
      ({ · with table := some (Sass.State.step ⟨v, s.world⟩ a).held })) := by
  constructor
  · obtain ⟨n, owners⟩ := (Sass.State.extends_step ⟨v, s.world⟩ inside (h.holds there table)).owners
    exact ⟨_, owners⟩
  · intro other
    have own := held?_modifyBuffer { s with world := (Sass.State.step ⟨v, s.world⟩ a).world } there
      ({ · with table := some (Sass.State.step ⟨v, s.world⟩ a).held }) other
    rw [owner?, owner?, own]
    split
    case isTrue same =>
      subst same
      rw [Accounted.holding there table, Buffer.holding?, Option.map_some, Option.map_some,
        Option.map_some, Sass.State.owner_step]
    case isFalse => rfl

theorem settled_tell (h : s.Accounted) (id : BufferId) (path : String) :
    Settled s ((tell id path).run.run s).2 := by
  by_cases has : ∃ b v, s.buffer? id = some b ∧ b.table = some v
  · obtain ⟨b, v, there, table⟩ := has
    rw [run_tell there table]
    have silent : Silent holdings := fun _ _ => rfl
    have kept : Keeps holdings
        (do if ← orFail .table (v.fileChanged s.world path).1 then notify id : SessionStep Unit) :=
      keeps_bind (keeps_orFail _ _) fun taken => by
        split
        · exact keeps_notify silent id
        · exact keeps_pure _
    exact (settled_step h there table (a := .fire path) nofun).of_holdings (kept _)
  · rw [tell_tableless fun b there => by
      cases table : b.table with
      | none => rfl
      | some v => exact absurd ⟨b, v, there, table⟩ has]
    exact .refl s

theorem settled_ring (h : s.Accounted) (stale : Bool) (id : BufferId) (k : Nat) :
    Settled s ((ring stale id k).run.run s).2 := by
  rw [ring, run_bind, run_get]
  dsimp only
  split
  · split
    · exact settled_tell h id _
    · exact .refl s
  · exact .refl s

theorem run_callAll (h : s.Orderly) (stale : Bool) {places : List Nat}
    (bound : ∀ i ∈ places, i < s.world.board.length) : (places.forM (callAt stale)).run.run s =
      ((places.filterMap s.target?).forM fun e => ring stale e.1 e.2).run.run s := by
  induction places generalizing s with
  | nil => rfl
  | cons i places ih =>
    have rest (i' : Nat) (listed : i' ∈ places) := bound i' (List.mem_cons_of_mem i listed)
    rw [run_forM_cons, run_callAt h.accounted]
    cases at_ : s.target? i with
    | none =>
      rw [List.filterMap_cons_none at_]
      exact ih h rest
    | some e =>
      obtain ⟨id, k⟩ := e
      rw [List.filterMap_cons_some at_, run_forM_cons]
      have settled := settled_ring h.accounted stale id k
      have orderly := ((confined_ring stale id k).within h).orderly
      dsimp only
      generalize (ring stale id k).run.run s = after at settled orderly
      obtain ⟨_ | _, s'⟩ := after
      · rfl
      · dsimp only at settled orderly ⊢
        have longer : s.world.board.length ≤ s'.world.board.length := by
          obtain ⟨more, sites⟩ := settled.board
          have lengths := congrArg List.length sites
          rw [List.length_append, List.length_map, List.length_map] at lengths
          omega
        rw [ih orderly fun i' listed => Nat.lt_of_lt_of_le (rest i' listed) longer]
        have targets : places.filterMap s'.target? = places.filterMap s.target? :=
          List.filterMap_congr fun i' listed =>
            target?_of_settled settled h.accounted orderly.accounted (rest i' listed)
        rw [targets]

theorem run_fire (h : s.Orderly) (path : String) (stale : Bool) : (fire path stale).run.run s =
    ((s.callers path).forM fun e => ring stale e.1 e.2).run.run s := by
  rw [fire_eq, run_bind, run_get]
  refine run_callAll h stale fun i listed => ?_
  obtain ⟨e, there, rfl⟩ := List.mem_map.1 listed
  exact (List.mem_zipIdx' (List.mem_filter.1 there).1).1

end Session

end ColorSpans
