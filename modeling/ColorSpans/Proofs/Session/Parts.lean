import ColorSpans.Proofs.Sass.Sharing
import ColorSpans.Proofs.Session.Accounts
import Mathlib.Data.List.Induction

/-! The part of a session that is one buffer's, without the numbers that the session gives to
requests, owners and watches, since these depend on the other buffers too. Each single change of a
session is within the part of one buffer. -/
namespace ColorSpans

section

variable {α : Type} {p : α → Bool} {f : α → α}

/-- How many entries of a kind stand before a place. -/
def rank (p : α → Bool) (l : List α) (n : Nat) : Nat := (l.take n).countP p

theorem rank_cons_succ (p : α → Bool) (a : α) (l : List α) (n : Nat) :
    rank p (a :: l) (n + 1) = rank p l n + if p a then 1 else 0 := by
  rw [rank, List.take_succ_cons, List.countP_cons, rank]

theorem getElem?_filter_eq_some_iff {l : List α} {k : Nat} {a : α} :
    (l.filter p)[k]? = some a ↔ ∃ n, l[n]? = some a ∧ p a = true ∧ rank p l n = k := by
  induction l generalizing k with
  | nil => simp
  | cons b l ih =>
    have split : (∃ n, (b :: l)[n]? = some a ∧ p a = true ∧ rank p (b :: l) n = k) ↔
        (b = a ∧ p a = true ∧ k = 0) ∨
          ∃ n, l[n]? = some a ∧ p a = true ∧ rank p l n + (if p b then 1 else 0) = k := by
      constructor
      · rintro ⟨n, there, kind, place⟩
        cases n with
        | zero => exact .inl ⟨Option.some.inj there, kind, place.symm⟩
        | succ n => exact .inr ⟨n, there, kind, (rank_cons_succ p b l n).symm.trans place⟩
      · rintro (⟨rfl, kind, rfl⟩ | ⟨n, there, kind, place⟩)
        · exact ⟨0, rfl, kind, rfl⟩
        · exact ⟨n + 1, there, kind, (rank_cons_succ p b l n).trans place⟩
    rw [split]
    by_cases kind : p b = true
    · rw [List.filter_cons_of_pos kind, if_pos kind]
      cases k with
      | zero =>
        rw [List.getElem?_cons_zero, Option.some.injEq]
        refine ⟨fun same => .inl ⟨same, same ▸ kind, rfl⟩, fun h => h.elim And.left ?_⟩
        rintro ⟨n, -, -, place⟩
        cases place
      | succ k =>
        rw [List.getElem?_cons_succ, ih]
        refine ⟨fun ⟨n, there, kind, place⟩ => .inr ⟨n, there, kind, congrArg (· + 1) place⟩,
          fun h => ?_⟩
        rcases h with ⟨-, -, none⟩ | ⟨n, there, kind, place⟩
        · cases none
        · exact ⟨n, there, kind, Nat.succ.inj place⟩
    · rw [List.filter_cons_of_neg kind, if_neg kind, ih]
      refine ⟨.inr, fun h => h.elim ?_ id⟩
      rintro ⟨rfl, own, -⟩
      exact absurd own kind

theorem getElem?_filter_rank {l : List α} {n : Nat} {a : α} (there : l[n]? = some a)
    (kind : p a = true) :
    (l.filter p)[rank p l n]? = some a := getElem?_filter_eq_some_iff.2 ⟨n, there, kind, rfl⟩

theorem rank_congr {l l' : List α} (same : l.map p = l'.map p) (n : Nat) :
    rank p l n = rank p l' n := by
  have counted (l : List α) : rank p l n = ((l.map p).take n).countP id := by
    rw [← List.map_take, List.countP_map, rank]
    rfl
  rw [counted, counted, same]

theorem rank_append {l : List α} {n : Nat} (bound : n ≤ l.length) (more : List α) :
    rank p (l ++ more) n = rank p l n := by
  rw [rank, List.take_append_of_le_length bound, rank]

theorem filterMap_rank (p q : α → Bool) (l : List α) :
    (((l.zipIdx.filter fun e => p e.1).map Prod.snd).filterMap fun i =>
      l[i]?.bind fun a => if q a then some (rank q l i) else none) =
    ((l.filter q).zipIdx.filter fun e => p e.1).map Prod.snd := by
  induction l using List.reverseRecOn with
  | nil => rfl
  | append_singleton l a ih =>
    have before : (((l.zipIdx.filter fun e => p e.1).map Prod.snd).filterMap fun i =>
        (l ++ [a])[i]?.bind fun a' => if q a' then some (rank q (l ++ [a]) i) else none) =
        ((l.zipIdx.filter fun e => p e.1).map Prod.snd).filterMap fun i =>
          l[i]?.bind fun a => if q a then some (rank q l i) else none := by
      refine List.filterMap_congr fun i listed => ?_
      obtain ⟨e, there, rfl⟩ := List.mem_map.1 listed
      have bound := (List.mem_zipIdx' (List.mem_filter.1 there).1).1
      rw [List.getElem?_append_left bound, rank_append (Nat.le_of_lt bound)]
    have last : rank q (l ++ [a]) l.length = (l.filter q).length := by
      rw [rank_append (Nat.le_refl _), rank, List.take_length, List.countP_eq_length_filter]
    rw [List.zipIdx_append, List.filter_append, List.map_append, List.filterMap_append, before, ih,
      List.filter_append]
    by_cases kind : q a <;> by_cases there : p a <;> simp [kind, there, last, List.zipIdx_append]

variable (same : ∀ a, p (f a) = p a)

include same

theorem rank_modify (l : List α) (m : Nat) : rank p (l.modify m f) = rank p l := by
  refine funext (rank_congr (List.ext_getElem? fun i => ?_))
  rw [List.getElem?_map, List.getElem?_map, List.getElem?_modify, Option.map_eq_map, Option.map_map]
  refine congrArg (Option.map · _) (funext fun a => ?_)
  rw [Function.comp_apply]
  split
  · exact same a
  · rfl

theorem filter_modify {l : List α} {n : Nat} {a : α} (there : l[n]? = some a) :
    (l.modify n f).filter p = if p a then (l.filter p).modify (rank p l n) f else l.filter p := by
  induction l generalizing n with
  | nil => cases there
  | cons b l ih =>
    cases n with
    | zero =>
      obtain rfl := Option.some.inj there
      rw [List.modify_zero_cons]
      by_cases kind : p b = true
      · rw [List.filter_cons_of_pos ((same b).trans kind), List.filter_cons_of_pos kind,
          if_pos kind]
        rfl
      · rw [List.filter_cons_of_neg (fun h => kind ((same b).symm.trans h)),
          List.filter_cons_of_neg kind, if_neg kind]
    | succ n =>
      rw [List.modify_succ_cons, rank_cons_succ]
      by_cases kind : p b = true
      · rw [List.filter_cons_of_pos kind, List.filter_cons_of_pos kind, ih there, if_pos kind]
        split
        · rw [List.modify_succ_cons]
        · rfl
      · rw [List.filter_cons_of_neg kind, List.filter_cons_of_neg kind, ih there, if_neg kind,
          Nat.add_zero]

end

/-- All that there is to a buffer but the numbers of its request, its watches and their owner. -/
structure Buffer.Aspect where
  path : Option String
  viewport : Viewport
  lines : List String
  version : Nat
  /-- Which of its own requests it waits for. -/
  pending : Option Nat
  external : SpanMap
  table : Option Sass.Aspect

/-- What of a session is one buffer's. -/
structure Part where
  buffer? : Option Buffer.Aspect
  /-- All requests that were ever made for it. -/
  requests : List ColorRequest
  /-- What was handed to the host for it. -/
  emitted : List (Int × List Span)

def Part.cancel (p : Part) : Option Nat → Part
  | some request => { p with requests := p.requests.modify request ({ · with cancelled := true }) }
  | none => p

structure Shared where
  host : Host
  config : Config
  matcher : Option Matcher
  hasSource : Bool
  disk : Disk

def ColorRequest.isFor (id : BufferId) (r : ColorRequest) : Bool := r.buffer = id

def Emission.isFor (id : BufferId) (e : Emission) : Bool := e.buffer = id

namespace Session

def shared (s : Session) : Shared := ⟨s.host, s.config, s.matcher, s.hasSource, s.world.disk⟩

def aspectOf (s : Session) (id : BufferId) (b : Buffer) : Buffer.Aspect where
  path := b.path
  viewport := b.viewport
  lines := b.lines
  version := b.version
  pending := b.pending.map (rank (ColorRequest.isFor id) s.requests)
  external := b.external
  table := b.table.map fun v => Sass.State.aspect ⟨v, s.world⟩

def part (s : Session) (id : BufferId) : Part where
  buffer? := (s.buffer? id).map (s.aspectOf id)
  requests := s.requests.filter (ColorRequest.isFor id)
  emitted := (s.emitted.filter (Emission.isFor id)).map fun e => (e.line, e.spans)

/-- What every session is: its watches are accounted for, no owner is on the board before its time,
and a buffer waits for a request of its own. -/
structure Orderly (s : Session) : Prop where
  accounted : s.Accounted
  below {watch : Watch} (there : watch ∈ s.world.board) : watch.owner < s.nextOwner
  waits {id : BufferId} {b : Buffer} {n : Nat} (there : s.buffer? id = some b)
      (waiting : b.pending = some n) :
    ∃ r, s.requests[n]? = some r ∧ r.buffer = id

/-- A session that another one became within the part of one buffer. -/
structure Within (id : BufferId) (s s' : Session) : Prop where
  orderly : s'.Orderly
  shared : s'.shared = s.shared
  part {other : BufferId} (apart : other ≠ id) : s'.part other = s.part other

namespace Within

variable {id : BufferId} {s s' s'' : Session}

theorem refl (h : s.Orderly) (id : BufferId) : Within id s s := ⟨h, rfl, fun _ => rfl⟩

theorem trans (h : Within id s s') (h' : Within id s' s'') : Within id s s'' :=
  ⟨h'.orderly, h'.shared.trans h.shared, fun apart => (h'.part apart).trans (h.part apart)⟩

end Within

section

variable {s : Session} {id : BufferId} {b : Buffer}

theorem part_congr {s t : Session} {id : BufferId} (buffer : s.buffer? id = t.buffer? id)
    (aspect : ∀ b, t.buffer? id = some b → s.aspectOf id b = t.aspectOf id b)
    (requests : s.requests.filter (ColorRequest.isFor id) =
      t.requests.filter (ColorRequest.isFor id))
    (emitted : s.emitted.filter (Emission.isFor id) = t.emitted.filter (Emission.isFor id)) :
    s.part id = t.part id := by
  have same : (s.buffer? id).map (s.aspectOf id) = (t.buffer? id).map (t.aspectOf id) := by
    rw [buffer]
    cases there : t.buffer? id with
    | none => rfl
    | some b => exact congrArg some (aspect b there)
  rw [part, part, same, requests, emitted]

theorem part_modifyBuffer (s : Session) (id : BufferId) (f : Buffer → Buffer) (other : BufferId) :
    (s.modifyBuffer id f).part other =
      if other = id then
        { s.part id with buffer? := (s.buffer? id).map fun b => s.aspectOf id (f b) }
      else s.part other := by
  rw [part, buffer?_modifyBuffer]
  split
  case isTrue same =>
    subst same
    rw [Option.map_map]
    rfl
  case isFalse => rfl

theorem Orderly.waits_modifyBuffer (h : s.Orderly) (id : BufferId) {f : Buffer → Buffer}
    (kept : ∀ b, s.buffer? id = some b → (f b).pending = b.pending ∨ (f b).pending = none)
    {other : BufferId} {c : Buffer} {n : Nat} (there : (s.modifyBuffer id f).buffer? other = some c)
    (waiting : c.pending = some n) :
    ∃ r, s.requests[n]? = some r ∧ r.buffer = other := by
  rw [buffer?_modifyBuffer] at there
  split at there
  case isTrue same =>
    obtain ⟨before, found, rfl⟩ := Option.map_eq_some_iff.1 there
    rcases kept before (same ▸ found) with still | none
    · exact h.waits found (still ▸ waiting)
    · cases none.symm.trans waiting
  case isFalse => exact h.waits there waiting

theorem Orderly.waits_table (h : s.Orderly) (id : BufferId) (table : Option Sass.Variables)
    {other : BufferId} {c : Buffer} {n : Nat}
    (there : (s.modifyBuffer id ({ · with table })).buffer? other = some c)
    (waiting : c.pending = some n) : ∃ r, s.requests[n]? = some r ∧ r.buffer = other :=
  h.waits_modifyBuffer id (f := ({ · with table })) (fun _ _ => .inl rfl) there waiting

theorem Orderly.modifyBuffer (h : s.Orderly) (id : BufferId) {f : Buffer → Buffer}
    (kept : ∀ b, s.buffer? id = some b →
      (f b).holding? = b.holding? ∧ ((f b).pending = b.pending ∨ (f b).pending = none)) :
    Within id s (s.modifyBuffer id f) := by
  refine ⟨⟨h.accounted.of_accounts (s.accounts_modifyBuffer id fun b there => (kept b there).1),
    h.below, h.waits_modifyBuffer id fun b there => (kept b there).2⟩, rfl, fun apart => ?_⟩
  rw [part_modifyBuffer, if_neg apart]

theorem Orderly.emit (h : s.Orderly) (id : BufferId) (line : Int) (spans : List Span) :
    Within id s { s with emitted := s.emitted ++ [⟨id, line, spans⟩] } := by
  refine ⟨⟨.of_accounts (s := s) rfl h.accounted, h.below, h.waits⟩, rfl, fun apart => ?_⟩
  refine part_congr rfl (fun _ _ => rfl) rfl ?_
  rw [List.filter_append, List.filter_cons_of_neg (by simpa [Emission.isFor] using apart.symm),
    List.filter_nil, List.append_nil]

theorem part_emit (s : Session) (id : BufferId) (line : Int) (spans : List Span) :
    part { s with emitted := s.emitted ++ [⟨id, line, spans⟩] } id =
      { s.part id with emitted := (s.part id).emitted ++ [(line, spans)] } := by
  simp only [part, List.filter_append, List.map_append]
  simp [Emission.isFor]
  rfl

/-! Requests -/

section

variable {number : Nat} {r : ColorRequest} (made : s.requests[number]? = some r)
  (own : r.buffer = id) {f : ColorRequest → ColorRequest} (same : ∀ r, (f r).buffer = r.buffer)

include made own same

theorem Orderly.modifyRequest (h : s.Orderly) :
    Within id s { s with requests := s.requests.modify number f } := by
  have kinds (id : BufferId) (r : ColorRequest) : (f r).isFor id = r.isFor id := by
    rw [ColorRequest.isFor, ColorRequest.isFor, same]
  refine ⟨⟨.of_accounts (s := s) rfl h.accounted, h.below, fun there waiting => ?_⟩, rfl,
    fun {other} apart => ?_⟩
  · obtain ⟨r', found, own⟩ := h.waits there waiting
    dsimp only
    rw [List.getElem?_modify, found]
    refine ⟨_, rfl, ?_⟩
    split
    · exact (same r').trans own
    · exact own
  · refine part_congr rfl (fun b _ => ?_) ?_ rfl
    · simp only [aspectOf, rank_modify (kinds other)]
    · refine (filter_modify (kinds other) made).trans (if_neg ?_)
      simpa [ColorRequest.isFor, own] using apart.symm

theorem part_modifyRequest :
    part { s with requests := s.requests.modify number f } id =
      { s.part id with
        requests := (s.part id).requests.modify (rank (ColorRequest.isFor id) s.requests number)
          f } := by
  have kinds (r : ColorRequest) : (f r).isFor id = r.isFor id := by
    rw [ColorRequest.isFor, ColorRequest.isFor, same]
  have requests := (filter_modify kinds made).trans
    (if_pos (by simpa [ColorRequest.isFor] using own))
  have aspects : aspectOf { s with requests := s.requests.modify number f } id = s.aspectOf id := by
    funext b
    simp only [aspectOf, rank_modify kinds]
  simp only [part, requests, aspects]
  rfl

end

theorem Orderly.cancelPending (h : s.Orderly) (there : s.buffer? id = some b) :
    Within id s (s.cancelPending b) := by
  rw [Session.cancelPending]
  cases waiting : b.pending with
  | none => exact .refl h id
  | some number =>
    obtain ⟨r, made, own⟩ := h.waits there waiting
    exact h.modifyRequest made own fun _ => rfl

theorem part_cancelPending (h : s.Orderly) (there : s.buffer? id = some b) :
    (s.cancelPending b).part id = (s.part id).cancel (s.aspectOf id b).pending := by
  rw [Session.cancelPending]
  cases waiting : b.pending with
  | none => simp only [aspectOf, waiting, Option.map_none, Part.cancel]
  | some number =>
    obtain ⟨r, made, own⟩ := h.waits there waiting
    simp only [aspectOf, waiting, Option.map_some, Part.cancel]
    exact part_modifyRequest made own fun _ => rfl

theorem Orderly.ask (h : s.Orderly) {made : ColorRequest} (own : made.buffer = id) (version : Nat) :
    Within id s ({ s with requests := s.requests ++ [made] }.modifyBuffer id
      ({ · with version, pending := some s.requests.length })) := by
  have known {other : BufferId} {c : Buffer} {n : Nat} (there : s.buffer? other = some c)
      (waiting : c.pending = some n) : n < s.requests.length := by
    obtain ⟨r, found, -⟩ := h.waits there waiting
    exact (List.getElem?_eq_some_iff.1 found).1
  refine ⟨⟨.of_accounts (s := s) ?_ h.accounted, h.below, fun {other c n} there waiting => ?_⟩, rfl,
    fun {other} apart => ?_⟩
  · exact accounts_modifyBuffer { s with requests := _ } id fun _ _ => rfl
  · rw [buffer?_modifyBuffer] at there
    split at there
    case isTrue same =>
      obtain ⟨before, -, rfl⟩ := Option.map_eq_some_iff.1 there
      obtain rfl := Option.some.inj waiting
      exact ⟨_, List.getElem?_concat_length, own.trans same.symm⟩
    case isFalse =>
      obtain ⟨r, found, own⟩ := h.waits there waiting
      exact ⟨r, (List.getElem?_append_left (known there waiting)).trans found, own⟩
  · rw [part_modifyBuffer, if_neg apart]
    refine part_congr rfl (fun c found => ?_) ?_ rfl
    · cases waiting : c.pending with
      | none => simp only [aspectOf, waiting, Option.map_none]
      | some n =>
        simp only [aspectOf, waiting, Option.map_some,
          rank_append (Nat.le_of_lt (known found waiting))]
    · rw [List.filter_append,
        List.filter_cons_of_neg (by simpa [ColorRequest.isFor, own] using apart.symm),
        List.filter_nil, List.append_nil]

theorem part_ask (there : s.buffer? id = some b) {made : ColorRequest} (own : made.buffer = id)
    (version : Nat) :
    part ({ s with requests := s.requests ++ [made] }.modifyBuffer id
      ({ · with version, pending := some s.requests.length })) id =
      { s.part id with
        buffer? := some
          { s.aspectOf id b with version, pending := some (s.part id).requests.length }
        requests := (s.part id).requests ++ [made] } := by
  have place : rank (ColorRequest.isFor id) (s.requests ++ [made]) s.requests.length =
      (s.requests.filter (ColorRequest.isFor id)).length := by
    rw [rank_append (Nat.le_refl _), rank, List.take_length, List.countP_eq_length_filter]
  have here : Session.buffer? { s with requests := s.requests ++ [made] } id = some b := there
  rw [part_modifyBuffer, if_pos rfl, here]
  simp [part, aspectOf, place, ColorRequest.isFor, own]

/-! Variables -/

variable {v : Sass.Variables}

theorem part_of_extends (h : s.Orderly) (there : s.buffer? id = some b) (table : b.table = some v)
    {world : World} (extended : s.world.board.Extends v.owner world.board) {other : BufferId}
    (apart : other ≠ id) : part { s with world } other = s.part other := by
  refine part_congr rfl (fun c found => ?_) rfl rfl
  have tables : (c.table.map fun w => Sass.State.aspect ⟨w, world⟩) =
      c.table.map fun w => Sass.State.aspect ⟨w, s.world⟩ := by
    cases has : c.table with
    | none => rfl
    | some w =>
      have owners : w.owner ≠ v.owner := fun same =>
        apart (h.accounted.sound.apart (Accounted.holding found has)
          (Accounted.holding there table) same)
      simp only [Option.map_some, Sass.State.aspect, extended.seenBy owners]
  simp only [aspectOf, tables]

theorem Orderly.owner_lt (h : s.Orderly) (there : s.buffer? id = some b)
    (table : b.table = some v) :
    v.owner < s.nextOwner := h.accounted.sound.below (Accounted.holding there table)

theorem Orderly.below_of_extends (h : s.Orderly) (there : s.buffer? id = some b)
    (table : b.table = some v) {board : Board} (extended : s.world.board.Extends v.owner board)
    {watch : Watch} (listed : watch ∈ board) :
    watch.owner < s.nextOwner := by
  rcases extended.owner_of_mem listed with own | ⟨before, there', same⟩
  · rw [own]
    exact h.owner_lt there table
  · rw [← same]
    exact h.below there'

theorem Orderly.step (h : s.Orderly) (there : s.buffer? id = some b) (table : b.table = some v)
    {a : Sass.Step} (inside : ∀ world, a ≠ .outside world) {t : Sass.State}
    (stepped : Sass.State.step ⟨v, s.world⟩ a = t) :
    Within id s ({ s with world := t.world }.modifyBuffer id
      ({ · with table := some t.held })) := by
  have extended : s.world.board.Extends v.owner t.world.board :=
    stepped ▸ Sass.State.extends_step ⟨v, s.world⟩ inside (h.accounted.holds there table)
  have disk : t.world.disk = s.world.disk := stepped ▸ Sass.State.disk_step ⟨v, s.world⟩ inside
  refine ⟨⟨h.accounted.step there table inside stepped, h.below_of_extends there table extended,
    h.waits_table id (some t.held)⟩, ?_, fun apart => ?_⟩
  · show Shared.mk _ _ _ _ t.world.disk = _
    rw [disk]
    rfl
  · rw [part_modifyBuffer, if_neg apart]
    exact part_of_extends h there table extended apart

theorem part_step (there : s.buffer? id = some b) (t : Sass.State) :
    part ({ s with world := t.world }.modifyBuffer id ({ · with table := some t.held })) id =
      { s.part id with buffer? := some { s.aspectOf id b with table := some t.aspect } } := by
  have here : Session.buffer? { s with world := t.world } id = some b := there
  rw [part_modifyBuffer, if_pos rfl, here]
  rfl

theorem Orderly.closeVariables (h : s.Orderly) (there : s.buffer? id = some b) :
    ∃ world : World, s.closeVariables b = { s with world } ∧ world.disk = s.world.disk ∧
      (∀ watch ∈ world.board, watch.owner < s.nextOwner) ∧
      ∀ other, other ≠ id → part { s with world } other = s.part other := by
  rw [Session.closeVariables]
  cases table : b.table with
  | none => exact ⟨s.world, rfl, rfl, fun _ => h.below, fun _ _ => rfl⟩
  | some v =>
    have extended := (h.accounted.holds there table).extends_close
    exact ⟨_, rfl, rfl, fun _ => h.below_of_extends there table extended,
      fun _ => part_of_extends h there table extended⟩

theorem Orderly.close (h : s.Orderly) (there : s.buffer? id = some b) :
    Within id s ((s.closeVariables b).modifyBuffer id ({ · with table := none })) := by
  have accounted := h.accounted.close there
  obtain ⟨world, same, disk, below, parts⟩ := h.closeVariables there
  rw [same] at accounted ⊢
  refine ⟨⟨accounted, fun listed => below _ listed, h.waits_table id none⟩, ?_,
    fun {other} apart => ?_⟩
  · show Shared.mk _ _ _ _ world.disk = _
    rw [disk]
    rfl
  · rw [part_modifyBuffer, if_neg apart]
    exact parts other apart

theorem part_close (h : s.Orderly) (there : s.buffer? id = some b) :
    part ((s.closeVariables b).modifyBuffer id ({ · with table := none })) id =
      { s.part id with buffer? := some { s.aspectOf id b with table := none } } := by
  obtain ⟨world, same, -⟩ := h.closeVariables there
  have here : Session.buffer? { s with world } id = some b := there
  rw [same, part_modifyBuffer, if_pos rfl, here]
  rfl

theorem Orderly.begin (h : s.Orderly) (there : s.buffer? id = some b) (table : b.table = none)
    (matcher : Option Matcher) : Within id s
    ({ s with nextOwner := s.nextOwner + 1 }.modifyBuffer id
      ({ · with table := some (.new s.nextOwner matcher) })) := by
  refine ⟨⟨h.accounted.begin there table matcher, fun listed => Nat.lt_succ_of_lt (h.below listed),
    h.waits_table id (some (.new s.nextOwner matcher))⟩, rfl, fun {other} apart => ?_⟩
  rw [part_modifyBuffer, if_neg apart]
  rfl

theorem part_begin (h : s.Orderly) (there : s.buffer? id = some b) (matcher : Option Matcher) :
    part ({ s with nextOwner := s.nextOwner + 1 }.modifyBuffer id
      ({ · with table := some (.new s.nextOwner matcher) })) id =
      { s.part id with
        buffer? := some { s.aspectOf id b with table := some ⟨matcher, none, ∅, ∅, ∅, []⟩ } } := by
  have fresh : s.world.board.seenBy s.nextOwner = [] :=
    List.filterMap_eq_nil_iff.2 fun watch listed => if_neg (Nat.ne_of_lt (h.below listed))
  have here : Session.buffer? { s with nextOwner := s.nextOwner + 1 } id = some b := there
  rw [part_modifyBuffer, if_pos rfl, here]
  simp only [Option.map_some, aspectOf, Sass.State.aspect, Sass.Variables.new, fresh]
  rfl

/-! Buffers that come and go -/

theorem Orderly.attached (h : s.Orderly) (gone : s.buffer? id = none) (path : Option String) :
    Within id s { s with buffers := s.buffers ++ [(id, .new path)] } := by
  refine ⟨⟨h.accounted.attached gone path, h.below, fun {other c n} found waiting => ?_⟩, rfl,
    fun {other} apart => ?_⟩
  · rw [buffer?_attached] at found
    rcases Option.or_eq_some_iff.1 found with old | ⟨-, new⟩
    · exact h.waits old waiting
    · split at new
      · obtain rfl := Option.some.inj new
        cases waiting
      · cases new
  · refine part_congr ?_ (fun _ _ => rfl) rfl rfl
    rw [buffer?_attached, if_neg apart, Option.or_none]

theorem part_attached (gone : s.buffer? id = none) (path : Option String) :
    part { s with buffers := s.buffers ++ [(id, .new path)] } id =
      { s.part id with buffer? := some ⟨path, .new, [], 0, none, ∅, none⟩ } := by
  rw [part, buffer?_attached, gone, if_pos rfl]
  rfl

def remove (s : Session) (id : BufferId) : Session :=
  { s with buffers := s.buffers.filter fun e => e.1 ≠ id }

theorem buffer?_remove (s : Session) (id other : BufferId) :
    (s.remove id).buffer? other = if other = id then none else s.buffer? other :=
  s.buffer?_detached id other

theorem part_remove (s : Session) (id other : BufferId) : (s.remove id).part other =
    if other = id then { s.part id with buffer? := none } else s.part other := by
  rw [part, buffer?_remove]
  split
  case isTrue same =>
    subst same
    rfl
  case isFalse => rfl

theorem detach_eq (there : s.buffer? id = some b) :
    s.detach id = ((s.cancelPending b).closeVariables b).remove id := by
  rw [Session.detach, there]
  simp only [Session.cancelPending, Session.closeVariables]
  cases b.pending <;> cases b.table <;> rfl

theorem Orderly.detach (h : s.Orderly) (id : BufferId) : Within id s (s.detach id) := by
  cases there : s.buffer? id with
  | none =>
    rw [Session.detach, there]
    exact .refl h id
  | some b =>
    have accounted := h.accounted.detach id
    rw [detach_eq there] at accounted ⊢
    have first := h.cancelPending there
    have still : (s.cancelPending b).buffer? id = some b := by
      rw [buffer?, buffers_cancelPending]
      exact there
    obtain ⟨world, same, disk, below, parts⟩ := first.orderly.closeVariables still
    rw [same] at accounted ⊢
    refine .trans first ⟨⟨accounted, fun listed => below _ listed,
      fun {other c n} found waiting => ?_⟩, ?_, fun {other} apart => ?_⟩
    · rw [buffer?_remove] at found
      split at found
      · cases found
      · exact first.orderly.waits found waiting
    · show Shared.mk _ _ _ _ world.disk = _
      rw [disk]
      rfl
    · rw [part_remove, if_neg apart]
      exact parts other apart

theorem part_detach (h : s.Orderly) (there : s.buffer? id = some b) :
    (s.detach id).part id =
      { (s.part id).cancel (s.aspectOf id b).pending with buffer? := none } := by
  have still : (s.cancelPending b).buffer? id = some b := by
    rw [buffer?, buffers_cancelPending]
    exact there
  obtain ⟨world, same, -⟩ := (h.cancelPending there).orderly.closeVariables still
  rw [detach_eq there, same, part_remove, if_pos rfl, ← part_cancelPending h there]
  rfl

theorem detach_gone (gone : s.buffer? id = none) : s.detach id = s := by rw [Session.detach, gone]

end

end Session

end ColorSpans
