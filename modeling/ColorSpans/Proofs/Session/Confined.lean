import ColorSpans.Proofs.Session.Parts

/-! Steps on one buffer. In two sessions that show the same of the buffer, and share the same, such
a step ends alike and shows the same of the buffer afterwards; it leaves to every other buffer what
is its part. -/
namespace ColorSpans
open Stateful

namespace Session

/-- Two sessions that have come from two others within the part of one buffer, and show the same of
it. -/
structure Abreast (id : BufferId) (s₀ t₀ s t : Session) : Prop where
  left : Within id s₀ s
  right : Within id t₀ t
  shared : s.shared = t.shared
  part : s.part id = t.part id

/-- A step that needs and changes no more than the part of one buffer. -/
def Confined {α : Type} (id : BufferId) (x : SessionStep α) : Prop :=
  ∀ s₀ t₀, Lockstep (Abreast id s₀ t₀) x x

namespace Abreast

variable {id : BufferId} {s₀ t₀ s t : Session}

theorem start (left : s.Orderly) (right : t.Orderly) (shared : s.shared = t.shared)
    (part : s.part id = t.part id) : Abreast id s t s t :=
  ⟨.refl left id, .refl right id, shared, part⟩

variable (h : Abreast id s₀ t₀ s t)

include h

theorem go {s' t' : Session} (left : Within id s s') (right : Within id t t')
    (part : s'.part id = t'.part id) : Abreast id s₀ t₀ s' t' :=
  ⟨h.left.trans left, h.right.trans right,
    left.shared.trans (h.shared.trans right.shared.symm), part⟩

theorem settings : s.host = t.host ∧ s.config = t.config ∧ s.matcher = t.matcher ∧
    s.hasSource = t.hasSource ∧ s.world.disk = t.world.disk := Shared.mk.inj h.shared

theorem aspect {b c : Buffer} (there : s.buffer? id = some b) (there' : t.buffer? id = some c) :
    s.aspectOf id b = t.aspectOf id c := by
  have same : (s.buffer? id).map (s.aspectOf id) = (t.buffer? id).map (t.aspectOf id) :=
    congrArg Part.buffer? h.part
  rw [there, there'] at same
  exact Option.some.inj same

theorem both : (s.buffer? id = none ∧ t.buffer? id = none) ∨
    ∃ b c, s.buffer? id = some b ∧ t.buffer? id = some c ∧ s.aspectOf id b = t.aspectOf id c := by
  have same : (s.buffer? id).map (s.aspectOf id) = (t.buffer? id).map (t.aspectOf id) :=
    congrArg Part.buffer? h.part
  cases there : s.buffer? id <;> cases there' : t.buffer? id
  case none.none => exact .inl ⟨rfl, rfl⟩
  case some.some b c =>
    exact .inr ⟨b, c, rfl, rfl, h.aspect there there'⟩
  all_goals
    rw [there, there'] at same
    cases same

theorem tables : (∀ b, s.buffer? id = some b → b.table = none) ∧
    (∀ c, t.buffer? id = some c → c.table = none) ∨
    ∃ b c v w, s.buffer? id = some b ∧ t.buffer? id = some c ∧ s.aspectOf id b = t.aspectOf id c ∧
      b.table = some v ∧ c.table = some w ∧
      Sass.State.aspect ⟨v, s.world⟩ = Sass.State.aspect ⟨w, t.world⟩ := by
  rcases h.both with ⟨gone, gone'⟩ | ⟨b, c, there, there', same⟩
  · exact .inl ⟨fun b found => (nomatch gone.symm.trans found),
      fun c found => nomatch gone'.symm.trans found⟩
  · have shown : (b.table.map fun v => Sass.State.aspect ⟨v, s.world⟩) =
        c.table.map fun w => Sass.State.aspect ⟨w, t.world⟩ := congrArg Buffer.Aspect.table same
    cases table : b.table <;> cases table' : c.table <;> rw [table, table'] at shown
    case none.none =>
      exact .inl ⟨fun b' found => Option.some.inj (there.symm.trans found) ▸ table,
        fun c' found => Option.some.inj (there'.symm.trans found) ▸ table'⟩
    case some.some v w =>
      exact .inr ⟨b, c, v, w, there, there', same, table, table', Option.some.inj shown⟩
    all_goals cases shown

theorem modifyBuffer {f g : Buffer → Buffer} {F : Buffer.Aspect → Buffer.Aspect}
    (left : ∀ b, s.buffer? id = some b → (f b).holding? = b.holding? ∧
      ((f b).pending = b.pending ∨ (f b).pending = none) ∧
        s.aspectOf id (f b) = F (s.aspectOf id b))
    (right : ∀ b, t.buffer? id = some b → (g b).holding? = b.holding? ∧
      ((g b).pending = b.pending ∨ (g b).pending = none) ∧
        t.aspectOf id (g b) = F (t.aspectOf id b)) :
    Abreast id s₀ t₀ (s.modifyBuffer id f) (t.modifyBuffer id g) := by
  refine h.go (h.left.orderly.modifyBuffer id fun b there => ⟨(left b there).1, (left b there).2.1⟩)
    (h.right.orderly.modifyBuffer id fun b there => ⟨(right b there).1, (right b there).2.1⟩) ?_
  rw [part_modifyBuffer, part_modifyBuffer, if_pos rfl, if_pos rfl, h.part]
  rcases h.both with ⟨gone, gone'⟩ | ⟨b, c, there, there', same⟩
  · rw [gone, gone']
    rfl
  · rw [there, there', Option.map_some, Option.map_some, (left b there).2.2,
      (right c there').2.2, same]

theorem step {b c : Buffer} {v w : Sass.Variables} (there : s.buffer? id = some b)
    (there' : t.buffer? id = some c) (same : s.aspectOf id b = t.aspectOf id c)
    (table : b.table = some v) (table' : c.table = some w) {a : Sass.Step}
    (inside : ∀ world, a ≠ .outside world)
    (after : (Sass.State.step ⟨v, s.world⟩ a).aspect = (Sass.State.step ⟨w, t.world⟩ a).aspect) :
    Abreast id s₀ t₀
      ({ s with world := (Sass.State.step ⟨v, s.world⟩ a).world }.modifyBuffer id
        ({ · with table := some (Sass.State.step ⟨v, s.world⟩ a).held }))
      ({ t with world := (Sass.State.step ⟨w, t.world⟩ a).world }.modifyBuffer id
        ({ · with table := some (Sass.State.step ⟨w, t.world⟩ a).held })) := by
  refine h.go (h.left.orderly.step there table inside rfl)
    (h.right.orderly.step there' table' inside rfl) ?_
  rw [part_step there, part_step there', h.part, same, after]

end Abreast

theorem definitions?_eq_aspect (s : Session) (id : BufferId) (b : Buffer) :
    b.definitions? = (s.aspectOf id b).table.map Sass.Aspect.definitions := by
  rw [Buffer.definitions?, aspectOf, Option.map_map]
  rfl

variable {α β : Type} {id : BufferId}

theorem confined_pure (a : α) : Confined id (pure a) := fun _ _ => lockstep_pure a

theorem confined_bind {x : SessionStep α} {f : α → SessionStep β} (hx : Confined id x)
    (hf : ∀ a, Confined id (f a)) : Confined id (x >>= f) :=
  fun s₀ t₀ => lockstep_bind (hx s₀ t₀) fun a => hf a s₀ t₀

theorem confined_orFail {e : Type} (cause : e → SessionError) (outcome : Except e α) :
    Confined id (orFail cause outcome) := by
  cases outcome with
  | error e => exact fun _ _ => lockstep_throw _
  | ok a => exact confined_pure a

theorem confined_forM {f : α → SessionStep Unit} {as : List α} (hf : ∀ a ∈ as, Confined id (f a)) :
    Confined id (as.forM f) := fun s₀ t₀ => lockstep_forM fun a listed => hf a listed s₀ t₀

theorem Confined.within {x : SessionStep α} (confined : Confined id x) {s : Session}
    (h : s.Orderly) :
    Within id s (x.run.run s).2 := (confined s s s s (.start h h rfl rfl)).2.left

theorem confined_modifyBuffer {f : Buffer → Buffer} {F : Buffer.Aspect → Buffer.Aspect}
    (kept : ∀ b, (f b).holding? = b.holding? ∧ ((f b).pending = b.pending ∨ (f b).pending = none))
    (shown : ∀ (s : Session) b, s.aspectOf id (f b) = F (s.aspectOf id b)) :
    Confined id (modify (·.modifyBuffer id f)) := fun _ _ =>
  lockstep_modify fun s t h => h.modifyBuffer (fun b _ => ⟨(kept b).1, (kept b).2, shown s b⟩)
    fun b _ => ⟨(kept b).1, (kept b).2, shown t b⟩

theorem confined_emit (id : BufferId) (line : Int) (spans : List Span) :
    Confined id (emit id line spans) :=
  fun _ _ => lockstep_modify fun s t h => by
    refine h.go (h.left.orderly.emit id line spans) (h.right.orderly.emit id line spans) ?_
    rw [part_emit, part_emit, h.part]

theorem run_updateTable {s : Session} {b : Buffer} {v : Sass.Variables}
    (there : s.buffer? id = some b) (table : b.table = some v) (lines : List String)
    (range : Sass.Sheet.Range) :
    (updateTable id lines range).run.run s =
      (do
        orFail .table (v.update s.world b.path lines range).1
        return (v.update s.world b.path lines range).2.1.definitions :
          SessionStep Definitions).run.run
      ({ s with world := (Sass.State.step ⟨v, s.world⟩ (.update b.path lines range)).world
        }.modifyBuffer id
        ({ · with table := some (Sass.State.step ⟨v, s.world⟩ (.update b.path lines range)).held
          })) := by
  obtain ⟨path, viewport, _, known, version, pending, external⟩ := b
  obtain rfl := table
  rw [updateTable, run_bind, run_get]
  dsimp only
  rw [there]
  rfl

theorem updateTable_tableless {s : Session} (none : ∀ b, s.buffer? id = some b → b.table = none)
    (lines : List String) (range : Sass.Sheet.Range) :
    (updateTable id lines range).run.run s = (.ok ∅, s) := by
  rw [updateTable, run_bind, run_get]
  dsimp only
  split
  case h_1 there => cases none _ there
  case h_2 => rfl

theorem confined_updateTable (id : BufferId) (lines : List String) (range : Sass.Sheet.Range) :
    Confined id (updateTable id lines range) := by
  intro s₀ t₀ s t h
  rcases h.tables with ⟨none, none'⟩ | ⟨b, c, v, w, there, there', same, table, table', seen⟩
  · rw [LockstepFrom, updateTable_tableless none, updateTable_tableless none']
    exact ⟨rfl, h⟩
  · have path : b.path = c.path := congrArg Buffer.Aspect.path same
    obtain ⟨outcome, after⟩ := Sass.State.aspect_update (s := ⟨v, s.world⟩) (t := ⟨w, t.world⟩)
      h.settings.2.2.2.2 seen (h.left.orderly.accounted.holds there table)
      (h.right.orderly.accounted.holds there' table') c.path lines range
    have done : (v.update s.world c.path lines range).1 = (w.update t.world c.path lines range).1 :=
      outcome
    have defined : (v.update s.world c.path lines range).2.1.definitions =
        (w.update t.world c.path lines range).2.1.definitions :=
      congrArg Sass.Aspect.definitions after
    rw [LockstepFrom, run_updateTable there table, run_updateTable there' table', path,
      done, defined]
    refine confined_bind (confined_orFail _ _) (fun _ => confined_pure _) s₀ t₀ _ _ ?_
    exact h.step there there' same table table' (fun _ => Sass.Step.noConfusion) after

theorem confined_syncVariables (id : BufferId) : Confined id (syncVariables id) := by
  refine fun s₀ t₀ => lockstep_get_bind fun s t h => ?_
  obtain ⟨-, config, matcher, -⟩ := h.settings
  rcases h.both with ⟨gone, gone'⟩ | ⟨b, c, there, there', same⟩
  · rw [gone, gone']
    exact lockstep_pure _ s t h
  · have tables : (b.table.map fun v => Sass.State.aspect ⟨v, s.world⟩) =
        c.table.map fun w => Sass.State.aspect ⟨w, t.world⟩ := congrArg Buffer.Aspect.table same
    have lines : b.lines = c.lines := congrArg Buffer.Aspect.lines same
    have uses : s.config.usesVariables = t.config.usesVariables := by rw [config]
    rw [there, there']
    dsimp only
    rw [uses, lines]
    split
    · refine lockstepFrom_set (h.go (h.left.orderly.close there) (h.right.orderly.close there') ?_)
      rw [part_close h.left.orderly there, part_close h.right.orderly there', h.part, same]
    · cases table : b.table <;> cases table' : c.table <;> rw [table, table'] at tables
      case none.none =>
        refine lockstepFrom_set_bind ?_
        have begun : Abreast id s₀ t₀
            ({ s with nextOwner := s.nextOwner + 1 }.modifyBuffer id
              ({ · with table := some (.new s.nextOwner s.matcher) }))
            ({ t with nextOwner := t.nextOwner + 1 }.modifyBuffer id
              ({ · with table := some (.new t.nextOwner t.matcher) })) := by
          refine h.go (h.left.orderly.begin there table _)
            (h.right.orderly.begin there' table' _) ?_
          rw [part_begin h.left.orderly there, part_begin h.right.orderly there', h.part,
            same, matcher]
        split
        · exact confined_pure _ s₀ t₀ _ _ begun
        · exact confined_bind (confined_updateTable id _ _) (fun _ => confined_pure _) s₀
            t₀ _ _ begun
      case some.some v w =>
        have own {u : Session} {d : Buffer} {x : Sass.Variables} (found : u.buffer? id = some d)
            (has : d.table = some x) (d' : Buffer) (found' : u.buffer? id = some d') :
            d'.table = some x := Option.some.inj (found.symm.trans found') ▸ has
        refine lockstepFrom_set (h.modifyBuffer
          (F := fun a => { a with table := a.table.map ({ · with matcher := t.matcher }) })
          (fun b' found => ⟨?_, .inl rfl, ?_⟩) fun c' found => ⟨?_, .inl rfl, ?_⟩)
        · rw [Buffer.holding?, Buffer.holding?, own there table b' found]
          rfl
        · rw [aspectOf, aspectOf, own there table b' found, matcher]
          rfl
        · rw [Buffer.holding?, Buffer.holding?, own there' table' c' found]
          rfl
        · rw [aspectOf, aspectOf, own there' table' c' found]
          rfl
      all_goals cases tables

theorem confined_scanBuffer (id : BufferId) (lines : List String) (first : Int) :
    Confined id (scanBuffer id lines first) := by
  refine fun s₀ t₀ => lockstep_get_bind fun s t h => ?_
  obtain ⟨-, -, matcher, -⟩ := h.settings
  rw [matcher]
  rcases h.both with ⟨gone, gone'⟩ | ⟨b, c, there, there', same⟩
  · rw [gone, gone']
    cases t.matcher <;> exact lockstep_pure _ s t h
  · have definitions : b.definitions? = c.definitions? := by
      rw [definitions?_eq_aspect s id, definitions?_eq_aspect t id, same]
    have external : b.external = c.external := congrArg Buffer.Aspect.external same
    rw [there, there']
    cases t.matcher with
    | none => exact lockstep_pure _ s t h
    | some m =>
      dsimp only
      rw [definitions, external]
      refine confined_bind (confined_orFail _ _) (fun found => ?_) s₀ t₀ s t h
      exact confined_bind (confined_forM fun _ _ => confined_emit id _ _) fun _ => confined_pure _

theorem confined_notify (id : BufferId) : Confined id (notify id) := by
  refine fun s₀ t₀ => lockstep_get_bind fun s t h => ?_
  rcases h.both with ⟨gone, gone'⟩ | ⟨b, c, there, there', same⟩
  · rw [gone, gone']
    exact lockstep_pure _ s t h
  · have lines : b.lines = c.lines := congrArg Buffer.Aspect.lines same
    rw [there, there']
    dsimp only
    rw [lines]
    split
    · exact lockstep_pure _ s t h
    · exact confined_bind (confined_scanBuffer id _ _) (fun _ => confined_pure _) s₀ t₀ s t h

theorem confined_with {f : Buffer → Buffer} {F : Buffer.Aspect → Buffer.Aspect}
    (kept : ∀ b, (f b).table = b.table ∧ (f b).pending = b.pending)
    (shown : ∀ (s : Session) b, s.aspectOf id (f b) = F (s.aspectOf id b)) :
    Confined id (modify (·.modifyBuffer id f)) :=
  confined_modifyBuffer (fun b => ⟨by rw [Buffer.holding?, (kept b).1]; rfl, .inl (kept b).2⟩) shown

theorem confined_remember (id : BufferId) (lines : List String) :
    Confined id (modify (·.modifyBuffer id ({ · with lines })) : SessionStep Unit) :=
  confined_with (F := ({ · with lines })) (fun _ => ⟨rfl, rfl⟩) fun _ _ => rfl

theorem confined_attach (id : BufferId) (path : Option String) : Confined id (attach id path) := by
  refine fun s₀ t₀ => lockstep_get_bind fun s t h => ?_
  rcases h.both with ⟨gone, gone'⟩ | ⟨b, c, there, there', same⟩
  · rw [gone, gone']
    dsimp only
    refine lockstepFrom_bind (x := modify _) ⟨rfl, ?_⟩ fun _ => confined_syncVariables id s₀ t₀
    refine h.go (h.left.orderly.attached gone path) (h.right.orderly.attached gone' path) ?_
    exact (part_attached gone path).trans (h.part ▸ (part_attached gone' path).symm)
  · have paths : b.path = c.path := congrArg Buffer.Aspect.path same
    rw [there, there']
    dsimp only
    rw [paths]
    refine confined_bind ?_ (fun _ => confined_syncVariables id) s₀ t₀ s t h
    exact confined_with (F := fun a => { a with path := path.or c.path }) (fun _ => ⟨rfl, rfl⟩)
      fun _ _ => rfl

theorem confined_ensure (id : BufferId) : Confined id (ensure id) := by
  refine fun s₀ t₀ => lockstep_get_bind fun s t h => ?_
  rcases h.both with ⟨gone, gone'⟩ | ⟨b, c, there, there', same⟩
  · rw [gone, gone']
    exact confined_attach id none s₀ t₀ s t h
  · rw [there, there']
    exact confined_pure _ s₀ t₀ s t h

theorem confined_highlight (id : BufferId) (lines : List String) (first : Int) :
    Confined id (highlight id lines first) := by
  refine confined_bind (confined_ensure id) fun _ => ?_
  split
  · exact confined_bind (confined_remember id lines) fun _ => confined_scanBuffer id lines first
  · exact confined_scanBuffer id lines first

theorem confined_rehighlight (id : BufferId) (lines : List String) (window : LineRange) :
    Confined id (rehighlight id lines window) := by
  refine confined_bind (confined_ensure id) fun _ =>
    confined_bind (confined_remember id lines) fun _ => ?_
  refine fun s₀ t₀ => lockstep_get_bind fun s t h => ?_
  rcases h.both with ⟨gone, gone'⟩ | ⟨b, c, there, there', same⟩
  · rw [gone, gone']
    exact lockstep_pure _ s t h
  · have viewport : b.viewport = c.viewport := congrArg Buffer.Aspect.viewport same
    rw [there, there']
    dsimp only
    rw [viewport]
    refine confined_bind (confined_orFail _ _) (fun seen => ?_) s₀ t₀ s t h
    refine confined_bind ?_ fun _ => ?_
    · exact confined_with (F := fun a => { a with viewport := seen.2 }) (fun _ => ⟨rfl, rfl⟩)
        fun _ _ => rfl
    · split
      · exact confined_pure _
      · exact confined_scanBuffer id _ _

theorem confined_updateVariables (id : BufferId) (lines : List String) (range : Sass.Sheet.Range) :
    Confined id (updateVariables id lines range) := by
  refine confined_bind (confined_ensure id) fun _ => ?_
  split
  · exact confined_bind (confined_remember id lines) fun _ => confined_updateTable id lines range
  · exact confined_updateTable id lines range

theorem Abreast.cancelPending {s₀ t₀ s t : Session} {b c : Buffer} (h : Abreast id s₀ t₀ s t)
    (there : s.buffer? id = some b) (there' : t.buffer? id = some c)
    (same : s.aspectOf id b = t.aspectOf id c) :
    Abreast id s₀ t₀ (s.cancelPending b) (t.cancelPending c) := by
  refine h.go (h.left.orderly.cancelPending there) (h.right.orderly.cancelPending there') ?_
  rw [part_cancelPending h.left.orderly there, part_cancelPending h.right.orderly there',
    h.part, same]

theorem confined_detach (id : BufferId) :
    Confined id (modify (·.detach id) : SessionStep Unit) := by
  refine fun s₀ t₀ => lockstep_modify fun s t h => ?_
  refine h.go (h.left.orderly.detach id) (h.right.orderly.detach id) ?_
  rcases h.both with ⟨gone, gone'⟩ | ⟨b, c, there, there', same⟩
  · rw [detach_gone gone, detach_gone gone', h.part]
  · rw [part_detach h.left.orderly there, part_detach h.right.orderly there', h.part, same]

theorem confined_refresh (id : BufferId) : Confined id (refresh id) := by
  refine fun s₀ t₀ => lockstep_get_bind fun s t h => ?_
  obtain ⟨-, config, -⟩ := h.settings
  rcases h.both with ⟨gone, gone'⟩ | ⟨b, c, there, there', same⟩
  · rw [gone, gone']
    exact lockstep_pure _ s t h
  · have waiting : b.pending.isSome = c.pending.isSome := by
      simpa only [aspectOf, Option.isSome_map] using congrArg (fun a => a.pending.isSome) same
    rw [there, there']
    dsimp only
    rw [config, waiting]
    split
    · refine lockstepFrom_set_bind (confined_syncVariables id s₀ t₀ _ _ ?_)
      refine (h.cancelPending there there' same).modifyBuffer
        (F := fun a => { a with viewport := .new, pending := none, external := ∅ }) ?_ ?_
      all_goals exact fun _ _ => ⟨rfl, .inr rfl, rfl⟩
    · refine lockstepFrom_set_bind (confined_syncVariables id s₀ t₀ _ _ ?_)
      refine h.modifyBuffer (F := fun a => { a with viewport := .new }) ?_ ?_
      all_goals exact fun _ _ => ⟨rfl, .inl rfl, rfl⟩

theorem confined_scannedLine (matcher : Option Matcher) (b : Buffer) (number : Int) :
    Confined id (scannedLine matcher b number) := by
  unfold scannedLine
  split
  · split
    · refine confined_bind ?_ fun line => confined_orFail _ _
      unfold lineAt
      dsimp only
      split
      · exact confined_pure _
      · exact fun _ _ => lockstep_throw _
    · exact confined_pure _
  · exact confined_pure _

theorem confined_receive (id : BufferId) (range : LineRange) (version : Int) (found : SpanMap) :
    Confined id (receive id range version found) := by
  refine fun s₀ t₀ => lockstep_get_bind fun s t h => ?_
  obtain ⟨-, -, matcher, -⟩ := h.settings
  rcases h.both with ⟨gone, gone'⟩ | ⟨b, c, there, there', same⟩
  · rw [gone, gone']
    exact lockstep_pure _ s t h
  · have versions : b.version = c.version := congrArg Buffer.Aspect.version same
    have external : b.external = c.external := congrArg Buffer.Aspect.external same
    have scanned (number : Int) : scannedLine s.matcher b number =
        scannedLine t.matcher c number := by
      have lines : b.lines = c.lines := congrArg Buffer.Aspect.lines same
      have definitions : b.definitions? = c.definitions? := by
        rw [definitions?_eq_aspect s id, definitions?_eq_aspect t id, same]
      unfold scannedLine
      rw [matcher, lines, definitions]
    rw [there, there']
    dsimp only
    simp only [versions, external, scanned]
    split
    · refine lockstepFrom_set_bind ?_
      refine confined_forM (fun entry _ => ?_) s₀ t₀ _ _ ?_
      · exact confined_bind (confined_scannedLine _ _ _) fun _ => confined_emit id _ _
      · refine h.modifyBuffer
          (F := fun a =>
            { a with pending := none, external := replaceLines c.external range found }) ?_ ?_
        all_goals exact fun _ _ => ⟨rfl, .inr rfl, rfl⟩
    · exact lockstep_pure _ s t h

def place (id : BufferId) (range : LineRange) : SessionStep (Option ColorRequest) := do
  let s ← get
  let some b := s.buffer? id | return none
  let s := s.cancelPending b
  let made : ColorRequest := ⟨id, range, b.version + 1, false, false⟩
  set ({ s with requests := s.requests ++ [made] }.modifyBuffer id
    ({ · with version := b.version + 1, pending := some s.requests.length }))
  return some made

def ask (id : BufferId) (range : LineRange) : SessionStep (Option ColorRequest) := do
  let number ← request id range
  return number.bind ((← get).requests[·]?)

theorem run_ask (id : BufferId) (range : LineRange) (s : Session) : (ask id range).run.run s =
    (if !s.hasSource || !s.config.isExternal then return none
      else do ensure id; place id range : SessionStep (Option ColorRequest)).run.run s := by
  rw [ask, request, run_bind, run_bind, run_get]
  dsimp only
  by_cases idle : (!s.hasSource || !s.config.isExternal) = true
  · rw [if_pos idle, if_pos idle]
    rfl
  · rw [if_neg idle, if_neg idle, run_bind, run_bind]
    generalize (ensure id).run.run s = after
    obtain ⟨_ | _, t⟩ := after
    · rfl
    · dsimp only
      rw [place, run_bind, run_bind, run_get]
      dsimp only
      cases t.buffer? id with
      | none => rfl
      | some b =>
        simp only [run_bind, run_set, run_pure, run_get]
        simp [modifyBuffer]

theorem confined_place (id : BufferId) (range : LineRange) : Confined id (place id range) := by
  refine fun s₀ t₀ => lockstep_get_bind fun s t h => ?_
  rcases h.both with ⟨gone, gone'⟩ | ⟨b, c, there, there', same⟩
  · rw [gone, gone']
    exact lockstep_pure _ s t h
  · have versions : b.version = c.version := congrArg Buffer.Aspect.version same
    have after := h.cancelPending there there' same
    rw [there, there']
    dsimp only
    rw [versions]
    have own : (ColorRequest.mk id range (c.version + 1) false false).buffer = id := rfl
    refine lockstepFrom_set_bind (lockstep_pure _ _ _ (after.go (after.left.orderly.ask own _)
      (after.right.orderly.ask own _) ?_))
    have still : (s.cancelPending b).buffer? id = some b := by
      rw [buffer?, buffers_cancelPending]
      exact there
    have still' : (t.cancelPending c).buffer? id = some c := by
      rw [buffer?, buffers_cancelPending]
      exact there'
    rw [part_ask still own, part_ask still' own, after.part, after.aspect still still']

theorem confined_ask (id : BufferId) (range : LineRange) : Confined id (ask id range) := by
  intro s₀ t₀ s t h
  obtain ⟨-, config, -, source, -⟩ := h.settings
  rw [LockstepFrom, run_ask, run_ask, config, source]
  split
  · exact lockstep_pure _ s t h
  · exact confined_bind (confined_ensure id) (fun _ => confined_place id range) s₀ t₀ s t h

def numberOf? (s : Session) (id : BufferId) (k : Nat) : Option Nat :=
  (List.range s.requests.length).find? fun n =>
    s.requests[n]?.any (ColorRequest.isFor id) && rank (ColorRequest.isFor id) s.requests n == k

theorem of_numberOf? {s : Session} {k n : Nat} (found : s.numberOf? id k = some n) :
    ∃ r, s.requests[n]? = some r ∧ r.buffer = id ∧ rank (ColorRequest.isFor id) s.requests n = k ∧
      (s.part id).requests[k]? = some r := by
  have meets := List.find?_some found
  rw [Bool.and_eq_true, Option.any_eq_true, beq_iff_eq] at meets
  obtain ⟨⟨r, there, own⟩, place⟩ := meets
  exact ⟨r, there, of_decide_eq_true own, place,
    getElem?_filter_eq_some_iff.2 ⟨n, there, own, place⟩⟩

theorem numberOf?_eq_none_iff {s : Session} {k : Nat} :
    s.numberOf? id k = none ↔ (s.part id).requests[k]? = none := by
  constructor
  · intro missing
    cases there : (s.part id).requests[k]? with
    | none => rfl
    | some r =>
      obtain ⟨n, made, own, place⟩ := getElem?_filter_eq_some_iff.1 there
      have bound := List.mem_range.2 (List.getElem?_eq_some_iff.1 made).1
      refine absurd ?_ (List.find?_eq_none.1 missing n bound)
      rw [made, Option.any_some, own, place, beq_self_eq_true, Bool.and_self]
  · intro missing
    cases found : s.numberOf? id k with
    | none => rfl
    | some n =>
      obtain ⟨r, -, -, -, there⟩ := of_numberOf? found
      cases missing.symm.trans there

def named (id : BufferId) (k : Nat) (f : Nat → SessionStep Unit) : SessionStep Unit := do
  if let some n := (← get).numberOf? id k then f n

theorem confined_named {k : Nat} {f : Nat → SessionStep Unit}
    (hf : ∀ s₀ t₀ s t n m r, Abreast id s₀ t₀ s t → s.requests[n]? = some r →
      t.requests[m]? = some r →
      r.buffer = id → rank (ColorRequest.isFor id) s.requests n = rank (ColorRequest.isFor id)
        t.requests m →
      LockstepFrom (Abreast id s₀ t₀) s t (f n) (f m)) : Confined id (named id k f) := by
  refine fun s₀ t₀ => lockstep_get_bind fun s t h => ?_
  cases found : s.numberOf? id k with
  | none =>
    have missing := numberOf?_eq_none_iff.1 found
    rw [h.part, ← numberOf?_eq_none_iff] at missing
    rw [missing]
    exact lockstep_pure _ s t h
  | some n =>
    obtain ⟨r, made, own, place, there⟩ := of_numberOf? found
    cases found' : t.numberOf? id k with
    | none =>
      have missing := numberOf?_eq_none_iff.1 found'
      rw [← h.part, there] at missing
      cases missing
    | some m =>
      obtain ⟨r', made', -, place', there'⟩ := of_numberOf? found'
      rw [← h.part, there] at there'
      obtain rfl := Option.some.inj there'
      exact hf s₀ t₀ s t n m r h made made' own (place.trans place'.symm)

theorem confined_deliver (id : BufferId) (k : Nat) (colors : List ExternalColor)
    (version : Option Int) :
    Confined id (named id k fun n => deliver n colors version) := by
  refine confined_named fun s₀ t₀ s t n m r h made made' own _ => ?_
  subst own
  refine lockstepFrom_get_bind ?_
  rw [made, made']
  exact confined_bind (confined_orFail _ _) (fun _ => confined_receive _ _ _ _) s₀ t₀ s t h

theorem confined_arrive (id : BufferId) (k : Nat) (found : SpanMap) :
    Confined id (named id k fun n => modify fun s => s.requests[n]?.elim s fun r =>
      s.arrive r found) := by
  refine confined_named fun s₀ t₀ s t n m r h made made' own _ => ⟨rfl, ?_⟩
  subst own
  rw [run_modify, run_modify, made, made']
  exact (confined_receive r.buffer r.range r.version found s₀ t₀ s t h).2

theorem named_of_ledger (id : BufferId) {s u : Session} (same : u.ledger = s.ledger) {n : Nat}
    {r : ColorRequest} (made : s.requests[n]? = some r) :
    ∃ r', u.requests[n]? = some r' ∧ r'.buffer = r.buffer ∧
      rank (ColorRequest.isFor id) u.requests n = rank (ColorRequest.isFor id) s.requests n := by
  have asked : (u.requests.map fun r => (r.buffer, r.version)) = s.requests.map fun r =>
      (r.buffer, r.version) :=
    congrArg Ledger.asked same
  have there := congrArg (·[n]?) asked
  simp only [List.getElem?_map, made, Option.map_some] at there
  obtain ⟨r', found, pair⟩ := Option.map_eq_some_iff.1 there
  have kinds := congrArg (List.map fun e : BufferId × Nat => decide (e.1 = id)) asked
  rw [List.map_map, List.map_map] at kinds
  exact ⟨r', found, (Prod.mk.inj pair).1, rank_congr kinds n⟩

theorem confined_answer (id : BufferId) (k : Nat) (colors : Option (List ExternalColor)) :
    Confined id (named id k fun n => modify fun s => s.answer n colors) := by
  refine confined_named fun s₀ t₀ s t n m r h made made' own place => ⟨rfl, ?_⟩
  rw [run_modify, run_modify]
  -- Whatever the answer does first, the request is done in the end.
  have done {u w : Session} (h' : Abreast id s₀ t₀ u w) (left : u.ledger = s.ledger)
      (right : w.ledger = t.ledger) : Abreast id s₀ t₀
        { u with requests := u.requests.modify n ({ · with done := true }) }
        { w with requests := w.requests.modify m ({ · with done := true }) } := by
    obtain ⟨r₁, found, same, kept⟩ := named_of_ledger id left made
    obtain ⟨r₂, found', same', kept'⟩ := named_of_ledger id right made'
    refine h'.go (h'.left.orderly.modifyRequest found (same.trans own) fun _ => rfl)
      (h'.right.orderly.modifyRequest found' (same'.trans own) fun _ => rfl) ?_
    rw [part_modifyRequest (f := ({ · with done := true })) found (same.trans own) fun _ => rfl,
      part_modifyRequest (f := ({ · with done := true })) found' (same'.trans own) fun _ => rfl,
      h'.part, kept, kept', place]
  unfold answer
  rw [made, made']
  cases colors with
  | none => exact done h rfl rfl
  | some colors =>
    dsimp only
    by_cases cancelled : r.cancelled = true
    · rw [if_pos cancelled, if_pos cancelled]
      exact done h rfl rfl
    · rw [if_neg cancelled, if_neg cancelled]
      have completed : Confined id (complete r colors) := own ▸
        confined_bind (confined_orFail _ _) fun _ => confined_receive _ _ _ _
      have kept : Keeps ledger (complete r colors) :=
        keeps_bind (keeps_orFail _ _) fun _ => colorless_ledger.keeps_receive _ _ _ _
      exact done (completed s₀ t₀ s t h).2 (kept s) (kept t)

end Session

end ColorSpans
