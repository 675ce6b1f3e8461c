import ColorSpans.Proofs.Stateful
import ColorSpans.Session.External
import Mathlib.Logic.Function.Basic

/-! Views of a session: what a part of it looks like from outside. A step keeps every view that does
not show what it changes. -/
namespace ColorSpans
open Stateful

def Buffer.SameColors (b c : Buffer) : Prop :=
  c.version = b.version ∧ c.pending = b.pending ∧ c.external = b.external

namespace Session

theorem lookup_cons (id : BufferId) (b : Buffer) (rest : List (BufferId × Buffer))
    (other : BufferId) :
    List.lookup other ((id, b) :: rest) = if other = id then some b else rest.lookup other := by
  rw [List.lookup_cons]
  by_cases same : other = id
  · rw [if_pos same, beq_iff_eq.2 same]
  · rw [if_neg same, beq_eq_false_iff_ne.2 same]

theorem buffer?_modifyBuffer (s : Session) (id : BufferId) (f : Buffer → Buffer)
    (other : BufferId) :
    (s.modifyBuffer id f).buffer? other =
      if other = id then (s.buffer? other).map f else s.buffer? other := by
  simp only [buffer?, modifyBuffer]
  induction s.buffers with
  | nil => simp
  | cons entry rest ih =>
    obtain ⟨key, b⟩ := entry
    rw [List.map_cons]
    by_cases changed : key = id
    · rw [if_pos changed, lookup_cons, lookup_cons, ih, changed]
      by_cases same : other = id
      · simp only [if_pos same, Option.map_some]
      · simp only [if_neg same]
    · rw [if_neg changed, lookup_cons, lookup_cons, ih]
      by_cases here : other = key
      · rw [if_pos here, if_neg (here ▸ changed), if_pos here]
      · simp only [if_neg here]

theorem buffer?_attached (s : Session) (id : BufferId) (b : Buffer) (other : BufferId) :
    ({ s with buffers := s.buffers ++ [(id, b)] } : Session).buffer? other =
      (s.buffer? other).or (if other = id then some b else none) := by
  simp only [buffer?, List.lookup_append, lookup_cons, List.lookup_nil]

theorem ids_modifyBuffer (s : Session) (id : BufferId) (f : Buffer → Buffer) :
    (s.modifyBuffer id f).ids = s.ids := by
  rw [ids, modifyBuffer, List.map_map]
  refine List.map_congr_left fun e _ => ?_
  rw [Function.comp_apply]
  split <;> rfl

theorem buffer?_eq_none_iff (s : Session) (id : BufferId) : s.buffer? id = none ↔ id ∉ s.ids := by
  rw [buffer?, List.lookup_eq_none_iff, ids, List.mem_map, not_exists]
  refine forall_congr' fun e => ?_
  rw [bne_iff_ne, not_and, ne_comm]

theorem mem_buffers_iff {s : Session} (distinct : s.ids.Nodup) {id : BufferId} {b : Buffer} :
    (id, b) ∈ s.buffers ↔ s.buffer? id = some b := by
  rw [buffer?, List.lookup_eq_some_iff]
  constructor
  · intro listed
    obtain ⟨before, after, parts⟩ := List.append_of_mem listed
    refine ⟨before, after, parts, fun e there => bne_iff_ne.2 fun same => ?_⟩
    rw [ids, parts, List.map_append, List.map_cons] at distinct
    exact (List.nodup_append.1 distinct).2.2 e.1 (List.mem_map_of_mem there) id
      List.mem_cons_self same.symm
  · rintro ⟨before, after, parts, -⟩
    rw [parts]
    exact List.mem_append_right _ List.mem_cons_self

theorem buffer?_detached (s : Session) (id other : BufferId) :
    ({ s with buffers := s.buffers.filter fun e => e.1 ≠ id } : Session).buffer? other =
      if other = id then none else s.buffer? other := by
  simp only [buffer?]
  induction s.buffers with
  | nil => simp
  | cons entry rest ih =>
    obtain ⟨key, b⟩ := entry
    rw [lookup_cons]
    by_cases gone : key = id
    · rw [List.filter_cons_of_neg (by simpa using gone), ih]
      by_cases here : other = key
      · rw [if_pos (here.trans gone), if_pos (here.trans gone)]
      · rw [if_neg here]
    · rw [List.filter_cons_of_pos (by simpa using gone), lookup_cons, ih]
      by_cases here : other = key
      · rw [if_pos here, if_pos here, if_neg (here ▸ gone)]
      · rw [if_neg here, if_neg here]

theorem buffers_cancelPending (s : Session) (b : Buffer) :
    (s.cancelPending b).buffers = s.buffers := by
  unfold cancelPending
  split <;> rfl

theorem buffers_closeVariables (s : Session) (b : Buffer) :
    (s.closeVariables b).buffers = s.buffers := by
  unfold closeVariables
  split <;> rfl

theorem buffers_detach (s : Session) (id : BufferId) :
    (s.detach id).buffers = s.buffers.filter fun e => e.1 ≠ id := by
  unfold detach
  split
  case h_1 gone =>
    refine (List.filter_eq_self.2 fun e listed => ?_).symm
    have other : e.1 ≠ id := fun same =>
      (s.buffer?_eq_none_iff id).1 gone (same ▸ List.mem_map_of_mem listed)
    simpa using other
  case h_2 => rw [buffers_closeVariables, buffers_cancelPending]

theorem orFail_eq_ok {e α : Type} {cause : e → SessionError} {outcome : Except e α} {a : α}
    {s t : Session} :
    (orFail cause outcome).run.run s = (.ok a, t) ↔ outcome = .ok a ∧ s = t := by
  cases outcome with
  | error e =>
      exact ⟨fun done => absurd (Prod.mk.inj done).1 nofun, fun done => absurd done.1 nofun⟩
  | ok b =>
    constructor
    · intro done
      obtain ⟨value, same⟩ := Prod.mk.inj done
      exact ⟨congrArg Except.ok (Except.ok.inj value), same⟩
    · rintro ⟨same, rfl⟩
      rw [Except.ok.inj same]
      rfl

section

variable {τ : Type} {view : Session → τ}

theorem keeps_orFail {e α : Type} (cause : e → SessionError) (outcome : Except e α) :
    Keeps view (orFail cause outcome) := by
  cases outcome with
  | error e => exact keeps_throw _
  | ok a => exact keeps_pure a

theorem keeps_scannedLine (matcher : Option Matcher) (b : Buffer) (number : Int) :
    Keeps view (scannedLine matcher b number) := by
  unfold scannedLine
  split
  · split
    · refine keeps_bind ?_ fun line => keeps_orFail _ _
      unfold lineAt
      dsimp only
      split
      · exact keeps_pure _
      · exact keeps_throw _
    · exact keeps_pure _
  · exact keeps_pure _

/-- A view that does not show what is handed to the host. -/
def Silent (view : Session → τ) : Prop :=
  ∀ (s : Session) (emitted : List Emission), view { s with emitted } = view s

variable (silent : Silent view)

include silent

theorem keeps_emit (id : BufferId) (line : Int) (spans : List Span) :
    Keeps view (emit id line spans) := keeps_modify fun s => silent s _

theorem keeps_scanBuffer (id : BufferId) (lines : List String) (first : Int) :
    Keeps view (scanBuffer id lines first) := by
  refine keeps_get_bind fun s => ?_
  split
  · refine keeps_bind (keeps_orFail _ _) (fun found => ?_) s
    exact keeps_bind (keeps_forM (fun _ => keeps_emit silent _ _ _) _) fun _ => keeps_pure _
  · exact keeps_pure _ s

theorem keeps_notify (id : BufferId) : Keeps view (notify id) := by
  refine keeps_get_bind fun s => ?_
  split
  · split
    · exact keeps_pure _ s
    · exact keeps_bind (keeps_scanBuffer silent _ _ _) (fun _ => keeps_pure _) s
  · exact keeps_pure _ s

end

/-- A view that shows neither external colors nor what became of requests. -/
structure Colorless {τ : Type} (view : Session → τ) : Prop where
  silent : Silent view
  colors (s : Session) (id : BufferId) (pending : Option Nat) (external : SpanMap) :
    view (s.modifyBuffer id ({ · with pending, external })) = view s
  done (s : Session) (number : Nat) :
    view { s with requests := s.requests.modify number ({ · with done := true }) } = view s

namespace Colorless

variable {τ : Type} {view : Session → τ} (colorless : Colorless view)

include colorless

theorem keeps_receive (id : BufferId) (range : LineRange) (version : Int) (found : SpanMap) :
    Keeps view (receive id range version found) := by
  refine keeps_get_bind fun s => ?_
  split
  · split
    · refine keepsFrom_set_bind (colorless.colors s id none _) ?_
      refine keeps_forM (fun entry => ?_) _ _
      exact keeps_bind (keeps_scannedLine _ _ _) fun _ => keeps_emit colorless.silent _ _ _
    · exact keeps_pure _ s
  · exact keeps_pure _ s

theorem view_answer (s : Session) (number : Nat) (colors : Option (List ExternalColor)) :
    view (s.answer number colors) = view s := by
  unfold answer
  split
  · refine (colorless.done _ number).trans ?_
    split
    · rfl
    · exact keeps_bind (keeps_orFail _ _) (fun _ => colorless.keeps_receive _ _ _ _) s
  · exact colorless.done s number

end Colorless

def join (s : Session) (id : BufferId) (path : Option String) : Session :=
  if (s.buffer? id).isSome then s else { s with buffers := s.buffers ++ [(id, .new path)] }

def giveUp (s : Session) (id : BufferId) : Session :=
  match s.buffer? id with
  | some b =>
      if !s.config.isExternal && b.pending.isSome then
        (s.cancelPending b).modifyBuffer id
          ({ · with viewport := .new, pending := none, external := ∅ })
      else s.modifyBuffer id ({ · with viewport := .new })
  | none => s

/-- A view of the requests for external colors and of what came of them. It shows neither variables
nor lines nor viewports. -/
structure Narrow {τ : Type} (view : Session → τ) : Prop where
  silent : Silent view
  world (s : Session) (world : World) : view { s with world } = view s
  nextOwner (s : Session) (nextOwner : Nat) : view { s with nextOwner } = view s
  buffer (s : Session) (id : BufferId) {f : Buffer → Buffer} (same : ∀ b : Buffer,
      b.SameColors (f b)) :
    view (s.modifyBuffer id f) = view s

namespace Narrow

variable {τ : Type} {view : Session → τ} (narrow : Narrow view)

include narrow

theorem keeps_modifyBuffer (id : BufferId) {f : Buffer → Buffer}
    (same : ∀ b : Buffer, b.SameColors (f b)) :
    Keeps view (modify (·.modifyBuffer id f) : SessionStep Unit) :=
  keeps_modify fun s => narrow.buffer s id same

theorem closeVariables (s : Session) (b : Buffer) : view (s.closeVariables b) = view s := by
  unfold Session.closeVariables
  split
  · exact narrow.world s _
  · rfl

theorem keeps_updateTable (id : BufferId) (lines : List String) (range : Sass.Sheet.Range) :
    Keeps view (updateTable id lines range) := by
  refine keeps_get_bind fun s => ?_
  split
  · refine keepsFrom_set_bind ((narrow.buffer _ id ?_).trans (narrow.world s _)) ?_
    · exact fun _ => ⟨rfl, rfl, rfl⟩
    · exact keeps_bind (keeps_orFail _ _) (fun _ => keeps_pure _) _
  · exact keeps_pure _ s

theorem keeps_syncVariables (id : BufferId) : Keeps view (syncVariables id) := by
  refine keeps_get_bind fun s => ?_
  split
  · split
    · refine keepsFrom_set ((narrow.buffer _ id ?_).trans (narrow.closeVariables s _))
      exact fun _ => ⟨rfl, rfl, rfl⟩
    · split
      · exact keepsFrom_set (narrow.buffer _ id fun _ => ⟨rfl, rfl, rfl⟩)
      · refine keepsFrom_set_bind ((narrow.buffer _ id ?_).trans (narrow.nextOwner s _)) ?_
        · exact fun _ => ⟨rfl, rfl, rfl⟩
        · split
          · exact keeps_pure _ _
          · exact keeps_bind (narrow.keeps_updateTable _ _ _) (fun _ => keeps_pure _) _
  · exact keeps_pure _ s

theorem keeps_callWatch (watch : Watch) : Keeps view (callWatch watch) := by
  refine keeps_get_bind fun s => ?_
  split
  · refine keepsFrom_set_bind ((narrow.buffer _ _ ?_).trans (narrow.world s _)) ?_
    · exact fun _ => ⟨rfl, rfl, rfl⟩
    · refine keeps_bind (keeps_orFail _ _) (fun taken => ?_) _
      split
      · exact keeps_notify narrow.silent _
      · exact keeps_pure _
  · exact keeps_pure _ s

theorem keeps_fire (path : String) (stale : Bool) : Keeps view (fire path stale) := by
  refine keeps_get_bind fun s => ?_
  refine keeps_forM (fun i => keeps_get_bind fun t => ?_) _ s
  split
  · split
    · exact narrow.keeps_callWatch _ t
    · exact keeps_pure _ t
  · exact keeps_pure _ t

theorem view_attach (s : Session) (id : BufferId) (path : Option String) :
    view ((attach id path).run.run s).2 = view (s.join id path) := by
  rw [attach, run_bind, run_get]
  dsimp only
  split
  case h_1 gone =>
    have joined : s.join id path = { s with buffers := s.buffers ++ [(id, .new path)] } := by
      simp [join, gone]
    rw [run_bind, run_modify, joined]
    exact narrow.keeps_syncVariables id _
  case h_2 b there =>
    have joined : s.join id path = s := by simp [join, there]
    rw [run_bind, run_modify, joined]
    refine (narrow.keeps_syncVariables id _).trans (narrow.buffer s id ?_)
    exact fun _ => ⟨rfl, rfl, rfl⟩

theorem view_ensure (s : Session) (id : BufferId) :
    view ((ensure id).run.run s).2 = view (s.join id none) := by
  rw [ensure, run_bind, run_get]
  dsimp only
  split
  case isTrue => exact narrow.view_attach s id none
  case isFalse there =>
    rw [join, if_pos (by simpa [Option.isSome_iff_ne_none] using there)]
    rfl

theorem view_highlight (s : Session) (id : BufferId) (lines : List String) (first : Int) :
    view ((highlight id lines first).run.run s).2 = view (s.join id none) := by
  refine (view_bind _ (fun _ => ?_) s).trans (narrow.view_ensure s id)
  split
  · refine keeps_bind (narrow.keeps_modifyBuffer id ?_) fun _ =>
      keeps_scanBuffer narrow.silent _ _ _
    exact fun _ => ⟨rfl, rfl, rfl⟩
  · exact keeps_scanBuffer narrow.silent _ _ _

theorem view_rehighlight (s : Session) (id : BufferId) (lines : List String) (window : LineRange) :
    view ((rehighlight id lines window).run.run s).2 = view (s.join id none) := by
  refine (view_bind _ (fun _ => ?_) s).trans (narrow.view_ensure s id)
  refine keeps_bind (narrow.keeps_modifyBuffer id ?_) fun _ => keeps_get_bind fun t => ?_
  · exact fun _ => ⟨rfl, rfl, rfl⟩
  · split
    · refine keeps_bind (keeps_orFail _ _) (fun seen => ?_) t
      refine keeps_bind (narrow.keeps_modifyBuffer id ?_) fun _ => ?_
      · exact fun _ => ⟨rfl, rfl, rfl⟩
      · dsimp only
        split
        · exact keeps_pure _
        · exact keeps_scanBuffer narrow.silent _ _ _
    · exact keeps_pure _ t

theorem view_updateVariables (s : Session) (id : BufferId) (lines : List String)
    (range : Sass.Sheet.Range) :
    view ((updateVariables id lines range).run.run s).2 = view (s.join id none) := by
  refine (view_bind _ (fun _ => ?_) s).trans (narrow.view_ensure s id)
  split
  · refine keeps_bind (narrow.keeps_modifyBuffer id ?_) fun _ => narrow.keeps_updateTable _ _ _
    exact fun _ => ⟨rfl, rfl, rfl⟩
  · exact narrow.keeps_updateTable _ _ _

theorem view_refresh (s : Session) (id : BufferId) :
    view ((refresh id).run.run s).2 = view (s.giveUp id) := by
  rw [refresh, run_bind, run_get]
  dsimp only
  cases there : s.buffer? id with
  | none =>
    simp only [giveUp, there]
    rfl
  | some b =>
    simp only [giveUp, there]
    split
    · rw [run_bind, run_set]
      exact narrow.keeps_syncVariables id _
    · rw [run_bind, run_set]
      exact narrow.keeps_syncVariables id _

end Narrow

end Session
end ColorSpans
