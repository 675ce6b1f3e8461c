import ColorSpans.Proofs.Session.Leftovers
import ColorSpans.Proofs.Session.Parts

/-! What becomes of the requests for external colors: which are cancelled, which ones buffers wait
for, and the colors that buffers know. -/
namespace ColorSpans
open Stateful

/-- All requests, each as its buffer and whether it is cancelled; for each attached buffer, the
request that it waits for and the colors it knows. -/
structure Docket where
  asked : List (BufferId × Bool)
  of? : BufferId → Option (Option Nat × SpanMap)

namespace Docket

def Sound (l : Docket) : Prop :=
  ∀ id n known, l.of? id = some (some n, known) → ∃ cancelled, l.asked[n]? = some (id, cancelled)

def flags (l : Docket) (id : BufferId) : List Bool := (l.asked.filter (·.1 = id)).map Prod.snd

def colors (l : Docket) (id : BufferId) : SpanMap := ((l.of? id).map Prod.snd).getD ∅

def cancel (l : Docket) (id : BufferId) : Docket :=
  match l.of? id with
  | some (some n, _) => { l with asked := l.asked.modify n fun e => (e.1, true) }
  | _ => l

def put (l : Docket) (id : BufferId) (x : Option (Option Nat × SpanMap)) : Docket :=
  { l with of? := Function.update l.of? id x }

def drop (l : Docket) (id : BufferId) : Docket := (l.cancel id).put id none

def giveUp (l : Docket) (id : BufferId) : Docket :=
  match l.of? id with
  | some (some _, _) => (l.cancel id).put id (some (none, ∅))
  | _ => l

def ask (l : Docket) (id : BufferId) : Docket where
  asked := (l.cancel id).asked ++ [(id, false)]
  of? := Function.update l.of? id (some (some l.asked.length, l.colors id))

/-- All that a step which brings no colors can do to a docket. -/
inductive Turn (external : Bool) (l : Docket) : Docket → Prop
  | kept : Turn external l l
  | attached (id : BufferId) (gone : l.of? id = none) : Turn external l (l.put id (some (none, ∅)))
  | dropped (ids : List BufferId) : Turn external l (ids.foldl drop l)
  | gaveUp (ids : List BufferId) (inner : external = false) : Turn external l (ids.foldl giveUp l)
  | asked (id : BufferId) (asks : external = true) : Turn external l (l.ask id)

theorem Turn.of_eq {external : Bool} {l m : Docket} (same : m = l) : l.Turn external m :=
  same ▸ .kept

variable {l m : Docket} {id other : BufferId}

@[simp] theorem of?_cancel (l : Docket) (id : BufferId) : (l.cancel id).of? = l.of? := by
  unfold cancel
  split <;> rfl

theorem cancel_gone (gone : l.of? id = none) : l.cancel id = l := by rw [cancel, gone]

theorem length_cancel (l : Docket) (id : BufferId) :
    (l.cancel id).asked.length = l.asked.length := by
  unfold cancel
  split
  · exact List.length_modify ..
  · rfl

theorem of?_put (l : Docket) (id : BufferId) (x : Option (Option Nat × SpanMap))
    (other : BufferId) :
    (l.put id x).of? other = if other = id then x else l.of? other := Function.update_apply ..

theorem of?_ask (l : Docket) (id other : BufferId) : (l.ask id).of? other =
    if other = id then some (some l.asked.length, l.colors id) else l.of? other :=
  Function.update_apply ..

theorem drop_gone (gone : l.of? id = none) : l.drop id = l := by
  rw [drop, cancel_gone gone, put, ← gone, Function.update_eq_self]

theorem of?_foldl_drop (l : Docket) (ids : List BufferId) (id : BufferId) :
    (ids.foldl drop l).of? id = if id ∈ ids then none else l.of? id := by
  induction ids generalizing l with
  | nil => rw [List.foldl_nil, if_neg List.not_mem_nil]
  | cons first ids ih =>
    rw [List.foldl_cons, ih, drop, of?_put, of?_cancel]
    by_cases later : id ∈ ids <;> simp [later]

theorem ask_put (gone : l.of? id = none) : (l.put id (some (none, ∅))).ask id = l.ask id := by
  have there : (l.put id (some (none, ∅))).of? id = some (none, ∅) :=
    (of?_put ..).trans (if_pos rfl)
  have idle : (l.put id (some (none, ∅))).cancel id = l.put id (some (none, ∅)) := by
    rw [cancel, there]
  have blank : (l.put id (some (none, ∅))).colors id = l.colors id := by
    rw [colors, colors, there, gone]
    rfl
  rw [ask, ask, idle, cancel_gone gone, blank, put, Function.update_idem]

theorem exists_asked_cancel {n : Nat} {cancelled : Bool} (made : l.asked[n]? = some (id, cancelled))
    (other : BufferId) : ∃ cancelled, (l.cancel other).asked[n]? = some (id, cancelled) := by
  unfold cancel
  split
  · rw [List.getElem?_modify, made]
    split <;> exact ⟨_, rfl⟩
  · exact ⟨cancelled, made⟩

namespace Sound

theorem cancel (h : l.Sound) (id : BufferId) : (l.cancel id).Sound := by
  intro other n known waits
  rw [of?_cancel] at waits
  obtain ⟨cancelled, made⟩ := h other n known waits
  exact exists_asked_cancel made id

theorem put (h : l.Sound) (id : BufferId) {x : Option (Option Nat × SpanMap)}
    (idle : ∀ n known, x ≠ some (some n, known)) : (l.put id x).Sound := by
  intro other n known waits
  rw [of?_put] at waits
  split at waits
  · exact absurd waits (idle n known)
  · exact h other n known waits

theorem drop (h : l.Sound) (id : BufferId) : (l.drop id).Sound := (h.cancel id).put id nofun

theorem giveUp (h : l.Sound) (id : BufferId) : (l.giveUp id).Sound := by
  unfold Docket.giveUp
  split
  · exact (h.cancel id).put id nofun
  · exact h

theorem ask (h : l.Sound) (id : BufferId) : (l.ask id).Sound := by
  intro other n known waits
  rw [of?_ask] at waits
  split at waits
  case isTrue same =>
    obtain rfl := Option.some.inj (Prod.mk.inj (Option.some.inj waits)).1
    exact ⟨false, by rw [Docket.ask, ← length_cancel l id, List.getElem?_concat_length, same]⟩
  case isFalse =>
    obtain ⟨cancelled, made⟩ := h.cancel id other n known ((of?_cancel l id).symm ▸ waits)
    have bound := (List.getElem?_eq_some_iff.1 made).1
    exact ⟨cancelled, by rw [Docket.ask, List.getElem?_append_left bound, made]⟩

end Sound

theorem flags_cancel (sound : l.Sound) (apart : other ≠ id) :
    (l.cancel other).flags id = l.flags id := by
  unfold cancel
  split
  case h_1 n known waits =>
    obtain ⟨cancelled, there⟩ := sound other n known waits
    have kinds (e : BufferId × Bool) : decide ((e.1, true).1 = id) = decide (e.1 = id) := rfl
    exact congrArg (List.map Prod.snd)
      ((filter_modify kinds there).trans (if_neg (by simpa using apart)))
  case h_2 => rfl

theorem flags_ask (sound : l.Sound) (apart : other ≠ id) : (l.ask other).flags id = l.flags id := by
  rw [← flags_cancel sound apart, flags, ask, List.filter_append,
    List.filter_cons_of_neg (by simpa using apart), List.filter_nil, List.append_nil, flags]

theorem getLast?_flags_ask (l : Docket) (id : BufferId) :
    ((l.ask id).flags id).getLast? = some false := by
  rw [flags, ask, List.filter_append, List.filter_cons_of_pos (by simp), List.filter_nil,
    List.map_append]
  exact List.getLast?_concat

theorem getLast?_flags {n : Nat} {cancelled : Bool} (made : l.asked[n]? = some (id, cancelled))
    (newest : ∀ later ∈ l.asked.drop (n + 1), later.1 ≠ id) :
    (l.flags id).getLast? = some cancelled := by
  obtain ⟨bound, same⟩ := List.getElem?_eq_some_iff.1 made
  have none_later : (l.asked.drop (n + 1)).filter (·.1 = id) = [] :=
    List.filter_eq_nil_iff.2 fun later there => by simpa using newest later there
  have parts : l.asked = l.asked.take n ++ (id, cancelled) :: l.asked.drop (n + 1) := by
    rw [← same, List.getElem_cons_drop, List.take_append_drop]
  rw [flags, parts, List.filter_append, List.filter_cons_of_pos (by simp), none_later]
  simp

/-- The newest request of a buffer is not cancelled, and without an external palette there is none
to wait for. -/
structure Live (l : Docket) (external : Bool) (id : BufferId) : Prop where
  sound : l.Sound
  newest : (l.flags id).getLast? ≠ some true
  idle (inner : external = false) (n : Nat) (known : SpanMap) : l.of? id ≠ some (some n, known)

namespace Live

variable {external : Bool}

theorem of_same (h : l.Live external id) (sound : m.Sound) (flags : m.flags id = l.flags id)
    (of? : m.of? id = l.of? id) : m.Live external id ∧ m.colors id = l.colors id :=
  ⟨⟨sound, flags ▸ h.newest, of? ▸ h.idle⟩, by rw [colors, of?, colors]⟩

theorem put (h : l.Live external id) (known : SpanMap) :
    (l.put id (some (none, known))).Live external id where
  sound := h.sound.put id nofun
  newest := h.newest
  idle _ n known := by
    rw [of?_put, if_pos rfl]
    nofun

theorem put_other (h : l.Live external id) (apart : other ≠ id) (known : SpanMap) :
    (l.put other (some (none, known))).Live external id ∧
      (l.put other (some (none, known))).colors id = l.colors id :=
  h.of_same (h.sound.put other nofun) rfl ((of?_put ..).trans (if_neg (Ne.symm apart)))

theorem ask (h : l.Live external id) (asks : external = true) (other : BufferId) :
    (l.ask other).Live external id ∧ (l.ask other).colors id = l.colors id := by
  by_cases same : other = id
  · subst same
    refine ⟨⟨h.sound.ask other, by rw [getLast?_flags_ask]; nofun, fun inner => ?_⟩, ?_⟩
    · rw [asks] at inner
      cases inner
    · rw [colors, of?_ask, if_pos rfl]
      rfl
  · exact h.of_same (h.sound.ask other) (flags_ask h.sound same)
      ((of?_ask ..).trans (if_neg (Ne.symm same)))

theorem foldl_drop (h : l.Live external id) {ids : List BufferId}
    (stays : (l.of? id).isSome → ((ids.foldl drop l).of? id).isSome) :
    (ids.foldl drop l).Live external id ∧ (ids.foldl drop l).colors id = l.colors id := by
  rw [of?_foldl_drop] at stays
  induction ids generalizing l with
  | nil => exact ⟨h, rfl⟩
  | cons first ids ih =>
    rw [List.foldl_cons]
    by_cases gone : l.of? first = none
    · rw [drop_gone gone]
      refine ih h fun there => ?_
      have listed := stays there
      split at listed
      case isTrue => cases listed
      case isFalse unlisted => rwa [if_neg (mt (List.mem_cons_of_mem first) unlisted)]
    · have apart : first ≠ id := by
        rintro rfl
        have listed := stays (Option.isSome_iff_ne_none.2 gone)
        rw [if_pos List.mem_cons_self] at listed
        cases listed
      have of? : (l.drop first).of? id = l.of? id := by
        rw [drop, of?_put, of?_cancel, if_neg (Ne.symm apart)]
      obtain ⟨h', same⟩ := h.of_same (h.sound.drop first) (flags_cancel h.sound apart) of?
      refine (ih h' fun there => ?_).imp_right fun rest => rest.trans same
      rw [of?] at there ⊢
      have listed := stays there
      split at listed
      case isTrue => cases listed
      case isFalse unlisted => rwa [if_neg (mt (List.mem_cons_of_mem first) unlisted)]

theorem foldl_giveUp (h : l.Live external id) (inner : external = false) (ids : List BufferId) :
    (ids.foldl giveUp l).Live external id ∧ (ids.foldl giveUp l).colors id = l.colors id := by
  induction ids generalizing l with
  | nil => exact ⟨h, rfl⟩
  | cons first ids ih =>
    have once : (l.giveUp first).Live external id ∧ (l.giveUp first).colors id = l.colors id := by
      unfold giveUp
      split
      case h_1 n known waits =>
        have apart : first ≠ id := by
          rintro rfl
          exact h.idle inner n known waits
        have of? : ((l.cancel first).put first (some (none, ∅))).of? id = l.of? id := by
          rw [of?_put, of?_cancel, if_neg (Ne.symm apart)]
        exact h.of_same ((h.sound.cancel first).put first nofun) (flags_cancel h.sound apart) of?
      case h_2 => exact ⟨h, rfl⟩
    exact (ih once.1).imp_right fun rest => rest.trans once.2

/-- A buffer that stays attached keeps its colors and its newest request. -/
theorem turn (h : l.Live external id) (turn : l.Turn external m)
    (stays : (l.of? id).isSome → (m.of? id).isSome) :
    m.Live external id ∧ m.colors id = l.colors id := by
  cases turn with
  | kept => exact ⟨h, rfl⟩
  | attached other gone =>
    by_cases same : other = id
    · subst same
      refine ⟨h.put ∅, ?_⟩
      rw [colors, of?_put, if_pos rfl, colors, gone]
      rfl
    · exact h.put_other same ∅
  | dropped ids => exact h.foldl_drop stays
  | gaveUp ids inner => exact h.foldl_giveUp inner ids
  | asked other asks => exact h.ask asks other

end Live

theorem Sound.turn {external : Bool} (h : l.Sound) (turn : l.Turn external m) : m.Sound := by
  cases turn with
  | kept => exact h
  | attached id gone => exact h.put id nofun
  | dropped ids => exact List.foldlRecOn ids _ h fun _ sound id _ => sound.drop id
  | gaveUp ids inner => exact List.foldlRecOn ids _ h fun _ sound id _ => sound.giveUp id
  | asked id asks => exact h.ask id

end Docket

namespace Session

def docket (s : Session) : Docket :=
  ⟨s.requests.map fun r => (r.buffer, r.cancelled), s.leftovers.of?⟩

variable {s : Session} {id : BufferId}

theorem of?_docket {b : Buffer} (there : s.buffer? id = some b) :
    s.docket.of? id = some (b.pending, b.external) := Option.map_eq_some_iff.2 ⟨b, there, rfl⟩

theorem narrow_docket : Narrow docket where
  silent _ _ := rfl
  world _ _ := rfl
  nextOwner _ _ := rfl
  buffer s id _ same := congrArg (Docket.mk _)
    (congrArg Leftovers.of? (narrow_leftovers.buffer s id same))

theorem docket_modifyBuffer {b : Buffer} (there : s.buffer? id = some b) (f : Buffer → Buffer) :
    (s.modifyBuffer id f).docket = s.docket.put id (some ((f b).pending, (f b).external)) :=
  congrArg (Docket.mk _) (funext fun other =>
    (of?_modifyBuffer s there f other).trans (Docket.of?_put s.docket id _ other).symm)

theorem docket_cancelPending {b : Buffer} (there : s.buffer? id = some b) :
    (s.cancelPending b).docket = s.docket.cancel id := by
  rw [cancelPending, Docket.cancel, of?_docket there]
  cases b.pending with
  | none => rfl
  | some n =>
    refine congrArg (Docket.mk · _) (List.ext_getElem? fun i => ?_)
    simp only [cancelRequest, docket, List.getElem?_map, List.getElem?_modify, Option.map_eq_map,
      Option.map_map]
    refine congrArg (Option.map · _) (funext fun r => ?_)
    simp only [Function.comp_apply]
    split <;> rfl

def markDone (s : Session) (number : Nat) : Session :=
  { s with requests := s.requests.modify number ({ · with done := true }) }

theorem docket_markDone (s : Session) (number : Nat) : (s.markDone number).docket = s.docket := by
  refine congrArg (Docket.mk · _) (List.ext_getElem? fun i => ?_)
  simp only [markDone, List.getElem?_map, List.getElem?_modify, Option.map_eq_map, Option.map_map]
  refine congrArg (Option.map · _) (funext fun r => ?_)
  simp only [Function.comp_apply]
  split <;> rfl

theorem docket_join (s : Session) (id : BufferId) (path : Option String) : (s.join id path).docket =
    if (s.docket.of? id).isSome then s.docket else s.docket.put id (some (none, ∅)) := by
  have known : (s.docket.of? id).isSome = (s.buffer? id).isSome := Option.isSome_map
  rw [join, known]
  split
  case isTrue => rfl
  case isFalse gone =>
    rw [Bool.not_eq_true, Option.isSome_eq_false_iff, Option.isNone_iff_eq_none] at gone
    refine congrArg (Docket.mk _) (funext fun other => ?_)
    rw [Function.update_apply]
    simp only [leftovers, buffer?_attached]
    split
    case isTrue same =>
      rw [same, gone]
      rfl
    case isFalse =>
      rw [Option.or_none]
      rfl

theorem docket_detach (s : Session) (id : BufferId) : (s.detach id).docket = s.docket.drop id := by
  cases there : s.buffer? id with
  | none => rw [detach_gone there, Docket.drop_gone (Option.map_eq_none_iff.2 there)]
  | some b =>
    have closed := (narrow_docket.closeVariables (s.cancelPending b) b).trans
      (docket_cancelPending there)
    rw [detach_eq there, Docket.drop, ← closed]
    refine congrArg (Docket.mk _) (funext fun other => ?_)
    rw [Function.update_apply]
    simp only [leftovers, buffer?_remove]
    split <;> rfl

theorem docket_close (s : Session) : s.close.docket = s.ids.foldl Docket.drop s.docket := by
  unfold close
  induction s.ids generalizing s with
  | nil => rfl
  | cons id ids ih => rw [List.foldl_cons, ih, docket_detach, List.foldl_cons]

theorem docket_refresh (s : Session) (id : BufferId) : ((refresh id).run.run s).2.docket =
    if s.config.isExternal then s.docket else s.docket.giveUp id := by
  rw [narrow_docket.view_refresh, giveUp]
  cases there : s.buffer? id with
  | none =>
    have out : s.docket.of? id = none := Option.map_eq_none_iff.2 there
    rw [Docket.giveUp, out]
    exact (ite_self _).symm
  | some b =>
    have looked : (s.modifyBuffer id ({ · with viewport := .new })).docket = s.docket :=
      narrow_docket.buffer s id fun _ => ⟨rfl, rfl, rfl⟩
    rw [Docket.giveUp, of?_docket there]
    cases inner : s.config.isExternal with
    | true => exact looked
    | false =>
      cases waits : b.pending with
      | none => simpa [waits] using looked
      | some n =>
        have still : (s.cancelPending b).buffer? id = some b := by
          rw [buffer?, buffers_cancelPending]
          exact there
        simp only [Bool.not_false, waits, Option.isSome_some, Bool.and_self, if_true,
          Bool.false_eq_true, if_false]
        rw [docket_modifyBuffer still, docket_cancelPending there]

theorem docket_asked {b : Buffer} (there : s.buffer? id = some b) {made : ColorRequest}
    (own : made.buffer = id) (live : made.cancelled = false) (version : Nat) :
    ({ s.cancelPending b with requests := (s.cancelPending b).requests ++ [made] }.modifyBuffer id
      ({ · with version, pending := some (s.cancelPending b).requests.length })).docket =
        s.docket.ask id := by
  have still : Session.buffer? { s.cancelPending b with requests := (s.cancelPending b).requests ++
      [made] } id = some b := by
    rw [buffer?, buffers_cancelPending]
    exact there
  have asked : (s.docket.cancel id).asked = (s.cancelPending b).docket.asked := by
    rw [docket_cancelPending there]
  have length : (s.cancelPending b).requests.length = s.docket.asked.length := by
    rw [← Docket.length_cancel s.docket id, asked, docket, List.length_map]
  rw [docket_modifyBuffer still, Docket.ask, Docket.colors, of?_docket there, asked, length]
  refine congr (congrArg Docket.mk ?_) (congrArg (Function.update · id _) ?_)
  · simp [docket, own, live]
  · exact congrArg Leftovers.of? (leftovers_cancelPending s b)

theorem turn_docket_join (s : Session) (id : BufferId) (path : Option String) (external : Bool) :
    s.docket.Turn external (s.join id path).docket := by
  rw [docket_join]
  split
  case isTrue => exact .kept
  case isFalse gone => exact .attached id (by simpa using gone)

theorem turn_docket_request (s : Session) (id : BufferId) (range : LineRange) :
    s.docket.Turn s.config.isExternal ((request id range).run.run s).2.docket := by
  rw [request, run_bind, run_get]
  dsimp only
  split
  case isTrue => exact .kept
  case isFalse asks =>
    have external : s.config.isExternal = true := by
      by_contra inner
      exact asks (by simp [inner])
    rw [run_bind]
    have attached := narrow_docket.view_ensure s id
    generalize (ensure id).run.run s = after at attached ⊢
    obtain ⟨_ | _, t⟩ := after
    · exact attached ▸ s.turn_docket_join id none _
    · dsimp only at attached ⊢
      rw [run_bind, run_get]
      dsimp only
      split
      case h_1 b there =>
        have asked : t.docket.ask id = s.docket.ask id := by
          rw [attached, docket_join]
          split
          case isTrue => rfl
          case isFalse gone => exact Docket.ask_put (by simpa using gone)
        simp only [run_bind, run_set, run_pure]
        rw [docket_asked there rfl rfl, asked]
        exact .asked id external
      case h_2 => exact attached ▸ s.turn_docket_join id none _

theorem turn_docket_setOptions (s : Session) (options : Options) : s.docket.Turn
    ((setOptions options).run.run s).2.config.isExternal
      ((setOptions options).run.run s).2.docket := by
  rw [setOptions, run_bind, run_get]
  dsimp only
  cases s.host.config options with
  | error e => exact .kept
  | ok config =>
    show s.docket.Turn ((s.ids.forM refresh).run.run (s.configured config)).2.config.isExternal
      ((s.ids.forM refresh).run.run (s.configured config)).2.docket
    have kept : ((s.ids.forM refresh).run.run (s.configured config)).2.config = config :=
      keeps_forM keeps_config_refresh s.ids (s.configured config)
    have given : Preserves (fun t => t.config = config ∧ ∃ ids : List BufferId, t.docket =
        if config.isExternal then s.docket else ids.foldl Docket.giveUp s.docket)
          (s.ids.forM refresh) := by
      refine preserves_forM (fun id t kept => ?_) s.ids
      obtain ⟨same, ids, reached⟩ := kept
      refine ⟨(keeps_config_refresh id t).trans same, ids ++ [id], ?_⟩
      rw [docket_refresh, same, reached, List.foldl_append]
      split <;> rfl
    obtain ⟨-, ids, reached⟩ := given (s.configured config) ⟨rfl, [], (ite_self _).symm⟩
    rw [kept, reached]
    cases inner : config.isExternal with
    | true => exact .kept
    | false => exact .gaveUp ids rfl

/-- A request's colors that come in: the number of the request, the request, and its spans. -/
structure Completion where
  number : Nat
  request : ColorRequest
  found : SpanMap

/-- What a step brings, if it does; colors that cannot be converted are none. -/
def completion? (s : Session) : Step → Option Completion
  | .answer number (some given) => s.requests[number]?.bind fun r =>
      (ExternalColor.spans given (some r.range)).toOption.map (⟨number, r, ·⟩)
  | .arrive number found => s.requests[number]?.map (⟨number, ·, found⟩)
  | _ => none

theorem answer_idle {number : Nat} {colors : Option (List ExternalColor)}
    (idle : s.requests[number]? = none ∨ colors = none) :
    s.answer number colors = s.markDone number := by
  unfold answer
  split
  case h_1 made => obtain idle | idle := idle <;> simp_all
  case h_2 => rfl

theorem answer_cancelled {number : Nat} {r : ColorRequest} (made : s.requests[number]? = some r)
    (cancelled : r.cancelled = true) (given : List ExternalColor) :
    s.answer number (some given) = s.markDone number := by
  simp only [answer, made, cancelled, if_true, markDone]

theorem answer_failing {number : Nat} {r : ColorRequest} {given : List ExternalColor}
    {e : Numeral.NumeralError} (made : s.requests[number]? = some r)
    (fails : ExternalColor.spans given (some r.range) = .error e) :
    s.answer number (some given) = s.markDone number := by
  have failed : (complete r given).run.run s = (.error (.numeral e), s) := by
    rw [complete, fails]
    rfl
  simp only [answer, made, failed, ite_self, markDone]

theorem answer_live {number : Nat} {r : ColorRequest} {given : List ExternalColor} {found : SpanMap}
    (made : s.requests[number]? = some r) (live : r.cancelled = false)
    (good : ExternalColor.spans given (some r.range) = .ok found) :
    s.answer number (some given) = (s.arrive r found).markDone number := by
  have came : (complete r given).run.run s =
      (receive r.buffer r.range r.version found).run.run s := by
    rw [complete, good]
    rfl
  simp only [answer, made, live, Bool.false_eq_true, if_false, came, markDone, arrive]

theorem after_completion {a : Step} {c : Completion} (brought : s.completion? a = some c) :
    s.requests[c.number]? = some c.request ∧
      (s.after a = s.arrive c.request c.found ∨
        s.after a = (s.arrive c.request c.found).markDone c.number ∨
        c.request.cancelled = true ∧ s.after a = s.markDone c.number) := by
  cases a with
  | answer number colors =>
    cases colors with
    | none => cases brought
    | some given =>
      obtain ⟨r, made, converted⟩ := Option.bind_eq_some_iff.1 brought
      obtain ⟨found, good, rfl⟩ := Option.map_eq_some_iff.1 converted
      refine ⟨made, ?_⟩
      cases cancelled : r.cancelled with
      | true => exact .inr (.inr ⟨rfl, answer_cancelled made cancelled given⟩)
      | false => exact .inr (.inl (answer_live made cancelled (eq_ok_of_toOption good)))
  | arrive number found =>
    obtain ⟨r, made, rfl⟩ := Option.map_eq_some_iff.1 brought
    refine ⟨made, .inl ?_⟩
    rw [after, made, Option.elim_some]
  | _ => cases brought

theorem docket_answer_silent {number : Nat} {colors : Option (List ExternalColor)}
    (silent : s.completion? (.answer number colors) = none) :
    (s.answer number colors).docket = s.docket := by
  have idle (same : s.answer number colors = s.markDone number) :
      (s.answer number colors).docket = s.docket :=
    (congrArg docket same).trans (s.docket_markDone number)
  cases colors with
  | none => exact idle (answer_idle (.inr rfl))
  | some given =>
    cases made : s.requests[number]? with
    | none => exact idle (answer_idle (.inl made))
    | some r =>
      rw [completion?, made, Option.bind_some, Option.map_eq_none_iff] at silent
      cases converted : ExternalColor.spans given (some r.range) with
      | error e => exact idle (answer_failing made converted)
      | ok found =>
        rw [converted] at silent
        cases silent

theorem turn_docket_after {a : Step} (silent : s.completion? a = none) :
    s.docket.Turn (s.after a).config.isExternal (s.after a).docket := by
  cases a with
  | attach id path => exact narrow_docket.view_attach s id path ▸ s.turn_docket_join id path _
  | detach id => exact s.docket_detach id ▸ .dropped [id]
  | close => exact s.docket_close ▸ .dropped s.ids
  | setOptions options => exact s.turn_docket_setOptions options
  | highlight id lines first =>
      exact narrow_docket.view_highlight s id lines first ▸ s.turn_docket_join id none _
  | rehighlight id lines window =>
    exact narrow_docket.view_rehighlight s id lines window ▸ s.turn_docket_join id none _
  | updateVariables id lines range =>
    exact narrow_docket.view_updateVariables s id lines range ▸ s.turn_docket_join id none _
  | request id range =>
    have config : (s.after (.request id range)).config = s.config := keeps_config_request id range s
    exact config ▸ s.turn_docket_request id range
  | answer number colors => exact .of_eq (docket_answer_silent silent)
  | arrive number found =>
    refine .of_eq ?_
    rw [completion?, Option.map_eq_none_iff] at silent
    rw [after, silent, Option.elim_none]
  | fire path stale => exact .of_eq (narrow_docket.keeps_fire path stale s)
  | outside hasSource world => exact .kept

theorem docket_arrive {r : ColorRequest} {b : Buffer} (there : s.buffer? r.buffer = some b)
    (same : r.version = b.version) (found : SpanMap) : (s.arrive r found).docket =
      s.docket.put r.buffer (some (none, replaceLines b.external r.range found)) := by
  rw [view_arrive narrow_docket.silent there same, docket_modifyBuffer there]

theorem arrive_of_not_awaits {r : ColorRequest} (stale : ¬s.Awaits r) (found : SpanMap) :
    s.arrive r found = s := by
  cases there : s.buffer? r.buffer with
  | none => exact arrive_gone there found
  | some b => exact arrive_stale there (fun same => stale ⟨b, there, same⟩) found

theorem live_completion_other {a : Step} {c : Completion} {external : Bool}
    (brought : s.completion? a = some c) (apart : c.request.buffer ≠ id)
    (live : s.docket.Live external id) :
    (s.after a).docket.Live external id ∧ (s.after a).docket.colors id = s.docket.colors id := by
  have arrived : (s.arrive c.request c.found).docket.Live external id ∧
      (s.arrive c.request c.found).docket.colors id = s.docket.colors id := by
    by_cases awaits : s.Awaits c.request
    · obtain ⟨b, there, same⟩ := awaits
      rw [docket_arrive there same]
      exact live.put_other apart _
    · rw [arrive_of_not_awaits awaits]
      exact ⟨live, rfl⟩
  obtain ⟨-, after | after | ⟨-, after⟩⟩ := after_completion brought
  · exact after ▸ arrived
  · rw [after, docket_markDone]
    exact arrived
  · rw [after, docket_markDone]
    exact ⟨live, rfl⟩

theorem sound_after (sound : s.docket.Sound) (a : Step) : (s.after a).docket.Sound := by
  cases brought : s.completion? a with
  | none => exact sound.turn (turn_docket_after brought)
  | some c =>
    have arrived : (s.arrive c.request c.found).docket.Sound := by
      by_cases awaits : s.Awaits c.request
      · obtain ⟨b, there, same⟩ := awaits
        exact docket_arrive there same c.found ▸ sound.put c.request.buffer nofun
      · rwa [arrive_of_not_awaits awaits]
    obtain ⟨-, after | after | ⟨-, after⟩⟩ := after_completion brought
    · exact after ▸ arrived
    · rwa [after, docket_markDone]
    · rwa [after, docket_markDone]

theorem Run.sound {host : Host} {options : Options} {world : World} {since : BufferId → Nat}
    (run : Run host options world s since) : s.docket.Sound := by
  induction run with
  | start begun =>
    obtain ⟨config, -, rfl⟩ := map_eq_ok.1 begun
    exact fun _ _ _ waits => nomatch waits
  | step a _ ih => exact sound_after ih a

end Session
end ColorSpans
