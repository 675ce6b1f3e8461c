import ColorSpans.Proofs.Session.Views

/-! What the steps of a session do to the numbering of its requests for external colors. -/
namespace ColorSpans
open Stateful

/-- The requests made so far, each as its buffer and version, and the versions of the attached
buffers. -/
structure Ledger where
  asked : List (BufferId × Nat)
  version? : BufferId → Option Nat

namespace Ledger

def attach (l : Ledger) (id : BufferId) : Ledger :=
  { l with version? := Function.update l.version? id (some ((l.version? id).getD 0)) }

def detach (l : Ledger) (id : BufferId) : Ledger :=
  { l with version? := Function.update l.version? id none }

def ask (l : Ledger) (id : BufferId) : Ledger :=
  let version := (l.version? id).getD 0 + 1
  ⟨l.asked ++ [(id, version)], Function.update l.version? id (some version)⟩

/-- All that a step of a session can do to a ledger. -/
inductive Turn (l : Ledger) : Ledger → Prop
  | kept : Turn l l
  | attached (id : BufferId) : Turn l (l.attach id)
  | detached (ids : List BufferId) : Turn l (ids.foldl detach l)
  | asked (id : BufferId) : Turn l (l.ask id)

theorem Turn.of_eq {l m : Ledger} (same : m = l) : l.Turn m := same ▸ .kept

theorem attach_eq_self {l : Ledger} {id : BufferId} (there : l.version? id ≠ none) :
    l.attach id = l := by
  obtain ⟨version, same⟩ := Option.ne_none_iff_exists'.1 there
  rw [attach, same, Option.getD_some, ← same, Function.update_eq_self]

theorem ask_attach (l : Ledger) (id : BufferId) : (l.attach id).ask id = l.ask id := by
  simp [ask, attach]

end Ledger

namespace Session

def ledger (s : Session) : Ledger :=
  ⟨s.requests.map fun r => (r.buffer, r.version), fun id => (s.buffer? id).map Buffer.version⟩

theorem ledger_modifyBuffer (s : Session) (id : BufferId) {f : Buffer → Buffer}
    (same : ∀ b, (f b).version = b.version) : (s.modifyBuffer id f).ledger = s.ledger := by
  simp only [ledger, Ledger.mk.injEq]
  refine ⟨rfl, funext fun other => ?_⟩
  rw [buffer?_modifyBuffer]
  split
  · rw [Option.map_map]
    exact congrArg (Option.map · _) (funext same)
  · rfl

theorem ledger_modifyRequest (s : Session) (request : Nat) {f : ColorRequest → ColorRequest}
    (same : ∀ r, ((f r).buffer, (f r).version) = (r.buffer, r.version)) :
    ({ s with requests := s.requests.modify request f } : Session).ledger = s.ledger := by
  simp only [ledger, Ledger.mk.injEq]
  refine ⟨List.ext_getElem? fun n => ?_, rfl⟩
  rw [List.getElem?_map, List.getElem?_map, List.getElem?_modify, Option.map_eq_map,
    Option.map_map]
  refine congrArg (Option.map · _) (funext fun r => ?_)
  rw [Function.comp_apply]
  split
  · exact same r
  · rfl

theorem ledger_cancelPending (s : Session) (b : Buffer) :
    (s.cancelPending b).ledger = s.ledger := by
  unfold cancelPending
  split
  · exact s.ledger_modifyRequest _ fun _ => rfl
  · rfl

theorem narrow_ledger : Narrow ledger where
  silent _ _ := rfl
  world _ _ := rfl
  nextOwner _ _ := rfl
  buffer s id _ same := s.ledger_modifyBuffer id fun b => (same b).1

theorem colorless_ledger : Colorless ledger where
  silent _ _ := rfl
  colors s id _ _ := s.ledger_modifyBuffer id fun _ => rfl
  done s number := s.ledger_modifyRequest number fun _ => rfl

theorem ledger_detach (s : Session) (id : BufferId) :
    (s.detach id).ledger = s.ledger.detach id := by
  unfold detach
  split
  case h_1 gone =>
    have out : s.ledger.version? id = none := by simp [ledger, gone]
    rw [Ledger.detach, ← out, Function.update_eq_self]
  case h_2 b there =>
    rw [narrow_ledger.closeVariables, ledger_cancelPending]
    simp only [ledger, Ledger.detach, Ledger.mk.injEq, buffer?_detached]
    refine ⟨trivial, funext fun other => ?_⟩
    rw [Function.update_apply]
    split <;> rfl

theorem ledger_close (s : Session) : s.close.ledger = s.ids.foldl Ledger.detach s.ledger := by
  unfold close
  induction s.ids generalizing s with
  | nil => rfl
  | cons id ids ih => rw [List.foldl_cons, ih, ledger_detach, List.foldl_cons]

theorem keeps_refresh (id : BufferId) : Keeps ledger (refresh id) := by
  intro s
  refine (narrow_ledger.view_refresh s id).trans ?_
  unfold giveUp
  split
  · split
    · refine (ledger_modifyBuffer _ id ?_).trans (s.ledger_cancelPending _)
      exact fun _ => rfl
    · exact ledger_modifyBuffer _ id fun _ => rfl
  · rfl

theorem keeps_setOptions (options : Options) : Keeps ledger (setOptions options) := by
  refine keeps_get_bind fun s => ?_
  refine keeps_bind (keeps_orFail _ _) (fun config => ?_) s
  refine keeps_bind (keeps_modify fun _ => rfl) fun _ => ?_
  exact keeps_get_bind fun t => keeps_forM keeps_refresh _ t

theorem ledger_join (s : Session) (id : BufferId) (path : Option String) :
    (s.join id path).ledger = s.ledger.attach id := by
  unfold join
  split
  case isTrue there =>
    rw [Ledger.attach_eq_self]
    simpa [ledger, Option.isSome_iff_ne_none] using there
  case isFalse gone =>
    rw [Bool.not_eq_true, Option.isSome_eq_false_iff, Option.isNone_iff_eq_none] at gone
    simp only [ledger, Ledger.attach, Ledger.mk.injEq, buffer?_attached]
    refine ⟨trivial, funext fun other => ?_⟩
    rw [Function.update_apply]
    split
    case isTrue same => simp [same, gone, Buffer.new]
    case isFalse => simp

theorem ledger_asked (s : Session) {id : BufferId} {b : Buffer} (there : s.buffer? id = some b)
    {made : ColorRequest} (same : (made.buffer, made.version) = (id, b.version + 1))
    {f : Buffer → Buffer} (next : ∀ b', (f b').version = b.version + 1) :
    ({ s with requests := s.requests ++ [made] }.modifyBuffer id f).ledger = s.ledger.ask id := by
  have version : s.ledger.version? id = some b.version := by simp [ledger, there]
  rw [Ledger.ask, version]
  simp only [ledger, Ledger.mk.injEq]
  refine ⟨by simp [modifyBuffer, same], funext fun other => ?_⟩
  rw [buffer?_modifyBuffer, Function.update_apply]
  split
  case isTrue same =>
    have here : ({ s with requests := s.requests ++ [made] } : Session).buffer? other = some b :=
      same ▸ there
    rw [here, Option.map_some, Option.map_some, next, Option.getD_some]
  case isFalse => rfl

theorem turn_request (s : Session) (id : BufferId) (range : LineRange) :
    s.ledger.Turn ((request id range).run.run s).2.ledger := by
  rw [request, run_bind, run_get]
  dsimp only
  split
  · exact .kept
  · rw [run_bind]
    have attached := (narrow_ledger.view_ensure s id).trans (s.ledger_join id none)
    generalize (ensure id).run.run s = after at attached ⊢
    obtain ⟨_ | _, t⟩ := after
    · exact attached ▸ .attached id
    · dsimp only at attached ⊢
      rw [run_bind, run_get]
      dsimp only
      split
      case h_1 b there =>
        have there : (t.cancelPending b).buffer? id = some b := by
          rw [buffer?, buffers_cancelPending]
          exact there
        have asked : s.ledger.ask id = (t.cancelPending b).ledger.ask id := by
          rw [ledger_cancelPending, attached, Ledger.ask_attach]
        simp only [run_bind, run_set, run_pure]
        rw [ledger_asked _ there rfl fun _ => rfl, ← asked]
        exact .asked id
      case h_2 => exact attached ▸ .attached id

end Session
end ColorSpans
