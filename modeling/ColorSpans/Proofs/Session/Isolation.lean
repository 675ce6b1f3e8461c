import ColorSpans.Proofs.Session.Callers

/-! Buffers are isolated from each other. All that is done to one of them can be left out of a run,
and every other one fares as before. -/
namespace ColorSpans
open Stateful

namespace Session

def Leads (s : Session) (id : BufferId) (x : SessionStep Unit) (p : Part) : Prop :=
  ∃ s', x.run.run s = (.ok (), s') ∧ s'.part id = p

theorem Confined.leads_iff {id : BufferId} {x : SessionStep Unit} (confined : Confined id x)
    {s t : Session} (left : s.Orderly) (right : t.Orderly) (shared : s.shared = t.shared)
    (part : s.part id = t.part id) (p : Part) : s.Leads id x p ↔ t.Leads id x p := by
  obtain ⟨outcome, after⟩ := confined s t s t (.start left right shared part)
  have same := after.part
  constructor
  · rintro ⟨s', done, rfl⟩
    rw [done] at outcome same
    exact ⟨(x.run.run t).2, Prod.ext outcome.symm rfl, same.symm⟩
  · rintro ⟨t', done, rfl⟩
    rw [done] at outcome same
    exact ⟨(x.run.run s).2, Prod.ext outcome rfl, same⟩

section

variable {ι : Type} {op : ι → SessionStep Unit} {own : ι → BufferId}
  (confined : ∀ i, Confined (own i) (op i))

include confined

theorem confined_own (is : List ι) (id : BufferId) :
    Confined id ((is.filter fun i => own i = id).forM op) := by
  refine confined_forM fun i listed => ?_
  obtain rfl := of_decide_eq_true (List.mem_filter.1 listed).2
  exact confined i

theorem forM_iff_own {s : Session} (h : s.Orderly) (is : List ι) (p : BufferId → Part) :
    (∃ s', (is.forM op).run.run s = (.ok (), s') ∧ ∀ id, s'.part id = p id) ↔
      ∀ id, s.Leads id ((is.filter fun i => own i = id).forM op) (p id) := by
  induction is generalizing s with
  | nil =>
    constructor
    · rintro ⟨s', done, parts⟩ id
      exact ⟨s', done, parts id⟩
    · refine fun alone => ⟨s, rfl, fun id => ?_⟩
      obtain ⟨s', done, part⟩ := alone id
      obtain rfl := (Prod.mk.inj done).2
      exact part
  | cons i is ih =>
    have here : (i :: is).filter (fun j => own j = own i) = i :: is.filter fun j => own j = own i :=
      List.filter_cons_of_pos (decide_eq_true rfl)
    have elsewhere {id : BufferId} (apart : id ≠ own i) :
        (i :: is).filter (fun j => own j = id) = is.filter fun j => own j = id :=
      List.filter_cons_of_neg (by simpa using apart.symm)
    -- For the buffer that the first step belongs to it is the first one too; the others do not see
    -- it.
    have within := (confined i).within h
    cases first : (op i).run.run s with
    | mk outcome s₁ =>
      rw [first] at within
      cases outcome with
      | error e =>
        have stuck (is : List ι) : ((i :: is).forM op).run.run s = (.error e, s₁) := by
          rw [run_forM_cons, first]
        constructor
        · rintro ⟨s', done, -⟩
          cases (Prod.mk.inj ((stuck is).symm.trans done)).1
        · intro alone
          obtain ⟨s', done, -⟩ := alone (own i)
          rw [here, stuck] at done
          cases (Prod.mk.inj done).1
      | ok _ =>
        have onward (is : List ι) : ((i :: is).forM op).run.run s = (is.forM op).run.run s₁ := by
          rw [run_forM_cons, first]
        rw [onward, ih within.orderly]
        refine forall_congr' fun id => ?_
        by_cases apart : id = own i
        · subst apart
          rw [here, Leads, Leads, onward]
        · rw [elsewhere apart]
          exact (confined_own confined is id).leads_iff within.orderly h within.shared
            (within.part apart) (p id)

theorem within_forM {s : Session} (h : s.Orderly) (is : List ι) :
    ((is.forM op).run.run s).2.Orderly ∧ ((is.forM op).run.run s).2.shared = s.shared := by
  refine preserves_forM (P := fun u => u.Orderly ∧ u.shared = s.shared) (fun i u before => ?_)
    is s ⟨h, rfl⟩
  have within := (confined i).within before.1
  exact ⟨within.orderly, within.shared.trans before.2⟩

end

/-- Two sessions that differ in no buffer but in one, which the second does not have. -/
structure Without (id : BufferId) (s t : Session) : Prop where
  left : s.Orderly
  right : t.Orderly
  shared : s.shared = t.shared
  part {other : BufferId} (apart : other ≠ id) : s.part other = t.part other
  gone : (t.part id).buffer? = none

theorem part_buffer?_eq_none_iff (s : Session) (id : BufferId) : (s.part id).buffer? = none ↔
    id ∉ s.ids :=
  Option.map_eq_none_iff.trans (s.buffer?_eq_none_iff id)

namespace Without

variable {id : BufferId} {s t : Session} (h : Without id s t)

include h

theorem skip {s' : Session} (within : Within id s s') : Without id s' t :=
  ⟨within.orderly, h.right, within.shared.trans h.shared,
    fun apart => (within.part apart).trans (h.part apart), h.gone⟩

/-- What is confined to another buffer goes on alike. -/
theorem step {α : Type} {other : BufferId} {x : SessionStep α} (confined : Confined other x)
    (apart : other ≠ id) {a : α} {s' : Session} (done : x.run.run s = (.ok a, s')) :
    ∃ t', x.run.run t = (.ok a, t') ∧ Without id s' t' := by
  obtain ⟨outcome, after⟩ := confined s t s t (.start h.left h.right h.shared (h.part apart))
  rw [done] at outcome after
  refine ⟨(x.run.run t).2, Prod.ext outcome.symm rfl, after.left.orderly, after.right.orderly,
    after.shared, fun {third} ne => ?_, after.right.part apart.symm ▸ h.gone⟩
  by_cases same : third = other
  · exact same ▸ after.part
  · exact (after.left.part same).trans ((h.part ne).trans (after.right.part same).symm)

theorem loop {ι : Type} {op : ι → SessionStep Unit} {own : ι → BufferId}
    (confined : ∀ i, Confined (own i) (op i)) {is is' : List ι} (others : ∀ other, other ≠ id →
      (is.filter fun i => own i = other) = is'.filter fun i => own i = other)
    (none : (is'.filter fun i => own i = id) = []) {s' : Session}
    (done : (is.forM op).run.run s = (.ok (), s')) :
    ∃ t', (is'.forM op).run.run t = (.ok (), t') ∧ Without id s' t' := by
  have alone := (forM_iff_own confined h.left is s'.part).1 ⟨s', done, fun _ => rfl⟩
  obtain ⟨t', done', parts⟩ := (forM_iff_own confined h.right is'
    fun other => if other = id then t.part id else s'.part other).2 fun other => by
      by_cases same : other = id
      · subst same
        rw [none, if_pos rfl]
        exact ⟨t, rfl, rfl⟩
      · rw [if_neg same, ← others other same]
        exact ((confined_own confined is other).leads_iff h.left h.right h.shared (h.part same) _).1
          (alone other)
  obtain ⟨orderly, shared⟩ := within_forM confined h.left is
  obtain ⟨orderly', shared'⟩ := within_forM confined h.right is'
  rw [done] at orderly shared
  rw [done'] at orderly' shared'
  refine ⟨t', done', orderly, orderly', shared.trans (h.shared.trans shared'.symm),
    fun {other} apart => ?_, ?_⟩
  · rw [parts, if_neg apart]
  · rw [parts, if_pos rfl]
    exact h.gone

theorem loop_ids {op : BufferId → SessionStep Unit} (confined : ∀ other, Confined other (op other))
    {s' : Session} (done : (s.ids.forM op).run.run s = (.ok (), s')) :
    ∃ t', (t.ids.forM op).run.run t = (.ok (), t') ∧ Without id s' t' := by
  have counted {u : Session} (orderly : u.Orderly) (other : BufferId) :
      (u.ids.filter fun i => i = other) =
      List.replicate (if (u.part other).buffer? = none then 0 else 1) other := by
    rw [List.filter_eq, orderly.accounted.distinct.count]
    by_cases there : other ∈ u.ids <;> simp [there, part_buffer?_eq_none_iff]
  refine h.loop confined (fun other apart => ?_) ?_ done
  · rw [counted h.left, counted h.right, h.part apart]
  · rw [counted h.right, if_pos h.gone]
    rfl

end Without

/-- What is asked of a session, and what happens around it. A request is known as one of those of
its buffer. -/
inductive Act
  | attach (id : BufferId) (path : Option String)
  | detach (id : BufferId)
  | highlight (id : BufferId) (lines : List String) (first : Int)
  | rehighlight (id : BufferId) (lines : List String) (window : LineRange)
  | updateVariables (id : BufferId) (lines : List String) (range : Sass.Sheet.Range)
  | request (id : BufferId) (range : LineRange)
  /-- The source of a request answers, or fails. -/
  | answer (id : BufferId) (request : Nat) (colors : Option (List ExternalColor))
  /-- A callback comes in that went past the look at whether its request is cancelled. -/
  | arrive (id : BufferId) (request : Nat) (found : SpanMap)
  /-- A request is completed, whatever became of it. -/
  | deliver (id : BufferId) (request : Nat) (colors : List ExternalColor) (version : Option Int)
  | setOptions (options : Options)
  | close
  | fire (path : String) (stale : Bool)
  | setSource (on : Bool)
  | setDisk (disk : Disk)

/-- The buffer that it is addressed to. What is addressed to none concerns all of them. -/
def Act.buffer? : Act → Option BufferId
  | attach id _ | detach id | highlight id _ _ | rehighlight id _ _ | updateVariables id _
      _ | request id _
  | answer id _ _ | arrive id _ _ | deliver id _ _ _ => some id
  | setOptions _ | close | fire _ _ | setSource _ | setDisk _ => none

inductive Reply
  | done
  | spans (found : SpanMap)
  | definitions (known : Definitions)
  | request (made : Option ColorRequest)

def perform : Act → SessionStep Reply
  | .attach id path => do attach id path; return .done
  | .detach id => do modify (·.detach id); return .done
  | .highlight id lines first => .spans <$> highlight id lines first
  | .rehighlight id lines window => .spans <$> rehighlight id lines window
  | .updateVariables id lines range => .definitions <$> updateVariables id lines range
  | .request id range => .request <$> ask id range
  | .answer id k colors => do named id k fun n => modify (·.answer n colors); return .done
  | .arrive id k found => do
      named id k fun n => modify fun s => s.requests[n]?.elim s fun r => s.arrive r found
      return .done
  | .deliver id k colors version => do named id k fun n => deliver n colors version; return .done
  | .setOptions options => do setOptions options; return .done
  | .close => do modify close; return .done
  | .fire path stale => do fire path stale; return .done
  | .setSource on => do modify fun s => { s with hasSource := on }; return .done
  | .setDisk disk => do modify fun s => { s with world.disk := disk }; return .done

def play : List Act → SessionStep (List (Act × Reply))
  | [] => return []
  | a :: acts => do
      let reply ← perform a
      let rest ← play acts
      return (a, reply) :: rest

theorem confined_perform {id : BufferId} {a : Act} (addressed : a.buffer? = some id) :
    Confined id (perform a) := by
  cases a <;> cases addressed
  case attach path => exact confined_bind (confined_attach id path) fun _ => confined_pure _
  case detach => exact confined_bind (confined_detach id) fun _ => confined_pure _
  case highlight lines first =>
    exact confined_bind (confined_highlight id lines first) fun _ => confined_pure _
  case rehighlight lines window =>
    exact confined_bind (confined_rehighlight id lines window) fun _ => confined_pure _
  case updateVariables lines range =>
    exact confined_bind (confined_updateVariables id lines range) fun _ => confined_pure _
  case request range => exact confined_bind (confined_ask id range) fun _ => confined_pure _
  case answer k colors => exact confined_bind (confined_answer id k colors) fun _ => confined_pure _
  case arrive k found => exact confined_bind (confined_arrive id k found) fun _ => confined_pure _
  case deliver k colors version =>
    exact confined_bind (confined_deliver id k colors version) fun _ => confined_pure _

def share (s : Session) (x : Shared) : Session :=
  { s with
    host := x.host
    config := x.config
    matcher := x.matcher
    hasSource := x.hasSource
    world.disk := x.disk }

theorem Orderly.share {s : Session} (h : s.Orderly) (x : Shared) : (s.share x).Orderly :=
  ⟨.of_accounts (s := s) rfl h.accounted, h.below, h.waits⟩

theorem run_setOptions {s : Session} {options : Options} {config : Config}
    (good : s.host.config options = .ok config) :
    (setOptions options).run.run s = (s.ids.forM refresh).run.run
      (s.share { s.shared with config, matcher := Matcher.compile? config s.host.palette }) := by
  rw [setOptions, run_bind, run_get]
  dsimp only
  rw [good]
  rfl

namespace Without

variable {id : BufferId} {s t : Session} (h : Without id s t)

include h

theorem share (f : Shared → Shared) : Without id (s.share (f s.shared)) (t.share (f t.shared)) :=
  ⟨h.left.share _, h.right.share _, congrArg f h.shared, fun apart => h.part apart, h.gone⟩

theorem setOptions {options : Options} {s' : Session}
    (done : (Session.setOptions options).run.run s = (.ok (), s')) :
    ∃ t', (Session.setOptions options).run.run t = (.ok (), t') ∧ Without id s' t' := by
  obtain ⟨good, -⟩ := known?_setOptions done
  have host : s.host = t.host := congrArg Shared.host h.shared
  rw [run_setOptions good] at done
  rw [run_setOptions (host ▸ good)]
  have between :=
    h.share fun x =>
      { x with config := s'.config, matcher := Matcher.compile? s'.config x.host.palette }
  exact between.loop_ids confined_refresh done

theorem close : Without id s.close t.close := by
  obtain ⟨t', done, after⟩ :=
    h.loop_ids confined_detach (run_forM_modify (fun other s => s.detach other) s.ids s)
  rw [run_forM_modify] at done
  obtain rfl := (Prod.mk.inj done).2
  exact after

theorem fire {path : String} {stale : Bool} {s' : Session}
    (done : (Session.fire path stale).run.run s = (.ok (), s')) :
    ∃ t', (Session.fire path stale).run.run t = (.ok (), t') ∧ Without id s' t' := by
  rw [run_fire h.left] at done
  rw [run_fire h.right]
  refine h.loop (fun e : BufferId × Nat => confined_ring stale e.1 e.2)
    (fun other apart => ?_) ?_ done
  · rw [filter_callers h.left.accounted, filter_callers h.right.accounted, h.part apart]
  · rw [filter_callers h.right.accounted, Part.callers, Part.watches, h.gone]
    rfl

theorem perform {a : Act} {r : Reply} {s' : Session}
    (done : (Session.perform a).run.run s = (.ok r, s')) :
    if a.buffer? = some id then Without id s' t
    else ∃ t', (Session.perform a).run.run t = (.ok r, t') ∧ Without id s' t' := by
  have answered {x : SessionStep Unit} {s' : Session} {r : Reply}
      (ran : (do x; return Reply.done : SessionStep Reply).run.run s = (.ok r, s'))
      (on : ∀ s', x.run.run s = (.ok (), s') →
        ∃ t', x.run.run t = (.ok (), t') ∧ Without id s' t') :
      ∃ t', (do x; return Reply.done : SessionStep Reply).run.run t = (.ok r, t') ∧
        Without id s' t' := by
    obtain ⟨_, between, first, rest⟩ := run_bind_eq_ok.1 ran
    obtain ⟨same, rfl⟩ := Prod.mk.inj rest
    cases same
    obtain ⟨t', first', after⟩ := on _ first
    exact ⟨t', run_bind_eq_ok.2 ⟨(), t', first', rfl⟩, after⟩
  cases addressed : a.buffer? with
  | some other =>
    split
    case isTrue same =>
      obtain rfl := Option.some.inj same
      have within := (confined_perform addressed).within h.left
      rw [done] at within
      exact h.skip within
    case isFalse apart =>
      exact h.step (confined_perform addressed) (fun same => apart (congrArg some same)) done
  | none =>
    rw [if_neg nofun]
    cases a with
    | setOptions options => exact answered done fun _ => h.setOptions
    | close => exact answered done fun _ ran => ⟨_, rfl, (Prod.mk.inj ran).2 ▸ h.close⟩
    | fire path stale => exact answered done fun _ => h.fire
    | setSource on =>
      exact answered done fun _ ran =>
        ⟨_, rfl, (Prod.mk.inj ran).2 ▸ h.share fun x => { x with hasSource := on }⟩
    | setDisk disk =>
      exact answered done fun _ ran =>
        ⟨_, rfl, (Prod.mk.inj ran).2 ▸ h.share fun x => { x with disk }⟩
    | _ => cases addressed

theorem play {acts : List Act} {told : List (Act × Reply)} {s' : Session}
    (done : (Session.play acts).run.run s = (.ok told, s')) :
    ∃ t', (Session.play (acts.filter fun a => a.buffer? ≠ some id)).run.run t =
      (.ok (told.filter fun e => e.1.buffer? ≠ some id), t') ∧ Without id s' t' := by
  induction acts generalizing s t told with
  | nil =>
    obtain ⟨same, rfl⟩ := Prod.mk.inj done
    cases same
    exact ⟨t, rfl, h⟩
  | cons a acts ih =>
    obtain ⟨r, between, first, rest⟩ := run_bind_eq_ok.1 done
    obtain ⟨told, s', others, last⟩ := run_bind_eq_ok.1 rest
    obtain ⟨same, rfl⟩ := Prod.mk.inj last
    cases same
    have step := h.perform first
    split at step
    case isTrue addressed =>
      rw [List.filter_cons_of_neg (by simpa using addressed),
        List.filter_cons_of_neg (by simpa using addressed)]
      exact ih step others
    case isFalse apart =>
      obtain ⟨t₁, first', after⟩ := step
      obtain ⟨t', others', last⟩ := ih after others
      rw [List.filter_cons_of_pos (by simpa using apart),
        List.filter_cons_of_pos (by simpa using apart)]
      exact ⟨t', run_bind_eq_ok.2 ⟨r, t₁, first', run_bind_eq_ok.2 ⟨_, t', others', rfl⟩⟩, last⟩

end Without

section

variable {host : Host} {options : Options} {world : World} {s : Session}
  (begun : Session.new host options world = .ok s)

include begun

theorem Orderly.start (unwatched : world.board = []) : s.Orderly := by
  obtain ⟨config, -, rfl⟩ := map_eq_ok.1 begun
  refine ⟨⟨List.nodup_nil, nofun, nofun, nofun, fun {i path owner} live => ?_⟩,
    fun {watch} there => ?_, nofun⟩
  · cases (unwatched ▸ live : ([] : Board)[i]? = some ⟨path, owner, true⟩)
  · cases (unwatched ▸ there : watch ∈ ([] : Board))

/-- Buffers do not interfere. If a run without failures is repeated without all that was addressed
to one buffer, then it fails nowhere either, all else that is asked gets the same replies, and every
other buffer ends with the same part: with the same spans handed to the host, the same variables,
viewport and external colors. -/
theorem play_without (unwatched : world.board = []) {acts : List Act} {told : List (Act × Reply)}
    {s' : Session} (done : (play acts).run.run s = (.ok told, s')) (id : BufferId) :
    ∃ t', (play (acts.filter fun a => a.buffer? ≠ some id)).run.run s =
      (.ok (told.filter fun e => e.1.buffer? ≠ some id), t') ∧
      ∀ other, other ≠ id → t'.part other = s'.part other := by
  have orderly := Orderly.start begun unwatched
  have gone : (s.part id).buffer? = none := by
    obtain ⟨config, -, rfl⟩ := map_eq_ok.1 begun
    rfl
  have same : Without id s s := ⟨orderly, orderly, rfl, fun _ => rfl, gone⟩
  obtain ⟨t', others, after⟩ := same.play done
  exact ⟨t', others, fun other apart => (after.part apart).symm⟩

end

/-! Two buffers that watch the same file, and one of them is detached in the end. -/

def crossing : List Act :=
  [.attach (.number 1) (some "/main.scss"), .attach (.number 2) (some "/other.scss"),
    .updateVariables (.number 2) ["@import \"a\";"] .whole,
      .updateVariables (.number 1) ["@import \"a\";"] .whole,
    .highlight (.number 1) ["$x"] 0, .highlight (.number 2) ["#445566 $x"] 0,
    .setDisk (importWorld.disk.write "/a.scss" ["$x: #778899;"] none), .fire "/a.scss" false,
    .detach (.number 2), .setOptions (hexOptions false), .rehighlight (.number 1) ["$x"] ⟨0, 1⟩]

theorem play_without_crossing : ∃ told s' t',
    (play crossing).run.run { hexOpened with world := importWorld } = (.ok told, s') ∧
    (play (crossing.filter fun a => a.buffer? ≠ some (.number 2))).run.run
      { hexOpened with world := importWorld } =
      (.ok (told.filter fun e => e.1.buffer? ≠ some (.number 2)), t') ∧
    t'.part (.number 1) = s'.part (.number 1) ∧ (t'.part (.number 1)).emitted.length = 3 := by
  have begun : Session.new bareHost (hexOptions true) importWorld =
    .ok { hexOpened with world := importWorld } := rfl
  have fine :
      ((play crossing).run.run { hexOpened with world := importWorld }).1.toOption.isSome := by
    decide +kernel
  obtain ⟨told, good⟩ := Option.isSome_iff_exists.1 fine
  have done : (play crossing).run.run { hexOpened with world := importWorld } =
      (.ok told, ((play crossing).run.run { hexOpened with world := importWorld }).2) :=
    Prod.ext (eq_ok_of_toOption good) rfl
  obtain ⟨t', others, parts⟩ := play_without begun rfl done (.number 2)
  have same := parts (.number 1) (by decide)
  refine ⟨told, _, t', done, others, same, ?_⟩
  rw [same]
  decide +kernel

end Session

end ColorSpans
