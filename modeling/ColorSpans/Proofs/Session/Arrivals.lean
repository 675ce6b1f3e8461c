import ColorSpans.Proofs.Outcome
import ColorSpans.Proofs.Session.Ledger

/-! The callbacks of requests for external colors. A session takes one in or not by the versions of
the request and of its buffer, which count the requests since the buffer was attached. -/
namespace ColorSpans
open Stateful

namespace Ledger

def countOf (asked : List (BufferId × Nat)) (id : BufferId) : Nat := asked.countP (·.1 = id)

theorem countOf_drop_append {asked : List (BufferId × Nat)} {start : Nat}
    (bound : start ≤ asked.length) (made : BufferId × Nat) (id : BufferId) :
    countOf ((asked ++ [made]).drop start) id =
      countOf (asked.drop start) id + if made.1 = id then 1 else 0 := by
  rw [List.drop_append_of_le_length bound, countOf, countOf, List.countP_append,
    List.countP_singleton]
  simp only [decide_eq_true_eq]

/-- Every attached buffer's requests are numbered from the one that was made first after it was
attached last; so many requests had been made before as `since` says. -/
structure Numbered (l : Ledger) (since : BufferId → Nat) : Prop where
  since_le {id : BufferId} {v : Nat} (attached : l.version? id = some v) : since id ≤ l.asked.length
  version {id : BufferId} {v : Nat} (attached : l.version? id = some v) :
    v = countOf (l.asked.drop (since id)) id
  tag {id : BufferId} {v n w : Nat} (attached : l.version? id = some v) (after : since id ≤ n)
    (made : l.asked[n]? = some (id, w)) : w = countOf ((l.asked.take (n + 1)).drop (since id)) id

def sinceNext (l : Ledger) (since : BufferId → Nat) (id : BufferId) : Nat :=
  if (l.version? id).isSome then since id else l.asked.length

namespace Numbered

variable {l m : Ledger} {since since' : BufferId → Nat} {id : BufferId}

theorem of_asked_eq (h : l.Numbered since) (same : m.asked = l.asked)
    (versions : ∀ id v, m.version? id = some v →
      (l.version? id = some v ∧ since' id = since id) ∨ (v = 0 ∧ since' id = l.asked.length)) :
    m.Numbered since' where
  since_le {id v} attached := by
    rw [same]
    obtain ⟨old, same'⟩ | ⟨-, new⟩ := versions id v attached
    · rw [same']
      exact h.since_le old
    · exact Nat.le_of_eq new
  version {id v} attached := by
    rw [same]
    obtain ⟨old, same'⟩ | ⟨rfl, new⟩ := versions id v attached
    · rw [same']
      exact h.version old
    · rw [new, List.drop_length]
      rfl
  tag {id v n w} attached after made := by
    rw [same] at made ⊢
    obtain ⟨old, same'⟩ | ⟨-, new⟩ := versions id v attached
    · rw [same'] at after ⊢
      exact h.tag old after made
    · have bound := (List.getElem?_eq_some_iff.1 made).1
      omega

theorem attach (h : l.Numbered since) (id : BufferId) :
    (l.attach id).Numbered (l.sinceNext since) := by
  refine h.of_asked_eq rfl fun other v attached => ?_
  simp only [Ledger.attach, Function.update_apply] at attached
  cases there : l.version? other with
  | some w =>
    refine .inl ⟨?_, by simp [sinceNext, there]⟩
    split at attached
    case isTrue same => simpa [← same, there] using attached
    case isFalse => exact there ▸ attached
  | none =>
    refine .inr ⟨?_, by simp [sinceNext, there]⟩
    split at attached
    case isTrue same => simpa [← same, there, eq_comm] using attached
    case isFalse =>
      rw [there] at attached
      cases attached

theorem version_ask (h : l.Numbered since) (id : BufferId) (there : l.version? id ≠ none)
    {other : BufferId} {v : Nat} (attached : (l.ask id).version? other = some v) :
    since other ≤ l.asked.length ∧ v = countOf ((l.ask id).asked.drop (since other)) other := by
  simp only [Ledger.ask, Function.update_apply] at attached ⊢
  split at attached
  case isTrue same =>
    subst same
    obtain ⟨w, old⟩ := Option.ne_none_iff_exists'.1 there
    have bound := h.since_le old
    refine ⟨bound, ?_⟩
    rw [countOf_drop_append bound, ← h.version old, if_pos rfl, ← Option.some.inj attached, old,
      Option.getD_some]
  case isFalse other_ne =>
    have bound := h.since_le attached
    refine ⟨bound, ?_⟩
    rw [countOf_drop_append bound, ← h.version attached, if_neg (Ne.symm other_ne), Nat.add_zero]

theorem ask (h : l.Numbered since) (id : BufferId) (there : l.version? id ≠ none) :
    (l.ask id).Numbered since where
  since_le {other v} attached := by
    have bound := (h.version_ask id there attached).1
    simp only [Ledger.ask, List.length_append]
    omega
  version {other v} attached := (h.version_ask id there attached).2
  tag {other v n w} attached after made := by
    by_cases old : n < l.asked.length
    · have known : ∃ u, l.version? other = some u := by
        simp only [Ledger.ask, Function.update_apply] at attached
        split at attached
        case isTrue same => exact same ▸ Option.ne_none_iff_exists'.1 there
        case isFalse => exact ⟨v, attached⟩
      obtain ⟨u, known⟩ := known
      simp only [Ledger.ask] at made ⊢
      rw [List.getElem?_append_left old] at made
      rw [List.take_append_of_le_length old]
      exact h.tag known after made
    · -- The new request has its buffer's version as it is from now on.
      have now := (h.version_ask id there attached).2
      have bound := (List.getElem?_eq_some_iff.1 made).1
      simp only [Ledger.ask, List.length_append, List.length_singleton] at bound
      obtain rfl : n = l.asked.length := by omega
      have whole : (l.ask id).asked.take (l.asked.length + 1) = (l.ask id).asked :=
        List.take_of_length_le (by simp [Ledger.ask])
      rw [whole, ← now]
      simp only [Ledger.ask, List.getElem?_concat_length, Option.some.injEq, Prod.mk.injEq] at made
      obtain ⟨rfl, rfl⟩ := made
      simpa [Ledger.ask, eq_comm] using attached

theorem asked_foldl_detach (l : Ledger) (ids : List BufferId) :
    (ids.foldl detach l).asked = l.asked := by
  induction ids generalizing l with
  | nil => rfl
  | cons id ids ih => exact ih _

theorem version?_foldl_detach (l : Ledger) (ids : List BufferId) {id : BufferId} {v : Nat}
    (attached : (ids.foldl detach l).version? id = some v) : l.version? id = some v := by
  induction ids generalizing l with
  | nil => exact attached
  | cons other ids ih =>
    have kept := ih _ attached
    simp only [detach, Function.update_apply] at kept
    split at kept
    · cases kept
    · exact kept

theorem turn (h : l.Numbered since) (turn : l.Turn m) : m.Numbered (l.sinceNext since) := by
  cases turn with
  | kept =>
    exact h.of_asked_eq rfl fun id v attached => .inl ⟨attached, by simp [sinceNext, attached]⟩
  | attached id => exact h.attach id
  | detached ids =>
    refine h.of_asked_eq (asked_foldl_detach l ids) fun id v attached => ?_
    have old := version?_foldl_detach l ids attached
    exact .inl ⟨old, by simp [sinceNext, old]⟩
  | asked id =>
    rw [← ask_attach]
    exact (h.attach id).ask id (by simp [Ledger.attach])

theorem tag_eq_iff (h : l.Numbered since) {v n w : Nat} (attached : l.version? id = some v)
    (after : since id ≤ n) (made : l.asked[n]? = some (id, w)) :
    w = v ↔ ∀ later ∈ l.asked.drop (n + 1), later.1 ≠ id := by
  have parts : l.asked.drop (since id) =
      (l.asked.take (n + 1)).drop (since id) ++ l.asked.drop (n + 1) := by
    have bound := (List.getElem?_eq_some_iff.1 made).1
    rw [← List.drop_append_of_le_length (by rw [List.length_take]; omega), List.take_append_drop]
  have total : v = w + countOf (l.asked.drop (n + 1)) id := by
    rw [h.version attached, h.tag attached after made, parts, countOf, List.countP_append]
    rfl
  have none_later : countOf (l.asked.drop (n + 1)) id = 0 ↔
      ∀ later ∈ l.asked.drop (n + 1), later.1 ≠ id := by
    rw [countOf, List.countP_eq_zero]
    simp only [decide_eq_true_eq, ne_eq]
  rw [← none_later]
  omega

end Numbered
end Ledger

namespace Session

inductive Step
  | attach (id : BufferId) (path : Option String)
  | detach (id : BufferId)
  | close
  | setOptions (options : Options)
  | highlight (id : BufferId) (lines : List String) (first : Int)
  | rehighlight (id : BufferId) (lines : List String) (window : LineRange)
  | updateVariables (id : BufferId) (lines : List String) (range : Sass.Sheet.Range)
  | request (id : BufferId) (range : LineRange)
  /-- The source of a request answers, or fails. -/
  | answer (number : Nat) (colors : Option (List ExternalColor))
  /-- A callback comes in that went past the look at whether its request is cancelled. -/
  | arrive (number : Nat) (found : SpanMap)
  | fire (path : String) (stale : Bool)
  /-- The host gets a source or loses it; files change. -/
  | outside (hasSource : Bool) (world : World)

def arrive (s : Session) (r : ColorRequest) (found : SpanMap) : Session :=
  ((receive r.buffer r.range r.version found).run.run s).2

def after (s : Session) : Step → Session
  | .attach id path => ((Session.attach id path).run.run s).2
  | .detach id => s.detach id
  | .close => s.close
  | .setOptions options => ((Session.setOptions options).run.run s).2
  | .highlight id lines first => ((Session.highlight id lines first).run.run s).2
  | .rehighlight id lines window => ((Session.rehighlight id lines window).run.run s).2
  | .updateVariables id lines range => ((Session.updateVariables id lines range).run.run s).2
  | .request id range => ((Session.request id range).run.run s).2
  | .answer number colors => s.answer number colors
  | .arrive number found => s.requests[number]?.elim s fun r => s.arrive r found
  | .fire path stale => ((Session.fire path stale).run.run s).2
  | .outside hasSource world => { s with hasSource, world }

/-- How far a run can get. With it goes how many requests had been made when each buffer was
attached last. -/
inductive Run (host : Host) (options : Options) (world : World) : Session → (BufferId → Nat) → Prop
  | start {s : Session} (begun : Session.new host options world = .ok s) :
      Run host options world s fun _ => 0
  | step {s : Session} {since : BufferId → Nat} (a : Step)
      (before : Run host options world s since) :
      Run host options world (s.after a) fun id =>
        if (s.buffer? id).isSome then since id else s.requests.length

variable {host : Host} {options : Options} {world : World} {s : Session} {since : BufferId → Nat}

theorem turn_after (s : Session) (a : Step) : s.ledger.Turn (s.after a).ledger := by
  cases a with
  | attach id path =>
      exact (narrow_ledger.view_attach s id path).trans (s.ledger_join id path) ▸ .attached id
  | detach id => exact s.ledger_detach id ▸ .detached [id]
  | close => exact s.ledger_close ▸ .detached s.ids
  | setOptions options => exact .of_eq (keeps_setOptions options s)
  | highlight id lines first =>
    exact (narrow_ledger.view_highlight s id lines first).trans (s.ledger_join id none) ▸
      .attached id
  | rehighlight id lines window =>
    exact (narrow_ledger.view_rehighlight s id lines window).trans (s.ledger_join id none) ▸
      .attached id
  | updateVariables id lines range =>
    exact (narrow_ledger.view_updateVariables s id lines range).trans (s.ledger_join id none) ▸
      .attached id
  | request id range => exact s.turn_request id range
  | answer number colors => exact .of_eq (colorless_ledger.view_answer s number colors)
  | arrive number found =>
    refine .of_eq ?_
    dsimp only [after]
    cases s.requests[number]? with
    | none => rfl
    | some r => exact colorless_ledger.keeps_receive r.buffer r.range r.version found s
  | fire path stale => exact .of_eq (narrow_ledger.keeps_fire path stale s)
  | outside hasSource world => exact .kept

theorem sinceNext_ledger (s : Session) (since : BufferId → Nat) : s.ledger.sinceNext since =
    fun id => if (s.buffer? id).isSome then since id else s.requests.length := by
  funext id
  simp only [Ledger.sinceNext, ledger, Option.isSome_map, List.length_map]

theorem Run.numbered (run : Run host options world s since) : s.ledger.Numbered since := by
  induction run with
  | start begun =>
    obtain ⟨config, -, rfl⟩ := map_eq_ok.1 begun
    exact ⟨nofun, nofun, nofun⟩
  | @step s since a before ih => exact sinceNext_ledger s since ▸ ih.turn (s.turn_after a)

/-- No buffer's external colors and no pending request is another, and nothing is emitted. -/
structure Unaffected (s t : Session) : Prop where
  external (id : BufferId) : (t.buffer? id).map Buffer.external = (s.buffer? id).map Buffer.external
  pending (id : BufferId) : (t.buffer? id).map Buffer.pending = (s.buffer? id).map Buffer.pending
  emitted : t.emitted = s.emitted

theorem getElem?_replaceLines (external : SpanMap) (range : LineRange) {found : SpanMap}
    {line : Int} {spans : List Span} (there : found[line]? = some spans) :
    (replaceLines external range found)[line]? = some spans :=
  Std.ExtTreeMap.getElem?_insertMany_list_of_mem Std.ReflCmp.compare_self
    Std.ExtTreeMap.distinct_keys_toList (Std.ExtTreeMap.mem_toList_iff_getElem?_eq_some.2 there)

theorem arrive_gone {r : ColorRequest} (gone : s.buffer? r.buffer = none) (found : SpanMap) :
    s.arrive r found = s := by
  rw [arrive, receive, run_bind, run_get]
  simp only [gone]
  rfl

theorem arrive_stale {r : ColorRequest} {b : Buffer} (there : s.buffer? r.buffer = some b)
    (other : r.version ≠ b.version) (found : SpanMap) : s.arrive r found = s := by
  rw [arrive, receive, run_bind, run_get]
  simp only [there]
  rw [if_neg (mt Int.natCast_inj.1 other)]
  rfl

theorem view_arrive {τ : Type} {view : Session → τ} (silent : Silent view) {r : ColorRequest}
    {b : Buffer} (there : s.buffer? r.buffer = some b) (same : r.version = b.version)
    (found : SpanMap) :
    view (s.arrive r found) = view (s.modifyBuffer r.buffer
      ({ · with pending := none, external := replaceLines b.external r.range found })) := by
  rw [arrive, receive, run_bind, run_get]
  simp only [there]
  rw [if_pos (Int.natCast_inj.2 same), run_bind, run_set]
  exact keeps_forM (fun entry => keeps_bind (keeps_scannedLine _ _ _) fun _ =>
    keeps_emit silent _ _ _) _ _

theorem buffer?_arrive {r : ColorRequest} {b : Buffer} (there : s.buffer? r.buffer = some b)
    (same : r.version = b.version) (found : SpanMap) :
    (s.arrive r found).buffer? r.buffer =
      some { b with pending := none, external := replaceLines b.external r.range found } := by
  have silent : Silent fun t => t.buffer? r.buffer := fun _ _ => rfl
  rw [view_arrive silent there same, buffer?_modifyBuffer, if_pos rfl, there, Option.map_some]

theorem exists_affected {r : ColorRequest} {b : Buffer} (there : s.buffer? r.buffer = some b)
    (same : r.version = b.version) : ∃ found, ¬Unaffected s (s.arrive r found) := by
  let more : List Span := b.external[(0 : Int)]?.getD [] ++ [⟨0, 1, "000000"⟩]
  refine ⟨(∅ : SpanMap).insert 0 more, fun unaffected => ?_⟩
  have kept := unaffected.external r.buffer
  rw [buffer?_arrive there same, there, Option.map_some, Option.map_some, Option.some.injEq] at kept
  dsimp only at kept
  have new : b.external[(0 : Int)]? = some more :=
    kept ▸ getElem?_replaceLines b.external r.range Std.ExtTreeMap.getElem?_insert_self
  have longer := congrArg List.length (congrArg (Option.getD · []) new)
  simp [more] at longer

theorem unaffected_arrive_iff (s : Session) (r : ColorRequest) :
    (∀ found, Unaffected s (s.arrive r found)) ↔
      ∀ b, s.buffer? r.buffer = some b → r.version ≠ b.version := by
  constructor
  · intro unaffected b there same
    obtain ⟨found, affected⟩ := exists_affected there same
    exact affected (unaffected found)
  · intro stale found
    have same : s.arrive r found = s := by
      cases there : s.buffer? r.buffer with
      | none => exact arrive_gone there found
      | some b => exact arrive_stale there (stale b there) found
    rw [same]
    exact ⟨fun _ => rfl, fun _ => rfl, rfl⟩

/-- The callback of a request changes no external colors, clears no pending request and emits
nothing, whatever it brings, exactly if its buffer is gone, or has made a later request without
having been detached in between, or was attached anew and has not made just as many requests since
as it had made, with this one, before. -/
theorem unaffected_iff (run : Run host options world s since) {n : Nat} {r : ColorRequest}
    (made : s.requests[n]? = some r) :
    (∀ found, Unaffected s (s.arrive r found)) ↔
      s.buffer? r.buffer = none ∨
      (since r.buffer ≤ n ∧ ∃ later ∈ s.requests.drop (n + 1), later.buffer = r.buffer) ∨
      (n < since r.buffer ∧
        r.version ≠ (s.requests.drop (since r.buffer)).countP (·.buffer = r.buffer)) := by
  rw [unaffected_arrive_iff]
  cases there : s.buffer? r.buffer with
  | none => simp
  | some b =>
    have numbered := run.numbered
    have attached : s.ledger.version? r.buffer = some b.version := by simp [ledger, there]
    have asked : s.ledger.asked[n]? = some (r.buffer, r.version) := by simp [ledger, made]
    simp only [reduceCtorEq, false_or, Option.some.injEq, forall_eq']
    by_cases after : since r.buffer ≤ n
    case pos =>
      rw [Ne, numbered.tag_eq_iff attached after asked]
      simp [ledger, after, Nat.not_lt.2 after, ← List.map_drop]
    case neg =>
      have now : b.version = (s.requests.drop (since r.buffer)).countP (·.buffer = r.buffer) := by
        rw [numbered.version attached, Ledger.countOf, ledger, ← List.map_drop, List.countP_map]
        rfl
      simp [after, Nat.lt_of_not_le after, now]

/-! Sessions of a host without a palette of its own, which asks for the first lines of one
buffer. -/

def paletteOption (mode : PaletteMode) : Options := [(Options.paletteOption, .str mode.name)]

def bareHost : Host := ⟨[], ⟨[], []⟩, none⟩

def bareWorld : World := ⟨⟨"/", ∅, []⟩, [], []⟩

def opened : Session :=
  ⟨bareHost, ⟨false, .none, false, false, false, .lsp, false, none⟩, none, false, bareWorld,
    [], 0, [], []⟩

theorem run_opened : Run bareHost (paletteOption .lsp) bareWorld opened fun _ => 0 := .start rfl

def askLines : Step := .request (.number 1) ⟨0, 10⟩

def asking : Session := (opened.after (.outside true bareWorld)).after askLines

def dropped : ColorRequest := ⟨.number 1, ⟨0, 10⟩, 1, true, false⟩

theorem unaffected_asking_again :
    (asking.after askLines).requests[0]? = some dropped ∧
    ∀ found, Unaffected (asking.after askLines) ((asking.after askLines).arrive dropped found) := by
  have run := ((run_opened.step (.outside true bareWorld)).step askLines).step askLines
  refine ⟨rfl, (unaffected_iff run (r := dropped) (n := 0) rfl).2 (.inr (.inl ⟨?_, ?_⟩))⟩
  · decide +kernel
  · exact ⟨_, List.mem_cons_self, rfl⟩

def leaving : Session := asking.after (.setOptions (paletteOption .normal))

def returning : Session := (asking.after (.detach (.number 1))).after askLines

def redStart : SpanMap := (∅ : SpanMap).insert 0 [⟨0, 4, "ff0000"⟩]

/-- In both sessions the first request is cancelled, and a callback of it shows. -/
theorem affected_leaving_returning :
    ((∃ since, Run bareHost (paletteOption .lsp) bareWorld leaving since) ∧
      leaving.requests[0]? = some dropped ∧ ¬Unaffected leaving (leaving.arrive dropped redStart)) ∧
    ((∃ since, Run bareHost (paletteOption .lsp) bareWorld returning since) ∧
      returning.requests[0]? = some dropped ∧
      ¬Unaffected returning (returning.arrive dropped redStart)) := by
  have run := (run_opened.step (.outside true bareWorld)).step askLines
  refine ⟨⟨⟨_, run.step _⟩, rfl, fun unaffected => ?_⟩,
    ⟨_, (run.step _).step _⟩, rfl, fun unaffected => ?_⟩
  · have silent := congrArg List.length unaffected.emitted
    revert silent
    decide +kernel
  · have silent := congrArg List.length unaffected.emitted
    revert silent
    decide +kernel

end Session
end ColorSpans
