import ColorSpans.Proofs.Outcome
import ColorSpans.Proofs.Session.Arrivals

/-! Colors that a source has given, in a session that does not ask one any more. New options clear
what a buffer has of them only if it waits for more, and an answer that is under way may bring them
back. -/
namespace ColorSpans
open Stateful

/-- What a session has of external colors: whether it asks for them, and for each attached buffer
its pending request and the colors known. -/
structure Leftovers where
  isExternal : Bool
  of? : BufferId → Option (Option Nat × SpanMap)

def Leftovers.Bare (l : Leftovers) : Prop :=
  l.isExternal = false → ∀ id pending external, l.of? id = some (pending, external) →
    pending = none ∧ external = ∅

namespace Session

def Bare (s : Session) : Prop :=
  s.config.isExternal = false → ∀ id b, s.buffer? id = some b → b.pending = none ∧ b.external = ∅

def leftovers (s : Session) : Leftovers :=
  ⟨s.config.isExternal, fun id => (s.buffer? id).map fun b => (b.pending, b.external)⟩

theorem bare_leftovers (s : Session) : s.leftovers.Bare ↔ s.Bare := by
  refine imp_congr_right fun _ => forall_congr' fun id => ?_
  constructor
  · intro bare b there
    exact bare b.pending b.external (Option.map_eq_some_iff.2 ⟨b, there, rfl⟩)
  · intro bare pending external there
    obtain ⟨b, found, same⟩ := Option.map_eq_some_iff.1 there
    obtain ⟨rfl, rfl⟩ := Prod.mk.inj same
    exact bare b found

theorem narrow_leftovers : Narrow leftovers where
  silent _ _ := rfl
  world _ _ := rfl
  nextOwner _ _ := rfl
  buffer s id f same := by
    simp only [leftovers, Leftovers.mk.injEq]
    refine ⟨rfl, funext fun other => ?_⟩
    rw [buffer?_modifyBuffer]
    split
    · rw [Option.map_map]
      refine congrArg (Option.map · _) (funext fun b => ?_)
      rw [Function.comp_apply, (same b).2.1, (same b).2.2]
    · rfl

variable {s t : Session}

theorem bare_of_leftovers (same : t.leftovers = s.leftovers) : t.Bare ↔ s.Bare := by
  rw [← bare_leftovers, same, bare_leftovers]

theorem leftovers_cancelPending (s : Session) (b : Buffer) :
    (s.cancelPending b).leftovers = s.leftovers := by
  unfold cancelPending
  split <;> rfl

theorem Bare.join (bare : s.Bare) (id : BufferId) (path : Option String) :
    (s.join id path).Bare := by
  unfold Session.join
  split
  case isTrue => exact bare
  case isFalse gone =>
    intro inner other b there
    rw [buffer?_attached] at there
    rcases Option.or_eq_some_iff.1 there with old | ⟨-, new⟩
    · exact bare inner other b old
    · split at new
      · rw [← Option.some.inj new]
        exact ⟨rfl, rfl⟩
      · cases new

theorem Bare.detach (bare : s.Bare) (id : BufferId) : (s.detach id).Bare := by
  unfold Session.detach
  split
  case h_1 => exact bare
  case h_2 b there =>
    refine (bare_of_leftovers
      ((narrow_leftovers.closeVariables _ b).trans (leftovers_cancelPending _ b))).2 ?_
    intro inner other b' left
    rw [buffer?_detached] at left
    split at left
    · cases left
    · exact bare inner other b' left

theorem Bare.close (bare : s.Bare) : s.close.Bare := by
  unfold Session.close
  induction s.ids generalizing s with
  | nil => exact bare
  | cons id ids ih => exact ih (bare.detach id)

theorem narrow_config : Narrow config where
  silent _ _ := rfl
  world _ _ := rfl
  nextOwner _ _ := rfl
  buffer _ _ _ _ := rfl

theorem config_join (s : Session) (id : BufferId) (path : Option String) :
    (s.join id path).config = s.config := by
  unfold Session.join
  split <;> rfl

theorem keeps_config_request (id : BufferId) (range : LineRange) :
    Keeps config (request id range) := by
  refine keeps_get_bind fun s => ?_
  split
  · exact keeps_pure _ s
  · have ensured : Keeps config (ensure id) := fun s =>
      (narrow_config.view_ensure s id).trans (s.config_join id none)
    refine keeps_bind ensured (fun _ => keeps_get_bind fun t => ?_) s
    split
    case h_1 b there =>
      refine keepsFrom_set_bind ?_ (keeps_pure _ _)
      unfold cancelPending
      split <;> rfl
    case h_2 => exact keeps_pure _ t

theorem Bare.request (bare : s.Bare) (id : BufferId) (range : LineRange) :
    ((request id range).run.run s).2.Bare := by
  by_cases inner : s.config.isExternal = false
  · have same : (Session.request id range).run.run s = (.ok none, s) := by
      rw [Session.request, run_bind, run_get]
      simp only [inner, Bool.not_false, Bool.or_true, if_true]
      rfl
    rw [same]
    exact bare
  · intro inner'
    exact absurd ((congrArg Config.isExternal (keeps_config_request id range s)).symm.trans inner')
      inner

def Reached (s : Session) (ids : List BufferId) (id : BufferId) : Prop :=
  ∃ before after, ids = before ++ id :: after ∧ ((before.forM refresh).run.run s).1 = .ok ()

theorem reached_cons {first id : BufferId} {ids : List BufferId} : s.Reached (first :: ids) id ↔
    id = first ∨ ∃ t, (refresh first).run.run s = (.ok (), t) ∧ t.Reached ids id := by
  constructor
  · rintro ⟨before, after, parts, passed⟩
    cases before with
    | nil => exact .inl (List.cons.inj parts).1.symm
    | cons other before =>
      obtain ⟨rfl, rest⟩ := List.cons.inj parts
      obtain ⟨_, t, once, others⟩ := run_bind_eq_ok.1 (Prod.ext passed rfl)
      exact .inr ⟨t, once, before, after, rest, congrArg Prod.fst others⟩
  · rintro (rfl | ⟨t, once, before, after, rfl, passed⟩)
    · exact ⟨[], ids, rfl, rfl⟩
    · refine ⟨first :: before, after, rfl, ?_⟩
      show ((refresh first >>= fun _ => before.forM refresh).run.run s).1 = .ok ()
      rw [run_bind, once]
      exact passed

def cleared (x : Option Nat × SpanMap) : Option Nat × SpanMap := if x.1.isSome then (none, ∅) else x

theorem cleared_cleared (x : Option Nat × SpanMap) : cleared (cleared x) = cleared x := by
  unfold cleared
  split <;> simp_all

theorem of?_modifyBuffer (s : Session) {id : BufferId} {b : Buffer} (there : s.buffer? id = some b)
    (f : Buffer → Buffer) (other : BufferId) : (s.modifyBuffer id f).leftovers.of? other =
      if other = id then some ((f b).pending, (f b).external) else s.leftovers.of? other := by
  simp only [leftovers, buffer?_modifyBuffer]
  split
  case isTrue same => rw [same, there, Option.map_some, Option.map_some]
  case isFalse => rfl

theorem of?_refresh (inner : s.config.isExternal = false) (id other : BufferId) :
    ((refresh id).run.run s).2.leftovers.of? other =
      if other = id then (s.leftovers.of? id).map cleared else s.leftovers.of? other := by
  rw [narrow_leftovers.view_refresh, giveUp]
  cases there : s.buffer? id with
  | none =>
    dsimp only
    split
    case isTrue same => simp [leftovers, same, there]
    case isFalse => rfl
  | some b =>
    have known : s.leftovers.of? id = some (b.pending, b.external) := by
      simp only [leftovers, there, Option.map_some]
    simp only [inner, Bool.not_false, Bool.true_and, known, Option.map_some, cleared]
    split
    case isTrue waits =>
      have again : (s.cancelPending b).buffer? id = some b := by
        rw [buffer?, buffers_cancelPending]
        exact there
      rw [of?_modifyBuffer _ again, leftovers_cancelPending]
    case isFalse idle => rw [of?_modifyBuffer _ there]

theorem keeps_config_refresh (id : BufferId) : Keeps config (refresh id) := by
  intro s
  refine (narrow_config.view_refresh s id).trans ?_
  unfold giveUp
  split
  · split
    · unfold cancelPending
      split <;> rfl
    · rfl
  · rfl

theorem of?_refreshAll (inner : s.config.isExternal = false) (ids : List BufferId) (id : BufferId) :
    (s.Reached ids id → ((ids.forM refresh).run.run s).2.leftovers.of? id =
      (s.leftovers.of? id).map cleared) ∧
    (¬s.Reached ids id → ((ids.forM refresh).run.run s).2.leftovers.of? id =
      s.leftovers.of? id) := by
  induction ids generalizing s with
  | nil => exact ⟨fun ⟨before, after, parts, _⟩ => by simp at parts, fun _ => rfl⟩
  | cons first ids ih =>
    have run : ((first :: ids).forM refresh).run.run s =
        (refresh first >>= fun _ => ids.forM refresh).run.run s := rfl
    have config := keeps_config_refresh first s
    have once := of?_refresh inner first
    rw [KeepsFrom] at config
    have later : (∃ t, (refresh first).run.run s = (.ok (), t) ∧ t.Reached ids id) ↔
        ((refresh first).run.run s).1 = .ok () ∧ ((refresh first).run.run s).2.Reached ids id := by
      constructor
      · rintro ⟨t, same, reached⟩
        rw [same]
        exact ⟨rfl, reached⟩
      · exact fun ⟨passed, reached⟩ => ⟨_, Prod.ext passed rfl, reached⟩
    rw [reached_cons, later, run, run_bind]
    generalize (refresh first).run.run s = after at config once ⊢
    obtain ⟨_ | ⟨⟩, t⟩ := after
    · -- The first buffer fails to take the options, and no other gets them.
      dsimp only at once ⊢
      rw [once]
      refine ⟨fun reached => ?_, fun unreached => if_neg (mt .inl unreached)⟩
      have here := reached.resolve_right fun passed => nomatch passed.1
      rw [if_pos here, here]
    · dsimp only at config once ⊢
      obtain ⟨yes, no⟩ := ih (s := t) (config ▸ inner)
      by_cases reached : t.Reached ids id
      · rw [yes reached, once]
        refine ⟨fun _ => ?_, fun unreached => absurd (.inr ⟨rfl, reached⟩) unreached⟩
        split
        case isTrue here =>
          rw [here, Option.map_map]
          exact congrArg (Option.map · _) (funext cleared_cleared)
        case isFalse => rfl
      · rw [no reached, once]
        refine ⟨fun reached' => ?_, fun unreached => if_neg (mt .inl unreached)⟩
        have here := reached'.resolve_right fun passed => reached passed.2
        rw [if_pos here, here]

theorem bare_refreshAll (inner : s.config.isExternal = false) :
    ((s.ids.forM refresh).run.run s).2.Bare ↔ ∀ id b, s.buffer? id = some b →
      (b.pending = none ∧ b.external = ∅) ∨ (b.pending.isSome ∧ s.Reached s.ids id) := by
  have config := keeps_forM keeps_config_refresh s.ids s
  have inner' : ((s.ids.forM refresh).run.run s).2.leftovers.isExternal = false :=
    (congrArg Config.isExternal config).trans inner
  rw [← bare_leftovers]
  constructor
  · intro bare id b there
    have known : s.leftovers.of? id = some (b.pending, b.external) :=
      Option.map_eq_some_iff.2 ⟨b, there, rfl⟩
    obtain ⟨yes, no⟩ := of?_refreshAll inner s.ids id
    rw [known] at yes no
    by_cases reached : s.Reached s.ids id
    · by_cases waits : b.pending.isSome
      · exact .inr ⟨waits, reached⟩
      · rw [Option.map_some, cleared, if_neg waits] at yes
        exact .inl (bare inner' id _ _ (yes reached))
    · exact .inl (bare inner' id _ _ (no reached))
  · intro all _ id pending external left
    obtain ⟨yes, no⟩ := of?_refreshAll inner s.ids id
    by_cases reached : s.Reached s.ids id
    · rw [yes reached] at left
      obtain ⟨x, known, same⟩ := Option.map_eq_some_iff.1 left
      obtain ⟨b, there, rfl⟩ := Option.map_eq_some_iff.1 known
      rcases all id b there with ⟨idle, none⟩ | ⟨waits, -⟩
      · rw [cleared, idle, none] at same
        exact (Prod.mk.inj same.symm)
      · rw [cleared, if_pos waits] at same
        exact (Prod.mk.inj same.symm)
    · rw [no reached] at left
      obtain ⟨b, there, same⟩ := Option.map_eq_some_iff.1 left
      obtain ⟨rfl, rfl⟩ := Prod.mk.inj same
      exact (all id b there).resolve_right fun waits => reached waits.2

def configured (s : Session) (config : Config) : Session :=
  { s with config, matcher := Matcher.compile? config s.host.palette }

theorem bare_setOptions (bare : s.Bare) (options : Options) :
    ((setOptions options).run.run s).2.Bare ↔ ∀ config, s.host.config options = .ok config →
      config.isExternal = false → ∀ id b, s.buffer? id = some b →
        (b.pending = none ∧ b.external = ∅) ∨
          (b.pending.isSome ∧ (s.configured config).Reached s.ids id) := by
  rw [setOptions, run_bind, run_get]
  dsimp only
  cases found : s.host.config options with
  | error e => exact iff_of_true bare nofun
  | ok config =>
    have run : ((orFail .option (.ok config) >>= fun config => do
        modify fun s => { s with config, matcher := Matcher.compile? config s.host.palette }
        (← get).ids.forM refresh : SessionStep Unit)).run.run s =
        ((s.ids.forM refresh).run.run (s.configured config)) := rfl
    rw [run]
    simp only [Except.ok.injEq, forall_eq']
    by_cases inner : config.isExternal = false
    · rw [show s.ids = (s.configured config).ids from rfl, bare_refreshAll inner]
      exact ⟨fun all _ => all, fun all => all inner⟩
    · refine iff_of_true (fun inner' => ?_) fun inner' => absurd inner' inner
      have kept := keeps_forM keeps_config_refresh s.ids (s.configured config)
      exact absurd ((congrArg Config.isExternal kept).symm.trans inner') inner

/-- The buffer of a request has its version, so that it takes in what the request finds. -/
def Awaits (s : Session) (r : ColorRequest) : Prop :=
  ∃ b, s.buffer? r.buffer = some b ∧ r.version = b.version

theorem replaceLines_empty_iff (range : LineRange) (found : SpanMap) :
    replaceLines ∅ range found = ∅ ↔ found = ∅ := by
  constructor
  · intro none
    refine Std.ExtTreeMap.ext_getElem? fun line => ?_
    cases there : found[line]? with
    | none => simp
    | some spans =>
      have kept := getElem?_replaceLines ∅ range there
      rw [none] at kept
      simp at kept
  · rintro rfl
    rfl

theorem bare_arrive (bare : s.Bare) (r : ColorRequest) (found : SpanMap) :
    (s.arrive r found).Bare ↔ (s.config.isExternal = false → s.Awaits r → found = ∅) := by
  by_cases awaits : s.Awaits r
  · obtain ⟨b, there, same⟩ := awaits
    have after := of?_modifyBuffer s there
      ({ · with pending := none, external := replaceLines b.external r.range found })
    rw [← bare_leftovers, view_arrive narrow_leftovers.silent there same]
    constructor
    · intro bare' inner _
      have kept := (bare' inner r.buffer _ _ ((after r.buffer).trans (if_pos rfl))).2
      rwa [(bare inner r.buffer b there).2, replaceLines_empty_iff] at kept
    · intro none inner id pending external left
      rw [after] at left
      split at left
      case isTrue =>
        obtain ⟨rfl, rfl⟩ := Prod.mk.inj (Option.some.inj left)
        refine ⟨rfl, ?_⟩
        rw [(bare inner r.buffer b there).2, replaceLines_empty_iff]
        exact none inner ⟨b, there, same⟩
      case isFalse => exact (bare_leftovers s).2 bare inner id pending external left
  · have same : s.arrive r found = s := by
      cases there : s.buffer? r.buffer with
      | none => exact arrive_gone there found
      | some b => exact arrive_stale there (fun same => awaits ⟨b, there, same⟩) found
    rw [same]
    exact iff_of_true bare fun _ awaits' => absurd awaits' awaits

theorem bare_complete (bare : s.Bare) (r : ColorRequest) (given : List ExternalColor) :
    ((complete r given).run.run s).2.Bare ↔ (s.config.isExternal = false →
      ∀ found, ExternalColor.spans given (some r.range) = .ok found → s.Awaits r → found = ∅) := by
  rw [complete]
  cases good : ExternalColor.spans given (some r.range) with
  | error e => exact iff_of_true bare fun _ _ => nofun
  | ok found =>
    simp only [Except.ok.injEq, forall_eq']
    exact bare_arrive bare r found

theorem bare_answer (bare : s.Bare) (number : Nat) (colors : Option (List ExternalColor)) :
    (s.answer number colors).Bare ↔ (s.config.isExternal = false → ∀ r given found,
      s.requests[number]? = some r → colors = some given → r.cancelled = false →
      ExternalColor.spans given (some r.range) = .ok found → s.Awaits r → found = ∅) := by
  unfold answer
  cases made : s.requests[number]? with
  | none => exact iff_of_true bare fun _ _ _ _ nobody => nomatch nobody
  | some r =>
    cases colors with
    | none => exact iff_of_true bare fun _ _ _ _ _ nothing => nomatch nothing
    | some given =>
      dsimp only
      cases cancelled : r.cancelled with
      | true =>
        refine iff_of_true bare fun _ r' _ _ this _ live => ?_
        obtain rfl := Option.some.inj this
        exact absurd (cancelled.symm.trans live) nofun
      | false =>
        refine Iff.trans (bare_complete bare r given) ⟨fun h inner r' given' found this got _ => ?_,
          fun h inner found => h inner r given found rfl rfl cancelled⟩
        obtain rfl := Option.some.inj this
        obtain rfl := Option.some.inj got
        exact h inner found

/-- A step leaves nothing behind. New options without an external palette get to every buffer that
has anything of external colors, and it still waits for some. No answer brings colors to a session
that asks nobody any more. -/
def Tidy (s : Session) : Step → Prop
  | .setOptions options =>
      ∀ config, s.host.config options = .ok config → config.isExternal = false →
      ∀ id b, s.buffer? id = some b → (b.pending = none ∧ b.external = ∅) ∨
        (b.pending.isSome ∧ (s.configured config).Reached s.ids id)
  | .answer number colors => s.config.isExternal = false → ∀ r given found,
      s.requests[number]? = some r → colors = some given → r.cancelled = false →
      ExternalColor.spans given (some r.range) = .ok found → s.Awaits r → found = ∅
  | .arrive number found => s.config.isExternal = false → ∀ r, s.requests[number]? = some r →
      s.Awaits r → found = ∅
  | _ => True

theorem bare_after (bare : s.Bare) (a : Step) : (s.after a).Bare ↔ s.Tidy a := by
  cases a with
  | attach id path =>
    exact iff_of_true ((bare_of_leftovers (narrow_leftovers.view_attach s id path)).2
      (bare.join id path)) trivial
  | detach id => exact iff_of_true (bare.detach id) trivial
  | close => exact iff_of_true bare.close trivial
  | setOptions options => exact bare_setOptions bare options
  | highlight id lines first =>
    refine iff_of_true ?_ trivial
    exact (bare_of_leftovers (narrow_leftovers.view_highlight s id lines first)).2
      (bare.join id none)
  | rehighlight id lines window =>
    refine iff_of_true ?_ trivial
    exact (bare_of_leftovers (narrow_leftovers.view_rehighlight s id lines window)).2
      (bare.join id none)
  | updateVariables id lines range =>
    refine iff_of_true ?_ trivial
    exact (bare_of_leftovers (narrow_leftovers.view_updateVariables s id lines range)).2
      (bare.join id none)
  | request id range => exact iff_of_true (bare.request id range) trivial
  | answer number colors => exact bare_answer bare number colors
  | arrive number found =>
    rw [after, Tidy]
    cases s.requests[number]? with
    | none => exact iff_of_true bare fun _ _ => nofun
    | some r =>
      simp only [Option.elim_some, bare_arrive bare, Option.some.injEq, forall_eq']
  | fire path stale =>
    exact iff_of_true ((bare_of_leftovers (narrow_leftovers.keeps_fire path stale s)).2 bare)
      trivial
  | outside hasSource world => exact iff_of_true bare trivial

/-- A scan for literals, whatever is known of external colors. -/
def scanLiterals (id : BufferId) (lines : List String) (first : Int) : SessionStep SpanMap := do
  let s ← get
  match s.matcher, s.buffer? id with
  | some m, some b =>
      let found ← orFail .numeral (m.scanLines b.definitions? first lines)
      let all : SpanMap := .ofList found
      all.toList.forM fun entry => emit id entry.1 entry.2
      return all
  | _, _ => return ∅

variable (scan : BufferId → List String → Int → SessionStep SpanMap)

def highlightBy (id : BufferId) (lines : List String) (first : Int) : SessionStep SpanMap := do
  ensure id
  if first = 0 then modify (·.modifyBuffer id ({ · with lines }))
  scan id lines first

def rehighlightBy (id : BufferId) (lines : List String) (window : LineRange) :
    SessionStep SpanMap := do
  ensure id
  modify (·.modifyBuffer id ({ · with lines }))
  let some b := (← get).buffer? id | return ∅
  let (part, viewport) ← orFail .range (b.viewport.update window)
  modify (·.modifyBuffer id ({ · with viewport }))
  let part : LineRange := ⟨part.start, min part.stop lines.length⟩
  if part.stop ≤ part.start then return ∅
  scan id (Text.between lines part.start part.stop) part.start

theorem highlight_eq_by : highlight = highlightBy scanBuffer := rfl

theorem rehighlight_eq_by : rehighlight = rehighlightBy scanBuffer := rfl

/-- No buffer has external colors or waits for some, and all that a look at a buffer finds are
literals. -/
structure ScansOnly (s : Session) : Prop where
  bare (id : BufferId) (b : Buffer) (there : s.buffer? id = some b) : b.pending = none ∧
    b.external = ∅
  highlight (id : BufferId) (lines : List String) (first : Int) :
    (highlight id lines first).run.run s = (highlightBy scanLiterals id lines first).run.run s
  rehighlight (id : BufferId) (lines : List String) (window : LineRange) :
    (rehighlight id lines window).run.run s = (rehighlightBy scanLiterals id lines window).run.run s

def Plain (s : Session) : Prop := s.config.isExternal = false ∧ s.Bare

theorem plain_of_leftovers (s t : Session) (same : t.leftovers = s.leftovers) (plain : s.Plain) :
    t.Plain :=
  ⟨(congrArg Leftovers.isExternal same).trans plain.1, (bare_of_leftovers same).2 plain.2⟩

theorem preserves_plain {α : Type} {x : SessionStep α} (kept : Keeps leftovers x) :
    Preserves Plain x :=
  kept.preserves plain_of_leftovers

theorem preserves_plain_ensure (id : BufferId) : Preserves Plain (ensure id) := by
  intro s plain
  refine plain_of_leftovers _ _ (narrow_leftovers.view_ensure s id) ⟨?_, plain.2.join id none⟩
  rw [config_join]
  exact plain.1

theorem mergeExternal_empty (found : SpanMap) (range : LineRange) :
    mergeExternal found ∅ range = found := rfl

theorem agree_scanBuffer (id : BufferId) (lines : List String) (first : Int) :
    Agree Plain (scanBuffer id lines first) (scanLiterals id lines first) := by
  refine agree_get_bind fun s plain => ?_
  cases s.matcher with
  | none => rfl
  | some m =>
    cases there : s.buffer? id with
    | none => rfl
    | some b =>
      dsimp only
      rw [(plain.2 plain.1 id b there).2]
      simp only [mergeExternal_empty]

theorem agree_highlight (id : BufferId) (lines : List String) (first : Int) :
    Agree Plain (highlight id lines first) (highlightBy scanLiterals id lines first) := by
  rw [highlight_eq_by]
  refine agree_bind (preserves_plain_ensure id) fun _ => ?_
  have remembered : Keeps leftovers (modify (·.modifyBuffer id ({ · with lines })) :
      SessionStep Unit) :=
    narrow_leftovers.keeps_modifyBuffer id fun _ => ⟨rfl, rfl, rfl⟩
  split
  · exact agree_bind (preserves_plain remembered) fun _ => agree_scanBuffer id lines first
  · exact agree_scanBuffer id lines first

theorem agree_rehighlight (id : BufferId) (lines : List String) (window : LineRange) :
    Agree Plain (rehighlight id lines window) (rehighlightBy scanLiterals id lines window) := by
  rw [rehighlight_eq_by]
  refine agree_bind (preserves_plain_ensure id) fun _ => ?_
  have changed {f : Buffer → Buffer} (same : ∀ b : Buffer, b.SameColors (f b)) :
      Preserves Plain (modify (·.modifyBuffer id f) : SessionStep Unit) :=
    preserves_plain (narrow_leftovers.keeps_modifyBuffer id same)
  refine agree_bind (changed fun _ => ⟨rfl, rfl, rfl⟩) fun _ => agree_get_bind fun t plain => ?_
  split
  · refine agree_bind (preserves_plain (keeps_orFail _ _)) (fun seen => ?_) t plain
    refine agree_bind (changed fun _ => ⟨rfl, rfl, rfl⟩) fun _ => ?_
    dsimp only
    split
    · exact agree_refl _
    · exact agree_scanBuffer id _ _
  · rfl

theorem scansOnly_iff (inner : s.config.isExternal = false) : s.ScansOnly ↔ s.Bare := by
  constructor
  · exact fun only _ => only.bare
  · intro bare
    exact ⟨bare inner, fun id lines first => agree_highlight id lines first s ⟨inner, bare⟩,
      fun id lines window => agree_rehighlight id lines window s ⟨inner, bare⟩⟩

def All (P : Session → Step → Prop) : Session → List Step → Prop
  | _, [] => True
  | s, a :: steps => P s a ∧ All P (s.after a) steps

theorem bare_new {host : Host} {options : Options} {world : World}
    (begun : Session.new host options world = .ok s) : s.Bare := by
  obtain ⟨config, _, rfl⟩ := map_eq_ok.1 begun
  exact fun _ _ _ there => nomatch there

/-- In every run, the sessions that ask nobody have no external colors, wait for none and highlight
literals only, exactly if no step of the run leaves anything behind. -/
theorem scansOnly_along_iff {host : Host} {options : Options} {world : World}
    (begun : Session.new host options world = .ok s) (steps : List Step) :
    All (fun s a => (s.after a).config.isExternal = false → (s.after a).ScansOnly) s steps ↔
      All Tidy s steps := by
  have bare := bare_new begun
  clear begun
  induction steps generalizing s with
  | nil => exact Iff.rfl
  | cons a steps ih =>
    -- What is bare before a step is so after it just if the step is tidy; then the rest of the run
    -- follows.
    have now : ((s.after a).config.isExternal = false → (s.after a).ScansOnly) ↔ s.Tidy a := by
      rw [← bare_after bare a]
      exact ⟨fun only inner => (only inner).bare, fun bare inner => (scansOnly_iff inner).2 bare⟩
    rw [All, All, now]
    exact and_congr_right fun tidy => ih ((bare_after bare a).2 tidy)

def leaveWaiting : List Step :=
  [.outside true bareWorld, askLines, .setOptions (paletteOption .normal)]

theorem tidy_leaveWaiting : All Tidy opened leaveWaiting := by
  refine ⟨trivial, trivial, fun config _ _ id b there => .inr ?_, trivial⟩
  change asking.buffer? id = some b at there
  have one : asking.ids = [.number 1] := by decide +kernel
  have waits : (asking.buffer? (.number 1)).all (·.pending.isSome) = true := by decide +kernel
  have only : id = .number 1 := by
    by_contra other
    rw [(buffer?_eq_none_iff asking id).2 (by simp [one, other])] at there
    cases there
  subst only
  rw [there] at waits
  exact ⟨waits, [], [], one, rfl⟩

theorem scansOnly_along_leaveWaiting :
    Session.new bareHost (paletteOption .lsp) bareWorld = .ok opened ∧
      All (fun s a => (s.after a).config.isExternal = false → (s.after a).ScansOnly) opened
        leaveWaiting := by
  have begun : Session.new bareHost (paletteOption .lsp) bareWorld = .ok opened := rfl
  exact ⟨begun, (scansOnly_along_iff begun leaveWaiting).2 tidy_leaveWaiting⟩

def leaveColored : List Step :=
  [.outside true bareWorld, askLines, .arrive 0 redStart, .setOptions (paletteOption .normal)]

def colored : Session :=
  (asking.after (.arrive 0 redStart)).after (.setOptions (paletteOption .normal))

/-- They stay, and go on to be highlighted. -/
theorem not_scansOnly_along_leaveColored :
    ¬All (fun s a => (s.after a).config.isExternal = false → (s.after a).ScansOnly) opened
      leaveColored ∧ colored.config.isExternal = false ∧
      ((highlight (.number 1) ["nothing here"] 0).run.run colored).1.toOption.map (·.toList) =
        some [(0, [⟨0, 4, "ff0000"⟩])] := by
  have inner : colored.config.isExternal = false := by decide +kernel
  refine ⟨fun all => ?_, inner, by decide +kernel⟩
  have bare := (all.2.2.2.1 inner).bare (.number 1)
  have known : (colored.buffer? (.number 1)).map (·.external.isEmpty) = some false := by
    decide +kernel
  obtain ⟨b, there, colors⟩ := Option.map_eq_some_iff.1 known
  rw [(bare b there).2] at colors
  cases colors

end Session

end ColorSpans
