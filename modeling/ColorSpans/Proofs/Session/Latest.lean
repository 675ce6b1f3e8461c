import ColorSpans.Proofs.Session.Docket

/-! The colors that a buffer knows when requests overlap and their answers come in any order. On
every line they are those of the last answer that was its buffer's newest request when it came. -/
namespace ColorSpans
open Stateful Numeral

namespace ExternalColor

def onLine (colors : List ExternalColor) (line : Int) : Except NumeralError (List Span) :=
  (colors.filter (·.line = line)).mapM span

theorem onLine_cons {c : ExternalColor} {colors : List ExternalColor} {line : Int} {first : Span}
    {rest : List Span} (good : c.span = .ok first) (more : onLine colors line = .ok rest) :
    onLine (c :: colors) line = .ok (if c.line = line then first :: rest else rest) := by
  rw [onLine] at more ⊢
  by_cases here : c.line = line
  · rw [List.filter_cons_of_pos (by simpa using here), List.mapM_cons, good, more, if_pos here]
    rfl
  · rw [List.filter_cons_of_neg (by simpa using here), more, if_neg here]

theorem getElem?_addSpan (spans : SpanMap) (number : Int) (span : Span) (line : Int) :
    (addSpan spans number span)[line]? =
      if number = line then some (spans[number]?.getD [] ++ [span]) else spans[line]? := by
  rw [addSpan, Std.ExtTreeMap.getElem?_insert]
  simp only [Std.LawfulEqCmp.compare_eq_iff_eq]

theorem getElem?_foldlM_addSpan {colors : List ExternalColor} {before after : SpanMap}
    (done : colors.foldlM (fun out c => c.span.map (addSpan out c.line)) before = .ok after)
    (line : Int) :
    ∃ reported, onLine colors line = .ok reported ∧ after[line]? =
      if reported = [] then before[line]? else some (before[line]?.getD [] ++ reported) := by
  induction colors generalizing before with
  | nil =>
    obtain rfl := Except.ok.inj done
    exact ⟨[], rfl, (if_pos rfl).symm⟩
  | cons c colors ih =>
    rw [List.foldlM_cons] at done
    obtain ⟨between, first, rest⟩ := bind_eq_ok.1 done
    obtain ⟨span, good, rfl⟩ := map_eq_ok.1 first
    obtain ⟨reported, more, found⟩ := ih rest
    refine ⟨_, onLine_cons good more, ?_⟩
    rw [found, getElem?_addSpan]
    by_cases here : c.line = line
    · subst here
      by_cases last : reported = [] <;> simp [last]
    · simp only [if_neg here]

theorem getElem?_spans {colors : List ExternalColor} {range : LineRange} {found : SpanMap}
    (done : spans colors (some range) = .ok found) {line : Int}
    (inside : range.contains line = true) :
    ∃ reported, onLine colors line = .ok reported ∧
      found[line]? = if reported = [] then none else some (Span.sorted reported) := by
  obtain ⟨byLine, folded, same⟩ := bind_eq_ok.1 done
  obtain rfl := Except.ok.inj same
  obtain ⟨reported, given, there⟩ := getElem?_foldlM_addSpan folded line
  have kept : (colors.filter fun c => (some range).all (·.contains c.line)).filter (·.line = line) =
      colors.filter (·.line = line) := by
    rw [List.filter_filter]
    refine List.filter_congr fun c _ => ?_
    by_cases here : c.line = line <;> simp [here, inside]
  refine ⟨reported, by rwa [onLine, kept] at given, ?_⟩
  rw [Std.ExtTreeMap.getElem?_map, there]
  split <;> simp

theorem getElem?_spans_outside {colors : List ExternalColor} {range : LineRange} {found : SpanMap}
    (done : spans colors (some range) = .ok found) {line : Int}
    (outside : range.contains line = false) :
    found[line]? = none := by
  obtain ⟨byLine, folded, same⟩ := bind_eq_ok.1 done
  obtain rfl := Except.ok.inj same
  obtain ⟨reported, given, there⟩ := getElem?_foldlM_addSpan folded line
  have dropped : (colors.filter fun c => (some range).all (·.contains c.line)).filter
      (·.line = line) = [] := by
    rw [List.filter_filter, List.filter_eq_nil_iff]
    intro c _ both
    obtain ⟨here, within⟩ := Bool.and_eq_true_iff.1 both
    rw [of_decide_eq_true here, Option.all_some, outside] at within
    cases within
  rw [onLine, dropped] at given
  obtain rfl : [] = reported := Except.ok.inj given
  rw [Std.ExtTreeMap.getElem?_map, there, if_pos rfl]
  simp

end ExternalColor

/-- A buffer that has made requests is attached, and made all of them since then. -/
def Ledger.Own (l : Ledger) (since : BufferId → Nat) (id : BufferId) : Prop :=
  ∀ n v, l.asked[n]? = some (id, v) → (l.version? id).isSome ∧ since id ≤ n

theorem Ledger.Turn.grown {l m : Ledger} (turn : l.Turn m) :
    ∃ more, m.asked = l.asked ++ more ∧ ∀ e ∈ more, (m.version? e.1).isSome := by
  cases turn with
  | kept => exact ⟨[], (List.append_nil _).symm, nofun⟩
  | attached other => exact ⟨[], (List.append_nil _).symm, nofun⟩
  | detached ids => exact ⟨[], by rw [Numbered.asked_foldl_detach, List.append_nil], nofun⟩
  | asked other => exact ⟨_, rfl, fun e new => by simp [Ledger.ask, List.mem_singleton.1 new]⟩

theorem Ledger.Own.turn {l m : Ledger} {since : BufferId → Nat} {id : BufferId}
    (own : l.Own since id) (numbered : l.Numbered since) (turn : l.Turn m)
    (stays : (l.version? id).isSome → (m.version? id).isSome) : m.Own (l.sinceNext since) id := by
  obtain ⟨more, parts, attached⟩ := turn.grown
  intro n v made
  by_cases old : n < l.asked.length
  · rw [parts, List.getElem?_append_left old] at made
    obtain ⟨there, after⟩ := own n v made
    exact ⟨stays there, by rwa [sinceNext, if_pos there]⟩
  · rw [parts, List.getElem?_append_right (Nat.le_of_not_lt old)] at made
    refine ⟨attached _ (List.mem_of_getElem? made), ?_⟩
    rw [sinceNext]
    split
    case isTrue there =>
      obtain ⟨w, known⟩ := Option.isSome_iff_exists.1 there
      exact Nat.le_trans (numbered.since_le known) (Nat.le_of_not_lt old)
    case isFalse => exact Nat.le_of_not_lt old

namespace Session

def externalColors (s : Session) (id : BufferId) : SpanMap :=
  ((s.buffer? id).map Buffer.external).getD ∅

theorem colors_docket (s : Session) (id : BufferId) : s.docket.colors id = s.externalColors id := by
  rw [Docket.colors, docket, leftovers, Option.map_map]
  rfl

def IsNewest (s : Session) (c : Completion) : Prop :=
  ∀ later ∈ s.requests.drop (c.number + 1), later.buffer ≠ c.request.buffer

instance (s : Session) (c : Completion) : Decidable (s.IsNewest c) := List.decidableBAll _ _

def newest? (id : BufferId) (s : Session) (a : Step) : Option Completion :=
  (s.completion? a).filter fun c => c.request.buffer = id ∧ s.IsNewest c

def arrivals (id : BufferId) : Session → List Step → List Completion
  | _, [] => []
  | s, a :: steps => (newest? id s a).toList ++ arrivals id (s.after a) steps

/-- The spans that a completion brings are made of some colors. -/
def Completion.Reports (c : Completion) (given : List ExternalColor) : Prop :=
  ExternalColor.spans given (some c.request.range) = .ok c.found

/-- A step that leaves the options as they are and the buffer attached. What it brings for the
buffer was made of some colors. -/
structure Steady (id : BufferId) (s : Session) (a : Step) : Prop where
  config : (s.after a).config = s.config
  stays : (s.buffer? id).isSome → ((s.after a).buffer? id).isSome
  reports (c : Completion) (brought : s.completion? a = some c) (own : c.request.buffer = id) :
    ∃ given, c.Reports given

/-- What comes in for the newest request of a buffer is taken in, and what comes in for an older one
is not. -/
def Settles (id : BufferId) (s : Session) (a : Step) : Prop :=
  ∀ c, s.completion? a = some c → c.request.buffer = id →
    (s.IsNewest c → ∃ b, s.buffer? id = some b ∧ (s.after a).buffer? id = some
      { b with
        pending := none, external := replaceLines b.external c.request.range c.found }) ∧
    (¬s.IsNewest c → s.after a = s ∨ s.after a = s.markDone c.number)

variable {host : Host} {options : Options} {world : World} {s : Session} {since : BufferId → Nat}
  {id : BufferId}

structure Serves (id : BufferId) (s : Session) (since : BufferId → Nat) : Prop where
  own : s.ledger.Own since id
  live : s.docket.Live s.config.isExternal id

theorem Serves.newest_iff (serves : Serves id s since) (numbered : s.ledger.Numbered since)
    {c : Completion} (made : s.requests[c.number]? = some c.request) (own : c.request.buffer = id) :
    ∃ b, s.buffer? id = some b ∧ (c.request.version = b.version ↔ s.IsNewest c) := by
  have asked : s.ledger.asked[c.number]? = some (id, c.request.version) := by
    simp only [ledger, List.getElem?_map, made, Option.map_some, own]
  obtain ⟨attached, after⟩ := serves.own _ _ asked
  obtain ⟨b, there, -⟩ := Option.map_eq_some_iff.1 (Option.some_get attached).symm
  have version : s.ledger.version? id = some b.version := Option.map_eq_some_iff.2 ⟨b, there, rfl⟩
  refine ⟨b, there, ?_⟩
  rw [numbered.tag_eq_iff version after asked, IsNewest, own]
  simp [ledger, ← List.map_drop]

theorem Serves.arrives (serves : Serves id s since) {a : Step} {c : Completion}
    (brought : s.completion? a = some c) (own : c.request.buffer = id) (newest : s.IsNewest c) :
    s.after a = s.arrive c.request c.found ∨
      s.after a = (s.arrive c.request c.found).markDone c.number := by
  obtain ⟨made, after | after | ⟨cancelled, -⟩⟩ := after_completion brought
  · exact .inl after
  · exact .inr after
  · have asked : s.docket.asked[c.number]? = some (id, true) := by
      simp only [docket, List.getElem?_map, made, Option.map_some, own, cancelled]
    refine absurd (Docket.getLast?_flags asked ?_) serves.live.newest
    simpa [docket, ← List.map_drop, IsNewest, own] using newest

theorem Serves.settles (serves : Serves id s since) (numbered : s.ledger.Numbered since)
    (a : Step) :
    Settles id s a := by
  intro c brought own
  obtain ⟨made, after⟩ := after_completion brought
  obtain ⟨b, there, same⟩ := serves.newest_iff numbered made own
  constructor
  · intro newest
    have after := serves.arrives brought own newest
    subst own
    have arrived := buffer?_arrive there (same.2 newest) c.found
    refine ⟨b, there, ?_⟩
    obtain after | after := after
    · rw [after, arrived]
    · rw [after]
      exact arrived
  · intro older
    subst own
    rw [arrive_stale there (mt same.1 older) c.found] at after
    obtain after | after | ⟨-, after⟩ := after
    · exact .inl after
    · exact .inr after
    · exact .inr after

theorem Serves.newest (serves : Serves id s since) (numbered : s.ledger.Numbered since) {a : Step}
    {c : Completion} (brought : s.completion? a = some c) (own : c.request.buffer = id)
    (newest : s.IsNewest c) :
    (s.after a).docket.Live s.config.isExternal id ∧
      (s.after a).docket.colors id = replaceLines (s.docket.colors id) c.request.range c.found := by
  obtain ⟨b, there, same⟩ := serves.newest_iff numbered (after_completion brought).1 own
  have arrived : (s.after a).docket = (s.arrive c.request c.found).docket := by
    obtain after | after := serves.arrives brought own newest
    · rw [after]
    · rw [after, docket_markDone]
  subst own
  rw [arrived, docket_arrive there (same.2 newest), Docket.colors, Docket.of?_put, if_pos rfl,
    Docket.colors, of?_docket there]
  exact ⟨serves.live.put _, rfl⟩

theorem Serves.step (serves : Serves id s since) (run : Run host options world s since) {a : Step}
    (steady : Steady id s a) :
    Serves id (s.after a) (fun other => if (s.buffer? other).isSome then since other
      else s.requests.length) ∧
      (s.after a).externalColors id = (newest? id s a).elim (s.externalColors id) fun c =>
        replaceLines (s.externalColors id) c.request.range c.found := by
  have stays : (s.ledger.version? id).isSome → ((s.after a).ledger.version? id).isSome := by
    simpa only [ledger, Option.isSome_map] using steady.stays
  have own := serves.own.turn run.numbered (s.turn_after a) stays
  rw [sinceNext_ledger] at own
  rw [← colors_docket, ← colors_docket]
  suffices kept : (s.after a).docket.Live s.config.isExternal id ∧ (s.after a).docket.colors id =
      (newest? id s a).elim (s.docket.colors id) fun c =>
        replaceLines (s.docket.colors id) c.request.range c.found
    from ⟨⟨own, steady.config ▸ kept.1⟩, kept.2⟩
  cases brought : s.completion? a with
  | none =>
    have turn := turn_docket_after brought
    rw [steady.config] at turn
    rw [newest?, brought]
    exact serves.live.turn turn
      (by simpa only [docket, leftovers, Option.isSome_map] using steady.stays)
  | some c =>
    by_cases mine : c.request.buffer = id
    · by_cases last : s.IsNewest c
      · rw [newest?, brought, Option.filter_some, if_pos (by simpa using ⟨mine, last⟩)]
        exact serves.newest run.numbered brought mine last
      · have nothing : newest? id s a = none := by simp [newest?, brought, last]
        have same : (s.after a).docket = s.docket := by
          obtain same | same := (serves.settles run.numbered a c brought mine).2 last
          · rw [same]
          · rw [same, docket_markDone]
        rw [nothing, same]
        exact ⟨serves.live, rfl⟩
    · have nothing : newest? id s a = none := by simp [newest?, brought, mine]
      rw [nothing]
      exact live_completion_other brought mine serves.live

theorem Run.serves (run : Run host options world s since) (gone : s.buffer? id = none)
    (unasked : ∀ e ∈ s.ledger.asked, e.1 ≠ id) {before : List Step}
    (unattached : All (fun s a => (s.after a).buffer? id = none) s before) :
    ∃ since, Run host options world (before.foldl after s) since ∧
      (before.foldl after s).buffer? id = none ∧ Serves id (before.foldl after s) since := by
  induction before generalizing s since with
  | nil =>
    have none_made : s.docket.flags id = [] := by
      rw [Docket.flags, List.map_eq_nil_iff, List.filter_eq_nil_iff]
      intro e listed
      obtain ⟨r, there, rfl⟩ := List.exists_of_mem_map listed
      simpa using unasked _ (List.mem_map_of_mem there)
    have out : s.docket.of? id = none := Option.map_eq_none_iff.2 gone
    rw [List.foldl_nil]
    refine ⟨since, run, gone, fun n v made => ?_, run.sound, fun taken => ?_, fun _ _ _ found => ?_⟩
    · exact absurd rfl (unasked _ (List.mem_of_getElem? made))
    · rw [none_made] at taken
      cases taken
    · rw [out] at found
      cases found
  | cons a before ih =>
    obtain ⟨gone', later⟩ := unattached
    refine ih (run.step a) gone' (fun e made own => ?_) later
    obtain ⟨more, parts, attached⟩ := (s.turn_after a).grown
    obtain old | new := List.mem_append.1 (parts ▸ made)
    · exact unasked e old own
    · have there := attached e new
      rw [own, ledger, Option.isSome_map, gone'] at there
      cases there

def received (known : SpanMap) (arrivals : List Completion) : SpanMap :=
  arrivals.foldl (fun known c => replaceLines known c.request.range c.found) known

theorem Serves.steps (serves : Serves id s since) (run : Run host options world s since)
    {steps : List Step} (steady : All (Steady id) s steps) :
    (steps.foldl after s).externalColors id = received (s.externalColors id) (arrivals id s steps) ∧
      All (Settles id) s steps := by
  induction steps generalizing s since with
  | nil => exact ⟨rfl, trivial⟩
  | cons a steps ih =>
    obtain ⟨now, later⟩ := steady
    obtain ⟨serves', same⟩ := serves.step run now
    obtain ⟨rest, settled⟩ := ih serves' (run.step a) later
    refine ⟨?_, serves.settles run.numbered a, settled⟩
    rw [List.foldl_cons, rest, same, arrivals, received, received, List.foldl_append]
    cases newest? id s a <;> rfl

theorem getElem?_replaceLines_eq (external : SpanMap) (range : LineRange) (found : SpanMap)
    (line : Int) :
    (replaceLines external range found)[line]? =
      found[line]?.or (if range.contains line then none else external[line]?) := by
  cases there : found[line]? with
  | some spans => rw [getElem?_replaceLines external range there, Option.some_or]
  | none =>
    have absent : (found.toList.map Prod.fst).contains line = false := by
      rw [Std.ExtTreeMap.map_fst_toList_eq_keys, Std.ExtTreeMap.contains_keys, ← Bool.not_eq_true,
        Std.ExtTreeMap.contains_iff_mem]
      simpa using there
    rw [replaceLines, Std.ExtTreeMap.getElem?_insertMany_list_of_contains_eq_false absent,
      Std.ExtTreeMap.getElem?_filter', Option.none_or]
    cases range.contains line <;> cases external[line]? <;> rfl

theorem getElem?_received {arrived : List Completion}
    (converted : ∀ c ∈ arrived, ∃ given, c.Reports given) (line : Int) :
    (received ∅ arrived)[line]? =
      (arrived.reverse.find? (·.request.range.contains line)).bind fun c => c.found[line]? := by
  induction arrived using List.reverseRecOn with
  | nil => simp [received]
  | append_singleton earlier c ih =>
    have before := ih fun c there => converted c (List.mem_append_left _ there)
    obtain ⟨given, reports⟩ := converted c (by simp)
    have step : received ∅ (earlier ++ [c]) =
        replaceLines (received ∅ earlier) c.request.range c.found := by
      simp [received]
    rw [step, getElem?_replaceLines_eq, List.reverse_concat, List.find?_cons]
    cases inside : c.request.range.contains line with
    | true => simp
    | false =>
      rw [ExternalColor.getElem?_spans_outside reports inside, Option.none_or]
      exact before

theorem arrivals_report {steps : List Step} (steady : All (Steady id) s steps) :
    ∀ c ∈ arrivals id s steps, ∃ given, c.Reports given := by
  induction steps generalizing s with
  | nil => exact nofun
  | cons a steps ih =>
    obtain ⟨now, later⟩ := steady
    intro c there
    obtain here | there := List.mem_append.1 there
    · obtain ⟨brought, own⟩ := Option.filter_eq_some_iff.1 (Option.mem_toList.1 here)
      exact now.reports c brought (of_decide_eq_true own).1
    · exact ih later c there

/-- From its first attachment on a buffer has, on each line, the colors that were reported last for
what was its newest request at that time. -/
theorem externalColors_last (begun : Session.new host options world = .ok s) {before : List Step}
    (unattached : All (fun s a => (s.after a).buffer? id = none) s before) {steps : List Step}
    (steady : All (Steady id) (before.foldl after s) steps) :
    (∀ line, match (arrivals id (before.foldl after s) steps).reverse.find?
        (·.request.range.contains line) with
      | none => (((before ++ steps).foldl after s).externalColors id)[line]? = none
      | some c => (∃ given, c.Reports given) ∧ ∀ given, c.Reports given →
          ∃ reported, ExternalColor.onLine given line = .ok reported ∧
            (((before ++ steps).foldl after s).externalColors id)[line]? =
              if reported = [] then none else some (Span.sorted reported)) ∧
    All (Settles id) (before.foldl after s) steps := by
  have converted := arrivals_report steady
  have empty : s.buffer? id = none ∧ s.ledger.asked = [] := by
    obtain ⟨config, -, rfl⟩ := map_eq_ok.1 begun
    exact ⟨rfl, rfl⟩
  obtain ⟨since, run, gone, serves⟩ :=
    (Run.start begun).serves empty.1 (by simp [empty.2]) unattached
  rw [List.foldl_append]
  generalize before.foldl after s = s at steady run gone serves converted ⊢
  have none_known : s.externalColors id = ∅ := by
    rw [externalColors, gone]
    rfl
  obtain ⟨same, settled⟩ := serves.steps run steady
  refine ⟨fun line => ?_, settled⟩
  have found := getElem?_received converted line
  rw [← none_known, ← same] at found
  cases last : (arrivals id s steps).reverse.find? (·.request.range.contains line) with
  | none => rwa [last] at found
  | some c =>
    rw [last, Option.bind_some] at found
    have inside := List.find?_some last
    refine ⟨converted c (List.mem_reverse.1 (List.mem_of_find?_eq_some last)),
      fun given reports => ?_⟩
    rw [found]
    exact ExternalColor.getElem?_spans reports inside

theorem steady_answer (s : Session) (id : BufferId) (number : Nat)
    (colors : Option (List ExternalColor)) :
    Steady id s (.answer number colors) where
  config := Colorless.view_answer ⟨fun _ _ => rfl, fun _ _ _ _ => rfl, fun _ _ => rfl⟩ s
    number colors
  stays there := by
    have same := congrArg (fun l => (l.version? id).isSome)
      (colorless_ledger.view_answer s number colors)
    simp only [ledger, Option.isSome_map] at same
    exact same ▸ there
  reports c brought _ := by
    cases colors with
    | none => cases brought
    | some given =>
      obtain ⟨r, -, converted⟩ := Option.bind_eq_some_iff.1 brought
      obtain ⟨found, good, rfl⟩ := Option.map_eq_some_iff.1 converted
      exact ⟨given, eq_ok_of_toOption good⟩

def redAt (line : Int) : ExternalColor := ⟨line, 0, 4, 1, 0, 0, 1⟩

def sourced : Session := opened.after (.outside true bareWorld)

/-- Of three requests for lines that overlap, the first is answered too late, and the others in turn
with colors within their ranges and outside. -/
def overlapping : List Step :=
  [askLines, .request (.number 1) ⟨5, 15⟩, .answer 0 (some [redAt 3]),
    .answer 1 (some [redAt 5, redAt 7, redAt 30]),
    .request (.number 1) ⟨0, 6⟩, .answer 1 (some [redAt 6]), .answer 2 (some [redAt 2, redAt 8])]

example : ((overlapping.foldl after sourced).externalColors (.number 1)).toList =
    [(2, [⟨0, 4, "ff0000"⟩]), (7, [⟨0, 4, "ff0000"⟩])] := by decide +kernel

theorem externalColors_last_overlapping :
    Session.new bareHost (paletteOption .lsp) bareWorld = .ok opened ∧
    All (fun s a => (s.after a).buffer? (.number 1) = none) opened [.outside true bareWorld] ∧
    All (Steady (.number 1)) sourced overlapping ∧
    (∀ line, match (arrivals (.number 1) sourced overlapping).reverse.find?
        (·.request.range.contains line) with
      | none => ((overlapping.foldl after sourced).externalColors (.number 1))[line]? = none
      | some c => (∃ given, c.Reports given) ∧ ∀ given, c.Reports given →
          ∃ reported, ExternalColor.onLine given line = .ok reported ∧
            ((overlapping.foldl after sourced).externalColors (.number 1))[line]? =
              if reported = [] then none else some (Span.sorted reported)) ∧
    All (Settles (.number 1)) sourced overlapping := by
  have begun : Session.new bareHost (paletteOption .lsp) bareWorld = .ok opened := rfl
  have unattached : All (fun s a => (s.after a).buffer? (.number 1) = none) opened
      [.outside true bareWorld] :=
    ⟨rfl, trivial⟩
  have asks {s : Session} {range : LineRange}
      (config : (s.after (.request (.number 1) range)).config = s.config)
      (stays : ((s.after (.request (.number 1) range)).buffer? (.number 1)).isSome = true) :
      Steady (.number 1) s (.request (.number 1) range) := ⟨config, fun _ => stays, nofun⟩
  have steady : All (Steady (.number 1)) sourced overlapping := by
    refine ⟨asks rfl rfl, asks rfl rfl, steady_answer .., steady_answer .., asks ?_ ?_,
      steady_answer .., steady_answer .., trivial⟩
    · exact keeps_config_request _ _ _
    · decide +kernel
  exact ⟨begun, unattached, steady, externalColors_last begun unattached steady⟩

end Session
end ColorSpans
