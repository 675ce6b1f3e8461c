import ColorSpans.Proofs.Literal.Refusals
import ColorSpans.Proofs.Session.Leftovers

/-! External colors are handed to the host twice: when they come in, and when the whole text is
highlighted after that. -/
namespace ColorSpans
open Stateful

section

variable {α : Type} {entries : List (Int × α)} {line : Int}

theorem lookup_eq_some_iff_mem (distinct : entries.Pairwise fun a b => a.1 ≠ b.1) {x : α} :
    entries.lookup line = some x ↔ (line, x) ∈ entries := by
  induction entries with
  | nil => simp
  | cons entry rest ih =>
    obtain ⟨apart, distinct⟩ := List.pairwise_cons.1 distinct
    rw [List.mem_cons, ← ih distinct]
    by_cases here : line = entry.1
    · subst here
      rw [List.lookup_cons_self, ih distinct]
      constructor
      · exact fun same => .inl (Prod.ext rfl (Option.some.inj same).symm)
      · rintro (same | there)
        · rw [← same]
        · exact absurd rfl (apart (entry.1, x) there)
    · rw [List.lookup_cons, beq_eq_false_iff_ne.2 here]
      exact (or_iff_right fun same => here (congrArg Prod.fst same)).symm

theorem getElem?_eq_lookup (map : Std.ExtTreeMap Int α) (line : Int) :
    map[line]? = map.toList.lookup line := by
  have distinct : map.toList.Pairwise fun a b => a.1 ≠ b.1 :=
    Std.ExtTreeMap.distinct_keys_toList.imp fun apart =>
      mt Std.LawfulEqCmp.compare_eq_iff_eq.2 apart
  refine Option.ext fun x => ?_
  rw [lookup_eq_some_iff_mem distinct, Std.ExtTreeMap.mem_toList_iff_getElem?_eq_some]

theorem ordered_toList (map : Std.ExtTreeMap Int α) : map.toList.Pairwise fun a b => a.1 < b.1 :=
  Std.ExtTreeMap.ordered_keys_toList.imp fun less => Int.compare_eq_lt.1 less

theorem mem_of_mem_toList {map : Std.ExtTreeMap Int α} {entry : Int × α}
    (listed : entry ∈ map.toList) :
    entry.1 ∈ map := by
  rw [Std.ExtTreeMap.mem_iff_isSome_getElem?,
    Std.ExtTreeMap.mem_toList_iff_getElem?_eq_some.1 listed]
  rfl

theorem getElem?_ofList (ordered : entries.Pairwise fun a b => a.1 < b.1) (line : Int) :
    (Std.ExtTreeMap.ofList entries : Std.ExtTreeMap Int α)[line]? = entries.lookup line := by
  have distinct : entries.Pairwise fun a b => ¬compare a.1 b.1 = .eq :=
    ordered.imp fun less same => Int.ne_of_lt less (Std.LawfulEqCmp.compare_eq_iff_eq.1 same)
  cases there : entries.lookup line with
  | some x =>
    rw [lookup_eq_some_iff_mem (ordered.imp Int.ne_of_lt)] at there
    exact Std.ExtTreeMap.getElem?_ofList_of_mem Std.ReflCmp.compare_self distinct there
  | none =>
    refine Std.ExtTreeMap.getElem?_ofList_of_contains_eq_false ?_
    have absent := List.lookup_eq_none_iff.1 there
    simp only [bne_iff_ne, Prod.forall] at absent
    simpa using fun x listed => absent line x listed rfl

end

namespace Matcher

variable {m : Matcher} {definitions : Option Definitions}

theorem scanLines_spec {first : Int} {lines : List String} {found : LineSpans}
    (done : m.scanLines definitions first lines = .ok found) :
    found.Pairwise (fun a b => a.1 < b.1) ∧ (∀ entry ∈ found, first ≤ entry.1) ∧
      ∀ (i : Nat) (line : String), lines[i]? = some line →
        m.scan definitions line = .ok ((found.lookup (first + i)).getD []) := by
  induction lines generalizing first found with
  | nil =>
    obtain rfl := Except.ok.inj done
    exact ⟨.nil, nofun, nofun⟩
  | cons text lines ih =>
    obtain ⟨spans, scanned, rest⟩ := bind_eq_ok.1 done
    obtain ⟨more, later, same⟩ := bind_eq_ok.1 rest
    obtain ⟨ordered, above, each⟩ := ih later
    have behind : more.lookup first = none := List.lookup_eq_none_iff.2 fun entry there =>
      bne_iff_ne.2 (Int.ne_of_lt (above entry there))
    have next (i : Nat) : first + (i + 1 : Nat) = first + 1 + i := by omega
    have same : found = if spans.isEmpty then more else (first, spans) :: more :=
      (Except.ok.inj same).symm
    split at same
    case isTrue blank =>
      refine ⟨same ▸ ordered, fun entry there => Int.le_of_lt (above entry (same ▸ there)),
        fun i line there => ?_⟩
      cases i with
      | zero =>
        obtain rfl : text = line := Option.some.inj there
        rw [same, Int.natCast_zero, Int.add_zero, behind, scanned, List.isEmpty_iff.1 blank]
        rfl
      | succ i => exact same ▸ next i ▸ each i line there
    case isFalse =>
      subst same
      refine ⟨List.pairwise_cons.2 ⟨above, ordered⟩, fun entry there => ?_, fun i line there => ?_⟩
      · obtain rfl | there := List.mem_cons.1 there
        · exact Int.le_refl _
        · exact Int.le_of_lt (above entry there)
      · cases i with
        | zero =>
          obtain rfl : text = line := Option.some.inj there
          rw [Int.natCast_zero, Int.add_zero, List.lookup_cons_self, scanned]
          rfl
        | succ i =>
          have apart : (first + (i + 1 : Nat) == first) = false := beq_eq_false_iff_ne.2 (by omega)
          rw [List.lookup_cons, apart, next]
          exact each i line there

end Matcher

namespace Session

def handed (id : BufferId) (spansOf : Int × List Span → Except SessionError (List Span)) :
    List (Int × List Span) → List Emission
  | [] => []
  | entry :: rest => match spansOf entry with
    | .error _ => []
    | .ok spans => ⟨id, entry.1, spans⟩ :: handed id spansOf rest

def spansFor (id : BufferId) (line : Int) (emitted : List Emission) : List (List Span) :=
  (emitted.filter fun e => e.buffer = id ∧ e.line = line).map Emission.spans

theorem run_forM_handed (id : BufferId)
    (spansOf : Int × List Span → Except SessionError (List Span))
    {op : Int × List Span → SessionStep Unit}
    (once : ∀ entry s, (op entry).run.run s = match spansOf entry with
      | .error e => (.error e, s)
      | .ok spans => (.ok (), { s with emitted := s.emitted ++ [⟨id, entry.1, spans⟩] }))
    (entries : List (Int × List Span)) (s : Session) :
    ((entries.forM op).run.run s).2 =
      { s with emitted := s.emitted ++ handed id spansOf entries } := by
  induction entries generalizing s with
  | nil => exact congrArg (fun emitted => { s with emitted }) (List.append_nil _).symm
  | cons entry rest ih =>
    rw [run_forM_cons, once, handed]
    cases spansOf entry with
    | error e => exact congrArg (fun emitted => { s with emitted }) (List.append_nil _).symm
    | ok spans => simp only [ih, List.append_assoc, List.singleton_append]

variable {id : BufferId} {spansOf : Int × List Span → Except SessionError (List Span)}

theorem spansFor_cons (id : BufferId) (line : Int) (number : Int) (spans : List Span)
    (emitted : List Emission) :
    spansFor id line (⟨id, number, spans⟩ :: emitted) =
      if number = line then spans :: spansFor id line emitted else spansFor id line emitted := by
  by_cases here : number = line
  · rw [if_pos here, spansFor, List.filter_cons_of_pos (by simpa using here)]
    rfl
  · rw [if_neg here, spansFor, List.filter_cons_of_neg (by simpa using here)]
    rfl

theorem spansFor_handed_above {entries : List (Int × List Span)} {line : Int}
    (above : ∀ e ∈ entries, line < e.1) :
    spansFor id line (handed id spansOf entries) = [] := by
  induction entries with
  | nil => rfl
  | cons entry rest ih =>
    obtain ⟨first, later⟩ := List.forall_mem_cons.1 above
    rw [handed]
    cases spansOf entry with
    | error e => rfl
    | ok spans =>
      dsimp only
      rw [spansFor_cons, if_neg (Int.ne_of_gt first)]
      exact ih later

theorem spansFor_handed_iff {entries : List (Int × List Span)}
    (ordered : entries.Pairwise fun a b => a.1 < b.1) {line : Int} {spans : List Span} :
    spansFor id line (handed id spansOf entries) = [spans] ↔
      (∃ x, (line, x) ∈ entries ∧ spansOf (line, x) = .ok spans) ∧
        ∀ e ∈ entries, e.1 < line → ¬Raises (spansOf e) := by
  induction entries with
  | nil => simp [handed, spansFor]
  | cons entry rest ih =>
    obtain ⟨number, known⟩ := entry
    obtain ⟨before, ordered⟩ := List.pairwise_cons.1 ordered
    rw [handed]
    cases outcome : spansOf (number, known) with
    | error e =>
      refine iff_of_false (by simp [spansFor]) fun ⟨⟨x, there, good⟩, fine⟩ => ?_
      obtain same | there := List.mem_cons.1 there
      · rw [same, outcome] at good
        cases good
      · exact fine _ List.mem_cons_self (before _ there) ⟨e, outcome⟩
    | ok found =>
      dsimp only
      rw [spansFor_cons]
      by_cases here : number = line
      · -- What is behind the line in order does not show for it.
        subst here
        rw [if_pos rfl, spansFor_handed_above before]
        constructor
        · intro same
          refine ⟨⟨known, List.mem_cons_self, outcome.trans (congrArg _ (List.cons.inj same).1)⟩,
            fun e there => ?_⟩
          obtain rfl | there := List.mem_cons.1 there
          · exact fun less => absurd less (Int.lt_irrefl _)
          · exact fun less => absurd (Int.lt_trans less (before e there)) (Int.lt_irrefl _)
        · rintro ⟨⟨x, there, good⟩, -⟩
          obtain same | there := List.mem_cons.1 there
          · rw [same, outcome] at good
            rw [Except.ok.inj good]
          · exact absurd (before _ there) (Int.lt_irrefl _)
      · rw [if_neg here, ih ordered]
        have elsewhere (x : List Span) : (line, x) ∈ (number, known) :: rest ↔
            (line, x) ∈ rest := by
          simp [Ne.symm here]
        have fine : ¬Raises (spansOf (number, known)) := by
          rw [outcome]
          exact not_raises_ok found
        simp only [elsewhere, List.forall_mem_cons, fine, not_false_eq_true, implies_true, true_and]

/-- The line at a number, if there is one; a negative number counts from the end. -/
def lineAt? (lines : List String) (number : Int) : Option String :=
  let place := if number < 0 then number + lines.length else number
  if place < 0 then none else lines[place.toNat]?

def scannedAt (matcher : Option Matcher) (b : Buffer) (number : Int) :
    Except SessionError (List Span) :=
  match matcher with
  | none => .ok []
  | some m =>
      if number < b.lines.length then
        match lineAt? b.lines number with
        | some line => (m.scan b.definitions? line).mapError .numeral
        | none => .error .noSuchLine
      else .ok []

variable {s t : Session} {b : Buffer} {m : Matcher} {r : ColorRequest} {found : SpanMap}
  {line : Int}

theorem lineAt?_eq {lines : List String} (reached : -lines.length ≤ line)
    (inside : line < lines.length) :
    ∃ text ∈ lines, lineAt? lines line = some text ∧
      (0 ≤ line → lines[line.toNat]? = some text) := by
  have first : ¬(if line < 0 then line + lines.length else line) < 0 := by split <;> omega
  have bound : (if line < 0 then line + lines.length else line).toNat < lines.length := by
    split <;> omega
  refine ⟨_, List.getElem_mem bound, ?_, fun natural => ?_⟩
  · rw [lineAt?, if_neg first, List.getElem?_eq_getElem bound]
  · simp only [if_neg (Int.not_lt.2 natural)] at bound ⊢
    exact List.getElem?_eq_getElem bound

theorem run_orFail {ε α : Type} (cause : ε → SessionError) (outcome : Except ε α) (s : Session) :
    (orFail cause outcome).run.run s = (outcome.mapError cause, s) := by
  cases outcome <;> rfl

theorem run_scannedLine (matcher : Option Matcher) (b : Buffer) (number : Int) (s : Session) :
    (scannedLine matcher b number).run.run s = (scannedAt matcher b number, s) := by
  cases matcher with
  | none => rfl
  | some m =>
    have line : lineAt b.lines number = match lineAt? b.lines number with
      | some line => pure line
      | none => throw .noSuchLine := rfl
    simp only [scannedLine, scannedAt, line]
    split
    · rw [run_bind]
      cases lineAt? b.lines number with
      | none => rfl
      | some text => exact run_orFail _ _ s
    · rfl

theorem raises_scannedAt_above (m : Matcher) (above : line < -b.lines.length) :
    Raises (scannedAt (some m) b line) := by
  have none : lineAt? b.lines line = none := by
    rw [lineAt?, if_pos (show line < 0 by omega), if_pos (by omega)]
  refine ⟨.noSuchLine, ?_⟩
  rw [scannedAt]
  simp only [if_pos (show line < b.lines.length by omega), none]

theorem not_raises_scannedAt (fine : ∀ text ∈ b.lines, ¬Raises (m.scan b.definitions? text))
    (reached : -b.lines.length ≤ line) : ¬Raises (scannedAt (some m) b line) := by
  rw [scannedAt]
  split
  case isTrue inside =>
    obtain ⟨text, listed, there, -⟩ := lineAt?_eq reached inside
    rw [there]
    exact raises_mapError.not.2 (fine text listed)
  case isFalse => exact not_raises_ok _

theorem scannedAt_inside {text : String} {spans : List Span} (first : 0 ≤ line)
    (there : b.lines[line.toNat]? = some text) (good : m.scan b.definitions? text = .ok spans) :
    scannedAt (some m) b line = .ok spans := by
  have bound := (List.getElem?_eq_some_iff.1 there).1
  have inside : line < b.lines.length := by omega
  obtain ⟨text', -, here, same⟩ := lineAt?_eq (by omega) inside
  obtain rfl := Option.some.inj (there.symm.trans (same first))
  rw [scannedAt]
  simp only [if_pos inside, here, good]
  rfl

theorem emitted_arrive (there : s.buffer? r.buffer = some b) (same : r.version = b.version)
    (found : SpanMap) :
    (s.arrive r found).emitted = s.emitted ++ handed r.buffer
      (fun entry => (scannedAt s.matcher b entry.1).map (Span.merge · entry.2)) found.toList := by
  rw [arrive, receive, run_bind, run_get]
  simp only [there]
  rw [if_pos (Int.natCast_inj.2 same), run_bind, run_set]
  dsimp only
  rw [run_forM_handed r.buffer fun entry =>
    (scannedAt s.matcher b entry.1).map (Span.merge · entry.2)]
  · rfl
  · intro entry u
    rw [run_bind, run_scannedLine]
    cases scannedAt s.matcher b entry.1 <;> rfl

theorem getElem?_mergeExternal (found external : SpanMap) (range : LineRange) (line : Int) :
    (mergeExternal found external range)[line]? = if range.contains line then
      (external[line]?.map (Span.merge (found[line]?.getD []))).or found[line]?
        else found[line]? := by
  rw [mergeExternal, Std.ExtTreeMap.foldl_eq_foldl_toList, getElem?_eq_lookup external]
  have distinct : external.toList.Pairwise fun a b => a.1 ≠ b.1 :=
    Std.ExtTreeMap.distinct_keys_toList.imp fun apart =>
      mt Std.LawfulEqCmp.compare_eq_iff_eq.2 apart
  generalize external.toList = entries at distinct ⊢
  induction entries generalizing found with
  | nil => simp
  | cons entry rest ih =>
    obtain ⟨number, spans⟩ := entry
    obtain ⟨apart, distinct⟩ := List.pairwise_cons.1 distinct
    rw [List.foldl_cons, ih _ distinct]
    dsimp only
    by_cases here : line = number
    · subst here
      have behind : rest.lookup line = none :=
        List.lookup_eq_none_iff.2 fun entry there => bne_iff_ne.2 (apart entry there)
      rw [behind, List.lookup_cons_self]
      cases range.contains line <;> simp
    · have kept :
          (if range.contains number then found.insert number
            (Span.merge (found[number]?.getD []) spans)
          else found)[line]? = found[line]? := by
        split
        · rw [Std.ExtTreeMap.getElem?_insert,
            if_neg fun same => here (Std.LawfulEqCmp.compare_eq_iff_eq.1 same).symm]
        · rfl
      rw [kept, List.lookup_cons, beq_eq_false_iff_ne.2 here]

theorem run_scanBuffer (there : s.buffer? id = some b) (matcher : s.matcher = some m)
    {lines : List String} {first : Int} {scanned : LineSpans}
    (good : m.scanLines b.definitions? first lines = .ok scanned) :
    let all := mergeExternal (.ofList scanned) b.external ⟨first, first + lines.length⟩
    (scanBuffer id lines first).run.run s =
      (.ok all,
        { s with emitted := s.emitted ++ handed id (fun entry => .ok entry.2) all.toList }) := by
  intro all
  have once (entry : Int × List Span) (s : Session) : (emit id entry.1 entry.2).run.run s =
      (.ok (), { s with emitted := s.emitted ++ [⟨id, entry.1, entry.2⟩] }) := rfl
  have told := run_forM_handed id (fun entry => .ok entry.2) once all.toList s
  have silent : ((all.toList.forM fun entry => emit id entry.1 entry.2).run.run s).1 = .ok () :=
    congrArg Prod.fst (run_forM_modify _ all.toList s)
  rw [scanBuffer, run_bind, run_get]
  simp only [matcher, there, good]
  show ((all.toList.forM fun entry => emit id entry.1 entry.2) >>= fun _ => pure all).run.run s = _
  have both : (all.toList.forM fun entry => emit id entry.1 entry.2).run.run s = (.ok (), _) :=
    Prod.ext silent told
  rw [run_bind, both]
  dsimp only
  rw [run_pure, matcher]

theorem run_highlight (there : s.buffer? id = some b) :
    (highlight id b.lines 0).run.run s = (scanBuffer id b.lines 0).run.run
      (s.modifyBuffer id ({ · with lines := b.lines })) := by
  have attached : (ensure id).run.run s = (.ok (), s) := by
    rw [ensure, run_bind, run_get]
    simp only [there]
    rfl
  rw [highlight, run_bind, attached]
  rfl

def handedSince (s t : Session) (id : BufferId) (line : Int) : List (List Span) :=
  spansFor id line (t.emitted.drop s.emitted.length)

/-- A highlight of the whole text right after colors came in succeeds, and finds for the line and
hands over just what was handed over when they came in. -/
def Repeated (s : Session) (r : ColorRequest) (b : Buffer) (found : SpanMap) (line : Int) : Prop :=
  ∃ all t, (highlight r.buffer b.lines 0).run.run (s.arrive r found) = (.ok all, t) ∧
    handedSince s (s.arrive r found) r.buffer line = all[line]?.toList ∧
    handedSince (s.arrive r found) t r.buffer line = all[line]?.toList

theorem handedSince_append {t : Session} {more : List Emission}
    (grown : t.emitted = s.emitted ++ more) (id : BufferId) (line : Int) :
    handedSince s t id line = spansFor id line more := by
  rw [handedSince, grown, List.drop_left]

section

variable (there : s.buffer? r.buffer = some b) (same : r.version = b.version)

include there same

theorem run_highlight_arrive (found : SpanMap) :
    (highlight r.buffer b.lines 0).run.run (s.arrive r found) =
    (scanBuffer r.buffer b.lines 0).run.run
      ((s.arrive r found).modifyBuffer r.buffer ({ · with lines := b.lines })) := by
  have looked := run_highlight (buffer?_arrive there same found)
  exact looked

theorem buffer?_highlight_arrive (found : SpanMap) :
    ((s.arrive r found).modifyBuffer r.buffer ({ · with lines := b.lines })).buffer? r.buffer =
        some { b with pending := none, external := replaceLines b.external r.range found } ∧
      ((s.arrive r found).modifyBuffer r.buffer ({ · with lines := b.lines })).matcher =
        s.matcher := by
  have silent : Silent matcher := fun _ _ => rfl
  refine ⟨?_, view_arrive silent there same found⟩
  rw [buffer?_modifyBuffer, if_pos rfl, buffer?_arrive there same found]
  rfl

theorem highlight_arrive (matcher : s.matcher = some m) {scanned : LineSpans}
    (good : m.scanLines b.definitions? 0 b.lines = .ok scanned) (found : SpanMap) :
    ∃ all t, (highlight r.buffer b.lines 0).run.run (s.arrive r found) = (.ok all, t) ∧
      t.emitted = (s.arrive r found).emitted ++ handed r.buffer (fun entry => .ok entry.2)
        all.toList ∧
      ∀ (line : Int) (known : line ∈ found), 0 ≤ line → line < b.lines.length →
        all[line]? = some (Span.merge ((scanned.lookup line).getD []) found[line]) := by
  obtain ⟨buffer, seen⟩ := buffer?_highlight_arrive there same found
  have looked := run_scanBuffer buffer (seen.trans matcher) good
  rw [← run_highlight_arrive there same] at looked
  refine ⟨_, _, looked, rfl, fun line known first inside => ?_⟩
  have within : LineRange.contains ⟨0, 0 + b.lines.length⟩ line = true := by
    simp [LineRange.contains, first, inside]
  have reported := Std.ExtTreeMap.getElem?_eq_some_getElem known
  rw [getElem?_mergeExternal, if_pos within, getElem?_replaceLines _ _ reported,
    getElem?_ofList (Matcher.scanLines_spec good).1]
  rfl

theorem repeated_of (matcher : s.matcher = some m)
    (fine : ∀ text ∈ b.lines, ¬Raises (m.scan b.definitions? text))
    (reached : ∀ line ∈ found, -b.lines.length ≤ line) (known : line ∈ found) (first : 0 ≤ line)
    (inside : line < b.lines.length) : Repeated s r b found line := by
  have scans : ¬Raises (m.scanLines b.definitions? 0 b.lines) := by
    rw [Matcher.raises_scanLines]
    exact fun ⟨text, listed, raises⟩ => fine text listed raises
  obtain ⟨scanned, good⟩ := exists_ok_of_not_raises scans
  obtain ⟨all, t, looked, emitted, merged⟩ := highlight_arrive there same matcher good found
  have bound : line.toNat < b.lines.length := by omega
  have text := List.getElem?_eq_getElem bound
  have spans := (Matcher.scanLines_spec good).2.2 line.toNat _ text
  rw [Int.toNat_of_nonneg first, Int.zero_add] at spans
  refine ⟨all, t, looked, ?_, ?_⟩
  · rw [merged line known first inside, handedSince_append (emitted_arrive there same found),
      matcher]
    refine (spansFor_handed_iff (ordered_toList found)).2 ⟨⟨found[line], ?_, ?_⟩,
      fun e listed _ => ?_⟩
    · exact Std.ExtTreeMap.mem_toList_iff_getElem?_eq_some.2
        (Std.ExtTreeMap.getElem?_eq_some_getElem known)
    · rw [scannedAt_inside first text spans]
      rfl
    · rw [raises_map]
      exact not_raises_scannedAt fine (reached e.1 (mem_of_mem_toList listed))
  · rw [merged line known first inside, handedSince_append emitted]
    refine (spansFor_handed_iff (ordered_toList all)).2 ⟨⟨_, ?_, rfl⟩, fun _ _ _ => not_raises_ok _⟩
    exact Std.ExtTreeMap.mem_toList_iff_getElem?_eq_some.2 (merged line known first inside)

theorem not_repeated_bare (bare : s.matcher = none) (known : line ∈ found) :
    ¬Repeated s r b found line := by
  rintro ⟨all, t, looked, handed, -⟩
  obtain ⟨buffer, seen⟩ := buffer?_highlight_arrive there same found
  have nothing := run_highlight_arrive there same found
  rw [scanBuffer, run_bind, run_get] at nothing
  simp only [seen.trans bare] at nothing
  obtain rfl : all = ∅ := Except.ok.inj (Prod.mk.inj (looked.symm.trans nothing)).1
  have told : handedSince s (s.arrive r found) r.buffer line = [Span.merge [] found[line]] := by
    rw [handedSince_append (emitted_arrive there same found), bare]
    refine (spansFor_handed_iff (ordered_toList found)).2 ⟨⟨found[line], ?_, rfl⟩,
      fun _ _ _ => not_raises_ok _⟩
    exact Std.ExtTreeMap.mem_toList_iff_getElem?_eq_some.2
      (Std.ExtTreeMap.getElem?_eq_some_getElem known)
  rw [told] at handed
  simp at handed

theorem fine_of_repeated (matcher : s.matcher = some m) (known : line ∈ found) (first : 0 ≤ line)
    (inside : line < b.lines.length) (repeated : Repeated s r b found line) :
    (∀ text ∈ b.lines, ¬Raises (m.scan b.definitions? text)) ∧ ∀ line ∈ found,
      -b.lines.length ≤ line := by
  obtain ⟨all, t, looked, handed, -⟩ := repeated
  obtain ⟨scanned, good⟩ : ∃ scanned, m.scanLines b.definitions? 0 b.lines = .ok scanned := by
    obtain ⟨buffer, seen⟩ := buffer?_highlight_arrive there same found
    have scans := run_highlight_arrive there same found
    rw [looked, scanBuffer, run_bind, run_get] at scans
    simp only [seen.trans matcher, buffer] at scans
    obtain ⟨scanned, _, good, -⟩ := run_bind_eq_ok.1 scans.symm
    exact ⟨scanned, (orFail_eq_ok.1 good).1⟩
  obtain ⟨all', t', looked', -, merged⟩ := highlight_arrive there same matcher good found
  obtain rfl : all' = all := Except.ok.inj (Prod.mk.inj (looked'.symm.trans looked)).1
  rw [merged line known first inside, handedSince_append (emitted_arrive there same found),
    matcher] at handed
  obtain ⟨-, before⟩ := (spansFor_handed_iff (ordered_toList found)).1 handed
  refine ⟨fun text listed raises => ?_, fun other there' => ?_⟩
  · obtain ⟨e, fails⟩ := (Matcher.raises_scanLines 0 b.lines).2 ⟨text, listed, raises⟩
    cases fails.symm.trans good
  · by_contra above
    have listed := Std.ExtTreeMap.mem_toList_iff_getElem?_eq_some.2
      (Std.ExtTreeMap.getElem?_eq_some_getElem there')
    exact before _ listed (by dsimp only; omega)
      (raises_map.2 (raises_scannedAt_above m (by dsimp only; omega)))

end

/-- Whatever has come in for lines of the text is found again exactly if there is nothing of that
kind, or if something is scanned for, every line of the text can be scanned, and no line was named
that counts from the end past the first. -/
theorem repeated_iff (there : s.buffer? r.buffer = some b) (same : r.version = b.version)
    (found : SpanMap) :
    (∀ line ∈ found, 0 ≤ line → line < b.lines.length → Repeated s r b found line) ↔
      (∀ line ∈ found, 0 ≤ line → ¬line < b.lines.length) ∨
      ∃ m, s.matcher = some m ∧ (∀ text ∈ b.lines, ¬Raises (m.scan b.definitions? text)) ∧
        ∀ line ∈ found, -b.lines.length ≤ line := by
  constructor
  · intro all
    by_cases none_inside : ∀ line ∈ found, 0 ≤ line → ¬line < b.lines.length
    · exact .inl none_inside
    · push Not at none_inside
      obtain ⟨line, known, first, inside⟩ := none_inside
      have repeated := all line known first inside
      cases matcher : s.matcher with
      | none => exact absurd repeated (not_repeated_bare there same matcher known)
      | some m =>
          exact .inr ⟨m, rfl, fine_of_repeated there same matcher known first inside repeated⟩
  · rintro (none_inside | ⟨m, matcher, fine, reached⟩) line known first inside
    · exact absurd inside (none_inside line known first)
    · exact repeated_of there same matcher fine reached known first inside

def firstRequest : ColorRequest := ⟨.number 1, ⟨0, 10⟩, 1, false, false⟩

def waiting (lines : List String) : Buffer := ⟨none, .new, none, lines, 1, some 0, ∅⟩

def unscanned : Session :=
  ((opened.after (.outside true bareWorld)).after (.highlight (.number 1) ["a text"] 0)).after
    askLines

/-- The color that came in was handed to the host, and a look at the same text does not find it. -/
theorem not_repeated_unscanned :
    (∃ since, Run bareHost (paletteOption .lsp) bareWorld unscanned since) ∧
      unscanned.config.isExternal = true ∧
    unscanned.requests = [firstRequest] ∧
      unscanned.buffer? (.number 1) = some (waiting ["a text"]) ∧
    ¬(∀ line ∈ redStart, 0 ≤ line → line < (waiting ["a text"]).lines.length →
      Repeated unscanned firstRequest (waiting ["a text"]) redStart line) ∧
    handedSince unscanned (unscanned.arrive firstRequest redStart) (.number 1) 0 =
      [[⟨0, 4, "ff0000"⟩]] ∧
    ((highlight (.number 1) ["a text"] 0).run.run
      (unscanned.arrive firstRequest redStart)).1.toOption.map
      (·.toList) = some [] := by
  have there : unscanned.buffer? firstRequest.buffer = some (waiting ["a text"]) := rfl
  have reported : (0 : Int) ∈ redStart := Std.ExtTreeMap.mem_insert_self
  refine ⟨⟨_, ((run_opened.step _).step _).step _⟩,
    by decide +kernel, rfl, there, fun all => ?_, ?_, ?_⟩
  · exact not_repeated_bare there rfl rfl reported (all 0 reported (by decide) (by decide))
  · decide +kernel
  · decide +kernel

def scannedOptions : Options := paletteOption .lsp ++ [("RRGGBB", .bool true)]

def scannedConfig : Config := ⟨false, ⟨false, true, false⟩, false, false, false, .lsp, false, none⟩

def scannedStart : Session :=
  { opened with
    config := scannedConfig, matcher := Matcher.compile? scannedConfig bareHost.palette }

def someText : List String := ["#00ff00", "", "x #0000ff"]

def scanned : Session :=
  ((scannedStart.after (.outside true bareWorld)).after
    (.updateVariables (.number 1) someText ⟨0, none⟩)).after askLines

def someFound : SpanMap :=
  ((redStart.insert 1 [⟨2, 3, "ff0000"⟩]).insert 2 [⟨0, 1, "ff0000"⟩]).insert (-1)
    [⟨0, 1, "00ffff"⟩]

theorem repeated_scanned :
    (∃ since, Run bareHost scannedOptions bareWorld scanned since) ∧
    scanned.buffer? firstRequest.buffer = some (waiting someText) ∧
    firstRequest.version = (waiting someText).version ∧
    ∀ line ∈ someFound, 0 ≤ line → line < (waiting someText).lines.length →
      Repeated scanned firstRequest (waiting someText) someFound line := by
  have begun : Session.new bareHost scannedOptions bareWorld = .ok scannedStart := rfl
  have there : scanned.buffer? firstRequest.buffer = some (waiting someText) := rfl
  refine ⟨⟨_, (((Run.start begun).step _).step _).step _⟩, there, rfl, ?_⟩
  refine (repeated_iff there rfl someFound).2
    (.inr ⟨Matcher.compile scannedConfig bareHost.palette, rfl, ?_, ?_⟩)
  · have scans : ∀ text ∈ someText,
        ((Matcher.compile scannedConfig bareHost.palette).scan none text).toOption.isSome := by
      decide +kernel
    intro text listed raises
    obtain ⟨e, fails⟩ := raises
    have good := scans text listed
    rw [show (none : Option Definitions) = (waiting someText).definitions? from rfl, fails] at good
    cases good
  · have every : ∀ e ∈ someFound.toList, -3 ≤ e.1 := by decide +kernel
    intro line known
    exact every _ (Std.ExtTreeMap.mem_toList_iff_getElem?_eq_some.2
      (Std.ExtTreeMap.getElem?_eq_some_getElem known))

end Session
end ColorSpans
