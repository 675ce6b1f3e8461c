import ColorSpans.Proofs.Session.Delivery
import ColorSpans.Proofs.Viewport

/-! Looks at a part of a text. Whatever was known of a buffer before, they find in each line of the
part what a look at the whole text finds there, and hand it to the host in the order of the
lines. -/
namespace ColorSpans
open Stateful

namespace Matcher

variable {m : Matcher} {definitions : Option Definitions}

def literals? (m : Matcher) (definitions : Option Definitions) (text : String) :
    Option (List Span) :=
  (m.scan definitions text).toOption.filter fun spans => !spans.isEmpty

theorem literals?_of_scan {text : String} {spans : List Span}
    (scanned : m.scan definitions text = .ok spans) :
    m.literals? definitions text = if spans.isEmpty then none else some spans := by
  rw [literals?, scanned, Except.toOption, Option.filter_some]
  cases spans <;> rfl

theorem lookup_scanLines {first : Int} {lines : List String} {found : LineSpans}
    (done : m.scanLines definitions first lines = .ok found) (i : Nat) :
    found.lookup (first + i) = lines[i]?.bind (m.literals? definitions) := by
  induction lines generalizing first found i with
  | nil =>
    obtain rfl := Except.ok.inj done
    rfl
  | cons text lines ih =>
    obtain ⟨spans, scanned, rest⟩ := bind_eq_ok.1 done
    obtain ⟨more, later, same⟩ := bind_eq_ok.1 rest
    obtain rfl : (if spans.isEmpty then more else (first, spans) :: more) = found :=
      Except.ok.inj same
    have behind : more.lookup first = none := List.lookup_eq_none_iff.2 fun entry there =>
      bne_iff_ne.2 (Int.ne_of_lt ((scanLines_spec later).2.1 entry there))
    cases i with
    | zero =>
      rw [Int.natCast_zero, Int.add_zero, List.getElem?_cons_zero, Option.bind_some,
        literals?_of_scan scanned]
      split
      · exact behind
      · exact List.lookup_cons_self
    | succ i =>
      have next : first + (i + 1 : Nat) = first + 1 + i := by omega
      have apart : (first + 1 + i == first) = false := beq_eq_false_iff_ne.2 (by omega)
      rw [next, List.getElem?_cons_succ, ← ih later]
      split
      · rfl
      · rw [List.lookup_cons, apart]

end Matcher

namespace Session

/-- A buffer that was just attached has variables if they are in use, none of them defined. -/
def attached (s : Session) : Buffer :=
  { Buffer.new none with table := if s.config.usesVariables then some (.new s.nextOwner s.matcher)
    else none }

def met (s : Session) (id : BufferId) : Buffer := (s.buffer? id).getD s.attached

/-- No line of the text makes a scan for the buffer fail. -/
def Scannable (s : Session) (id : BufferId) (lines : List String) : Prop :=
  ∀ m, s.matcher = some m → ∀ text ∈ lines, ¬Raises (m.scan (s.met id).definitions? text)

def spansIn (s : Session) (id : BufferId) (line : Int) (text : String) : Option (List Span) :=
  s.matcher.bind fun m =>
    let scanned := m.literals? (s.met id).definitions? text
    ((s.met id).external[line]?.map (Span.merge (scanned.getD []))).or scanned

def Sees (s : Session) (id : BufferId) (lines : List String) (range : LineRange) (found : SpanMap) :
    Prop :=
  ∀ line, found[line]? = if range.contains line then lines[line.toNat]?.bind (s.spansIn id line)
    else none

/-- Meanwhile the host was handed each line of what was found once, from the first to the last. -/
def HandedOver (s t : Session) (id : BufferId) (found : SpanMap) : Prop :=
  ∃ more, t.emitted = s.emitted ++ more ∧ (∀ e ∈ more, e.buffer = id) ∧
    more.Pairwise (fun e e' => e.line < e'.line) ∧
    ∀ line spans, ⟨id, line, spans⟩ ∈ more ↔ found[line]? = some spans

/-- Of one buffer two sessions know the same that a look depends on. -/
structure SameSight (s t : Session) (id : BufferId) : Prop where
  matcher : t.matcher = s.matcher
  definitions : (t.met id).definitions? = (s.met id).definitions?
  external : (t.met id).external = (s.met id).external

variable {s t : Session} {id : BufferId} {lines : List String}

theorem SameSight.refl (s : Session) (id : BufferId) : SameSight s s id := ⟨rfl, rfl, rfl⟩

theorem met_eq {b : Buffer} (there : s.buffer? id = some b) : s.met id = b := by
  rw [met, there, Option.getD_some]

theorem SameSight.step {u : Session} {b : Buffer} (same : SameSight s t id)
    (there : u.buffer? id = some b) (matcher : u.matcher = t.matcher)
    (table : b.table = (t.met id).table) (external : b.external = (t.met id).external) :
    SameSight s u id := by
  refine ⟨matcher.trans same.matcher, ?_, ?_⟩
  · rw [met_eq there, Buffer.definitions?, table]
    exact same.definitions
  · rw [met_eq there, external]
    exact same.external

theorem handed_ok (id : BufferId) (entries : List (Int × List Span)) :
    handed id (fun entry => .ok entry.2) entries = entries.map fun entry =>
      ⟨id, entry.1, entry.2⟩ := by
  induction entries with
  | nil => rfl
  | cons entry rest ih => rw [handed, ih, List.map_cons]

theorem handedOver_handed {found : SpanMap}
    (grown : t.emitted = s.emitted ++ handed id (fun entry => .ok entry.2) found.toList) :
    HandedOver s t id found := by
  rw [handed_ok] at grown
  refine ⟨_, grown, fun e listed => ?_, List.pairwise_map.2 (ordered_toList found),
    fun line spans => ?_⟩
  · obtain ⟨entry, -, rfl⟩ := List.mem_map.1 listed
    rfl
  · rw [← Std.ExtTreeMap.mem_toList_iff_getElem?_eq_some, List.mem_map]
    simp

theorem HandedOver.since {u : Session} {found : SpanMap} (handed : HandedOver t u id found)
    (same : t.emitted = s.emitted) : HandedOver s u id found := by
  rw [HandedOver, ← same]
  exact handed

theorem handedOver_empty (same : t.emitted = s.emitted) : HandedOver s t id ∅ :=
  ⟨[], by rw [same, List.append_nil], nofun, .nil, by simp⟩

theorem Sees.eq_filter {whole part : LineRange} {all found : SpanMap}
    (sees : s.Sees id lines whole all)
    (within : ∀ line, part.contains line = true → whole.contains line = true)
    (sees' : s.Sees id lines part found) :
    found = all.filter fun line _ => part.contains line := by
  apply Std.ExtTreeMap.ext_getElem?
  intro line
  rw [Std.ExtTreeMap.getElem?_filter', sees', sees]
  by_cases inside : part.contains line = true
  · rw [if_pos inside, if_pos (within line inside), inside]
    cases lines[line.toNat]?.bind (s.spansIn id line) <;> rfl
  · rw [if_neg inside, Bool.eq_false_iff.2 inside]
    exact (Option.filter_eq_none_iff.2 fun _ _ => Bool.false_ne_true).symm

theorem run_syncVariables_new (there : s.buffer? id = some (.new none)) :
    ∃ t, (syncVariables id).run.run s = (.ok (), t) ∧ t.buffer? id = some s.attached ∧
      t.matcher = s.matcher ∧ t.emitted = s.emitted := by
  rw [syncVariables, run_bind, run_get]
  simp only [there]
  cases wanted : s.config.usesVariables with
  | false =>
    refine ⟨_, rfl, ?_, rfl, rfl⟩
    rw [buffer?_modifyBuffer, if_pos rfl, attached, wanted]
    exact congrArg (Option.map _) there
  | true =>
    refine ⟨_, rfl, ?_, rfl, rfl⟩
    rw [buffer?_modifyBuffer, if_pos rfl, attached, wanted]
    exact congrArg (Option.map _) there

theorem run_ensure (s : Session) (id : BufferId) : ∃ t, (ensure id).run.run s = (.ok (), t) ∧
    t.buffer? id = some (s.met id) ∧ t.matcher = s.matcher ∧ t.emitted = s.emitted := by
  rw [met, ensure, run_bind, run_get]
  cases there : s.buffer? id with
  | some b => exact ⟨s, by simp only [there]; rfl, there, rfl, rfl⟩
  | none =>
    have joined := buffer?_attached s id (.new none) id
    rw [there, Option.none_or, if_pos rfl] at joined
    obtain ⟨t, done, rest⟩ := run_syncVariables_new joined
    refine ⟨t, ?_, rest⟩
    simp only [there, Option.isNone_none, if_true]
    rw [attach, run_bind, run_get]
    simp only [there]
    exact done

theorem lookup_scanned {m : Matcher} {definitions : Option Definitions} {first last : Nat}
    {scanned : LineSpans} (done : m.scanLines definitions first (lines.extract first last) =
      .ok scanned) (line : Int) :
    scanned.lookup line = if LineRange.contains ⟨first, last⟩ line then
      lines[line.toNat]?.bind (m.literals? definitions) else none := by
  by_cases before : line < first
  · rw [if_neg fun inside => Int.not_lt.2 (LineRange.contains_iff.1 inside).1 before,
      List.lookup_eq_none_iff]
    intro entry there
    have above := (Matcher.scanLines_spec done).2.1 entry there
    exact bne_iff_ne.2 (by omega)
  · obtain ⟨i, rfl⟩ : ∃ i : Nat, line = first + i := ⟨(line - first).toNat, by omega⟩
    rw [Matcher.lookup_scanLines done, List.getElem?_take, List.getElem?_drop]
    simp only [LineRange.contains_iff]
    by_cases inside : i < last - first
    · rw [if_pos inside, if_pos (by omega)]
      rfl
    · rw [if_neg inside, if_neg (by omega)]
      rfl

theorem run_scan {b : Buffer} (there : t.buffer? id = some b) (same : SameSight s t id)
    (fine : s.Scannable id lines) {first last : Nat} (ordered : first ≤ last)
    (inside : last ≤ lines.length) :
    ∃ found u, (scanBuffer id (lines.extract first last) first).run.run t = (.ok found, u) ∧
      HandedOver t u id found ∧ s.Sees id lines ⟨first, last⟩ found ∧ SameSight s u id := by
  obtain rfl := met_eq there
  cases matcher : t.matcher with
  | none =>
    refine ⟨∅, t, ?_, handedOver_empty rfl, fun line => ?_, same⟩
    · rw [scanBuffer, run_bind, run_get]
      simp only [matcher]
      rfl
    · have nothing : s.spansIn id line = fun _ => none := by
        funext text
        rw [spansIn, ← same.matcher, matcher]
        rfl
      rw [nothing, Option.bind_fun_none, ite_self]
      rfl
  | some m =>
    have matcher' : s.matcher = some m := same.matcher.symm.trans matcher
    have scans :
        ¬Raises (m.scanLines (t.met id).definitions? first (lines.extract first last)) := by
      rw [Matcher.raises_scanLines, same.definitions]
      rintro ⟨text, listed, raises⟩
      exact fine m matcher' text (List.mem_of_mem_drop (List.mem_of_mem_take listed)) raises
    obtain ⟨scanned, good⟩ := exists_ok_of_not_raises scans
    refine ⟨_, _, run_scanBuffer there matcher good, handedOver_handed rfl, fun line => ?_,
      same.matcher, same.definitions, same.external⟩
    have stop : (first : Int) + (lines.extract first last).length = last := by
      rw [List.length_take, List.length_drop]
      omega
    rw [stop, getElem?_mergeExternal, getElem?_ofList (Matcher.scanLines_spec good).1,
      lookup_scanned good]
    by_cases part : LineRange.contains ⟨first, last⟩ line = true
    · simp only [if_pos part]
      have bound : line.toNat < lines.length := by
        have := LineRange.contains_iff.1 part
        dsimp only at this
        omega
      rw [List.getElem?_eq_getElem bound, Option.bind_some, Option.bind_some, spansIn, matcher',
        same.external, same.definitions]
      rfl
    · rw [if_neg part, if_neg part, if_neg part]

theorem run_highlight_part (same : SameSight s t id) (fine : s.Scannable id lines)
    {first last : Nat} (ordered : first ≤ last) (inside : last ≤ lines.length) :
    ∃ found u, (highlight id (lines.extract first last) first).run.run t = (.ok found, u) ∧
      HandedOver t u id found ∧ s.Sees id lines ⟨first, last⟩ found ∧ SameSight s u id := by
  obtain ⟨u, attached, there, matcher, emitted⟩ := run_ensure t id
  by_cases start : (first : Int) = 0
  · have seen := buffer?_modifyBuffer u id
      (fun b => { b with lines := lines.extract first last }) id
    rw [if_pos rfl, there, Option.map_some] at seen
    obtain ⟨found, v, done, handed, rest⟩ :=
      run_scan seen (same.step seen matcher rfl rfl) fine ordered inside
    refine ⟨found, v, ?_, handed.since emitted, rest⟩
    rw [highlight, run_bind, attached]
    simp only [if_pos start]
    rw [run_bind]
    exact done
  · obtain ⟨found, v, done, handed, rest⟩ :=
      run_scan there (same.step there matcher rfl rfl) fine ordered inside
    refine ⟨found, v, ?_, handed.since emitted, rest⟩
    rw [highlight, run_bind, attached]
    simp only [if_neg start]
    exact done

theorem run_rehighlight (same : SameSight s t id) (fine : s.Scannable id lines)
    {window range : LineRange} (natural : 0 ≤ window.start)
    (chosen : nextRange (t.met id).viewport.previous window = .ok range) :
    ∃ found u, (rehighlight id lines window).run.run t = (.ok found, u) ∧
      HandedOver t u id found ∧ s.Sees id lines ⟨range.start, min range.stop lines.length⟩
        found := by
  have first : 0 ≤ range.start := Int.le_trans natural (isWithin_nextRange chosen).first
  have updated : (t.met id).viewport.update window = .ok (range, ⟨some window⟩) := by
    rw [Viewport.update, chosen]
    rfl
  obtain ⟨u, attached, there, matcher, emitted⟩ := run_ensure t id
  have known := buffer?_modifyBuffer u id (fun b => { b with lines }) id
  rw [if_pos rfl, there, Option.map_some] at known
  have seen := buffer?_modifyBuffer (u.modifyBuffer id fun b => { b with lines }) id
    (fun b => { b with viewport := ⟨some window⟩ }) id
  rw [if_pos rfl, known, Option.map_some] at seen
  have looked : (rehighlight id lines window).run.run t =
      (if min range.stop lines.length ≤ range.start then pure ∅
        else scanBuffer id (Text.between lines range.start (min range.stop lines.length))
          range.start).run.run
          ((u.modifyBuffer id fun b => { b with lines }).modifyBuffer id fun b =>
            { b with viewport := ⟨some window⟩ }) := by
    rw [rehighlight, run_bind, attached]
    dsimp only
    rw [run_bind, run_modify]
    dsimp only
    rw [run_bind, run_get]
    simp only [known, updated]
    rfl
  rw [looked]
  by_cases nothing : min range.stop lines.length ≤ range.start
  · rw [if_pos nothing]
    refine ⟨∅, _, run_pure _ _, handedOver_empty emitted, fun line => ?_⟩
    have outside : ¬LineRange.contains ⟨range.start, min range.stop lines.length⟩ line =
        true := fun inside => by
      have := LineRange.contains_iff.1 inside
      dsimp only at this
      omega
    rw [if_neg outside]
    rfl
  · obtain ⟨start, begins⟩ := Int.eq_ofNat_of_zero_le first
    obtain ⟨stop, ends⟩ := Int.eq_ofNat_of_zero_le (show 0 ≤ min range.stop lines.length by omega)
    rw [if_neg nothing, begins, ends, Text.between_natCast, ← List.extract_eq_drop_take']
    obtain ⟨found, v, done, handed, sees, -⟩ := run_scan seen (same.step seen matcher rfl rfl) fine
      (show start ≤ stop by omega) (show stop ≤ lines.length by omega)
    exact ⟨found, v, done, handed.since emitted, sees⟩

/-- In every session a text is looked at without an error if each line of it can be scanned. A look
at a slice in its place, or right after it, finds the part of it that lies in the slice, and a look
through a window the part that the window newly shows. Each of them hands over what it finds, line
by line. -/
theorem looks_agree (s : Session) (id : BufferId) (lines : List String)
    (fine : s.Scannable id lines) :
    ∃ whole t, (highlight id lines 0).run.run s = (.ok whole, t) ∧ HandedOver s t id whole ∧ ∀ u,
      u = s ∨ u = t →
      (∀ first last : Nat, first ≤ last → last ≤ lines.length → ∃ part v,
        (highlight id (lines.extract first last) first).run.run u = (.ok part, v) ∧
          HandedOver u v id part ∧
          part = whole.filter fun line _ => LineRange.contains ⟨first, last⟩ line) ∧
      ∀ window : LineRange, 0 ≤ window.start → window.start ≤ window.stop → ∃ range part v,
        nextRange (u.met id).viewport.previous window = .ok range ∧
          (rehighlight id lines window).run.run u = (.ok part, v) ∧ HandedOver u v id part ∧
            part = whole.filter fun line _ =>
              LineRange.contains ⟨range.start, min range.stop lines.length⟩ line := by
  have start := SameSight.refl s id
  obtain ⟨whole, t, done, handed, sees, after⟩ :=
    run_highlight_part start fine (Nat.zero_le _) (Nat.le_refl _)
  rw [List.extract_eq_drop_take', List.take_length, List.drop_zero] at done
  refine ⟨whole, t, done, handed, fun u known => ?_⟩
  have same : SameSight s u id := by
    rcases known with rfl | rfl
    · exact start
    · exact after
  constructor
  · intro first last ordered inside
    obtain ⟨part, v, done, handed, sees', -⟩ := run_highlight_part same fine ordered inside
    refine ⟨part, v, done, handed, sees.eq_filter (fun line within => ?_) sees'⟩
    simp only [LineRange.contains_iff] at within ⊢
    omega
  · intro window natural valid
    obtain ⟨range, chosen⟩ := exists_nextRange (u.met id).viewport.previous valid
    obtain ⟨part, v, done, handed, sees'⟩ := run_rehighlight same fine natural chosen
    refine ⟨range, part, v, chosen, done, handed, sees.eq_filter (fun line within => ?_) sees'⟩
    have first := (isWithin_nextRange chosen).first
    simp only [LineRange.contains_iff] at within ⊢
    omega

def reported : Session := scanned.arrive firstRequest someFound

theorem scannable_reported : reported.Scannable (.number 1) someText := by
  have there : scanned.buffer? firstRequest.buffer = some (waiting someText) := rfl
  have matcher : reported.matcher = some (Matcher.compile scannedConfig bareHost.palette) :=
    view_arrive (fun _ _ => rfl) there rfl someFound
  have bare : (reported.met (.number 1)).definitions? = none :=
    congrArg Buffer.definitions? (met_eq (buffer?_arrive there rfl someFound))
  have scans : ∀ text ∈ someText,
      ((Matcher.compile scannedConfig bareHost.palette).scan none text).toOption.isSome := by
    decide +kernel
  rintro m same text listed ⟨e, fails⟩
  obtain rfl := Option.some.inj (matcher.symm.trans same)
  have good := scans text listed
  rw [bare] at fails
  rw [fails] at good
  cases good

theorem looks_agree_reported :
    reported.Scannable (.number 1) someText ∧ ∃ whole t part v,
      (highlight (.number 1) someText 0).run.run reported = (.ok whole, t) ∧
        whole.keys = [0, 1, 2] ∧
      (highlight (.number 1) (someText.extract 1 3) 1).run.run t = (.ok part, v) ∧
      part = whole.filter fun line _ => LineRange.contains ⟨1, 3⟩ line := by
  obtain ⟨whole, t, done, -, agree⟩ := looks_agree reported (.number 1) someText scannable_reported
  obtain ⟨part, v, done', -, same⟩ := (agree t (.inr rfl)).1 1 3 (by decide) (by decide)
  refine ⟨scannable_reported, whole, t, part, v, done, ?_, done', same⟩
  have found : ((highlight (.number 1) someText 0).run.run reported).1.toOption.map (·.keys) =
      some [0, 1, 2] := by
    decide +kernel
  rw [done] at found
  exact Option.some.inj found

end Session
end ColorSpans
