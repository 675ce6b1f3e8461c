import ColorSpans.Proofs.HostNames

/-! Caches whose keys are compared by value. What they give back is as good as new, exactly if host
names that are compared equal always have the same colors. -/
namespace ColorSpans

namespace LruCache

variable {κ α : Type} {same : κ → κ → Bool} {cache cache' : LruCache κ α} {key : κ} {value : α}
  {entry : κ × α}

theorem of_find?_eq_some (hit : cache.find? same key = some (value, cache')) :
    (∃ kept, (kept, value) ∈ cache.entries ∧ same kept key = true) ∧
      ∀ entry ∈ cache'.entries, entry ∈ cache.entries := by
  obtain ⟨⟨kept, held⟩, found, equal⟩ := Option.map_eq_some_iff.1 hit
  obtain ⟨rfl, rfl⟩ := Prod.mk.inj equal
  have there := List.mem_of_find?_eq_some found
  have matched : same kept key = true := by simpa using List.find?_some found
  refine ⟨⟨kept, there, matched⟩, ?_⟩
  intro entry member
  rcases List.mem_cons.1 member with rfl | rest
  · exact there
  · exact List.mem_of_mem_eraseP rest

theorem of_mem_add (there : entry ∈ (cache.add key value).entries) :
    entry = (key, value) ∨ entry ∈ cache.entries :=
  List.mem_cons.1 (List.mem_of_mem_take there)

end LruCache

def Matcher.withHostNames (m : Matcher) (hostNames : Option HostNames) : Matcher :=
  { m with config := { m.config with hostNames } }

namespace Matcher

variable {m m' : Matcher} {definitions : Option Definitions}

theorem scanFrom_congr {line : List Char}
    (same : ∀ column, m.readAt definitions line column = m'.readAt definitions line column)
    (column : Nat) : m.scanFrom definitions line column = m'.scanFrom definitions line column := by
  induction column using scanFrom.induct line with
  | case1 column inside next behind =>
    rw [scanFrom, if_pos inside, scanFrom.eq_def m', if_pos inside, same]
    cases m'.readAt definitions line column with
    | error e => rfl
    | ok found =>
      cases found with
      | none => exact next
      | some r => simp only [bind, Except.bind, behind r]
  | case2 column outside => rw [scanFrom, if_neg outside, scanFrom.eq_def m', if_neg outside]

theorem scan_withHostNames (hostNames : Option HostNames) (line : String) :
    (m.withHostNames hostNames).scan definitions line = m.scan definitions line := by
  have same (column : Nat) : (m.withHostNames hostNames).readAt definitions line.toList column =
      m.readAt definitions line.toList column := rfl
  exact scanFrom_congr same 0

end Matcher

theorem Config.eq_of_isSame {a b : Config} (same : a.isSame b = true) :
    b = { a with hostNames := b.hostNames } ∧ sameHostNames a.hostNames b.hostNames = true := by
  simp only [Config.isSame, Bool.and_eq_true, beq_iff_eq] at same
  obtain ⟨⟨⟨⟨⟨⟨⟨names, lengths⟩, argb⟩, rgb⟩, hsl⟩, mode⟩, uses⟩, host⟩ := same
  refine ⟨?_, host⟩
  cases a
  cases b
  simp_all

/-- Host names that are compared equal have the same colors. -/
def HostNames.Agree (allowed : HostNames → Prop) : Prop :=
  ∀ named named', allowed named → allowed named' → HostNames.isSame named named' = true →
    NameTable.addHostNames {} ∅ named = NameTable.addHostNames {} ∅ named'

def HostNames.Within (allowed : HostNames → Prop) : Option HostNames → Prop
  | none => True
  | some named => named = [] ∨ allowed named

/-- Both are there and read the same from every line, or neither is. -/
def Matcher.Alike : Option Matcher → Option Matcher → Prop
  | some m, some m' => ∀ definitions line, m.scan definitions line = m'.scan definitions line
  | none, none => True
  | _, _ => False

theorem HostNames.Agree.orEmpty {allowed : HostNames → Prop} (agree : HostNames.Agree allowed) :
    HostNames.Agree fun named => named = [] ∨ allowed named := by
  intro named named' uses uses' same
  have length : named.length = named'.length := beq_iff_eq.1 (Bool.and_eq_true_iff.1 same).1
  rcases uses with rfl | allows
  · rw [List.length_eq_zero_iff.1 length.symm]
  · rcases uses' with rfl | allows'
    · rw [List.length_eq_zero_iff.1 length]
    · exact agree named named' allows allows' same

section

variable {allowed : HostNames → Prop} (agree : HostNames.Agree allowed) (palette : Palette)

include agree

theorem NameRequest.table_eq_of_isSame {a b : NameRequest}
    (uses : HostNames.Within allowed a.hostNames) (uses' : HostNames.Within allowed b.hostNames)
    (same : a.isSame b = true) : a.table palette = b.table palette := by
  obtain ⟨mode, host⟩ := Bool.and_eq_true_iff.1 same
  rw [NameRequest.table, NameRequest.table, beq_iff_eq.1 mode]
  generalize a.hostNames = hostNames at uses host
  generalize b.hostNames = hostNames' at uses' host
  cases hostNames with
  | none =>
    cases hostNames' with
    | none => rfl
    | some named' => cases host
  | some named =>
    cases hostNames' with
    | none => cases host
    | some named' =>
      unfold NameTable.build
      rw [Option.getD_some, Option.getD_some, agree.orEmpty named named' uses uses' host]

theorem Matcher.alike_of_isSame {a b : Config} (uses : HostNames.Within allowed a.hostNames)
    (uses' : HostNames.Within allowed b.hostNames)
    (same : a.isSame b = true) : Alike (compile? a palette) (compile? b palette) := by
  obtain ⟨rest, host⟩ := Config.eq_of_isSame same
  generalize b.hostNames = hostNames at rest host
  subst rest
  have tables : ({ a with hostNames } : Config).nameRequest.map (·.table palette) =
      a.nameRequest.map (·.table palette) := by
    unfold Config.nameRequest
    split
    · have equal : NameRequest.isSame ⟨a.paletteNames, a.hostNames⟩ ⟨a.paletteNames, hostNames⟩ =
          true :=
        Bool.and_eq_true_iff.2 ⟨beq_self_eq_true _, host⟩
      exact congrArg some (NameRequest.table_eq_of_isSame agree palette uses uses' equal).symm
    · rfl
  have compiled : compile { a with hostNames } palette =
      (compile a palette).withHostNames hostNames := by
    rw [compile, compileWith, tables]
    rfl
  rw [compile?, compile?, compiled]
  by_cases enabled : a.isEnabled = true
  · rw [if_pos enabled, if_pos (show ({ a with hostNames } : Config).isEnabled = true from enabled)]
    intro definitions line
    exact (scan_withHostNames hostNames line).symm
  · rw [if_neg enabled,
      if_neg (show ¬({ a with hostNames } : Config).isEnabled = true from enabled)]
    trivial

end

inductive CacheCall
  | table (request : NameRequest)
  | matcher (config : Config)
  | clearTables
  | clearMatchers

def CacheCall.Uses (allowed : HostNames → Prop) : CacheCall → Prop
  | table request => HostNames.Within allowed request.hostNames
  | matcher config => HostNames.Within allowed config.hostNames
  | clearTables | clearMatchers => True

namespace MatcherCache

def after (palette : Palette) (c : MatcherCache) : CacheCall → MatcherCache
  | .table request => (c.getTable palette request).2
  | .matcher config => (c.get palette config).2
  | .clearTables => c.clearTables
  | .clearMatchers => c.clear

def run (palette : Palette) (c : MatcherCache) (calls : List CacheCall) : MatcherCache :=
  calls.foldl (after palette) c

structure Sound (c : MatcherCache) (allowed : HostNames → Prop) (palette : Palette) : Prop where
  tables : ∀ entry ∈ c.tables.entries.entries, HostNames.Within allowed entry.1.hostNames ∧
    entry.2.2 = entry.1.table palette
  matchers : ∀ entry ∈ c.entries.entries, HostNames.Within allowed entry.1.hostNames ∧
    entry.2.map Prod.snd = Matcher.compile? entry.1 palette

variable {allowed : HostNames → Prop} {palette : Palette} {c : MatcherCache}

theorem sound_new (allowed : HostNames → Prop) (palette : Palette) : new.Sound allowed palette :=
  ⟨fun _ none => absurd none List.not_mem_nil, fun _ none => absurd none List.not_mem_nil⟩

section

variable (agree : HostNames.Agree allowed)

include agree

theorem Sound.getTable (h : c.Sound allowed palette) {request : NameRequest}
    (uses : HostNames.Within allowed request.hostNames) :
    (c.getTable palette request).1.2 = request.table palette ∧
      (c.getTable palette request).2.Sound allowed palette := by
  unfold MatcherCache.getTable TableCache.get
  cases hit : c.tables.entries.find? NameRequest.isSame request with
  | none =>
    refine ⟨rfl, fun entry there => ?_, h.matchers⟩
    rcases LruCache.of_mem_add there with rfl | before
    · exact ⟨uses, rfl⟩
    · exact h.tables entry before
  | some found =>
    obtain ⟨value, entries⟩ := found
    obtain ⟨⟨kept, held, same⟩, fewer⟩ := LruCache.of_find?_eq_some hit
    obtain ⟨used, made⟩ := h.tables (kept, value) held
    refine ⟨?_, fun entry there => h.tables entry (fewer entry there), h.matchers⟩
    exact made.trans (NameRequest.table_eq_of_isSame agree palette used uses same)

theorem Sound.compile (h : c.Sound allowed palette) {config : Config}
    (uses : HostNames.Within allowed config.hostNames) :
    (c.compile palette config).1 = Matcher.compile config palette ∧
      (c.compile palette config).2.Sound allowed palette := by
  unfold MatcherCache.compile Matcher.compile Matcher.compileWith
  cases asked : config.nameRequest with
  | none => exact ⟨rfl, h⟩
  | some request =>
    have used : HostNames.Within allowed request.hostNames := by
      unfold Config.nameRequest at asked
      split at asked
      · obtain rfl := Option.some.inj asked
        exact uses
      · split at asked
        · obtain rfl := Option.some.inj asked
          exact .inl rfl
        · cases asked
    obtain ⟨table, sound⟩ := h.getTable agree used
    exact ⟨congrArg (fun table => Matcher.ofTable .double config (some table)) table, sound⟩

theorem Sound.get (h : c.Sound allowed palette) {config : Config}
    (uses : HostNames.Within allowed config.hostNames) :
    Matcher.Alike ((c.get palette config).1.map Prod.snd) (Matcher.compile? config palette) ∧
      (c.get palette config).2.Sound allowed palette := by
  unfold MatcherCache.get
  cases hit : c.entries.find? Config.isSame config with
  | some found =>
    obtain ⟨value, entries⟩ := found
    obtain ⟨⟨kept, held, same⟩, fewer⟩ := LruCache.of_find?_eq_some hit
    obtain ⟨used, made⟩ := h.matchers (kept, value) held
    refine ⟨?_, h.tables, fun entry there => h.matchers entry (fewer entry there)⟩
    rw [show value.map Prod.snd = _ from made]
    exact Matcher.alike_of_isSame agree palette used uses same
  | none =>
    have fresh : Matcher.compile? config palette =
        if config.isEnabled then some (Matcher.compile config palette) else none := rfl
    by_cases enabled : config.isEnabled = true
    · obtain ⟨compiled, sound⟩ := h.compile agree uses
      rw [if_pos enabled] at fresh
      dsimp only
      rw [if_pos enabled, fresh]
      refine ⟨fun _ _ => by rw [compiled], sound.tables, fun entry there => ?_⟩
      rcases LruCache.of_mem_add there with rfl | before
      · exact ⟨uses, (congrArg some compiled).trans fresh.symm⟩
      · exact sound.matchers entry before
    · rw [if_neg enabled] at fresh
      dsimp only
      rw [if_neg enabled, fresh]
      refine ⟨trivial, h.tables, fun entry there => ?_⟩
      rcases LruCache.of_mem_add there with rfl | before
      · exact ⟨uses, fresh.symm⟩
      · exact h.matchers entry before

theorem Sound.after (h : c.Sound allowed palette) {call : CacheCall} (uses : call.Uses allowed) :
    (c.after palette call).Sound allowed palette := by
  cases call with
  | table request => exact (h.getTable agree uses).2
  | matcher config => exact (h.get agree uses).2
  | clearTables => exact ⟨fun _ none => absurd none List.not_mem_nil, h.matchers⟩
  | clearMatchers => exact ⟨h.tables, fun _ none => absurd none List.not_mem_nil⟩

theorem Sound.run (h : c.Sound allowed palette) {calls : List CacheCall}
    (uses : ∀ call ∈ calls, call.Uses allowed) : (c.run palette calls).Sound allowed palette := by
  induction calls generalizing c with
  | nil => exact h
  | cons call calls ih =>
    apply ih (h.after agree (uses call List.mem_cons_self))
    intro later there
    exact uses later (List.mem_cons_of_mem call there)

end

/-- After any calls, whatever they have hit or missed, a table that is given back has the colors of
one made afresh, and a matcher scans as one compiled afresh. -/
def Transparent (palette : Palette) (allowed : HostNames → Prop) : Prop :=
  ∀ calls : List CacheCall, (∀ call ∈ calls, call.Uses allowed) →
    (∀ request : NameRequest, HostNames.Within allowed request.hostNames →
      ((new.run palette calls).getTable palette request).1.2.colors =
        (request.table palette).colors) ∧
    ∀ config : Config, HostNames.Within allowed config.hostNames →
      Matcher.Alike (((new.run palette calls).get palette config).1.map Prod.snd)
        (Matcher.compile? config palette)

theorem transparent_of_agree (agree : HostNames.Agree allowed) (palette : Palette) :
    Transparent palette allowed := by
  intro calls uses
  have sound := (sound_new allowed palette).run agree uses
  exact ⟨fun request within => congrArg NameTable.colors (sound.getTable agree within).1,
    fun config within => (sound.get agree within).1⟩

theorem Transparent.agree (transparent : Transparent palette allowed) :
    HostNames.Agree allowed := by
  intro named named' allows allows' same
  have first : (CacheCall.table ⟨false, some named⟩).Uses allowed := .inr allows
  have hit :
      ((new.run palette [.table ⟨false, some named⟩]).getTable palette ⟨false, some named'⟩).1.2 =
      NameRequest.table ⟨false, some named⟩ palette := by
    have equal : NameRequest.isSame ⟨false, some named⟩ ⟨false, some named'⟩ = true := same
    simp [run, MatcherCache.after, MatcherCache.getTable, TableCache.get, new, TableCache.new,
      LruCache.find?, LruCache.empty, LruCache.add, equal]
  have colors := (transparent [.table ⟨false, some named⟩] (by simpa using first)).1
    ⟨false, some named'⟩
    (.inr allows')
  rw [hit] at colors
  exact colors

/-- The caches do not show, exactly if host names that are compared equal have the same colors.
Plain ones have, as long as what is a truth value in one is no number in another. -/
theorem transparent_iff (palette : Palette) (allowed : HostNames → Prop) :
    (Transparent palette allowed ↔ HostNames.Agree allowed) ∧
      ((∀ named, allowed named → HostNames.IsPlain named) →
        (∀ named named', allowed named → allowed named' → HostNames.isSame named named' = true →
          HostNames.AgreeOnTruth named named') → Transparent palette allowed) := by
  refine ⟨⟨Transparent.agree, fun agree => transparent_of_agree agree palette⟩,
    fun plain truth => ?_⟩
  apply transparent_of_agree
  intro named named' allows allows' same
  apply HostNames.addHostNames_perm (plain named allows)
  exact HostNames.perm_of_isSame (plain named allows) (plain named' allows')
    (truth named named' allows allows' same)
    same

def namedColors : HostNames :=
  [("Red", .int 0xff0000), ("sky", .str "#9cf"), ("RED", .int 0xff0000)]

theorem transparent_reversed : HostNames.isSame namedColors namedColors.reverse = true ∧
    Transparent ⟨["bg"], [("red-500", "#ef4444")]⟩ fun named =>
      named = namedColors ∨ named = namedColors.reverse := by
  have plain (named : HostNames) (allows : named = namedColors ∨ named = namedColors.reverse) :
      HostNames.IsPlain named := by
    rcases allows with rfl | rfl
    · exact ⟨by decide +kernel, by decide +kernel, by decide +kernel⟩
    · exact ⟨by decide +kernel, by decide +kernel, by decide +kernel⟩
  have numbers (named : HostNames) (allows : named = namedColors ∨ named = namedColors.reverse) :
      ∀ entry ∈ named, entry.2.isTruth = false := by
    rcases allows with rfl | rfl <;> decide +kernel
  refine ⟨by decide +kernel, (transparent_iff _ _).2 plain ?_⟩
  intro named named' allows allows' _ entry there other there' _
  rw [numbers named allows entry there, numbers named' allows' other there']

/-- A truth value gets the color of the number that it is compared equal to, though it has none. -/
theorem not_transparent_truth : ¬Transparent ⟨[], []⟩ HostNames.IsPlain := by
  intro transparent
  have number : HostNames.IsPlain [("x", .int 1)] :=
    ⟨by decide +kernel, by decide, by decide +kernel⟩
  have truth : HostNames.IsPlain [("x", .bool true)] :=
    ⟨by decide +kernel, by decide, by decide +kernel⟩
  have colors := transparent.agree _ _ number truth (by decide +kernel)
  have found : (NameTable.addHostNames {} ∅ [("x", .int 1)])["x"]? = some "000001" := by
    decide +kernel
  rw [colors] at found
  exact absurd found (by decide +kernel)

end MatcherCache

end ColorSpans
