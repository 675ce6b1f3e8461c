import ColorSpans.Proofs.Outcome
import ColorSpans.Proofs.Sass.Anew
import ColorSpans.Proofs.Session.Arrivals

/-! What becomes of the variables of a session when its options change. New variables read what is
known of their buffer; variables that are there already only take the new matcher for later
reads. -/
namespace ColorSpans
open Stateful

/-- All that decides about the definitions of a buffer under new options. -/
structure Known where
  path : Option String
  lines : List String
  definitions? : Option Definitions

def Buffer.known (b : Buffer) : Known := ⟨b.path, b.lines, b.definitions?⟩

def Known.renew (k : Known) (uses : Bool) (disk : Disk) (matcher : Option Matcher) : Known :=
  { k with
    definitions? :=
      if uses then some (k.definitions?.getD (Sass.State.anew disk matcher k.path k.lines))
        else none }

theorem Known.renew_renew (k : Known) (uses : Bool) (disk : Disk) (matcher : Option Matcher) :
    (k.renew uses disk matcher).renew uses disk matcher = k.renew uses disk matcher := by
  cases uses <;> rfl

namespace Session

def known? (s : Session) (id : BufferId) : Option Known := (s.buffer? id).map Buffer.known

def renewed (s : Session) (k : Known) : Known :=
  k.renew s.config.usesVariables s.world.disk s.matcher

def settings (s : Session) : Host × Config × Option Matcher × Disk × List BufferId :=
  (s.host, s.config, s.matcher, s.world.disk, s.ids)

theorem known?_modifyBuffer (s : Session) {id : BufferId} {b : Buffer}
    (there : s.buffer? id = some b) (f : Buffer → Buffer) (other : BufferId) :
    (s.modifyBuffer id f).known? other = if other = id then some (f b).known
      else s.known? other := by
  rw [known?, buffer?_modifyBuffer]
  split
  case isTrue same => rw [same, there, Option.map_some, Option.map_some]
  case isFalse => rfl

theorem known?_modifyBuffer_same (s : Session) (id : BufferId) {f : Buffer → Buffer}
    (same : ∀ b, (f b).known = b.known) (other : BufferId) :
    (s.modifyBuffer id f).known? other = s.known? other := by
  rw [known?, known?, buffer?_modifyBuffer]
  split
  · rw [Option.map_map]
    exact congrArg (Option.map · _) (funext same)
  · rfl

theorem known?_of_buffers {s t : Session} (same : s.buffers = t.buffers) (id : BufferId) :
    s.known? id = t.known? id := by
  rw [known?, known?, buffer?, buffer?, same]

theorem settings_modifyBuffer (s : Session) (id : BufferId) (f : Buffer → Buffer) :
    (s.modifyBuffer id f).settings = s.settings := by
  rw [settings, settings, ids_modifyBuffer]
  rfl

theorem settings_closeVariables (s : Session) (b : Buffer) :
    (s.closeVariables b).settings = s.settings := by
  unfold closeVariables
  split <;> rfl

theorem settings_cancelPending (s : Session) (b : Buffer) :
    (s.cancelPending b).settings = s.settings := by
  unfold cancelPending
  split <;> rfl

theorem settings_eq_iff {s t : Session} : t.settings = s.settings ↔ t.host = s.host ∧
    t.config = s.config ∧ t.matcher = s.matcher ∧ t.world.disk = s.world.disk ∧ t.ids = s.ids := by
  simp only [settings, Prod.mk.injEq]

theorem renewed_of_settings {s t : Session} (same : t.settings = s.settings) :
    t.renewed = s.renewed := by
  obtain ⟨-, config, matcher, disk, -⟩ := settings_eq_iff.1 same
  funext k
  rw [renewed, renewed, config, matcher, disk]

variable {s t : Session} {id : BufferId}

theorem keeps_settings_updateTable (id : BufferId) (lines : List String)
    (range : Sass.Sheet.Range) :
    Keeps settings (updateTable id lines range) := by
  refine keeps_get_bind fun s => ?_
  split
  case h_1 path _ v _ _ _ _ there =>
    refine keepsFrom_set_bind ((settings_modifyBuffer _ id _).trans ?_)
      (keeps_bind (keeps_orFail _ _) (fun _ => keeps_pure _) _)
    have disk := Sass.State.disk_step ⟨v, s.world⟩ (a := .update path lines range) nofun
    simp only [settings, Prod.mk.injEq, true_and]
    exact ⟨disk, rfl⟩
  case h_2 => exact keeps_pure _ s

theorem keeps_settings_syncVariables (id : BufferId) : Keeps settings (syncVariables id) := by
  refine keeps_get_bind fun s => ?_
  split
  · split
    · exact keepsFrom_set ((settings_modifyBuffer _ id _).trans (s.settings_closeVariables _))
    · split
      · exact keepsFrom_set (s.settings_modifyBuffer id _)
      · refine keepsFrom_set_bind (settings_modifyBuffer _ id _) ?_
        split
        · exact keeps_pure _ _
        · exact keeps_bind (keeps_settings_updateTable _ _ _) (fun _ => keeps_pure _) _
  · exact keeps_pure _ s

theorem keeps_settings_refresh (id : BufferId) : Keeps settings (refresh id) := by
  refine keeps_get_bind fun s => ?_
  split
  · split
    · refine keepsFrom_set_bind ?_ (keeps_settings_syncVariables id _)
      exact (settings_modifyBuffer _ id _).trans (s.settings_cancelPending _)
    · exact keepsFrom_set_bind (s.settings_modifyBuffer id _) (keeps_settings_syncVariables id _)
  · exact keeps_pure _ s

theorem updateTable_ok {b : Buffer} {v : Sass.Variables} {lines : List String}
    {range : Sass.Sheet.Range} {found : Definitions} (there : s.buffer? id = some b)
    (table : b.table = some v) (done : (updateTable id lines range).run.run s = (.ok found, t)) :
    Sass.State.outcome ⟨v, s.world⟩ (.update b.path lines range) = .ok () ∧
      t = { s with world := (Sass.State.step ⟨v, s.world⟩ (.update b.path lines range)).world
        }.modifyBuffer id
        ({ · with table := some (Sass.State.step ⟨v, s.world⟩ (.update b.path lines range)).held
          }) := by
  obtain ⟨path, viewport, _, known, version, pending, external⟩ := b
  obtain rfl := table
  rw [updateTable, run_bind, run_get] at done
  simp only [there] at done
  obtain ⟨_, s', changed, rest⟩ := run_bind_eq_ok.1 done
  obtain ⟨_, s'', passed, ended⟩ := run_bind_eq_ok.1 rest
  obtain ⟨good, same⟩ := orFail_eq_ok.1 passed
  obtain ⟨-, last⟩ := Prod.mk.inj ended
  exact ⟨good, last.symm.trans (same.symm.trans (Prod.mk.inj changed).2.symm)⟩

theorem known?_updateTable {b : Buffer} {owner : Nat} {matcher : Option Matcher}
    {found : Definitions} (there : s.buffer? id = some b)
    (table : b.table = some (.new owner matcher))
    (done : (updateTable id b.lines .whole).run.run s = (.ok found, t)) (other : BufferId) :
    t.known? other = if other = id
      then some ⟨b.path, b.lines, some (Sass.State.anew s.world.disk matcher b.path b.lines)⟩
      else s.known? other := by
  obtain ⟨good, rfl⟩ := updateTable_ok there table done
  rw [known?_modifyBuffer
    { s with world := (Sass.State.step ⟨.new owner matcher, s.world⟩ _).world } there,
    ← Sass.State.definitions_eq_anew good]
  rfl

theorem known?_syncVariables (done : (syncVariables id).run.run s = (.ok (), t))
    (other : BufferId) :
    t.known? other = if other = id then (s.known? id).map s.renewed else s.known? other := by
  rw [syncVariables, run_bind, run_get] at done
  dsimp only at done
  cases there : s.buffer? id with
  | none =>
    rw [there] at done
    obtain ⟨-, rfl⟩ := Prod.mk.inj done
    split
    case isTrue same => simp [known?, same, there]
    case isFalse => rfl
  | some b =>
    rw [there] at done
    dsimp only at done
    have known : s.known? id = some b.known := by rw [known?, there, Option.map_some]
    rw [known, Option.map_some, renewed, Known.renew]
    split at done
    case isTrue unused =>
      obtain ⟨-, rfl⟩ := Prod.mk.inj done
      have again : (s.closeVariables b).buffer? id = some b := by
        rw [buffer?, buffers_closeVariables]
        exact there
      rw [known?_modifyBuffer _ again, known?_of_buffers (buffers_closeVariables s b)]
      rw [Bool.not_eq_true'] at unused
      simp [unused, Buffer.known, Buffer.definitions?]
    case isFalse used =>
      rw [Bool.not_eq_true', Bool.not_eq_false] at used
      split at done
      case h_1 v table =>
        obtain ⟨-, rfl⟩ := Prod.mk.inj done
        rw [known?_modifyBuffer _ there]
        simp [used, Buffer.known, Buffer.definitions?, table]
      case h_2 table =>
        obtain ⟨_, s', changed, rest⟩ := run_bind_eq_ok.1 done
        obtain rfl := (Prod.mk.inj changed).2
        split at rest
        case isTrue empty =>
          obtain ⟨-, rfl⟩ := Prod.mk.inj rest
          rw [known?_modifyBuffer { s with nextOwner := s.nextOwner + 1 } there]
          rw [List.isEmpty_iff] at empty
          simp only [used, Buffer.known, Buffer.definitions?, table, empty,
            Sass.State.anew_nil, if_true, Option.map_none, Option.getD_none, Option.map_some]
          rfl
        case isFalse full =>
          obtain ⟨found, s'', read, ended⟩ := run_bind_eq_ok.1 rest
          obtain ⟨-, rfl⟩ := Prod.mk.inj ended
          have begun := buffer?_modifyBuffer { s with nextOwner := s.nextOwner + 1 } id
            ({ · with table := some (.new s.nextOwner s.matcher) }) id
          rw [if_pos rfl, show Session.buffer? { s with nextOwner := s.nextOwner + 1 } id =
            some b from there, Option.map_some] at begun
          rw [known?_updateTable begun rfl read,
            known?_modifyBuffer { s with nextOwner := s.nextOwner + 1 } there]
          split
          case isTrue => simp [Buffer.known, Buffer.definitions?, table, modifyBuffer]
          case isFalse => rfl

theorem known?_refresh (done : (refresh id).run.run s = (.ok (), t)) (other : BufferId) :
    t.known? other = if other = id then (s.known? id).map s.renewed else s.known? other := by
  rw [refresh, run_bind, run_get] at done
  dsimp only at done
  cases there : s.buffer? id with
  | none =>
    rw [there] at done
    obtain ⟨-, rfl⟩ := Prod.mk.inj done
    split
    case isTrue same => simp [known?, same, there]
    case isFalse => rfl
  | some b =>
    rw [there] at done
    dsimp only at done
    -- Before its variables are dealt with, nothing that they depend on changes.
    have unchanged : ∃ s', (syncVariables id).run.run s' = (.ok (), t) ∧ s'.settings = s.settings ∧
        ∀ other, s'.known? other = s.known? other := by
      split at done
      · refine ⟨_, done, (settings_modifyBuffer _ id _).trans (s.settings_cancelPending b),
          fun other => ?_⟩
        refine (known?_modifyBuffer_same _ id (fun _ => ?_) other).trans ?_
        · rfl
        · exact known?_of_buffers (buffers_cancelPending s b) other
      · refine ⟨_, done, s.settings_modifyBuffer id _, known?_modifyBuffer_same s id fun _ => ?_⟩
        rfl
    obtain ⟨s', synced, settings, known⟩ := unchanged
    rw [known?_syncVariables synced, renewed_of_settings settings, known, known]

theorem known?_refreshAll {ids : List BufferId} (done : (ids.forM refresh).run.run s = (.ok (), t))
    (id : BufferId) : t.known? id = if id ∈ ids then (s.known? id).map s.renewed
    else s.known? id := by
  induction ids generalizing s with
  | nil =>
    obtain ⟨-, rfl⟩ := Prod.mk.inj done
    rw [if_neg List.not_mem_nil]
  | cons first ids ih =>
    obtain ⟨_, between, once, rest⟩ := run_bind_eq_ok.1 done
    have settings : between.settings = s.settings := by
      have kept := keeps_settings_refresh first s
      rwa [KeepsFrom, once] at kept
    rw [ih rest, known?_refresh once, renewed_of_settings settings]
    by_cases here : id = first
    · subst here
      rw [if_pos rfl, if_pos List.mem_cons_self, Option.map_map]
      split
      · refine congrArg (Option.map · _) (funext fun k => ?_)
        exact k.renew_renew _ _ _
      · rfl
    · simp only [List.mem_cons, here, false_or, if_false]

theorem known?_setOptions {options : Options}
    (done : (setOptions options).run.run s = (.ok (), t)) :
    s.host.config options = .ok t.config ∧ t.host = s.host ∧ t.world.disk = s.world.disk ∧
      t.matcher = Matcher.compile? t.config s.host.palette ∧
      ∀ id, t.known? id = (s.known? id).map t.renewed := by
  rw [setOptions, run_bind, run_get] at done
  dsimp only at done
  obtain ⟨config, s', found, rest⟩ := run_bind_eq_ok.1 done
  obtain ⟨good, rfl⟩ := orFail_eq_ok.1 found
  rw [run_bind, run_modify] at rest
  dsimp only at rest
  rw [run_bind, run_get] at rest
  dsimp only at rest
  have kept : t.settings =
      Session.settings { s with config, matcher := Matcher.compile? config s.host.palette } := by
    have kept := keeps_forM keeps_settings_refresh s.ids
      { s with config, matcher := Matcher.compile? config s.host.palette }
    rwa [KeepsFrom, show (s.ids.forM refresh).run.run _ = _ from rest] at kept
  obtain ⟨host, same, matcher, disk, -⟩ := settings_eq_iff.1 kept
  refine ⟨same ▸ good, host, disk, same ▸ matcher, fun id => ?_⟩
  rw [known?_refreshAll rest, ← renewed_of_settings kept]
  split
  case isTrue => rfl
  case isFalse unknown =>
    have gone : s.known? id = none := by
      rw [known?, (s.buffer?_eq_none_iff id).2 unknown, Option.map_none]
    rw [gone]
    exact gone

def definitions? (s : Session) (id : BufferId) : Option Definitions :=
  (s.buffer? id).bind Buffer.definitions?

theorem definitions?_eq (s : Session) (id : BufferId) :
    s.definitions? id = (s.known? id).bind Known.definitions? := by
  rw [definitions?, known?, Option.bind_map]
  rfl

/-- Options that are set twice leave a buffer with the definitions that the last ones alone leave it
with, exactly if the last ones use no variables, or the buffer had variables and they were kept in
between or say what new ones say, or it had none and those made in between, if any, say what new
ones say. The last options alone leave it with what their matcher reads, exactly if they use
variables and the buffer had none or its own say the same. -/
theorem definitions?_setOptions_twice {first last : Options} {s₁ s₂ : Session}
    (one : (setOptions first).run.run s = (.ok (), s₁))
    (two : (setOptions last).run.run s₁ = (.ok (), s₂))
    (alone : (setOptions last).run.run s = (.ok (), t)) {b : Buffer}
    (attached : s.buffer? id = some b) :
    (s₂.definitions? id = t.definitions? id ↔ (t.config.usesVariables = true →
      (∀ d, b.definitions? = some d → s₁.config.usesVariables = false →
        d = Sass.State.anew s.world.disk t.matcher b.path b.lines) ∧
      (b.definitions? = none → s₁.config.usesVariables = true →
        Sass.State.anew s.world.disk s₁.matcher b.path b.lines =
          Sass.State.anew s.world.disk t.matcher b.path b.lines))) ∧
    (t.definitions? id = some (Sass.State.anew s.world.disk t.matcher b.path b.lines) ↔
      t.config.usesVariables = true ∧ ∀ d, b.definitions? = some d →
        d = Sass.State.anew s.world.disk t.matcher b.path b.lines) := by
  obtain ⟨config₁, host, disk₁, -, renewed₁⟩ := known?_setOptions one
  obtain ⟨config₂, -, disk₂, matcher₂, renewed₂⟩ := known?_setOptions two
  obtain ⟨config, -, disk, matcher, renewed⟩ := known?_setOptions alone
  rw [host] at config₂ matcher₂
  have same : s₂.config = t.config := Except.ok.inj (config₂.symm.trans config)
  have known : s.known? id = some b.known := by rw [known?, attached, Option.map_some]
  have settled : s₂.renewed = t.renewed := by
    funext k
    rw [Session.renewed, Session.renewed, same, matcher₂, same, ← matcher, disk₂, disk₁, disk]
  have twice : s₂.definitions? id = (t.renewed (s₁.renewed b.known)).definitions? := by
    rw [definitions?_eq, renewed₂, renewed₁, known, Option.map_some, Option.map_some,
      Option.bind_some, settled]
  have once : t.definitions? id = (t.renewed b.known).definitions? := by
    rw [definitions?_eq, renewed, known, Option.map_some, Option.bind_some]
  rw [twice, once]
  simp only [Session.renewed, Known.renew, Buffer.known, disk₁, disk]
  cases t.config.usesVariables <;> cases s₁.config.usesVariables <;> cases b.definitions? <;>
    simp [eq_comm]

/-! A session that uses variables, and may recognize long hexadecimal literals. Its buffer declares
one. -/

def hexOptions (long : Bool) : Options :=
  [(Options.variablesOption, .bool true), ("RRGGBB", .bool long)]

def hexConfig : Config := ⟨false, ⟨false, true, false⟩, false, false, false, .off, true, none⟩

def hexOpened : Session :=
  ⟨bareHost, hexConfig, Matcher.compile? hexConfig bareHost.palette, false, bareWorld,
    [], 0, [], []⟩

def declare : Step := .updateVariables (.number 1) ["$c: #112233;"] .whole

def declaring : Session := hexOpened.after declare

def optioned (s : Session) (options : Options) : Session := ((setOptions options).run.run s).2

theorem setOptions_eq_ok {options : Options}
    (good : ((setOptions options).run.run s).1.toOption = some ()) :
    (setOptions options).run.run s = (.ok (), s.optioned options) :=
  Prod.ext (eq_ok_of_toOption good) rfl

theorem definitions?_setOptions_again :
    (setOptions (hexOptions true)).run.run declaring = (.ok (),
      declaring.optioned (hexOptions true)) ∧
    ((declaring.optioned (hexOptions true)).optioned (hexOptions true)).definitions? (.number 1) =
      (declaring.optioned (hexOptions true)).definitions? (.number 1) := by
  have one : ((setOptions (hexOptions true)).run.run declaring).1.toOption = some () := by
    decide +kernel
  have two :
      ((setOptions (hexOptions true)).run.run (declaring.optioned (hexOptions true))).1.toOption =
      some () := by decide +kernel
  have kept : (declaring.optioned (hexOptions true)).config.usesVariables = true := by
    decide +kernel
  have declared : (declaring.definitions? (.number 1)).isSome := by decide +kernel
  obtain ⟨d, defined⟩ := Option.isSome_iff_exists.1 declared
  obtain ⟨b, attached, defined⟩ := Option.bind_eq_some_iff.1 defined
  refine ⟨setOptions_eq_ok one,
    (definitions?_setOptions_twice (setOptions_eq_ok one) (setOptions_eq_ok two)
    (setOptions_eq_ok one) attached).1.2 fun _ => ⟨fun _ _ unused => ?_, fun none _ => ?_⟩⟩
  · exact absurd (kept.symm.trans unused) nofun
  · cases none.symm.trans defined

/-- The color that the buffer declares outlasts options that do not recognize it, unless variables
were not used in between. -/
theorem definitions?_setOptions_stale :
    (∃ since, Run bareHost (hexOptions true) bareWorld declaring since) ∧
    (setOptions []).run.run declaring = (.ok (), declaring.optioned []) ∧
    (setOptions (hexOptions false)).run.run (declaring.optioned []) =
      (.ok (), (declaring.optioned []).optioned (hexOptions false)) ∧
    (setOptions (hexOptions false)).run.run declaring = (.ok (),
      declaring.optioned (hexOptions false)) ∧
    ((declaring.optioned (hexOptions false)).definitions? (.number 1)).map (·.toList) =
      some [("c", "112233")] ∧
    (((declaring.optioned []).optioned (hexOptions false)).definitions? (.number 1)).map
      (·.toList) = some [] := by
  have run : Run bareHost (hexOptions true) bareWorld hexOpened fun _ => 0 := .start rfl
  refine ⟨⟨_, run.step declare⟩, setOptions_eq_ok ?_, setOptions_eq_ok ?_, setOptions_eq_ok ?_,
    ?_, ?_⟩ <;>
    decide +kernel

end Session

end ColorSpans
