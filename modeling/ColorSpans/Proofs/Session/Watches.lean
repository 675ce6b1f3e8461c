import ColorSpans.Proofs.Session.Accounts

/-! The watches of a session. The live watches on the board are those that the variables of its
buffers hold, each once, whatever the session went through. -/
namespace ColorSpans
open Stateful

def Buffer.watches (b : Buffer) : List Watch :=
  match b.table with
  | some v => v.watches.keys.map fun path => ⟨path, v.owner, true⟩
  | none => []

theorem Buffer.mem_watches {b : Buffer} {watch : Watch} : watch ∈ b.watches ↔
    ∃ x, b.holding? = some x ∧ watch.path ∈ x.watches ∧ watch = ⟨watch.path, x.owner, true⟩ := by
  rw [watches, holding?]
  cases b.table with
  | none => simp
  | some v =>
    simp only [List.mem_map, Std.ExtTreeMap.mem_keys, Option.map_some, Option.some.injEq,
      exists_eq_left']
    constructor
    · rintro ⟨path, there, rfl⟩
      exact ⟨there, rfl⟩
    · rintro ⟨there, same⟩
      exact ⟨_, there, same.symm⟩

namespace Session.Accounted

variable {s : Session}

theorem held?_eq_some_iff (h : s.Accounted) {id : BufferId} {x : Holding} :
    s.holdings.held? id = some x ↔ ∃ b, (id, b) ∈ s.buffers ∧ b.holding? = some x := by
  rw [held?_eq, Option.bind_eq_some_iff]
  simp only [mem_buffers_iff h.distinct]

theorem index_unique (h : s.Accounted) {watch : Watch} (live : watch.live = true) {i j : Nat}
    (first : s.world.board[i]? = some watch) (second : s.world.board[j]? = some watch) : i = j := by
  obtain ⟨path, owner, _⟩ := watch
  cases live
  obtain ⟨id, x, has, rfl⟩ := h.sound.owned first
  have holds := h.sound.holds has
  exact Option.some.inj (((holds path i).2 first).symm.trans ((holds path j).2 second))

theorem nodup_live (h : s.Accounted) : (s.world.board.filter Watch.live).Nodup := by
  rw [List.Nodup, List.pairwise_filter, List.pairwise_iff_getElem]
  intro i j hi hj before live _ same
  have there : s.world.board[j]? = some s.world.board[i] := by
    rw [List.getElem?_eq_getElem hj, same]
  exact Nat.ne_of_lt before (h.index_unique live (List.getElem?_eq_getElem hi) there)

theorem nodup_watches (h : s.Accounted) : (s.buffers.flatMap fun e => e.2.watches).Nodup := by
  rw [List.nodup_flatMap]
  constructor
  · intro e _
    unfold Buffer.watches
    split
    · refine List.Nodup.map (fun p q same => ?_) (Std.ExtTreeMap.nodup_keys)
      exact (Watch.mk.inj same).1
    · exact List.nodup_nil
  · -- Buffers that share a watch share its owner.
    have distinct : s.buffers.Pairwise fun e e' => e.1 ≠ e'.1 := List.pairwise_map.1 h.distinct
    refine distinct.imp_of_mem fun {e e'} listed listed' apart watch held held' => ?_
    obtain ⟨x, has, -, same⟩ := Buffer.mem_watches.1 held
    obtain ⟨x', has', -, same'⟩ := Buffer.mem_watches.1 held'
    have owner : x.owner = x'.owner := (Watch.mk.inj (same.symm.trans same')).2.1
    exact apart (h.sound.apart (h.held?_eq_some_iff.2 ⟨_, listed, has⟩)
      (h.held?_eq_some_iff.2 ⟨_, listed', has'⟩) owner)

theorem perm_watches (h : s.Accounted) :
    (s.world.board.filter Watch.live).Perm (s.buffers.flatMap fun e => e.2.watches) := by
  refine (List.perm_ext_iff_of_nodup h.nodup_live h.nodup_watches).2 fun watch => ?_
  rw [List.mem_filter, List.mem_flatMap]
  constructor
  · rintro ⟨there, live⟩
    obtain ⟨path, owner, _⟩ := watch
    cases live
    obtain ⟨i, registered⟩ := List.mem_iff_getElem?.1 there
    obtain ⟨id, x, has, rfl⟩ := h.sound.owned registered
    obtain ⟨b, listed, holding⟩ := h.held?_eq_some_iff.1 has
    have watched := (h.sound.holds has path i).2 registered
    have known : path ∈ x.watches := Std.ExtTreeMap.mem_iff_isSome_getElem?.2 (watched ▸ rfl)
    exact ⟨_, listed, Buffer.mem_watches.2 ⟨x, holding, known, rfl⟩⟩
  · rintro ⟨e, listed, held⟩
    obtain ⟨x, holding, watched, same⟩ := Buffer.mem_watches.1 held
    have has := h.held?_eq_some_iff.2 ⟨_, listed, holding⟩
    obtain ⟨i, found⟩ := Option.isSome_iff_exists.1
      (Std.ExtTreeMap.mem_iff_isSome_getElem?.1 watched)
    have registered := (h.sound.holds has _ i).1 found
    rw [← same] at registered
    exact ⟨List.mem_of_getElem? registered, by rw [same]⟩

theorem idle (h : s.Accounted) (none : ∀ id, s.holdings.held? id = none) :
    ∀ watch ∈ s.world.board, watch.live = false := by
  rintro ⟨path, owner, live⟩ there
  cases live with
  | false => rfl
  | true =>
    obtain ⟨i, registered⟩ := List.mem_iff_getElem?.1 there
    obtain ⟨id, x, has, -⟩ := h.sound.owned registered
    cases (none id).symm.trans has

end Session.Accounted

namespace Session

variable {s : Session}

theorem held?_close (s : Session) (id : BufferId) : s.close.holdings.held? id = none := by
  have gone (ids : List BufferId) (t : Session) : (ids.foldl detach t).holdings.held? id =
      if id ∈ ids then none else t.holdings.held? id := by
    induction ids generalizing t with
    | nil => simp
    | cons first ids ih =>
      rw [List.foldl_cons, ih, held?_detach]
      by_cases here : id = first <;> simp [here]
  rw [close, gone]
  split
  case isTrue => rfl
  case isFalse unknown => rw [held?_eq, (s.buffer?_eq_none_iff id).2 unknown, Option.bind_none]

theorem held?_setOptions {options : Options} {t : Session}
    (done : (setOptions options).run.run s = (.ok (), t)) (unused : t.config.usesVariables = false)
    (id : BufferId) : t.holdings.held? id = none := by
  obtain ⟨-, -, -, -, renewed⟩ := known?_setOptions done
  have undefined : t.definitions? id = none := by
    rw [definitions?_eq, renewed, Option.bind_map]
    refine Option.bind_eq_none_iff.2 fun k _ => ?_
    rw [Function.comp_apply, Session.renewed, Known.renew, unused]
    rfl
  rw [held?_eq]
  refine Option.bind_eq_none_iff.2 fun b there => ?_
  rw [definitions?, there, Option.bind_some] at undefined
  rw [Buffer.holding?, Option.map_eq_none_iff]
  exact Option.map_eq_none_iff.1 undefined

theorem modifyBuffer_self (distinct : s.ids.Nodup) {id : BufferId} {b : Buffer}
    (there : s.buffer? id = some b) {f : Buffer → Buffer} (same : f b = b) :
    s.modifyBuffer id f = s := by
  have kept : (s.buffers.map fun e => if e.1 = id then (e.1, f e.2) else e) = s.buffers := by
    conv_rhs => rw [← List.map_id s.buffers]
    refine List.map_congr_left fun e listed => ?_
    split
    case isTrue here =>
      have own : e.2 = b := Option.some.inj
        (((mem_buffers_iff distinct).1 listed).symm.trans (here ▸ there))
      rw [own, same, ← own]
      rfl
    case isFalse => rfl
  rw [modifyBuffer, kept]

theorem callWatch_unwatched (distinct : s.ids.Nodup) {watch : Watch}
    (unwatched : ∀ id b v, s.buffer? id = some b → b.table = some v → v.owner = watch.owner →
      watch.path ∉ v.watches) : (callWatch watch).run.run s = (.ok (), s) := by
  rw [callWatch, run_bind, run_get]
  dsimp only
  split
  case h_1 id path viewport v lines version pending external found =>
    have there := buffer?_of_ownerOf? distinct found
    have owner : v.owner = watch.owner := by simpa using List.find?_some found
    have other := unwatched id _ v there rfl owner
    have nothing : v.fileChanged s.world watch.path = (.ok false, v, s.world) := by
      rw [Sass.Variables.fileChanged, if_neg (mt Std.ExtTreeMap.contains_iff_mem.1 other)]
    simp only [nothing]
    have same : ({ s with world := s.world }.modifyBuffer id ({ · with table := some v })) = s :=
      modifyBuffer_self distinct there rfl
    rw [run_bind, run_set, same]
    rfl
  case h_2 => rfl

/-- Whatever happens to a session, the live watches are those that the variables of its buffers
have, each once. None is left of a buffer that is detached, nor of any once variables are turned
off, or the session is closed. A watch that calls for a file which its owner does not watch any more
changes nothing. -/
theorem live_watches {host : Host} {options : Options} (sole : Sole host options s) :
    (s.world.board.filter Watch.live).Perm (s.buffers.flatMap fun e => e.2.watches) ∧
    (∀ id b v, s.buffer? id = some b → b.table = some v →
      ∀ watch ∈ (s.detach id).world.board, watch.live = true → watch.owner ≠ v.owner) ∧
    (∀ options t, (setOptions options).run.run s = (.ok (), t) → t.config.usesVariables = false →
      ∀ watch ∈ t.world.board, watch.live = false) ∧
    (∀ watch ∈ s.close.world.board, watch.live = false) ∧
    ∀ watch : Watch, (∀ id b v, s.buffer? id = some b → b.table = some v → v.owner = watch.owner →
      watch.path ∉ v.watches) → (callWatch watch).run.run s = (.ok (), s) := by
  have h := sole.accounted
  refine ⟨h.perm_watches, fun id b v there table watch listed live same => ?_,
    fun options t done unused => ?_,
    h.close_session.idle s.held?_close, fun watch => callWatch_unwatched h.distinct⟩
  · obtain ⟨path, owner, _⟩ := watch
    cases live
    cases same
    obtain ⟨i, registered⟩ := List.mem_iff_getElem?.1 listed
    obtain ⟨other, x, has, owner⟩ := (h.detach id).sound.owned registered
    rw [held?_detach] at has
    split at has
    · cases has
    · exact absurd (h.sound.apart has (Accounted.holding there table) owner) ‹_›
  · have after := preserves_setOptions options s h
    rw [done] at after
    exact after.idle (held?_setOptions done unused)

/-! A buffer that imports a file, and is detached. -/

def importWorld : World :=
  ⟨⟨"/", (∅ : Std.ExtTreeMap String File).insert "/a.scss" ⟨1, ["$x: #112233;"]⟩, []⟩, [], []⟩

def importing : Session :=
  (Session.after { hexOpened with world := importWorld }
    (.attach (.number 1) (some "/main.scss"))).after
    (.updateVariables (.number 1) ["@import \"a\";"] .whole)

theorem live_watches_importing :
    importing.world.board = [⟨"/a.scss", 0, true⟩] ∧
    [⟨"/a.scss", 0, true⟩].Perm (importing.buffers.flatMap fun e => e.2.watches) ∧
    (importing.detach (.number 1)).world.board.filter Watch.live = [] := by
  have begun : Sole bareHost (hexOptions true) { hexOpened with world := importWorld } :=
    .start (by decide) rfl
  have sole : Sole bareHost (hexOptions true) importing :=
    (begun.step fun _ _ => Step.noConfusion).step fun _ _ => Step.noConfusion
  have gone : Sole bareHost (hexOptions true) (importing.detach (.number 1)) :=
    sole.step (a := .detach (.number 1)) fun _ _ => Step.noConfusion
  have board : importing.world.board = [⟨"/a.scss", 0, true⟩] := by decide +kernel
  have left : (importing.detach (.number 1)).buffers.length = 0 := by decide +kernel
  have first := (live_watches sole).1
  rw [board] at first
  refine ⟨board, first, ?_⟩
  have last := (live_watches gone).1
  rw [List.length_eq_zero_iff.1 left] at last
  exact last.eq_nil

end Session

end ColorSpans
