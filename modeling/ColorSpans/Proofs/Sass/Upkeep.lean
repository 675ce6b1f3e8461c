import ColorSpans.Proofs.Sass.Reading
import ColorSpans.Proofs.Sass.Steps
import ColorSpans.Proofs.Sass.Tracking

/-! Upkeep. Variables that take in one change after another look as if they had just been made from
the last lines of their buffer on the disk as it is now. -/
namespace ColorSpans

namespace Sass

theorem Source.Tells.numbered {src : Source} {path : String} {sheet : Sheet}
    (tells : src.Tells path sheet) :
    sheet.Numbered := by
  obtain ⟨_, _, _, read, declarations, imports⟩ := tells
  exact Sheet.numbered_of_read read declarations imports

namespace Variables

variable {v : Variables} {key : String}

theorem sheetsWithoutOldRoot_eq (same : v.root = none ∨ v.root = some key) :
    v.sheetsWithoutOldRoot key = v.sheets := by
  rcases same with none | some
  · simp [sheetsWithoutOldRoot, none]
  · simp [sheetsWithoutOldRoot, some]

theorem rereadSheet_whole {lines : List String} {sheet : Sheet}
    (numbered : ∀ sheet, (v.sheetsWithoutOldRoot key)[key]? = some sheet → sheet.Numbered) :
    v.rereadSheet key lines .whole = .ok sheet ↔ Sheet.read v.matcher lines = .ok sheet := by
  have old : (((v.sheetsWithoutOldRoot key)[key]?).getD .empty).erase .whole = .empty := by
    refine Sheet.erase_whole ?_
    cases found : (v.sheetsWithoutOldRoot key)[key]? with
    | none => exact Sheet.numbered_empty
    | some sheet => exact numbered sheet found
  have same : v.rereadSheet key lines .whole = (Sheet.read v.matcher lines).mapError .numeral := by
    rw [rereadSheet, old]
    rfl
  rw [same]
  cases Sheet.read v.matcher lines <;> simp [Except.mapError]

end Variables

namespace Faithful

variable {src : Source} {s : Loaded} {sheet : Sheet}

theorem single (disk : s.world.disk = src.disk) (absolute : Path.isAbsolute src.root = true)
    (tells : src.Tells src.root sheet) (sheets : s.sheets = (∅ : Sheets).insert src.root sheet)
    (stamps : s.stamps = ∅) (watches : s.watches = ∅) : Faithful src [src.root] [] s := by
  have only : ∀ path, path ∈ s.sheets ↔ src.root = path := by
    intro path
    rw [sheets, Std.ExtTreeMap.mem_insert, Std.LawfulEqCmp.compare_eq_iff_eq]
    simp
  have own : ∀ path other, s.sheets[path]? = some other → path = src.root ∧ other = sheet := by
    intro path other found
    obtain rfl := (only path).1 (mem_of_sheet found)
    rw [sheets, Std.ExtTreeMap.getElem?_insert_self, Option.some.injEq] at found
    exact ⟨rfl, found.symm⟩
  refine ⟨disk, ?_, (only _).2 rfl, ?_, ?_, ?_, ?_, ?_, ?_, ?_⟩
  · exact fun path there => (only path).1 there ▸ absolute
  · intro path there
    rw [List.mem_singleton] at there
    exact ⟨(only path).2 there.symm, List.not_mem_nil⟩
  · intro path other found _
    obtain ⟨rfl, rfl⟩ := own path other found
    exact tells
  · intro path other found idle
    exact absurd (List.mem_singleton.2 (own path other found).1) idle
  · intro path other found idle
    exact absurd (List.mem_singleton.2 (own path other found).1) idle
  · intro path
    simp [stamps, only, eq_comm]
  · intro path
    simp [stamps, watches]
  · exact fun path there other => absurd ((only path).1 there).symm other

theorem reread (h : Faithful src [] [] s) {lines : List String}
    (tells : { src with own := lines : Source }.Tells src.root sheet) :
    Faithful { src with own := lines } [src.root] []
      { s with sheets := s.sheets.insert src.root sheet } := by
  have mem : ∀ path, path ∈ s.sheets.insert src.root sheet ↔ path ∈ s.sheets := by
    intro path
    rw [Std.ExtTreeMap.mem_insert, Std.LawfulEqCmp.compare_eq_iff_eq]
    exact ⟨fun there => there.elim (fun same => same ▸ h.root) id, .inr⟩
  have others : ∀ path other, (s.sheets.insert src.root sheet)[path]? = some other →
      path ≠ src.root →
      s.sheets[path]? = some other := by
    intro path other found ne
    rwa [Std.ExtTreeMap.getElem?_insert, if_neg (by simp [ne.symm])] at found
  refine ⟨h.disk, ?_, (mem _).2 h.root, ?_, ?_, ?_, ?_, ?_, h.watched, ?_⟩
  · exact fun path there => h.absolute path ((mem path).1 there)
  · intro path there
    rw [List.mem_singleton] at there
    exact ⟨(mem path).2 (there ▸ h.root), List.not_mem_nil⟩
  · intro path other found settled
    by_cases own : path = src.root
    · subst own
      rw [Std.ExtTreeMap.getElem?_insert_self, Option.some.injEq] at found
      exact found ▸ tells
    · obtain ⟨text, fresh, there, rest⟩ := h.tells path other (others path other found own) settled
      exact ⟨text, fresh, by simpa [Source.lines?, own] using there, rest⟩
  · intro path other found idle settled
    have ne : path ≠ src.root := fun own => idle (List.mem_singleton.2 own)
    exact h.links path other (others path other found ne) List.not_mem_nil settled
  · intro path other found idle q edge readable
    have ne : path ≠ src.root := fun own => idle (List.mem_singleton.2 own)
    refine (mem q).2 ?_
    by_cases own : q = src.root
    · exact own ▸ h.root
    · have readable : (src.lines? q).isSome = true := by simpa [Source.lines?, own] using readable
      exact h.closed path other (others path other found ne) List.not_mem_nil q edge readable
  · exact fun path => (h.stamped path).trans (and_congr_left' (mem path).symm)
  · exact fun path there => h.current path ((mem path).1 there)

end Faithful

namespace State

variable {s : State} {path : String}

theorem tracks_of_update (src : Source)
    (named : Variables.keyOf s.world.disk (some path) = src.root)
    (matched : s.held.matcher = src.matcher) (consistent : src.disk.IsConsistent)
    (ready : ∀ sheet, s.held.rereadSheet src.root src.own .whole = .ok sheet →
      Faithful src [src.root] [] (s.held.startRoot s.world src.root sheet))
    (done : s.outcome (.update (some path) src.own .whole) = .ok ()) :
    Tracks src [] (s.step (.update (some path) src.own .whole)).held
      (s.step (.update (some path) src.own .whole)).world := by
  have move := s.moves (.update (some path) src.own .whole)
  rw [done] at move
  generalize s.step (.update (some path) src.own .whole) = t at move
  cases move with
  | updated named' good course =>
    obtain rfl := named'.symm.trans named
    obtain ⟨_, inv⟩ := course.faithful rfl matched consistent ⟨rfl, ready _ good⟩ rfl
    exact Faithful.tracks (v := s.held.setRoot src.root) inv matched rfl

theorem update_succeeds (src : Source) (named : Variables.keyOf s.world.disk (some path) = src.root)
    (matched : s.held.matcher = src.matcher) (consistent : src.disk.IsConsistent)
    (ready : ∀ sheet, s.held.rereadSheet src.root src.own .whole = .ok sheet →
      Faithful src [src.root] [] (s.held.startRoot s.world src.root sheet)) {sheet : Sheet}
    (good : s.held.rereadSheet src.root src.own .whole = .ok sheet) {inside : String → Prop}
    (sound : src.Sound inside) (own : inside src.root) :
    s.outcome (.update (some path) src.own .whole) = .ok () := by
  have move := s.moves (.update (some path) src.own .whole)
  generalize s.step (.update (some path) src.own .whole) = t at move
  generalize s.outcome (.update (some path) src.own .whole) = outcome at move
  cases move with
  | unread bad =>
    rw [named, good] at bad
    cases bad
  | unloaded named' good' course =>
    obtain rfl := named'.symm.trans named
    have first : (Task.imports src.root).Ready src [] [src.root] _ := ⟨rfl, ready _ good'⟩
    obtain ⟨_, ended⟩ := course.succeeds rfl matched consistent sound first own
    cases ended
  | updated => rfl

theorem step_fire_unwatched (unwatched : path ∉ s.held.watches) : s.step (.fire path) = s := by
  have other : s.held.watches.contains path ≠ true := mt Std.ExtTreeMap.contains_iff_mem.1 unwatched
  rw [step, after, Variables.fileChanged, if_neg other]

theorem tracks_of_fire {src : Source} {pending : List String}
    (h : Tracks src pending s.held s.world)
    (consistent : src.disk.IsConsistent) (apart : src.root ∉ pending)
    (done : s.outcome (.fire path) = .ok ()) :
    Tracks src (pending.filter fun other =>
      other != path && (s.step (.fire path)).held.watches.contains other)
      (s.step (.fire path)).held (s.step (.fire path)).world := by
  have disk : s.world.disk = src.disk := h.faithful.disk
  have other : path ∈ s.held.watches → path ∈ s.held.sheets ∧ path ≠ src.root := fun watched =>
    (h.faithful.stamped path).1 ((h.faithful.watched path).1 watched)
  have taken : ∀ {t : Loaded}, Faithful src [] (pending.filter (· != path)) t →
      Tracks src (pending.filter fun other =>
        other != path && (s.held.commit t).1.watches.contains other)
        (s.held.commit t).1 (s.held.commit t).2 := by
    intro t inv
    have tracks := inv.tracks h.matched h.rooted
    refine tracks.weaken fun q there out => ?_
    obtain ⟨out, ne⟩ := List.mem_filter.1 out
    have watched := tracks.faithful.mem_watches there fun own => apart (own ▸ out)
    exact List.mem_filter.2 ⟨out,
      Bool.and_eq_true_iff.2 ⟨ne, Std.ExtTreeMap.contains_iff_mem.2 watched⟩⟩
  have move := s.moves (.fire path)
  rw [done] at move
  generalize s.step (.fire path) = t at move ⊢
  cases move with
  | unwatched unknown =>
    refine h.weaken fun q there out => ?_
    have watched := h.faithful.mem_watches there fun own => apart (own ▸ out)
    have ne : q ≠ path := fun same => unknown (same ▸ watched)
    exact List.mem_filter.2 ⟨out, Bool.and_eq_true_iff.2 ⟨bne_iff_ne.2 ne,
      Std.ExtTreeMap.contains_iff_mem.2 watched⟩⟩
  | gone watched missing =>
    refine taken (h.faithful.drop fun readable => ?_)
    rw [Source.lines?_of_ne (other watched).2, ← disk] at readable
    simpa [missing] using Source.isSome_stamp?_of_lines? readable
  | reloaded watched there course =>
    obtain ⟨known, ne⟩ := other watched
    have ready : (Task.file path _).Ready src pending [path] (s.held.start s.world) :=
      ⟨rfl, ne, h.faithful.absolute path known, disk ▸ there, h.faithful⟩
    exact taken (course.faithful h.rooted h.matched consistent ready rfl).2.1

end State

theorem Source.Links.revise {src : Source} {disk : Disk} {path : String} {sheet : Sheet}
    (links : src.Links path sheet) (revises : src.disk.Revises disk) :
    { src with disk : Source }.Links path sheet := by
  have fewer : ∀ edges : List String, edges.filter { src with disk : Source }.isLinked =
      (edges.filter src.isLinked).filter { src with disk : Source }.isLinked := by
    intro edges
    rw [List.filter_filter]
    refine List.filter_congr fun q _ => ?_
    by_cases own : q = src.root
    · simp [Source.isLinked, own]
    · by_cases there : (disk.stamp? q).isSome = true
      · simp [Source.isLinked, there, revises.isSome_stamp? there]
      · simp [Source.isLinked, own, there]
  have real : (sheet.candidates path).map disk.real = (sheet.candidates path).map src.disk.real :=
    List.map_congr_left fun candidate _ => revises.real_eq candidate
  rw [Source.Links, fewer, show sheet.edges.filter src.isLinked = _ from links, Source.edgesOf,
    filter_foldl_addEdge, ← fewer, Source.edgesOf, real]
  rfl

theorem Tracks.revise {src : Source} {pending : List String} {v : Variables} {world world' : World}
    (h : Tracks src pending v world) (revises : src.disk.Revises world'.disk)
    (apart : src.root ∉ pending) :
    Tracks { src with disk := world'.disk }
      (v.watches.keys.filter fun path =>
        pending.contains path || src.disk.files[path]? != world'.disk.files[path]?) v world' := by
  have settled : ∀ path ∈ v.sheets, path ∉ (v.watches.keys.filter fun path =>
      pending.contains path || src.disk.files[path]? != world'.disk.files[path]?) →
      path ∉ pending ∧ (path ≠ src.root → world'.disk.files[path]? = src.disk.files[path]?) := by
    intro path there out
    by_cases own : path = src.root
    · exact ⟨own ▸ apart, fun ne => absurd own ne⟩
    · have watched := Std.ExtTreeMap.mem_keys.2 (h.faithful.mem_watches there own)
      have same := mt (fun changed => List.mem_filter.2 ⟨watched, changed⟩) out
      simp only [Bool.or_eq_true, not_or, bne_iff_ne, ne_eq, not_not, List.contains_eq_mem,
        decide_eq_true_eq] at same
      exact ⟨same.1, fun _ => same.2.symm⟩
  have lines : ∀ path, (path ≠ src.root → world'.disk.files[path]? = src.disk.files[path]?) →
      { src with disk := world'.disk : Source }.lines? path = src.lines? path := by
    intro path same
    by_cases own : path = src.root
    · simp [Source.lines?, own]
    · simp only [Source.lines?, own, if_false]
      exact revises.lines?_eq (same own)
  refine ⟨h.matched, h.rooted, ?_, h.led, h.defined⟩
  refine ⟨rfl, h.faithful.absolute, h.faithful.root, ?_, ?_, ?_, ?_, h.faithful.stamped,
    h.faithful.watched, ?_⟩
  · exact fun path none => absurd none List.not_mem_nil
  · intro path sheet found out
    obtain ⟨known, same⟩ := settled path (mem_of_sheet found) out
    obtain ⟨text, fresh, there, rest⟩ := h.faithful.tells path sheet found known
    exact ⟨text, fresh, (lines path same).trans there, rest⟩
  · intro path sheet found idle out
    obtain ⟨known, _⟩ := settled path (mem_of_sheet found) out
    exact Source.Links.revise (h.faithful.links path sheet found idle known) revises
  · intro path sheet found idle q edge readable
    refine h.faithful.closed path sheet found idle q edge ?_
    by_cases own : q = src.root
    · simp [Source.lines?, own]
    · simp only [Source.lines?, own, if_false] at readable ⊢
      exact revises.isSome_lines? readable
  · intro path there other out
    obtain ⟨known, same⟩ := settled path there out
    rw [show (v.start world').stamps[path]? = _ from h.faithful.current path there other known]
    simp only [Disk.stamp?, same other]

end Sass

end ColorSpans
