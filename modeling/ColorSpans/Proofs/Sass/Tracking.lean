import ColorSpans.Proofs.Sass.Faithful
import ColorSpans.Proofs.Sass.Sweep

/-! Variables that track a disk. They hold the sheets that the buffer's own file leads to, and
definitions made of them; two that track one disk with nothing to be taken in look alike. -/
namespace ColorSpans.Sass

theorem Faithful.commit {src : Source} {pending : List String} {v : Variables} {s : Loaded}
    (h : Faithful src [] pending s) (rooted : v.root = some src.root) :
    Faithful src [] pending ((v.commit s).1.start (v.commit s).2) := by
  have mem : ∀ path, path ∈ (v.commit s).1.sheets ↔ path ∈ reachable s.sheets (some src.root) :=
    fun path => Variables.mem_sheets_commit rooted
  have kept : ∀ path sheet, (v.commit s).1.sheets[path]? = some sheet →
      path ∈ reachable s.sheets (some src.root) ∧ s.sheets[path]? = some sheet := by
    exact fun path sheet found =>
      ⟨(mem path).1 (mem_of_sheet found), Variables.of_sheets_commit found⟩
  have unswept : ∀ path, path ∉ v.swept s ↔ path ∈ s.sheets → path ∈ (v.commit s).1.sheets := by
    intro path
    rw [Variables.mem_swept, rooted, mem]
    exact not_and_not_right
  refine ⟨?_, ?_, ?_, ?_, ?_, ?_, ?_, ?_, ?_, ?_⟩
  · exact (v.disk_commit s).trans h.disk
  · exact fun path there => h.absolute path (mem_of_mem_reachable ((mem path).1 there))
  · exact (mem _).2 (root_mem_reachable h.root)
  · exact fun path none => absurd none List.not_mem_nil
  · exact fun path sheet found => h.tells path sheet (kept path sheet found).2
  · exact fun path sheet found => h.links path sheet (kept path sheet found).2
  · intro path sheet found idle q edge readable
    obtain ⟨there, found⟩ := kept path sheet found
    have target := isSome_edgesOf.2 (h.closed path sheet found idle q edge readable)
    exact (mem q).2 (mem_reachable_of_edge there
      ⟨sheet.edges, by rw [edgesOf, found]; rfl, edge, target⟩)
  · intro path
    show path ∈ (v.commit s).1.stamps ↔ path ∈ (v.commit s).1.sheets ∧ path ≠ src.root
    have there := h.stamped path
    rw [Std.ExtTreeMap.mem_iff_isSome_getElem?, v.getElem?_stamps_commit]
    rw [Std.ExtTreeMap.mem_iff_isSome_getElem?] at there
    have known : path ∈ (v.commit s).1.sheets → path ∈ s.sheets := fun there =>
      mem_of_mem_reachable ((mem path).1 there)
    have cases := unswept path
    split <;> grind
  · intro path
    have there := h.watched path
    show path ∈ (v.commit s).1.watches ↔ path ∈ (v.commit s).1.stamps
    rw [Std.ExtTreeMap.mem_iff_isSome_getElem?, Std.ExtTreeMap.mem_iff_isSome_getElem?] at there ⊢
    rw [v.getElem?_watches_commit, v.getElem?_stamps_commit]
    split
    · simp
    · exact there
  · intro path there other settled
    have idle := (unswept path).2 fun _ => there
    show (v.commit s).1.stamps[path]? = _
    rw [v.getElem?_stamps_commit, if_neg idle]
    exact h.current path (mem_of_mem_reachable ((mem path).1 there)) other settled

/-- How variables stand whose buffer has been given its lines. -/
structure Tracks (src : Source) (pending : List String) (v : Variables) (world : World) : Prop where
  matched : v.matcher = src.matcher
  rooted : v.root = some src.root
  faithful : Faithful src [] pending (v.start world)
  led : ∀ path ∈ v.sheets, (edgesOf v.sheets).Leads src.root path
  defined : v.definitions = resolveAll (mergeSheets v.sheets (reachable v.sheets (some src.root)))

theorem Faithful.tracks {src : Source} {pending : List String} {v : Variables} {s : Loaded}
    (h : Faithful src [] pending s) (matched : v.matcher = src.matcher)
    (rooted : v.root = some src.root) :
    Tracks src pending (v.commit s).1 (v.commit s).2 where
  matched := matched
  rooted := rooted
  faithful := h.commit rooted
  led _ there := Variables.leads_commit rooted there
  defined := Variables.definitions_commit rooted

theorem Tracks.weaken {src : Source} {pending more : List String} {v : Variables} {world : World}
    (h : Tracks src pending v world) (wider : ∀ path ∈ v.sheets, path ∈ pending → path ∈ more) :
    Tracks src more v world where
  matched := h.matched
  rooted := h.rooted
  faithful := h.faithful.weaken wider fun _ none => absurd none List.not_mem_nil
  led := h.led
  defined := h.defined

/-- What can be seen of variables from outside. -/
structure Alike (disk : Disk) (v v' : Variables) : Prop where
  definitions : v.definitions = v'.definitions
  files : ∀ path, path ∈ v.sheets ↔ path ∈ v'.sheets
  watched : ∀ path, path ∈ v.watches ↔ path ∈ v'.watches
  imports : ∀ path, v.importsOf disk path = v'.importsOf disk path
  declarations : ∀ path, v.declarationsOf disk path = v'.declarationsOf disk path

namespace Source

variable {src : Source} {importer path : String} {sheet : Sheet}

def Imports (src : Source) (importer path : String) : Prop :=
  ∃ lines sheet, src.lines? importer = some lines ∧ Sheet.read src.matcher lines = .ok sheet ∧
    path ∈ src.edgesOf importer sheet ∧ (src.lines? path).isSome = true

def Leads (src : Source) : String → Prop := Relation.ReflTransGen src.Imports src.root

def isForeign (src : Source) (path : String) : Bool :=
  path != src.root && (src.disk.stamp? path).isSome

theorem isForeign_of_readable (readable : (src.lines? path).isSome = true)
    (other : path ≠ src.root) :
    src.isForeign path = true := by
  rw [lines?_of_ne other] at readable
  simp [isForeign, other, isSome_stamp?_of_lines? readable]

theorem Tells.imports_iff (tells : src.Tells importer sheet) :
    src.Imports importer path ↔ path ∈ src.edgesOf importer sheet ∧
      (src.lines? path).isSome = true := by
  obtain ⟨lines, fresh, found, read, _, same⟩ := tells
  rw [edgesOf_congr same]
  constructor
  · rintro ⟨lines', fresh', found', read', rest⟩
    obtain rfl := Option.some.inj (found.symm.trans found')
    obtain rfl := Except.ok.inj (read.symm.trans read')
    exact rest
  · exact fun rest => ⟨lines, fresh, found, read, rest⟩

end Source

/-- Variables hold what the buffer's own file leads to, and of other files that these are watched
and when they changed last. An edge back to the buffer's own file may be there or not, as one to a
file that is missing. -/
structure Mirrors (src : Source) (v : Variables) : Prop where
  led : ∀ path, path ∈ v.sheets ↔ src.Leads path
  tells : ∀ path sheet, v.sheets[path]? = some sheet → src.Tells path sheet
  links : ∀ path sheet, v.sheets[path]? = some sheet →
    sheet.edges.filter src.isForeign = (src.edgesOf path sheet).filter src.isForeign
  stamps : ∀ path,
    v.stamps[path]? = if path ∈ v.sheets ∧ path ≠ src.root then src.disk.stamp? path else none
  watched : ∀ path, path ∈ v.watches ↔ path ∈ v.sheets ∧ path ≠ src.root
  defined : v.definitions = resolveAll (mergeSheets v.sheets (reachable v.sheets (some src.root)))

namespace Mirrors

variable {src : Source} {v v' : Variables} {path : String}

theorem files_alike (h : Mirrors src v) (h' : Mirrors src v') (path : String) :
    path ∈ v.sheets ↔ path ∈ v'.sheets := (h.led path).trans (h'.led path).symm

theorem absent_iff (h : Mirrors src v) (h' : Mirrors src v') (path : String) :
    v.sheets[path]? = none ↔ v'.sheets[path]? = none := by
  have same := h.files_alike h' path
  rw [Std.ExtTreeMap.mem_iff_isSome_getElem?, Std.ExtTreeMap.mem_iff_isSome_getElem?] at same
  rw [← Option.not_isSome_iff_eq_none, ← Option.not_isSome_iff_eq_none, same]

theorem sheets_alike (h : Mirrors src v) (h' : Mirrors src v') {sheet sheet' : Sheet}
    (found : v.sheets[path]? = some sheet) (found' : v'.sheets[path]? = some sheet') :
    sheet.declarations = sheet'.declarations ∧
      sheet.edges.filter src.isForeign = sheet'.edges.filter src.isForeign := by
  have same := (h.tells path sheet found).unique (h'.tells path sheet' found')
  exact ⟨same.1,
    by rw [h.links path sheet found, h'.links path sheet' found', Source.edgesOf_congr same.2]⟩

theorem stamps_alike (h : Mirrors src v) (h' : Mirrors src v') (path : String) :
    v.stamps[path]? = v'.stamps[path]? := by simp only [h.stamps, h'.stamps, h.files_alike h']

theorem isForeign (h : Mirrors src v) (there : path ∈ v.sheets) (other : path ≠ src.root) :
    src.isForeign path = true := by
  obtain ⟨sheet, found⟩ := exists_sheet there
  exact Source.isForeign_of_readable (h.tells path sheet found).readable other

theorem filterMap_edges (h : Mirrors src v) (edges : List String) :
    (edges.filterMap fun edge => v.stamps[edge]?.map fun stamp => (edge, stamp)) =
      (edges.filter src.isForeign).filterMap fun edge =>
        v.stamps[edge]?.map fun stamp => (edge, stamp) := by
  rw [List.filterMap_filter]
  refine List.filterMap_congr fun edge _ => ?_
  split
  · rfl
  · rename_i missing
    rw [h.stamps, if_neg fun both => missing (h.isForeign both.1 both.2)]
    rfl

theorem trim_without (h : Mirrors src v) (path : String) :
    (edgesOf v.sheets).trim.without src.root path = v.sheets[path]?.map fun sheet =>
      (sheet.edges.filter src.isForeign).filter fun q => v.sheets.contains q := by
  simp only [Graph.without, Graph.trim, edgesOf, Option.map_map]
  refine Option.map_congr fun sheet _ => ?_
  simp only [Function.comp_apply, List.filter_filter]
  refine List.filter_congr fun q _ => ?_
  rw [Option.isSome_map, Std.ExtTreeMap.isSome_getElem?_eq_contains]
  by_cases there : q ∈ v.sheets
  · by_cases own : q = src.root
    · simp [own, Source.isForeign]
    · simp [own, there, h.isForeign there own]
  · rw [Bool.eq_false_iff.2 (mt Std.ExtTreeMap.contains_iff_mem.1 there), Bool.and_false,
      Bool.false_and]

theorem definitions_alike (h : Mirrors src v) (h' : Mirrors src v') :
    v.definitions = v'.definitions := by
  have order : reachable v.sheets (some src.root) = reachable v'.sheets (some src.root) := by
    refine @reachable_congr_below _ _ _ (fun _ => True) (fun path _ => ?_)
      (fun _ _ _ _ => trivial) trivial
    rw [h.trim_without, h'.trim_without]
    cases found : v.sheets[path]? with
    | none => rw [(h.absent_iff h' path).1 found, Option.map_none, Option.map_none]
    | some sheet =>
      obtain ⟨sheet', found'⟩ := exists_sheet ((h.files_alike h' path).1 (mem_of_sheet found))
      rw [found', Option.map_some, Option.map_some, (h.sheets_alike h' found found').2]
      refine congrArg some (List.filter_congr fun q _ => ?_)
      rw [Bool.eq_iff_iff, Std.ExtTreeMap.contains_iff_mem, Std.ExtTreeMap.contains_iff_mem]
      exact h.files_alike h' q
  rw [h.defined, h'.defined, order]
  refine congrArg resolveAll (mergeSheets_congr fun path there => ?_)
  obtain ⟨sheet', found'⟩ := exists_sheet (mem_of_mem_reachable there)
  obtain ⟨sheet, found⟩ := exists_sheet ((h.files_alike h' path).2 (mem_of_sheet found'))
  rw [found, found', Option.map_some, Option.map_some, Sheet.flatten, Sheet.flatten,
    (h.sheets_alike h' found found').1]

theorem alike (h : Mirrors src v) (h' : Mirrors src v') (disk : Disk) : Alike disk v v' := by
  refine ⟨h.definitions_alike h', h.files_alike h', fun path => ?_, fun path => ?_, fun path => ?_⟩
  · rw [h.watched, h'.watched, h.files_alike h']
  · simp only [Variables.importsOf, Variables.sheetAt]
    cases found : v.sheets[Variables.keyOf disk path]? with
    | none => rw [(h.absent_iff h' _).1 found]
    | some sheet =>
      obtain ⟨sheet', found'⟩ := exists_sheet ((h.files_alike h' _).1 (mem_of_sheet found))
      rw [found']
      dsimp only
      rw [h.filterMap_edges, h'.filterMap_edges, (h.sheets_alike h' found found').2]
      simp only [h.stamps_alike h']
  · simp only [Variables.declarationsOf, Variables.sheetAt]
    cases found : v.sheets[Variables.keyOf disk path]? with
    | none => rw [(h.absent_iff h' _).1 found]
    | some sheet =>
      obtain ⟨sheet', found'⟩ := exists_sheet ((h.files_alike h' _).1 (mem_of_sheet found))
      rw [found']
      simp only [Option.map_some, Option.getD_some, Sheet.flatten,
        (h.sheets_alike h' found found').1]

end Mirrors

namespace Tracks

variable {src : Source} {v v' : Variables} {world world' : World}

theorem tells (h : Tracks src [] v world) {path : String} {sheet : Sheet}
    (found : v.sheets[path]? = some sheet) : src.Tells path sheet :=
  h.faithful.tells path sheet found List.not_mem_nil

theorem links (h : Tracks src [] v world) {path : String} {sheet : Sheet}
    (found : v.sheets[path]? = some sheet) : src.Links path sheet :=
  h.faithful.links path sheet found List.not_mem_nil List.not_mem_nil

theorem mem_sheets_iff (h : Tracks src [] v world) (path : String) :
    path ∈ v.sheets ↔ src.Leads path := by
  constructor
  · intro there
    have leads := h.led path there
    clear there
    induction leads with
    | refl => exact .refl
    | @tail a b _ edge ih =>
      obtain ⟨edges, node, target, there⟩ := edge
      obtain ⟨sheet, found, rfl⟩ := Option.map_eq_some_iff.1 node
      obtain ⟨own, foundOwn⟩ := exists_sheet (isSome_edgesOf.1 there)
      have readable := (h.tells foundOwn).readable
      refine ih.tail ((h.tells found).imports_iff.2 ⟨?_, readable⟩)
      rw [← show _ = _ from h.links found]
      exact List.mem_filter.2 ⟨target, Source.isLinked_of_readable readable⟩
  · intro leads
    induction leads with
    | refl => exact h.faithful.root
    | @tail a b _ imports ih =>
      obtain ⟨sheet, found⟩ := exists_sheet ih
      obtain ⟨edge, readable⟩ := (h.tells found).imports_iff.1 imports
      rw [← show _ = _ from h.links found] at edge
      exact h.faithful.closed a sheet found List.not_mem_nil b (List.mem_filter.1 edge).1 readable

theorem mirrors (h : Tracks src [] v world) : Mirrors src v where
  led := h.mem_sheets_iff
  tells _ _ found := h.tells found
  links path sheet found := by
    rw [← show _ = _ from h.links found, List.filter_filter]
    refine List.filter_congr fun q _ => ?_
    simp only [Source.isForeign, Source.isLinked]
    cases (src.disk.stamp? q).isSome <;> simp
  stamps path := by
    split
    · rename_i there
      exact h.faithful.current path there.1 there.2 List.not_mem_nil
    · rename_i gone
      have absent := mt (h.faithful.stamped path).1 gone
      rwa [Std.ExtTreeMap.mem_iff_isSome_getElem?, Option.not_isSome_iff_eq_none] at absent
  watched path := (h.faithful.watched path).trans (h.faithful.stamped path)
  defined := h.defined

theorem alike (h : Tracks src [] v world) (h' : Tracks src [] v' world') (disk : Disk) :
    Alike disk v v' := h.mirrors.alike h'.mirrors disk

end Tracks

end ColorSpans.Sass
