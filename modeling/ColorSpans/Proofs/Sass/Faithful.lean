import ColorSpans.Proofs.Disk
import ColorSpans.Proofs.Sass.Course

/-! Sheets that are faithful to a disk. Loading keeps them so: a sheet that was read tells what its
file tells, its edges lead where its imports lead, and whatever they lead to is loaded if it can be
read. -/
namespace ColorSpans

namespace Sass

theorem mem_addEdge {edges : List String} {path q : String} :
    q ∈ addEdge edges path ↔ q ∈ edges ∨ q = path := by
  by_cases known : path ∈ edges
  · have same : addEdge edges path = edges := by simp [addEdge, known]
    rw [same]
    exact ⟨Or.inl, fun h => h.elim id fun same => same ▸ known⟩
  · simp [addEdge, known]

theorem mem_foldl_addEdge {paths edges : List String} {q : String} :
    q ∈ paths.foldl addEdge edges ↔ q ∈ edges ∨ q ∈ paths := by
  induction paths generalizing edges with
  | nil => simp
  | cons path paths ih => rw [List.foldl_cons, ih, mem_addEdge, List.mem_cons, or_assoc]

theorem filter_addEdge (p : String → Bool) (edges : List String) (path : String) :
    (addEdge edges path).filter p =
      if p path then addEdge (edges.filter p) path else edges.filter p := by
  by_cases known : path ∈ edges <;> by_cases kept : p path = true <;>
    simp [addEdge, known, kept, List.filter_append]

theorem filter_foldl_addEdge (p : String → Bool) (paths edges : List String) :
    (paths.foldl addEdge edges).filter p = (paths.filter p).foldl addEdge (edges.filter p) := by
  induction paths generalizing edges with
  | nil => rfl
  | cons path paths ih =>
    rw [List.foldl_cons, ih, filter_addEdge]
    by_cases kept : p path = true <;> simp [kept]

/-- A disk with a way to read its lines, and the buffer's own file with the lines of the buffer. -/
structure Source where
  disk : Disk
  matcher : Option Matcher
  root : String
  own : List String

namespace Source

variable (src : Source)

/-- The lines of the buffer's own file are those of the buffer. -/
def lines? (path : String) : Option (List String) :=
  if path = src.root then some src.own else src.disk.lines? path

/-- An edge is kept if it leads to the buffer's own file or to one that is there. -/
def isLinked (path : String) : Bool := path == src.root || (src.disk.stamp? path).isSome

def edgesOf (importer : String) (sheet : Sheet) : List String :=
  (((sheet.candidates importer).map src.disk.real).filter src.isLinked).foldl addEdge []

def Tells (path : String) (sheet : Sheet) : Prop :=
  ∃ lines fresh, src.lines? path = some lines ∧ Sheet.read src.matcher lines = .ok fresh ∧
    sheet.declarations = fresh.declarations ∧ sheet.imports = fresh.imports

def Links (path : String) (sheet : Sheet) : Prop :=
  sheet.edges.filter src.isLinked = src.edgesOf path sheet

def Sound (inside : String → Prop) : Prop :=
  ∀ path, inside path → ∃ lines fresh, src.lines? path = some lines ∧
    Sheet.read src.matcher lines = .ok fresh ∧
    ∀ q ∈ src.edgesOf path fresh, (src.lines? q).isSome = true → inside q

variable {src} {path : String} {sheet : Sheet}

theorem lines?_root : src.lines? src.root = some src.own := if_pos rfl

theorem lines?_of_ne (other : path ≠ src.root) : src.lines? path = src.disk.lines? path :=
  if_neg other

theorem ne_root (lost : (src.lines? path).isSome ≠ true) : path ≠ src.root := by
  rintro rfl
  exact lost (by rw [lines?_root]; rfl)

theorem isSome_stamp?_of_lines? {disk : Disk} (readable : (disk.lines? path).isSome = true) :
    (disk.stamp? path).isSome = true := by
  obtain ⟨lines, found⟩ := Option.isSome_iff_exists.1 readable
  have there := Std.ExtTreeMap.mem_iff_isSome_getElem?.1 (Loader.mem_files_of_lines? found)
  rwa [Disk.stamp?, Option.isSome_map]

theorem isLinked_of_readable (readable : (src.lines? path).isSome = true) :
    src.isLinked path = true := by
  by_cases own : path = src.root
  · simp [isLinked, own]
  · rw [lines?_of_ne own] at readable
    simp [isLinked, isSome_stamp?_of_lines? readable]

theorem Tells.readable (tells : src.Tells path sheet) : (src.lines? path).isSome = true := by
  obtain ⟨lines, _, found, _⟩ := tells
  simp [found]

theorem candidates_congr {other : Sheet} (same : sheet.imports = other.imports)
    (importer : String) :
    sheet.candidates importer = other.candidates importer := by
  rw [Sheet.candidates, Sheet.candidates, Sheet.targets, Sheet.targets, same]

theorem edgesOf_congr {other : Sheet} (same : sheet.imports = other.imports) (importer : String) :
    src.edgesOf importer sheet = src.edgesOf importer other := by
  rw [edgesOf, edgesOf, candidates_congr same]

theorem mem_edgesOf {importer q : String} :
    q ∈ src.edgesOf importer sheet ↔
      (∃ candidate ∈ sheet.candidates importer, src.disk.real candidate = q) ∧
        src.isLinked q = true := by
  simp [edgesOf, mem_foldl_addEdge]

theorem Tells.unique {other : Sheet} (tells : src.Tells path sheet)
    (tells' : src.Tells path other) :
    sheet.declarations = other.declarations ∧ sheet.imports = other.imports := by
  obtain ⟨lines, fresh, found, read, declarations, imports⟩ := tells
  obtain ⟨lines', fresh', found', read', declarations', imports'⟩ := tells'
  obtain rfl : lines = lines' := Option.some.inj (found.symm.trans found')
  obtain rfl : fresh = fresh' := Except.ok.inj (read.symm.trans read')
  exact ⟨declarations.trans declarations'.symm, imports.trans imports'.symm⟩

end Source

/-- Sheets that agree with a source, but for files whose imports are being followed and files whose
last change is still to be taken in. -/
structure Faithful (src : Source) (busy pending : List String) (s : Loaded) : Prop where
  disk : s.world.disk = src.disk
  absolute : ∀ path ∈ s.sheets, Path.isAbsolute path = true
  root : src.root ∈ s.sheets
  followed : ∀ path ∈ busy, path ∈ s.sheets ∧ path ∉ pending
  tells : ∀ path sheet, s.sheets[path]? = some sheet → path ∉ pending → src.Tells path sheet
  links : ∀ path sheet, s.sheets[path]? = some sheet → path ∉ busy → path ∉ pending →
    src.Links path sheet
  closed : ∀ path sheet, s.sheets[path]? = some sheet → path ∉ busy →
    ∀ q ∈ sheet.edges, (src.lines? q).isSome = true → q ∈ s.sheets
  stamped : ∀ path, path ∈ s.stamps ↔ path ∈ s.sheets ∧ path ≠ src.root
  watched : ∀ path, path ∈ s.watches ↔ path ∈ s.stamps
  current : ∀ path ∈ s.sheets, path ≠ src.root → path ∉ pending →
    s.stamps[path]? = src.disk.stamp? path

namespace Faithful

variable {src : Source} {busy pending : List String} {s : Loaded} {path : String}

theorem noteRead (h : Faithful src busy pending s) (path : String) :
    Faithful src busy pending (s.noteRead path) :=
    ⟨h.disk, h.absolute, h.root, h.followed, h.tells, h.links,
  h.closed, h.stamped, h.watched, h.current⟩

theorem weaken (h : Faithful src busy pending s) {more : List String}
    (wider : ∀ path ∈ s.sheets, path ∈ pending → path ∈ more) (apart : ∀ path ∈ busy, path ∉ more) :
    Faithful src busy more s := by
  have settled : ∀ path ∈ s.sheets, path ∉ more → path ∉ pending := fun path there =>
    mt (wider path there)
  refine ⟨h.disk, h.absolute, h.root, ?_, ?_, ?_, h.closed, h.stamped, h.watched, ?_⟩
  · exact fun path there => ⟨(h.followed path there).1, apart path there⟩
  · exact fun path sheet found out =>
      h.tells path sheet found (settled path (mem_of_sheet found) out)
  · exact fun path sheet found idle out =>
      h.links path sheet found idle (settled path (mem_of_sheet found) out)
  · exact fun path there other out => h.current path there other (settled path there out)

theorem mem_watches (h : Faithful src busy pending s) (there : path ∈ s.sheets)
    (other : path ≠ src.root) :
    path ∈ s.watches :=
  (h.watched path).2 ((h.stamped path).2 ⟨there, other⟩)

theorem drop (h : Faithful src busy pending s) (lost : (src.lines? path).isSome ≠ true) :
    Faithful src busy (pending.filter (· != path)) (s.drop path) := by
  have idle : path ∉ busy := by
    intro there
    obtain ⟨known, settled⟩ := h.followed path there
    obtain ⟨sheet, found⟩ := exists_sheet known
    exact lost (h.tells path sheet found settled).readable
  have settled : ∀ q, q ≠ path → q ∉ pending.filter (· != path) → q ∉ pending := by
    intro q ne out there
    exact out (List.mem_filter.2 ⟨there, bne_iff_ne.2 ne⟩)
  have mem := s.mem_sheets_drop path
  have kept {q : String} {sheet : Sheet} (found : (s.drop path).sheets[q]? = some sheet) :
      q ≠ path ∧ s.sheets[q]? = some sheet := Loaded.of_sheets_drop found
  refine ⟨?_, ?_, ?_, ?_, ?_, ?_, ?_, ?_, ?_, ?_⟩
  · rw [Loaded.disk_drop, h.disk]
  · exact fun q there => h.absolute q ((mem q).1 there).2
  · exact (mem _).2 ⟨(Source.ne_root lost).symm, h.root⟩
  · intro q there
    have ne : q ≠ path := fun same => idle (same ▸ there)
    exact ⟨(mem q).2 ⟨ne, (h.followed q there).1⟩,
      fun out => (h.followed q there).2 (List.mem_filter.1 out).1⟩
  · intro q sheet found out
    exact h.tells q sheet (kept found).2 (settled q (kept found).1 out)
  · intro q sheet found rests out
    exact h.links q sheet (kept found).2 rests (settled q (kept found).1 out)
  · intro q sheet found rests target edge readable
    have ne : target ≠ path := fun same => lost (same ▸ readable)
    exact (mem _).2 ⟨ne, h.closed q sheet (kept found).2 rests target edge readable⟩
  · intro q
    rw [Loaded.stamps_drop, Std.ExtTreeMap.mem_erase, Ne, Std.LawfulEqCmp.compare_eq_iff_eq,
      eq_comm, mem,
      h.stamped, and_assoc]
  · intro q
    rw [Loaded.watches_drop, Loaded.stamps_drop, Std.ExtTreeMap.mem_erase, Std.ExtTreeMap.mem_erase,
      h.watched]
  · intro q there ne out
    obtain ⟨apart, there⟩ := (mem q).1 there
    rw [Loaded.stamps_drop, Std.ExtTreeMap.getElem?_erase, if_neg (by simp [apart.symm])]
    exact h.current q there ne (settled q apart out)

theorem take (h : Faithful src busy pending s) (owner : Nat) {stamp : Int} {lines : List String}
    {sheet : Sheet} (other : path ≠ src.root) (absolute : Path.isAbsolute path = true)
    (there : src.disk.stamp? path = some stamp) (found : src.disk.lines? path = some lines)
    (read : Sheet.read src.matcher lines = .ok sheet) :
    Faithful src (path :: busy) (pending.filter (· != path)) (s.take owner path stamp sheet) := by
  have settled : ∀ q, q ≠ path → q ∉ pending.filter (· != path) → q ∉ pending := by
    intro q ne out known
    exact out (List.mem_filter.2 ⟨known, bne_iff_ne.2 ne⟩)
  have own : src.Tells path sheet := by
    rw [← Source.lines?_of_ne other] at found
    exact ⟨lines, sheet, found, read, rfl, rfl⟩
  have kept {q : String} {old : Sheet}
      (known : (s.take owner path stamp sheet).sheets[q]? = some old)
      (ne : q ≠ path) : s.sheets[q]? = some old :=
    ((Loaded.of_sheets_take known).resolve_left fun this => ne this.1).2
  have mem := s.mem_sheets_take owner path stamp sheet
  refine ⟨?_, ?_, ?_, ?_, ?_, ?_, ?_, ?_, ?_, ?_⟩
  · rw [Loaded.disk_take, h.disk]
  · intro q known
    rcases (mem q).1 known with rfl | known
    · exact absolute
    · exact h.absolute q known
  · exact (mem _).2 (.inr h.root)
  · intro q known
    rcases List.mem_cons.1 known with rfl | known
    · exact ⟨(mem q).2 (.inl rfl), by simp⟩
    · exact ⟨(mem q).2 (.inr (h.followed q known).1),
        fun out => (h.followed q known).2 (List.mem_filter.1 out).1⟩
  · intro q old known out
    rcases Loaded.of_sheets_take known with ⟨rfl, rfl⟩ | ⟨ne, known⟩
    · exact own
    · exact h.tells q old known (settled q ne out)
  · intro q old known rests out
    obtain ⟨same, rests⟩ := not_or.1 (mt List.mem_cons.2 rests)
    exact h.links q old (kept known same) rests (settled q same out)
  · intro q old known rests target edge readable
    obtain ⟨same, rests⟩ := not_or.1 (mt List.mem_cons.2 rests)
    exact (mem _).2 (.inr (h.closed q old (kept known same) rests target edge readable))
  · intro q
    rw [Loaded.stamps_take, Std.ExtTreeMap.mem_insert, mem, h.stamped]
    simp only [Std.LawfulEqCmp.compare_eq_iff_eq]
    constructor
    · rintro (rfl | ⟨known, ne⟩)
      · exact ⟨.inl rfl, other⟩
      · exact ⟨.inr known, ne⟩
    · rintro ⟨rfl | known, ne⟩
      · exact .inl rfl
      · exact .inr ⟨known, ne⟩
  · intro q
    rw [Loaded.mem_watches_take, Loaded.stamps_take, Std.ExtTreeMap.mem_insert, h.watched,
      Std.LawfulEqCmp.compare_eq_iff_eq]
  · intro q known ne out
    rw [Loaded.getElem?_stamps_take]
    split
    case isTrue same => rw [← same, there]
    case isFalse apart =>
      exact h.current q (((mem q).1 known).resolve_left apart) ne (settled q (Ne.symm apart) out)

theorem link {importer : String} (h : Faithful src (importer :: busy) pending s) {sheet : Sheet}
    {edges : List String} (found : s.sheets[importer]? = some sheet)
    (links : edges.filter src.isLinked = src.edgesOf importer sheet)
    (closed : ∀ q ∈ edges, (src.lines? q).isSome = true → q ∈ s.sheets) :
    Faithful src busy pending (s.link importer sheet edges) := by
  have known : importer ∈ s.sheets := (h.followed importer List.mem_cons_self).1
  have mem := Loaded.mem_sheets_link known sheet edges
  refine ⟨h.disk, ?_, ?_, ?_, ?_, ?_, ?_, ?_, h.watched, ?_⟩
  · exact fun q there => h.absolute q ((mem q).1 there)
  · exact (mem _).2 h.root
  · intro q there
    obtain ⟨there, settled⟩ := h.followed q (List.mem_cons_of_mem _ there)
    exact ⟨(mem q).2 there, settled⟩
  · intro q new there settled
    rcases Loaded.of_sheets_link there with ⟨rfl, rfl⟩ | ⟨_, there⟩
    · exact h.tells q sheet found settled
    · exact h.tells q new there settled
  · intro q new there rests settled
    rcases Loaded.of_sheets_link there with ⟨rfl, rfl⟩ | ⟨ne, there⟩
    · exact links
    · exact h.links q new there (by simp [ne, rests]) settled
  · intro q new there rests target edge readable
    rcases Loaded.of_sheets_link there with ⟨rfl, rfl⟩ | ⟨ne, there⟩
    · exact (mem _).2 (closed target edge readable)
    · exact (mem _).2 (h.closed q new there (by simp [ne, rests]) target edge readable)
  · intro q
    rw [Loaded.stamps_link, mem, h.stamped]
  · exact fun q there => h.current q ((mem q).1 there)

end Faithful

namespace Task

def Ready (src : Source) (pending visiting : List String) (s : Loaded) : Task → Prop
  | file path stamp =>
      visiting.head? = some path ∧ path ≠ src.root ∧ Path.isAbsolute path = true ∧
        src.disk.stamp? path = some stamp ∧ Faithful src visiting.tail pending s
  | imports importer => visiting.head? = some importer ∧ Faithful src visiting pending s
  | candidates paths edges =>
      Spelled paths ∧ (∀ q ∈ edges, (src.lines? q).isSome = true → q ∈ s.sheets) ∧
        Faithful src visiting pending s

def Settled (src : Source) (pending visiting : List String) (s : Loaded) (edges : List String) :
    Task → Prop
  | file path _ =>
      Faithful src visiting.tail (pending.filter (· != path)) s ∧
        ((src.lines? path).isSome = true → path ∈ s.sheets)
  | imports _ => Faithful src visiting.tail pending s
  | candidates paths before =>
      edges = ((paths.map src.disk.real).filter src.isLinked).foldl addEdge before ∧
        (∀ q ∈ edges, (src.lines? q).isSome = true → q ∈ s.sheets) ∧ Faithful src visiting pending s

def Within (src : Source) (inside : String → Prop) : Task → Prop
  | file path _ => (src.lines? path).isSome = true → inside path
  | imports importer => inside importer
  | candidates paths _ => ∀ candidate ∈ paths,
      (src.lines? (src.disk.real candidate)).isSome = true →
      inside (src.disk.real candidate)

end Task

namespace Task.Ready

variable {src : Source} {pending visiting paths before : List String} {path candidate : String}
    {stamp : Int}
  {s s' : Loaded}

theorem parsed (ready : (file path stamp).Ready src pending visiting s) {lines : List String}
    {sheet : Sheet} (found : s.world.disk.lines? path = some lines)
    (good : Sheet.read src.matcher lines = .ok sheet) (owner : Nat) :
    (imports path).Ready src (pending.filter (· != path)) visiting
      ((s.noteRead path).take owner path stamp sheet) := by
  obtain ⟨first, other, absolute, there, inv⟩ := ready
  obtain ⟨busy, rfl⟩ := List.head?_eq_some_iff.1 first
  rw [inv.disk] at found
  exact ⟨rfl, (inv.noteRead path).take owner other absolute there found good⟩

theorem follow (ready : (imports path).Ready src pending visiting s) {sheet : Sheet}
    (there : s.sheets[path]? = some sheet) :
    (candidates (sheet.candidates path) []).Ready src pending visiting s := by
  exact ⟨fun candidate asked =>
    Sheet.candidates_absolute (ready.2.absolute path (mem_of_sheet there)) asked,
    fun q none => absurd none List.not_mem_nil, ready.2⟩

theorem edge (ready : (candidates (candidate :: paths) before).Ready src pending visiting s)
    (known : (src.lines? (src.disk.real candidate)).isSome = true →
      src.disk.real candidate ∈ s.sheets) :
    (candidates paths (addEdge before (src.disk.real candidate))).Ready src pending visiting s := by
  obtain ⟨spelled, closed, inv⟩ := ready
  refine ⟨fun c asked => spelled c (List.mem_cons_of_mem _ asked), fun q edge readable => ?_, inv⟩
  rcases mem_addEdge.1 edge with edge | rfl
  · exact closed q edge readable
  · exact known readable

theorem known (ready : (candidates (candidate :: paths) before).Ready src pending visiting s)
    (seen : src.disk.real candidate ∈ visiting ∨
      s.isCurrent (src.disk.real candidate) stamp = true) :
    (candidates paths (addEdge before (src.disk.real candidate))).Ready src pending visiting s := by
  refine ready.edge fun _ => ?_
  rcases seen with busy | current
  · exact (ready.2.2.followed _ busy).1
  · simp only [Loaded.isCurrent, Bool.and_eq_true] at current
    exact Std.ExtTreeMap.contains_iff_mem.1 current.1

theorem unreadable (ready : (candidates (candidate :: paths) before).Ready src pending visiting s)
    (consistent : src.disk.IsConsistent) (other : src.disk.real candidate ≠ src.root)
    (gone : src.disk.stamp? candidate = none) :
    (src.lines? (src.disk.real candidate)).isSome ≠ true := by
  intro readable
  rw [Source.lines?_of_ne other] at readable
  simpa [consistent.stamp?_real ready.1 List.mem_cons_self, gone] using
    Source.isSome_stamp?_of_lines? readable

theorem missing (ready : (candidates (candidate :: paths) before).Ready src pending visiting s)
    (lost : (src.lines? (src.disk.real candidate)).isSome ≠ true) :
    (candidates paths before).Ready src pending visiting (s.drop (src.disk.real candidate)) := by
  obtain ⟨spelled, closed, inv⟩ := ready
  refine ⟨fun c asked => spelled c (List.mem_cons_of_mem _ asked), fun q edge readable => ?_, ?_⟩
  · exact (s.mem_sheets_drop _ q).2 ⟨fun same => lost (same ▸ readable), closed q edge readable⟩
  · exact (inv.drop lost).weaken (fun _ _ out => (List.mem_filter.1 out).1) fun q busy =>
      (inv.followed q busy).2

theorem descend (ready : (candidates (candidate :: paths) before).Ready src pending visiting s)
    (consistent : src.disk.IsConsistent) (other : src.disk.real candidate ≠ src.root)
    (there : src.disk.stamp? candidate = some stamp) :
    (file (src.disk.real candidate) stamp).Ready src pending
    (src.disk.real candidate :: visiting) s :=
  ⟨rfl, other, Path.isAbsolute_real _ _,
    (consistent.stamp?_real ready.1 List.mem_cons_self).trans there, ready.2.2⟩

theorem loaded (ready : (candidates (candidate :: paths) before).Ready src pending visiting s)
    (kept : ∀ q ∈ s.sheets, (src.lines? q).isSome = true → q ∈ s'.sheets) {edges : List String}
    (settled : (file (src.disk.real candidate) stamp).Settled src pending
      (src.disk.real candidate :: visiting) s' edges) :
    (candidates paths (addEdge before (src.disk.real candidate))).Ready src pending visiting
    s' := by
  obtain ⟨spelled, closed, inv⟩ := ready
  obtain ⟨below, reads⟩ := settled
  have inv' : Faithful src visiting pending s' :=
    below.weaken (fun _ _ out => (List.mem_filter.1 out).1) fun q busy => (inv.followed q busy).2
  have again : (candidates (candidate :: paths) before).Ready src pending visiting s' :=
    ⟨spelled, fun q edge readable => kept q (closed q edge readable) readable, inv'⟩
  exact again.edge reads

end Task.Ready

namespace Course

variable {src : Source} {l : Loader} {visiting : List String} {task : Task} {s s' : Loaded}
  {notes : List Note} {outcome : Except LoadError (List String)}

/-- Loading keeps what can be read, and keeps it faithful. -/
theorem faithful (h : Course l visiting task s notes outcome s') (rooted : l.root = some src.root)
    (matched : l.matcher = src.matcher) (consistent : src.disk.IsConsistent) {pending : List String}
    (ready : task.Ready src pending visiting s) {edges : List String}
    (ended : outcome = .ok edges) :
    (∀ q ∈ s.sheets, (src.lines? q).isSome = true → q ∈ s'.sheets) ∧
      task.Settled src pending visiting s' edges := by
  induction h generalizing pending edges with
  | unparsable | absent | lost | broken | failed => cases ended
  | @unreadable visiting path stamp s lines =>
    obtain ⟨_, other, _, _, inv⟩ := ready
    have lost : (src.lines? path).isSome ≠ true := by
      rw [Source.lines?_of_ne other, ← inv.disk, lines]
      exact Bool.false_ne_true
    refine ⟨fun q there readable => ?_, (inv.noteRead path).drop lost,
      fun readable => absurd readable lost⟩
    exact ((s.noteRead path).mem_sheets_drop path q).2 ⟨fun same => lost (same ▸ readable), there⟩
  | @parsed visiting path stamp s lines sheet _ _ s' found good rest ih =>
    obtain ⟨kept, settled⟩ := ih (ready.parsed found (matched ▸ good) l.owner) ended
    have mem := (s.noteRead path).mem_sheets_take l.owner path stamp sheet
    exact ⟨fun q there => kept q ((mem q).2 (.inr there)), settled,
      kept path ((mem path).2 (.inl rfl))⟩
  | @linked visiting importer s sheet _ result s' sheet' there rest still ih =>
    obtain ⟨kept, reached, closed, inv'⟩ := ih (ready.follow there) rfl
    obtain ⟨first, inv⟩ := ready
    obtain ⟨busy, rfl⟩ := List.head?_eq_some_iff.1 first
    have settled := (inv.followed importer List.mem_cons_self).2
    have same := (inv'.tells importer sheet' still settled).unique
      (inv.tells importer sheet there settled)
    have links : result.filter src.isLinked = src.edgesOf importer sheet' := by
      rw [Source.edgesOf_congr same.2, Source.edgesOf, reached, filter_foldl_addEdge,
        List.filter_filter]
      simp only [Bool.and_self, List.filter_nil]
    refine ⟨fun q known readable => ?_, inv'.link still links closed⟩
    rw [Loaded.sheets_link, Std.ExtTreeMap.mem_insert]
    exact .inr (kept q known readable)
  | done =>
    obtain ⟨_, closed, inv⟩ := ready
    cases ended
    exact ⟨fun q there _ => there, rfl, closed, inv⟩
  | @own visiting candidate paths before s _ _ s' root rest ih =>
    rw [ready.2.2.disk] at root ih
    have same : src.disk.real candidate = src.root := Option.some.inj (root.symm.trans rooted)
    obtain ⟨kept, reached, settled⟩ := ih (ready.edge fun _ => same ▸ ready.2.2.root) ended
    refine ⟨kept, ?_, settled⟩
    have linked : src.isLinked (src.disk.real candidate) = true := by simp [Source.isLinked, same]
    simpa [List.filter_cons, linked] using reached
  | @missing visiting candidate paths before s _ _ s' other gone rest ih =>
    rw [ready.2.2.disk] at other gone ih
    have ne : src.disk.real candidate ≠ src.root := fun same => other (same ▸ rooted)
    have lost := ready.unreadable consistent ne gone
    obtain ⟨kept, reached, settled⟩ := ih (ready.missing lost) ended
    refine ⟨fun q there readable => kept q ((s.mem_sheets_drop _ q).2 ⟨?_, there⟩) readable, ?_,
      settled⟩
    · exact fun same => lost (same ▸ readable)
    · have unlinked : src.isLinked (src.disk.real candidate) = false := by
        simp [Source.isLinked, ne, consistent.stamp?_real ready.1 List.mem_cons_self, gone]
      simpa [List.filter_cons, unlinked] using reached
  | @known visiting candidate paths before s stamp _ _ s' other there seen rest ih =>
    rw [ready.2.2.disk] at there seen ih
    obtain ⟨kept, reached, settled⟩ := ih (ready.known seen) ended
    refine ⟨kept, ?_, settled⟩
    have linked : src.isLinked (src.disk.real candidate) = true := by
      simp [Source.isLinked, consistent.stamp?_real ready.1 List.mem_cons_self, there]
    simpa [List.filter_cons, linked] using reached
  | @loaded visiting candidate paths before s stamp _ _ s' _ _ s'' other there unseen stale load
      rest first second =>
    rw [ready.2.2.disk] at other there first second
    have ne : src.disk.real candidate ≠ src.root := fun same => other (same ▸ rooted)
    obtain ⟨kept, below⟩ := first (ready.descend consistent ne there) rfl
    obtain ⟨more, reached, settled⟩ := second (ready.loaded kept below) ended
    refine ⟨fun q known readable => more q (kept q known readable) readable, ?_, settled⟩
    have linked : src.isLinked (src.disk.real candidate) = true := by
      simp [Source.isLinked, consistent.stamp?_real ready.1 List.mem_cons_self, there]
    simpa [List.filter_cons, linked] using reached

theorem succeeds (h : Course l visiting task s notes outcome s') (rooted : l.root = some src.root)
    (matched : l.matcher = src.matcher) (consistent : src.disk.IsConsistent)
    {inside : String → Prop}
    (sound : src.Sound inside) {pending : List String} (ready : task.Ready src pending visiting s)
    (within : task.Within src inside) : ∃ edges, outcome = .ok edges := by
  induction h generalizing pending with
  | unreadable | linked | done => exact ⟨_, rfl⟩
  | @unparsable visiting path stamp s lines e found bad =>
    obtain ⟨_, other, _, _, inv⟩ := ready
    rw [inv.disk, ← Source.lines?_of_ne other] at found
    obtain ⟨lines', fresh, found', good, _⟩ := sound path (within (by rw [found]; rfl))
    obtain rfl : lines = lines' := Option.some.inj (found.symm.trans found')
    rw [matched, good] at bad
    cases bad
  | @parsed visiting path stamp s lines sheet _ _ s' found good rest ih =>
    have there : (src.lines? path).isSome = true := by
      rw [Source.lines?_of_ne ready.2.1, ← ready.2.2.2.2.disk, found]
      rfl
    exact ih (ready.parsed found (matched ▸ good) l.owner) (within there)
  | absent gone =>
    obtain ⟨first, inv⟩ := ready
    have there := (inv.followed _ (List.mem_of_mem_head? first)).1
    simp [Std.ExtTreeMap.mem_iff_isSome_getElem?, gone] at there
  | lost there rest gone =>
    obtain ⟨_, _, _, inv⟩ := rest.faithful rooted matched consistent (ready.follow there) rfl
    have there := (inv.followed _ (List.mem_of_mem_head? ready.1)).1
    simp [Std.ExtTreeMap.mem_iff_isSome_getElem?, gone] at there
  | @broken visiting importer s sheet _ _ s' there rest ih =>
    obtain ⟨first, inv⟩ := ready
    obtain ⟨lines, fresh, found, good, closed⟩ := sound importer within
    have settled := (inv.followed importer (List.mem_of_mem_head? first)).2
    have same := (inv.tells importer sheet there settled).unique
      ⟨lines, fresh, found, good, rfl, rfl⟩
    obtain ⟨_, ended⟩ := ih (Task.Ready.follow ⟨first, inv⟩ there)
      fun candidate asked readable => by
      refine closed _ (Source.mem_edgesOf.2 ⟨⟨candidate, ?_, rfl⟩,
        Source.isLinked_of_readable readable⟩) readable
      exact Source.candidates_congr same.2 importer ▸ asked
    cases ended
  | @own visiting candidate paths before s _ _ s' root rest ih =>
    rw [ready.2.2.disk] at root ih
    have same : src.disk.real candidate = src.root := Option.some.inj (root.symm.trans rooted)
    exact ih (ready.edge fun _ => same ▸ ready.2.2.root) fun c asked =>
      within c (List.mem_cons_of_mem _ asked)
  | @missing visiting candidate paths before s _ _ s' other gone rest ih =>
    rw [ready.2.2.disk] at other gone ih
    have ne : src.disk.real candidate ≠ src.root := fun same => other (same ▸ rooted)
    exact ih (ready.missing (ready.unreadable consistent ne gone)) fun c asked =>
      within c (List.mem_cons_of_mem _ asked)
  | known other there seen rest ih =>
    rw [ready.2.2.disk] at seen ih
    exact ih (ready.known seen) fun c asked => within c (List.mem_cons_of_mem _ asked)
  | @loaded visiting candidate paths before s stamp _ _ s' _ _ s'' other there unseen stale load
      rest _ second =>
    rw [ready.2.2.disk] at other there load second
    have ne : src.disk.real candidate ≠ src.root := fun same => other (same ▸ rooted)
    obtain ⟨kept, below⟩ := load.faithful rooted matched consistent
      (ready.descend consistent ne there) rfl
    exact second (ready.loaded kept below) fun c asked => within c (List.mem_cons_of_mem _ asked)
  | @failed visiting candidate paths before s stamp _ _ s' other there unseen stale load ih =>
    rw [ready.2.2.disk] at other there ih
    have ne : src.disk.real candidate ≠ src.root := fun same => other (same ▸ rooted)
    obtain ⟨_, ended⟩ := ih (ready.descend consistent ne there)
      (within candidate List.mem_cons_self)
    cases ended

end Course

end Sass

end ColorSpans
