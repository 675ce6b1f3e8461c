import ColorSpans.Proofs.Sass.Reading
import ColorSpans.Proofs.Sass.Tracking
import ColorSpans.Proofs.Sass.Trail

/-! Sheets that are honest about a disk. Whatever a buffer was called before, a sheet that was read
from the disk tells what its file tells, and as long as the disk stays a load loses none of them. -/
namespace ColorSpans
open Sass

namespace Disk

def Tells (disk : Disk) (matcher : Option Matcher) (path : String) (sheet : Sheet) : Prop :=
  ∃ lines fresh, disk.lines? path = some lines ∧ Sheet.read matcher lines = .ok fresh ∧
    sheet.declarations = fresh.declarations ∧ sheet.imports = fresh.imports

def has (disk : Disk) (path : String) : Bool := (disk.stamp? path).isSome

def edgesOf (disk : Disk) (importer : String) (sheet : Sheet) : List String :=
  (((sheet.candidates importer).map disk.real).filter disk.has).foldl addEdge []

/-- Files are there under their real spelling exactly if they are under the given one. -/
def Knows (disk : Disk) (paths : List String) : Prop :=
  ∀ candidate ∈ paths, disk.stamp? (disk.real candidate) = disk.stamp? candidate

variable {disk : Disk} {path : String} {sheet : Sheet} {matcher : Option Matcher}

theorem IsConsistent.knows (consistent : disk.IsConsistent) (absolute : Path.isAbsolute path = true)
    (sheet : Sheet) : disk.Knows (sheet.candidates path) := fun _ asked =>
  consistent.stamp?_real (fun _ => Sheet.candidates_absolute absolute) asked

theorem lines?_eq_none (gone : disk.stamp? path = none) : disk.lines? path = none := by
  rw [← Option.not_isSome_iff_eq_none]
  intro readable
  have there := Source.isSome_stamp?_of_lines? readable
  rw [gone] at there
  cases there

theorem Tells.readable (tells : disk.Tells matcher path sheet) :
    (disk.lines? path).isSome = true := by
  obtain ⟨lines, _, found, _⟩ := tells
  rw [found]
  rfl

theorem Tells.numbered (tells : disk.Tells matcher path sheet) : sheet.Numbered := by
  obtain ⟨_, _, _, read, declarations, imports⟩ := tells
  exact Sheet.numbered_of_read read declarations imports

end Disk

namespace Sass

/-- No sheet is lost, nor what it tells, and every file that is newly on record has a sheet. -/
structure Loaded.Grows (s s' : Loaded) : Prop where
  held : ∀ (path : String) (sheet : Sheet), s.sheets[path]? = some sheet → ∃ sheet',
    s'.sheets[path]? = some sheet' ∧ sheet'.declarations = sheet.declarations ∧
      sheet'.imports = sheet.imports
  recorded : ∀ path ∈ s.stamps, path ∈ s'.stamps
  new : ∀ path ∈ s'.stamps, path ∈ s.stamps ∨ path ∈ s'.sheets

namespace Loaded.Grows

variable {s s' s'' : Loaded} {path : String}

theorem of_eq (sheets : s'.sheets = s.sheets) (stamps : s'.stamps = s.stamps) : s.Grows s' where
  held _ sheet found := ⟨sheet, sheets ▸ found, rfl, rfl⟩
  recorded _ there := stamps ▸ there
  new _ there := .inl (stamps ▸ there)

theorem mem (h : s.Grows s') (there : path ∈ s.sheets) : path ∈ s'.sheets := by
  obtain ⟨sheet, found⟩ := exists_sheet there
  obtain ⟨_, found', _⟩ := h.held path sheet found
  exact mem_of_sheet found'

theorem trans (h : s.Grows s') (h' : s'.Grows s'') : s.Grows s'' where
  held path sheet found := by
    obtain ⟨sheet', found', declarations, imports⟩ := h.held path sheet found
    obtain ⟨sheet'', found'', declarations', imports'⟩ := h'.held path sheet' found'
    exact ⟨sheet'', found'', declarations'.trans declarations, imports'.trans imports⟩
  recorded path there := h'.recorded path (h.recorded path there)
  new path there := by
    rcases h'.new path there with before | kept
    · exact (h.new path before).imp_right h'.mem
    · exact .inr kept

theorem take (absent : path ∉ s.sheets) (owner : Nat) (stamp : Int) (sheet : Sheet) :
    s.Grows (s.take owner path stamp sheet) where
  held q old found := by
    have other : path ≠ q := fun same => absent (same ▸ mem_of_sheet found)
    refine ⟨old, ?_, rfl, rfl⟩
    rw [sheets_take, Std.ExtTreeMap.getElem?_insert,
      if_neg (mt Std.LawfulEqCmp.eq_of_compare other)]
    exact found
  recorded q there := by
    rw [stamps_take, Std.ExtTreeMap.mem_insert]
    exact .inr there
  new q there := by
    rw [stamps_take, Std.ExtTreeMap.mem_insert, Std.LawfulEqCmp.compare_eq_iff_eq] at there
    rw [mem_sheets_take]
    rcases there with same | before
    · exact .inr (.inl same)
    · exact .inl before

theorem link {sheet : Sheet} (there : s.sheets[path]? = some sheet) (edges : List String) :
    s.Grows (s.link path sheet edges) where
  held q old found := by
    rw [sheets_link, Std.ExtTreeMap.getElem?_insert]
    split
    · rename_i same
      rw [← Std.LawfulEqCmp.eq_of_compare same, there] at found
      obtain rfl := Option.some.inj found
      exact ⟨_, rfl, rfl, rfl⟩
    · exact ⟨old, found, rfl, rfl⟩
  recorded _ there := there
  new _ there := .inl there

end Loaded.Grows

/-- The sheets held tell what the disk tells, but for the buffer's own; their edges lead where their
imports lead, but for those whose imports are being followed; and what is on record can be read. -/
structure Honest (l : Loader) (disk : Disk) (busy : List String) (s : Loaded) : Prop where
  same : s.world.disk = disk
  followed : ∀ path ∈ busy, path ∈ s.sheets
  absolute : ∀ path ∈ s.sheets, l.root ≠ some path → Path.isAbsolute path = true
  tells : ∀ (path : String) (sheet : Sheet), s.sheets[path]? = some sheet → l.root ≠ some path →
    disk.Tells l.matcher path sheet
  links : ∀ (path : String) (sheet : Sheet), s.sheets[path]? = some sheet → path ∉ busy →
    sheet.edges.filter disk.has = disk.edgesOf path sheet
  current : ∀ path ∈ s.sheets, l.root ≠ some path → s.stamps[path]? = disk.stamp? path
  recorded : ∀ (path : String) (stamp : Int), s.stamps[path]? = some stamp →
    (disk.lines? path).isSome = true ∧ disk.stamp? path = some stamp

namespace Honest

variable {l : Loader} {disk : Disk} {busy : List String} {s t : Loaded} {path : String}
  {sheet : Sheet}

theorem of_eq (h : Honest l disk busy s) (world : t.world.disk = s.world.disk)
    (sheets : t.sheets = s.sheets) (stamps : t.stamps = s.stamps) : Honest l disk busy t :=
  ⟨world.trans h.same, sheets ▸ h.followed, sheets ▸ h.absolute, sheets ▸ h.tells, sheets ▸ h.links,
    sheets ▸ stamps ▸ h.current, stamps ▸ h.recorded⟩

theorem drop_eq (h : Honest l disk busy s) (other : l.root ≠ some path)
    (lost : disk.lines? path = none) :
    (s.drop path).sheets = s.sheets ∧ (s.drop path).stamps = s.stamps := by
  have erase_eq {β : Type} (m : Std.ExtTreeMap String β) (absent : m[path]? = none) :
      m.erase path = m := by
    refine Std.ExtTreeMap.ext_getElem? fun q => ?_
    rw [Std.ExtTreeMap.getElem?_erase]
    split
    · rename_i same
      rw [← Std.LawfulEqCmp.eq_of_compare same, absent]
    · rfl
  rw [Loaded.sheets_drop, Loaded.stamps_drop]
  constructor
  · refine erase_eq _ (Option.eq_none_iff_forall_ne_some.2 fun sheet found => ?_)
    have readable := (h.tells path sheet found other).readable
    rw [lost] at readable
    cases readable
  · refine erase_eq _ (Option.eq_none_iff_forall_ne_some.2 fun stamp found => ?_)
    have readable := (h.recorded path stamp found).1
    rw [lost] at readable
    cases readable

theorem isCurrent (h : Honest l disk busy s) (there : path ∈ s.sheets) (other : l.root ≠ some path)
    {stamp : Int} (changed : disk.stamp? path = some stamp) : s.isCurrent path stamp = true := by
  rw [Loaded.isCurrent, Std.ExtTreeMap.contains_iff_mem.2 there,
    h.current path there other, changed]
  exact beq_self_eq_true _

theorem take (h : Honest l disk busy s) {stamp : Int} {lines : List String}
    (absent : path ∉ s.sheets) (absolute : Path.isAbsolute path = true)
    (there : disk.stamp? path = some stamp) (found : disk.lines? path = some lines)
    (read : Sheet.read l.matcher lines = .ok sheet) :
    Honest l disk (path :: busy) (s.take l.owner path stamp sheet) := by
  have mem := s.mem_sheets_take l.owner path stamp sheet
  have stamps := s.getElem?_stamps_take l.owner path stamp sheet
  refine ⟨?_, ?_, ?_, ?_, ?_, ?_, ?_⟩
  · rw [Loaded.disk_take, h.same]
  · intro q known
    rcases List.mem_cons.1 known with rfl | known
    · exact (mem q).2 (.inl rfl)
    · exact (mem q).2 (.inr (h.followed q known))
  · intro q held other
    rcases (mem q).1 held with rfl | held
    · exact absolute
    · exact h.absolute q held other
  · intro q old held other
    rcases Loaded.of_sheets_take held with ⟨rfl, rfl⟩ | ⟨_, held⟩
    · exact ⟨lines, old, found, read, rfl, rfl⟩
    · exact h.tells q old held other
  · intro q old held idle
    obtain ⟨apart, idle⟩ := not_or.1 (mt List.mem_cons.2 idle)
    exact h.links q old ((Loaded.of_sheets_take held).resolve_left fun this => apart this.1).2 idle
  · intro q held other
    rw [stamps]
    split
    · rename_i same
      rw [← same, there]
    · rename_i apart
      exact h.current q (((mem q).1 held).resolve_left apart) other
  · intro q changed known
    rw [stamps] at known
    split at known
    · rename_i same
      rw [← same, found, there]
      exact ⟨rfl, known⟩
    · exact h.recorded q changed known

theorem link (h : Honest l disk (path :: busy) s) (found : s.sheets[path]? = some sheet)
    {edges : List String} (links : edges.filter disk.has = disk.edgesOf path sheet) :
    Honest l disk busy (s.link path sheet edges) := by
  have mem := Loaded.mem_sheets_link (mem_of_sheet found) sheet edges
  refine ⟨h.same, ?_, ?_, ?_, ?_, ?_, h.recorded⟩
  · exact fun q known => (mem q).2 (h.followed q (List.mem_cons_of_mem _ known))
  · exact fun q held => h.absolute q ((mem q).1 held)
  · intro q new held other
    rcases Loaded.of_sheets_link held with ⟨rfl, rfl⟩ | ⟨_, held⟩
    · exact h.tells q sheet found other
    · exact h.tells q new held other
  · intro q new held idle
    rcases Loaded.of_sheets_link held with ⟨rfl, rfl⟩ | ⟨apart, held⟩
    · exact links
    · exact h.links q new held fun known => (List.mem_cons.1 known).elim apart idle
  · exact fun q held => h.current q ((mem q).1 held)

end Honest

namespace Task

/-- How a task may begin on an honest load. A file that is to be read is not held. -/
def Begins (l : Loader) (disk : Disk) (visiting : List String) (s : Loaded) : Task → Prop
  | file path stamp =>
      visiting.head? = some path ∧ l.root ≠ some path ∧ Path.isAbsolute path = true ∧
        disk.stamp? path = some stamp ∧ path ∉ s.sheets ∧ Honest l disk visiting.tail s
  | imports importer =>
      visiting.head? = some importer ∧
        (∀ sheet, s.sheets[importer]? = some sheet → disk.Knows (sheet.candidates importer)) ∧
        Honest l disk visiting s
  | candidates paths _ => disk.Knows paths ∧ Honest l disk visiting s

def Ends (l : Loader) (disk : Disk) (visiting : List String) (s : Loaded) (edges : List String) :
    Task → Prop
  | file _ _ | imports _ => Honest l disk visiting.tail s
  | candidates paths before =>
      edges.filter disk.has =
          ((paths.map disk.real).filter disk.has).foldl addEdge (before.filter disk.has) ∧
        Honest l disk visiting s

end Task

namespace Task.Begins

variable {l : Loader} {disk : Disk} {visiting paths before : List String} {path candidate : String}
  {stamp : Int} {s t : Loaded} {sheet : Sheet}

theorem parsed (begins : (file path stamp).Begins l disk visiting s)
    (consistent : disk.IsConsistent) {lines : List String}
    (found : s.world.disk.lines? path = some lines)
    (good : Sheet.read l.matcher lines = .ok sheet) :
    (imports path).Begins l disk visiting ((s.noteRead path).take l.owner path stamp sheet) := by
  obtain ⟨first, -, absolute, there, absent, honest⟩ := begins
  obtain ⟨busy, rfl⟩ := List.head?_eq_some_iff.1 first
  rw [honest.same] at found
  refine ⟨rfl, fun held same => ?_, ?_⟩
  · exact consistent.knows absolute held
  · have noted : Honest l disk busy (s.noteRead path) := honest.of_eq rfl rfl rfl
    exact noted.take absent absolute there found good

theorem follow (begins : (imports path).Begins l disk visiting s)
    (there : s.sheets[path]? = some sheet) :
    (candidates (sheet.candidates path) before).Begins l disk visiting s :=
  ⟨begins.2.1 sheet there, begins.2.2⟩

theorem next (begins : (candidates (candidate :: paths) before).Begins l disk visiting s)
    (honest : Honest l disk visiting t) (edges : List String) :
    (candidates paths edges).Begins l disk visiting t :=
  ⟨fun c asked => begins.1 c (List.mem_cons_of_mem _ asked), honest⟩

theorem drop_eq (begins : (candidates (candidate :: paths) before).Begins l disk visiting s)
    (other : l.root ≠ some (disk.real candidate)) (gone : disk.stamp? candidate = none) :
    (s.drop (disk.real candidate)).sheets = s.sheets ∧
      (s.drop (disk.real candidate)).stamps = s.stamps :=
  begins.2.drop_eq other (Disk.lines?_eq_none ((begins.1 _ List.mem_cons_self).trans gone))

theorem missing (begins : (candidates (candidate :: paths) before).Begins l disk visiting s)
    (other : l.root ≠ some (disk.real candidate)) (gone : disk.stamp? candidate = none) :
    (candidates paths before).Begins l disk visiting (s.drop (disk.real candidate)) := by
  have same := begins.drop_eq other gone
  exact begins.next (begins.2.of_eq (s.disk_drop _) same.1 same.2) before

theorem descend (begins : (candidates (candidate :: paths) before).Begins l disk visiting s)
    (other : l.root ≠ some (disk.real candidate)) (there : disk.stamp? candidate = some stamp)
    (stale : s.isCurrent (disk.real candidate) stamp = false) :
    (file (disk.real candidate) stamp).Begins l disk (disk.real candidate :: visiting) s := by
  have changed := (begins.1 _ List.mem_cons_self).trans there
  refine ⟨rfl, other, Path.isAbsolute_real _ _, changed, fun held => ?_, begins.2⟩
  exact absurd (begins.2.isCurrent held other changed) (Bool.eq_false_iff.1 stale)

end Task.Begins

namespace Course

variable {l : Loader} {disk : Disk} {visiting : List String} {task : Task} {s s' : Loaded}
  {notes : List Note} {outcome : Except LoadError (List String)}

/-- On a disk that stays a load stays honest and loses no sheet. -/
theorem honest (h : Course l visiting task s notes outcome s') (consistent : disk.IsConsistent)
    (begins : task.Begins l disk visiting s) {edges : List String} (ended : outcome = .ok edges) :
    s.Grows s' ∧ task.Ends l disk visiting s' edges := by
  induction h generalizing edges with
  | unparsable | absent | lost | broken | failed => cases ended
  | @unreadable visiting path stamp s lines =>
    obtain ⟨_, other, _, _, _, honest⟩ := begins
    have noted : Honest l disk visiting.tail (s.noteRead path) := honest.of_eq rfl rfl rfl
    obtain ⟨sheets, stamps⟩ := noted.drop_eq other (honest.same ▸ lines)
    exact ⟨.of_eq sheets stamps, noted.of_eq (Loaded.disk_drop _ _) sheets stamps⟩
  | @parsed visiting path stamp s lines sheet _ _ s' found good rest ih =>
    obtain ⟨grows, ends⟩ := ih (begins.parsed consistent found good) ended
    have absent : path ∉ (s.noteRead path).sheets := begins.2.2.2.2.1
    have noted : s.Grows (s.noteRead path) := .of_eq rfl rfl
    exact ⟨(noted.trans (.take absent l.owner stamp sheet)).trans grows, ends⟩
  | @linked visiting importer s sheet _ result s' sheet' there rest still ih =>
    obtain ⟨grows, reached, honest⟩ := ih (begins.follow there) rfl
    obtain ⟨busy, rfl⟩ := List.head?_eq_some_iff.1 begins.1
    obtain ⟨_, found, _, same⟩ := grows.held importer sheet there
    obtain rfl := Option.some.inj (still.symm.trans found)
    refine ⟨grows.trans (.link still _), honest.link still ?_⟩
    rw [reached, Disk.edgesOf, Source.candidates_congr same]
    rfl
  | done =>
    cases ended
    exact ⟨.of_eq rfl rfl, rfl, begins.2⟩
  | @own visiting candidate paths before s _ _ s' root rest ih =>
    rw [begins.2.same] at root ih
    obtain ⟨grows, reached, honest⟩ := ih (begins.next begins.2 _) ended
    refine ⟨grows, ?_, honest⟩
    rw [reached, filter_addEdge, List.map_cons, List.filter_cons]
    split <;> rfl
  | @missing visiting candidate paths before s _ _ s' other gone rest ih =>
    rw [begins.2.same] at other gone ih
    obtain ⟨sheets, stamps⟩ := begins.drop_eq other gone
    obtain ⟨grows, reached, honest⟩ := ih (begins.missing other gone) ended
    refine ⟨.trans (.of_eq sheets stamps) grows, ?_, honest⟩
    have lost : disk.has (disk.real candidate) = false := by
      rw [Disk.has, begins.1 _ List.mem_cons_self, gone]
      rfl
    rw [reached, List.map_cons, List.filter_cons_of_neg (by simp [lost])]
  | @known visiting candidate paths before s stamp _ _ s' other there seen rest ih =>
    rw [begins.2.same] at there seen ih
    obtain ⟨grows, reached, honest⟩ := ih (begins.next begins.2 _) ended
    refine ⟨grows, ?_, honest⟩
    rw [reached, filter_addEdge, List.map_cons, List.filter_cons]
    split <;> rfl
  | @loaded visiting candidate paths before s stamp _ _ s' _ _ s'' other there unseen stale load
      rest first second =>
    rw [begins.2.same] at other there stale first second
    obtain ⟨grows, below⟩ := first (begins.descend other there stale) rfl
    obtain ⟨more, reached, honest⟩ := second (begins.next below _) ended
    refine ⟨grows.trans more, ?_, honest⟩
    rw [reached, filter_addEdge, List.map_cons, List.filter_cons]
    split <;> rfl

end Course

def Task.asks (disk : Disk) (s : Loaded) : Task → List String
  | file path _ => [path]
  | imports importer => ((s.sheets[importer]?.elim [] (·.candidates importer))).map disk.real
  | candidates paths _ => paths.map disk.real

namespace Source

variable {src : Source} {importer path : String} {lines : List String} {sheet : Sheet}

theorem imports_iff_of_read (found : src.lines? importer = some lines)
    (read : Sheet.read src.matcher lines = .ok sheet) : src.Imports importer path ↔
      path ∈ (sheet.candidates importer).map src.disk.real ∧ (src.lines? path).isSome = true := by
  have tells : src.Tells importer sheet := ⟨lines, sheet, found, read, rfl, rfl⟩
  rw [tells.imports_iff, mem_edgesOf, List.mem_map]
  exact ⟨fun h => ⟨h.1.1, h.2⟩, fun h => ⟨⟨h.1, isLinked_of_readable h.2⟩, h.2⟩⟩

end Source

namespace Course

variable {src : Source} {l : Loader} {visiting : List String} {task : Task} {s s' : Loaded}
  {notes : List Note} {outcome : Except LoadError (List String)}

/-- A load comes to all that it looks at and can be read, and to all that new sheets import. What it
adds lies within any files that the imports of files within cannot leave but for those held
before. -/
theorem covers (h : Course l visiting task s notes outcome s') (rooted : l.root = some src.root)
    (matched : l.matcher = src.matcher) (consistent : src.disk.IsConsistent)
    (begins : task.Begins l src.disk visiting s) (own : src.root ∈ s.sheets)
    {inside : String → Prop} (spread : ∀ a b, inside a → src.Imports a b → b ∈ s.sheets ∨ inside b)
    (asked : ∀ q ∈ task.asks src.disk s, (src.lines? q).isSome = true → q ∈ s.sheets ∨ inside q)
    {edges : List String} (ended : outcome = .ok edges) :
    (∀ q ∈ task.asks src.disk s, (src.lines? q).isSome = true → q ∈ s'.sheets) ∧
      ∀ q ∈ s'.sheets, q ∉ s.sheets → inside q ∧ ∀ r, src.Imports q r → r ∈ s'.sheets := by
  have apart {path : String} (other : l.root ≠ some path) : path ≠ src.root := fun same =>
    other (rooted.trans (congrArg some same.symm))
  induction h generalizing edges with
  | unparsable | absent | lost | broken | failed => cases ended
  | @unreadable visiting path stamp s lines =>
    obtain ⟨_, other, _, _, _, honest⟩ := begins
    have noted : Honest l src.disk visiting.tail (s.noteRead path) := honest.of_eq rfl rfl rfl
    rw [honest.same] at lines
    have sheets := (noted.drop_eq other lines).1
    refine ⟨fun q only readable => ?_, fun q held new => ?_⟩
    · rw [List.mem_singleton.1 only, Source.lines?_of_ne (apart other), lines] at readable
      cases readable
    · rw [sheets] at held
      exact absurd held new
  | @parsed visiting path stamp s lines sheet _ _ s' found good rest ih =>
    have begins' := begins.parsed consistent found good
    obtain ⟨-, other, -, -, absent, honest⟩ := begins
    rw [honest.same, ← Source.lines?_of_ne (apart other)] at found
    have readable : (src.lines? path).isSome = true := by rw [found]; rfl
    -- A file that is read was asked for and not held, so that it lies within; so do its imports.
    have within : inside path :=
      (asked path (List.mem_singleton.2 rfl) readable).resolve_left absent
    have mem := (s.noteRead path).mem_sheets_take l.owner path stamp sheet
    have imports (r : String) : src.Imports path r ↔ r ∈ (Task.imports path).asks src.disk
        ((s.noteRead path).take l.owner path stamp sheet) ∧ (src.lines? r).isSome = true := by
      rw [Source.imports_iff_of_read found (matched ▸ good), Task.asks, Loaded.sheets_take,
        Std.ExtTreeMap.getElem?_insert_self]
      rfl
    obtain ⟨reached, closed⟩ := ih begins' ((mem _).2 (.inr own))
      (fun a b known edge => (spread a b known edge).imp_left fun held => (mem b).2 (.inr held))
      (fun q listed readable => (spread path q within ((imports q).2 ⟨listed, readable⟩)).imp_left
        fun held => (mem q).2 (.inr held)) ended
    have there : path ∈ s'.sheets :=
      (rest.honest consistent begins' ended).1.mem ((mem path).2 (.inl rfl))
    refine ⟨fun q only _ => List.mem_singleton.1 only ▸ there, fun q held new => ?_⟩
    by_cases same : q = path
    · subst same
      exact ⟨within, fun r edge => reached r ((imports r).1 edge).1 ((imports r).1 edge).2⟩
    · exact closed q held fun early => ((mem q).1 early).elim (fun this => same this.symm) new
  | @linked visiting importer s sheet _ result s' sheet' there rest still ih =>
    have asks : (Task.imports importer).asks src.disk s =
        (Task.candidates (sheet.candidates importer) []).asks src.disk s := by
      rw [Task.asks, there]
      rfl
    rw [asks] at asked ⊢
    obtain ⟨reached, closed⟩ := ih (begins.follow there) own spread asked rfl
    simp only [Loaded.mem_sheets_link (mem_of_sheet still)]
    exact ⟨reached, closed⟩
  | done => exact ⟨fun q none => absurd none List.not_mem_nil, fun q held new => absurd held new⟩
  | @own visiting candidate paths before s _ _ s' root rest ih =>
    rw [begins.2.same] at root ih rest
    have begins' := begins.next begins.2 (addEdge before (src.disk.real candidate))
    obtain ⟨reached, closed⟩ := ih begins' own spread
      (fun q listed => asked q (List.mem_cons_of_mem _ listed)) ended
    refine ⟨fun q listed readable => ?_, closed⟩
    rcases List.mem_cons.1 listed with rfl | listed
    · have same : src.disk.real candidate = src.root := Option.some.inj (root.symm.trans rooted)
      exact (rest.honest consistent begins' ended).1.mem (same ▸ own)
    · exact reached q listed readable
  | @missing visiting candidate paths before s _ _ s' other gone rest ih =>
    rw [begins.2.same] at other gone ih
    have sheets := (begins.drop_eq other gone).1
    have begins' := begins.missing other gone
    rw [sheets] at ih
    obtain ⟨reached, closed⟩ := ih begins' own spread
      (fun q listed => asked q (List.mem_cons_of_mem _ listed)) ended
    refine ⟨fun q listed readable => ?_, closed⟩
    rcases List.mem_cons.1 listed with rfl | listed
    · rw [Source.lines?_of_ne (apart other),
        Disk.lines?_eq_none ((begins.1 _ List.mem_cons_self).trans gone)] at readable
      cases readable
    · exact reached q listed readable
  | @known visiting candidate paths before s stamp _ _ s' other there seen rest ih =>
    rw [begins.2.same] at seen ih rest
    have begins' := begins.next begins.2 (addEdge before (src.disk.real candidate))
    obtain ⟨reached, closed⟩ := ih begins' own spread
      (fun q listed => asked q (List.mem_cons_of_mem _ listed)) ended
    refine ⟨fun q listed readable => ?_, closed⟩
    rcases List.mem_cons.1 listed with rfl | listed
    · refine (rest.honest consistent begins' ended).1.mem ?_
      rcases seen with busy | current
      · exact begins.2.followed _ busy
      · exact Std.ExtTreeMap.contains_iff_mem.1 (Bool.and_eq_true_iff.1 current).1
    · exact reached q listed readable
  | @loaded visiting candidate paths before s stamp _ _ s' _ _ s'' other there unseen stale load
      rest first second =>
    rw [begins.2.same] at other there stale first second load rest
    have begins' := begins.descend other there stale
    obtain ⟨grows, honest⟩ := load.honest consistent begins' rfl
    have begins'' := begins.next honest (addEdge before (src.disk.real candidate))
    obtain ⟨here, closed⟩ := first begins' own spread
      (fun q only => asked q (List.mem_singleton.1 only ▸ List.mem_cons_self)) rfl
    obtain ⟨reached, closed'⟩ := second begins'' (grows.mem own)
      (fun a b known edge => (spread a b known edge).imp_left grows.mem)
      (fun q listed readable => (asked q (List.mem_cons_of_mem _ listed) readable).imp_left
        grows.mem) ended
    have more := (rest.honest consistent begins'' ended).1
    refine ⟨fun q listed readable => ?_, fun q held new => ?_⟩
    · rcases List.mem_cons.1 listed with rfl | listed
      · exact more.mem (here _ (List.mem_singleton.2 rfl) readable)
      · exact reached q listed readable
    · by_cases early : q ∈ s'.sheets
      · obtain ⟨within, onward⟩ := closed q early new
        exact ⟨within, fun r edge => more.mem (onward r edge)⟩
      · exact closed' q held early

theorem ends_of_sound (h : Course l visiting task s notes outcome s')
    (rooted : l.root = some src.root) (matched : l.matcher = src.matcher)
    (consistent : src.disk.IsConsistent) (begins : task.Begins l src.disk visiting s)
    {inside : String → Prop} (sound : src.Sound inside)
    (within : ∀ q ∈ task.asks src.disk s, (src.lines? q).isSome = true → inside q) :
    ∃ edges, outcome = .ok edges := by
  have apart {path : String} (other : l.root ≠ some path) : path ≠ src.root := fun same =>
    other (rooted.trans (congrArg some same.symm))
  have asks {importer : String} {s : Loaded} {sheet : Sheet}
    (there : s.sheets[importer]? = some sheet) :
      (Task.imports importer).asks src.disk s =
        (Task.candidates (sheet.candidates importer) []).asks src.disk s := by
    rw [Task.asks, there]
    rfl
  have follows {visiting : List String} {importer : String} {s : Loaded}
      (begins : (Task.imports importer).Begins l src.disk visiting s) : importer ∈ s.sheets :=
    begins.2.2.followed importer (List.mem_of_mem_head? begins.1)
  induction h with
  | unreadable | linked | done => exact ⟨_, rfl⟩
  | @unparsable visiting path stamp s lines e found bad =>
    obtain ⟨_, other, _, _, _, honest⟩ := begins
    rw [honest.same, ← Source.lines?_of_ne (apart other)] at found
    obtain ⟨lines', fresh, found', good, _⟩ :=
      sound path (within path (List.mem_singleton.2 rfl) (by rw [found]; rfl))
    obtain rfl : lines = lines' := Option.some.inj (found.symm.trans found')
    rw [matched, good] at bad
    cases bad
  | @parsed visiting path stamp s lines sheet _ _ s' found good rest ih =>
    have begins' := begins.parsed consistent found good
    obtain ⟨_, other, _, _, _, honest⟩ := begins
    rw [honest.same, ← Source.lines?_of_ne (apart other)] at found
    obtain ⟨lines', fresh, found', good', closed⟩ :=
      sound path (within path (List.mem_singleton.2 rfl) (by rw [found]; rfl))
    obtain rfl : lines = lines' := Option.some.inj (found.symm.trans found')
    obtain rfl : sheet = fresh := Except.ok.inj (good.symm.trans (matched ▸ good'))
    refine ih begins' fun q listed readable => closed q ?_ readable
    rw [Task.asks, Loaded.sheets_take, Std.ExtTreeMap.getElem?_insert_self] at listed
    obtain ⟨candidate, asked, rfl⟩ := List.mem_map.1 listed
    exact Source.mem_edgesOf.2 ⟨⟨candidate, asked, rfl⟩, Source.isLinked_of_readable readable⟩
  | absent gone =>
    have there := follows begins
    simp [Std.ExtTreeMap.mem_iff_isSome_getElem?, gone] at there
  | lost there rest gone =>
    have kept := (rest.honest consistent (begins.follow there) rfl).1.mem (follows begins)
    simp [Std.ExtTreeMap.mem_iff_isSome_getElem?, gone] at kept
  | broken there rest ih =>
    obtain ⟨_, ended⟩ := ih (begins.follow there) (asks there ▸ within)
    cases ended
  | @own visiting candidate paths before s _ _ s' root rest ih =>
    exact ih (begins.next begins.2 _) fun q listed => within q (List.mem_cons_of_mem _ listed)
  | @missing visiting candidate paths before s _ _ s' other gone rest ih =>
    rw [begins.2.same] at other gone ih
    exact ih (begins.missing other gone) fun q listed => within q (List.mem_cons_of_mem _ listed)
  | @known visiting candidate paths before s stamp _ _ s' other there seen rest ih =>
    exact ih (begins.next begins.2 _) fun q listed => within q (List.mem_cons_of_mem _ listed)
  | @loaded visiting candidate paths before s stamp _ _ s' _ _ s'' other there unseen stale load
      rest _ second =>
    rw [begins.2.same] at other there stale load second
    have below := (load.honest consistent (begins.descend other there stale) rfl).2
    exact second (begins.next below _) fun q listed => within q (List.mem_cons_of_mem _ listed)
  | @failed visiting candidate paths before s stamp _ _ s' other there unseen stale load ih =>
    rw [begins.2.same] at other there stale ih
    obtain ⟨_, ended⟩ := ih (begins.descend other there stale)
      fun q only => within q (List.mem_singleton.1 only ▸ List.mem_cons_self)
    cases ended

end Course

end Sass

end ColorSpans
