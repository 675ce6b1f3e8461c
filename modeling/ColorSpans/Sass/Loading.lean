import ColorSpans.Disk
import ColorSpans.Sass.Sheet

/-! Following imports. Sheets are loaded depth first; a file that is current or already being loaded
is not read again, and one that is missing or cannot be read is forgotten. -/
namespace ColorSpans.Sass
open Numeral

abbrev Sheets := Std.ExtTreeMap String Sheet

/-- A sheet that is held after an insertion was inserted or was held before. -/
theorem of_getElem?_insert {sheets : Sheets} {key path : String} {sheet held : Sheet}
    (found : (sheets.insert key sheet)[path]? = some held) :
    (path = key ∧ held = sheet) ∨ (path ≠ key ∧ sheets[path]? = some held) := by
  rw [Std.ExtTreeMap.getElem?_insert] at found
  split at found
  · rename_i same
    exact .inl ⟨(Std.LawfulEqCmp.eq_of_compare same).symm, (Option.some.inj found).symm⟩
  · rename_i other
    exact .inr ⟨fun same => other (same ▸ Std.ReflCmp.compare_self), found⟩

inductive LoadError
  | numeral (e : NumeralError)
  /-- A file was found missing while its own imports were followed. -/
  | forgotten (path : String)

def LoadError.message : LoadError → String
  | .numeral e => e.message
  | .forgotten path => Text.quoted path

/-- What loading changes. -/
structure Loaded where
  world : World
  sheets : Sheets
  /-- When each loaded file had been changed last. -/
  stamps : Std.ExtTreeMap String Int
  /-- The watch on each loaded file. -/
  watches : Std.ExtTreeMap String Nat

/-- A failed load keeps what it changed so far. -/
abbrev Loading := ExceptT LoadError (StateM Loaded)

/-- What stays fixed during a load. -/
structure Loader where
  owner : Nat
  matcher : Option Matcher
  /-- The buffer's own file, which is never read from the disk. -/
  root : Option String

namespace Loaded

def cancelWatch (s : Loaded) (path : String) : Loaded :=
  match s.watches[path]? with
  | none => s
  | some watch =>
      { s with
        watches := s.watches.erase path
        world := { s.world with board := s.world.board.cancel watch } }

/-- Forgets a file. -/
def drop (s : Loaded) (path : String) : Loaded :=
  { s with sheets := s.sheets.erase path, stamps := s.stamps.erase path }.cancelWatch path

def dropAll (s : Loaded) (paths : List String) : Loaded := paths.foldl drop s

/-- A file is watched once. -/
def watch (s : Loaded) (owner : Nat) (path : String) : Loaded :=
  if s.watches.contains path then s
  else { s with
    watches := s.watches.insert path s.world.board.length
    world := { s.world with board := s.world.board.register path owner } }

def keep (s : Loaded) (path : String) (stamp : Int) (sheet : Sheet) : Loaded :=
  { s with sheets := s.sheets.insert path sheet, stamps := s.stamps.insert path stamp }

def noteRead (s : Loaded) (path : String) : Loaded :=
  { s with world := { s.world with reads := s.world.reads ++ [path] } }

def isCurrent (s : Loaded) (path : String) (stamp : Int) : Bool :=
  s.sheets.contains path && s.stamps[path]? == some stamp

/-- Keeps where the imports of a file led. -/
def link (s : Loaded) (importer : String) (sheet : Sheet) (edges : List String) : Loaded :=
  { s with sheets := s.sheets.insert importer { sheet with edges } }

@[simp] theorem disk_noteRead (s : Loaded) (path : String) :
    (s.noteRead path).world.disk = s.world.disk := rfl

@[simp] theorem sheets_noteRead (s : Loaded) (path : String) :
    (s.noteRead path).sheets = s.sheets := rfl

@[simp] theorem stamps_noteRead (s : Loaded) (path : String) :
    (s.noteRead path).stamps = s.stamps := rfl

@[simp] theorem watches_noteRead (s : Loaded) (path : String) :
    (s.noteRead path).watches = s.watches := rfl

@[simp] theorem reads_noteRead (s : Loaded) (path : String) :
    (s.noteRead path).world.reads = s.world.reads ++ [path] := rfl

@[simp] theorem disk_link (s : Loaded) (importer : String) (sheet : Sheet) (edges : List String) :
    (s.link importer sheet edges).world.disk = s.world.disk := rfl

@[simp] theorem sheets_link (s : Loaded) (importer : String) (sheet : Sheet) (edges : List String) :
    (s.link importer sheet edges).sheets = s.sheets.insert importer { sheet with edges } := rfl

@[simp] theorem stamps_link (s : Loaded) (importer : String) (sheet : Sheet) (edges : List String) :
    (s.link importer sheet edges).stamps = s.stamps := rfl

@[simp] theorem watches_link (s : Loaded) (importer : String) (sheet : Sheet)
    (edges : List String) :
    (s.link importer sheet edges).watches = s.watches := rfl

@[simp] theorem reads_link (s : Loaded) (importer : String) (sheet : Sheet) (edges : List String) :
    (s.link importer sheet edges).world.reads = s.world.reads := rfl

@[simp] theorem disk_drop (s : Loaded) (path : String) :
    (s.drop path).world.disk = s.world.disk := by
  simp only [drop, cancelWatch]
  split <;> rfl

@[simp] theorem sheets_drop (s : Loaded) (path : String) :
    (s.drop path).sheets = s.sheets.erase path := by
  simp only [drop, cancelWatch]
  split <;> rfl

@[simp] theorem stamps_drop (s : Loaded) (path : String) :
    (s.drop path).stamps = s.stamps.erase path := by
  simp only [drop, cancelWatch]
  split <;> rfl

@[simp] theorem watches_drop (s : Loaded) (path : String) :
    (s.drop path).watches = s.watches.erase path := by
  simp only [drop, cancelWatch]
  split
  · rename_i none
    refine Std.ExtTreeMap.ext_getElem? fun other => ?_
    rw [Std.ExtTreeMap.getElem?_erase]
    split
    · rename_i same
      rw [← Std.LawfulEqCmp.eq_of_compare same]
      exact none
    · rfl
  · rfl

@[simp] theorem reads_drop (s : Loaded) (path : String) :
    (s.drop path).world.reads = s.world.reads := by
  simp only [drop, cancelWatch]
  split <;> rfl

theorem mem_sheets_drop (s : Loaded) (path q : String) :
    q ∈ (s.drop path).sheets ↔ q ≠ path ∧ q ∈ s.sheets := by
  rw [sheets_drop, Std.ExtTreeMap.mem_erase, Ne, Std.LawfulEqCmp.compare_eq_iff_eq, eq_comm]

theorem of_sheets_drop {s : Loaded} {path q : String} {held : Sheet}
    (found : (s.drop path).sheets[q]? = some held) : q ≠ path ∧ s.sheets[q]? = some held := by
  rw [sheets_drop, Std.ExtTreeMap.getElem?_erase] at found
  split at found
  · cases found
  · rename_i other
    exact ⟨fun same => other (same ▸ Std.ReflCmp.compare_self), found⟩

theorem mem_sheets_link {s : Loaded} {importer : String} (there : importer ∈ s.sheets)
    (sheet : Sheet) (edges : List String) (q : String) : q ∈ (s.link importer sheet edges).sheets ↔
    q ∈ s.sheets := by
  rw [sheets_link, Std.ExtTreeMap.mem_insert, Std.LawfulEqCmp.compare_eq_iff_eq]
  exact ⟨fun known => known.elim (fun same => same ▸ there) id, .inr⟩

theorem of_sheets_link {s : Loaded} {importer q : String} {sheet held : Sheet} {edges : List String}
    (found : (s.link importer sheet edges).sheets[q]? = some held) :
    (q = importer ∧ held = { sheet with edges }) ∨ (q ≠ importer ∧ s.sheets[q]? = some held) := by
  rw [sheets_link] at found
  exact of_getElem?_insert found

/-- A file that was read: it is kept, and watched from now on. -/
def take (s : Loaded) (owner : Nat) (path : String) (stamp : Int) (sheet : Sheet) : Loaded :=
  (s.keep path stamp sheet).watch owner path

@[simp] theorem disk_take (s : Loaded) (owner : Nat) (path : String) (stamp : Int) (sheet : Sheet) :
    (s.take owner path stamp sheet).world.disk = s.world.disk := by
  by_cases known : path ∈ s.watches <;> simp [take, keep, watch, known]

@[simp] theorem sheets_take (s : Loaded) (owner : Nat) (path : String) (stamp : Int)
    (sheet : Sheet) :
    (s.take owner path stamp sheet).sheets = s.sheets.insert path sheet := by
  by_cases known : path ∈ s.watches <;> simp [take, keep, watch, known]

@[simp] theorem stamps_take (s : Loaded) (owner : Nat) (path : String) (stamp : Int)
    (sheet : Sheet) :
    (s.take owner path stamp sheet).stamps = s.stamps.insert path stamp := by
  by_cases known : path ∈ s.watches <;> simp [take, keep, watch, known]

theorem mem_sheets_take (s : Loaded) (owner : Nat) (path : String) (stamp : Int) (sheet : Sheet)
    (q : String) :
    q ∈ (s.take owner path stamp sheet).sheets ↔ path = q ∨ q ∈ s.sheets := by
  rw [sheets_take, Std.ExtTreeMap.mem_insert, Std.LawfulEqCmp.compare_eq_iff_eq]

theorem of_sheets_take {s : Loaded} {owner : Nat} {path q : String} {stamp : Int}
    {sheet held : Sheet} (found : (s.take owner path stamp sheet).sheets[q]? = some held) :
    (q = path ∧ held = sheet) ∨ (q ≠ path ∧ s.sheets[q]? = some held) := by
  rw [sheets_take] at found
  exact of_getElem?_insert found

theorem getElem?_stamps_take (s : Loaded) (owner : Nat) (path : String) (stamp : Int)
    (sheet : Sheet) (q : String) : (s.take owner path stamp sheet).stamps[q]? =
      if path = q then some stamp else s.stamps[q]? := by
  rw [stamps_take, Std.ExtTreeMap.getElem?_insert]
  simp only [Std.LawfulEqCmp.compare_eq_iff_eq]

@[simp] theorem reads_take (s : Loaded) (owner : Nat) (path : String) (stamp : Int)
    (sheet : Sheet) :
    (s.take owner path stamp sheet).world.reads = s.world.reads := by
  by_cases known : path ∈ s.watches <;> simp [take, keep, watch, known]

theorem mem_watches_take (s : Loaded) (owner : Nat) (path : String) (stamp : Int) (sheet : Sheet)
    (other : String) :
    other ∈ (s.take owner path stamp sheet).watches ↔ path = other ∨ other ∈ s.watches := by
  by_cases known : path ∈ s.watches
  · have unchanged : (s.take owner path stamp sheet).watches = s.watches := by
      simp [take, keep, watch, known]
    rw [unchanged]
    exact ⟨Or.inr, fun h => h.elim (fun same => same ▸ known) id⟩
  · simp [take, keep, watch, known, Std.ExtTreeMap.mem_insert]

end Loaded

def addEdge (edges : List String) (path : String) : List String :=
  if edges.contains path then edges else edges ++ [path]

namespace Loader

/-- Looks at one file that an import may stand for; `descend` loads it. Its edge is kept if it is
there. -/
def followCandidate (l : Loader) (descend : String → Int → Loading Unit) (visiting : List String)
    (edges : List String) (candidate : String) : Loading (List String) := do
  let disk := (← get).world.disk
  let path := disk.real candidate
  if l.root = some path then return addEdge edges path
  match disk.stamp? candidate with
  | none =>
      modify (·.drop path)
      return edges
  | some stamp =>
      unless visiting.contains path || (← get).isCurrent path stamp do descend path stamp
      return addEdge edges path

def sheetOf (path : String) : Loading Sheet := do
  match (← get).sheets[path]? with
  | some sheet => return sheet
  | none => throw (.forgotten path)

/-- Follows all imports of a loaded file and keeps where they led. -/
def followImports (l : Loader) (descend : String → Int → Loading Unit) (importer : String)
    (visiting : List String) : Loading Unit := do
  let paths := (← sheetOf importer).candidates importer
  let edges ← paths.foldlM (l.followCandidate descend visiting) []
  let sheet ← sheetOf importer
  modify (·.link importer sheet edges)

/-- Loads a file from the disk, then what it imports. Every step down visits one more file of the
disk. -/
def loadFile (l : Loader) : (fuel : Nat) → (visiting : List String) → String → Int → Loading Unit
  | 0, _, _, _ => return
  | fuel + 1, visiting, path, stamp => do
      modify (·.noteRead path)
      match (← get).world.disk.lines? path with
      | none => modify (·.drop path)
      | some lines =>
          match Sheet.read l.matcher lines with
          | .error e => throw (.numeral e)
          | .ok sheet =>
              modify (·.take l.owner path stamp sheet)
              l.followImports (fun next stamp => l.loadFile fuel (next :: visiting) next stamp) path
                visiting

/-- The number of files bounds how deep imports can lead. -/
def load (l : Loader) (visiting : List String) (path : String) (stamp : Int) : Loading Unit := do
  l.loadFile ((← get).world.disk.files.size + 1) visiting path stamp

end Loader

/-- The files seen so far, and those of them that are finished, in order. -/
structure Walk where
  seen : List String
  order : List String

/-- Imports come before their importers. Every step down sees one more sheet. -/
def visit (sheets : Sheets) : (fuel : Nat) → Walk → String → Walk
  | 0, w, _ => w
  | fuel + 1, w, path =>
      match w.seen.contains path, sheets[path]? with
      | false, some sheet =>
          let w := sheet.edges.foldl (visit sheets fuel) { w with seen := path :: w.seen }
          { w with order := w.order ++ [path] }
      | _, _ => w

/-- The sheets that the root leads to, imports before importers. -/
def reachable (sheets : Sheets) (root : Option String) : List String :=
  match root with
  | none => []
  | some root => (visit sheets (sheets.size + 1) ⟨[], []⟩ root).order

/-- The declarations of sheets in order; a later one counts. -/
def mergeSheets (sheets : Sheets) (order : List String) : Declarations :=
  order.foldl (fun out path =>
    match sheets[path]? with
    | some sheet => out.insertMany sheet.flatten.toList
    | none => out) ∅

end ColorSpans.Sass
