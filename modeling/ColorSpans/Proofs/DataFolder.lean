import ColorSpans.Proofs.KeptDocuments

/-! Data folders as bounds. However a file is spelled, it leads from the data folder to one place. A
load is refused exactly if that place is neither the folder nor below it; else it opens what stands
there, and nothing outside the folder makes a difference. -/
namespace ColorSpans

open ColorSpans.Path (ofParts target IsPlain)

section

variable {e α β : Type}

/-- Whatever fails here, it is not that a place lies outside its folder. -/
def Admits (x : Except DocumentError α) : Prop := ∀ place folder, x ≠ .error (.outside place folder)

theorem admits_ok (a : α) : Admits (.ok a) := nofun

theorem Admits.bind {x : Except DocumentError α} {f : α → Except DocumentError β} (first : Admits x)
    (next : ∀ a, Admits (f a)) : Admits (x >>= f) := by
  cases x with
  | error error =>
    intro place folder same
    exact first place folder (congrArg _ (Except.error.inj same))
  | ok a => exact next a

theorem admits_mapError {x : Except e α} {f : e → DocumentError}
    (told : ∀ error place folder, f error ≠ .outside place folder) : Admits (x.mapError f) := by
  cases x with
  | error error => exact fun place folder same => told error place folder (Except.error.inj same)
  | ok a => exact admits_ok a

theorem admits_readDocument (key : DocumentKey) (bytes : List UInt8) :
    Admits (readDocument key bytes) := by
  unfold readDocument
  split
  · split
    · exact nofun
    · split
      · exact admits_mapError nofun
      · apply admits_mapError
        intro error
        cases error <;> exact nofun
  · exact nofun

theorem admits_checkMode (mode : LoadMode) (name : String) (document : Json) :
    Admits (checkMode mode name document) := by
  unfold checkMode
  split <;> exact nofun

theorem admits_readFound (key : DocumentKey) (bytes : List UInt8) (validator : Option Validator) :
    Admits (readFound key bytes validator) := by
  apply (admits_readDocument key bytes).bind
  intro document
  apply (admits_checkMode key.mode _ document).bind
  intro document
  split
  · exact admits_mapError nofun
  · exact admits_ok _

end

def LoadRequest.place (request : LoadRequest) (folder : String) : List (List Char) :=
  target (Path.join folder (documentName request.file))

section

variable {tree tree' : FileTree} {kept : Documents} {folder : String} {request : LoadRequest}
  {validator : Option Validator}

theorem LoadRequest.isPlain_place (request : LoadRequest) (folder : String) :
    ∀ p ∈ request.place folder, IsPlain p := Path.isPlain_target _

theorem real_join (folder : String) (request : LoadRequest) :
    Path.real "/" (Path.join (ofParts (target folder)) (documentName request.file)) =
      ofParts (request.place folder) := by
  rw [LoadRequest.place, Path.real_eq_ofParts, Path.target_join, Path.target_join,
    Path.target_ofParts (Path.isPlain_target folder)]

theorem isWithin_place : Path.isWithin (ofParts (target folder))
    (ofParts (request.place folder)) = true ↔ target folder <+: request.place folder :=
  Path.isWithin_ofParts (Path.isPlain_target folder) (request.isPlain_place folder)

theorem findFile_outside (outside : ¬target folder <+: request.place folder) :
    findFile tree folder request =
      .error (.outside (ofParts (request.place folder)) (ofParts (target folder))) := by
  have refused := Bool.eq_false_iff.2 (mt isWithin_place.1 outside)
  simp only [findFile, Path.real_eq_ofParts folder, real_join, refused, Bool.not_false, if_true]

theorem findFile_inside (inside : target folder <+: request.place folder) :
    findFile tree folder request =
      match tree.openFile "/" (ofParts (request.place folder)) with
      | .error _ => .error (.missing (ofParts (request.place folder)))
      | .ok (bytes, stamp) =>
          .ok (⟨ofParts (request.place folder), stamp, request.mode, request.encoding,
            request.relaxed⟩, bytes) := by
  have within := isWithin_place.2 inside
  cases opened : tree.openFile "/" (ofParts (request.place folder)) <;>
    simp only [findFile, Path.real_eq_ofParts folder, real_join, within, opened, Bool.not_true,
      Bool.false_eq_true, if_false]

theorem findFile_eq_ok_iff {key : DocumentKey} {bytes : List UInt8} :
    findFile tree folder request = .ok (key, bytes) ↔
      target folder <+: request.place folder ∧
      tree.openFile "/" (ofParts (request.place folder)) = .ok (bytes, key.stamp) ∧
      key = ⟨ofParts (request.place folder), key.stamp, request.mode, request.encoding,
        request.relaxed⟩ := by
  by_cases inside : target folder <+: request.place folder
  · rw [findFile_inside inside]
    constructor
    · intro found
      split at found
      · cases found
      · rename_i opened
        obtain ⟨rfl, rfl⟩ := Prod.mk.inj (Except.ok.inj found)
        exact ⟨inside, opened, rfl⟩
    · rintro ⟨-, opened, same⟩
      rw [opened]
      exact congrArg (fun key => Except.ok (key, bytes)) same.symm
  · rw [findFile_outside inside]
    exact iff_of_false nofun fun found => inside found.1

theorem loadDocument_outside_iff {place base : String} :
    (loadDocument tree kept folder request validator).1.map (·.document) = .error
      (.outside place base) ↔
      ¬target folder <+: request.place folder ∧ place = ofParts (request.place folder) ∧
        base = ofParts (target folder) := by
  by_cases inside : target folder <+: request.place folder
  · refine iff_of_false ?_ fun h => h.1 inside
    cases found : findFile tree folder request with
    | error e =>
      rw [Library.loadDocument_unfound found]
      rw [findFile_inside inside] at found
      split at found
      · obtain rfl := Except.error.inj found
        exact nofun
      · cases found
    | ok file =>
      obtain ⟨key, bytes⟩ := file
      rw [Library.document_found found]
      cases (if validator.isNone then kept.lookup key else none) with
      | some document => exact nofun
      | none => exact admits_readFound key bytes validator place base
  · rw [Library.loadDocument_unfound (findFile_outside inside)]
    constructor
    · intro same
      obtain ⟨rfl, rfl⟩ := DocumentError.outside.inj (Except.error.inj same)
      exact ⟨inside, rfl, rfl⟩
    · rintro ⟨-, rfl, rfl⟩
      rfl

theorem findFile_congr (same : ∀ parts, parts <+: target folder ∨ target folder <+: parts →
      tree'.entry? (ofParts parts) = tree.entry? (ofParts parts)) :
    findFile tree' folder request = findFile tree folder request := by
  by_cases inside : target folder <+: request.place folder
  · have along (parts : List (List Char)) (above : parts <+: request.place folder) :
        tree'.entry? (ofParts parts) = tree.entry? (ofParts parts) :=
      same parts (List.prefix_or_prefix_of_prefix above inside)
    have reaches : tree'.Reaches (request.place folder) ↔ tree.Reaches (request.place folder) := by
      refine forall_congr' fun parts => forall_congr' fun above => ?_
      rw [along parts above]
    have opened (file : List UInt8 × Int) :
        tree'.openFile "/" (ofParts (request.place folder)) = .ok file ↔
          tree.openFile "/" (ofParts (request.place folder)) = .ok file := by
      obtain ⟨bytes, stamp⟩ := file
      rw [FileTree.openFile_eq_ok_iff (request.isPlain_place folder),
        FileTree.openFile_eq_ok_iff (request.isPlain_place folder), reaches,
          along _ (List.prefix_refl _)]
    rw [findFile_inside inside, findFile_inside inside]
    cases here : tree.openFile "/" (ofParts (request.place folder)) with
    | ok file => rw [(opened file).2 here]
    | error e =>
      cases there : tree'.openFile "/" (ofParts (request.place folder)) with
      | ok file =>
        rw [(opened file).1 there] at here
        cases here
      | error e' => rfl
  · rw [findFile_outside inside, findFile_outside inside]

theorem loadDocument_congr (same : ∀ parts, parts <+: target folder ∨ target folder <+: parts →
      tree'.entry? (ofParts parts) = tree.entry? (ofParts parts)) :
    loadDocument tree' kept folder request validator =
      loadDocument tree kept folder request validator := by
  unfold loadDocument
  rw [findFile_congr same]

end

namespace Library

/-- The file that a load opens, and what its reading depends on. -/
def opened (lib : Library) (request : LoadRequest) :
    Except DocumentError (DocumentKey × List UInt8) :=
  findFile lib.tree (request.folder.getD lib.folder) request

/-- What a load has to do with a folder and with the place where its file leads, both told by their
names from the root on. -/
structure Confined (lib : Library) (request : LoadRequest) (validator : Option Validator)
    (folder place : List (List Char)) : Prop where
  named : (∀ p ∈ folder, IsPlain p) ∧ ∀ p ∈ place, IsPlain p
  normalized : lib.folderOf request = ofParts folder ∧ lib.placeOf request = ofParts place
  /-- It is refused exactly if the place is neither the folder nor below it, name by name. -/
  refused_iff : ∀ shown base, lib.loaded request validator = .error (.outside shown base) ↔
    ¬folder <+: place ∧ shown = ofParts place ∧ base = ofParts folder
  /-- A file is opened at the place only, and only below the folder, unless the folder is this very
  file. -/
  opens : ∀ key bytes, lib.opened request = .ok (key, bytes) →
    key.place = ofParts place ∧ lib.tree.entry? key.place = some (.file bytes key.stamp) ∧
      ((∃ below, below ≠ [] ∧ place = folder ++ below) ∨
        place = folder ∧ lib.tree.entry? (ofParts folder) = some (.file bytes key.stamp))
  /-- A file that is found under its spelling, and stands below the folder, is opened. -/
  reaches : ∀ bytes stamp,
    lib.tree.openFile "/" (Path.join (request.folder.getD lib.folder) (documentName request.file)) =
      .ok (bytes, stamp) →
    folder <+: place →
    lib.opened request =
      .ok (⟨ofParts place, stamp, request.mode, request.encoding, request.relaxed⟩, bytes)
  /-- What stands elsewhere than at the folder, above it or below it is not looked at. -/
  blind : ∀ tree : FileTree, (∀ parts, parts <+: folder ∨ folder <+: parts →
      tree.entry? (ofParts parts) = lib.tree.entry? (ofParts parts)) →
    ({ lib with tree } : Library).loaded request validator = lib.loaded request validator

/-- Every load is confined to its folder, however the folder and the file are spelled. -/
theorem confined_load (lib : Library) (request : LoadRequest) (validator : Option Validator) :
    Confined lib request validator (target (request.folder.getD lib.folder))
      (target (Path.join (request.folder.getD lib.folder) (documentName request.file))) where
  named := ⟨Path.isPlain_target _, Path.isPlain_target _⟩
  normalized := by
    have folder := Path.real_eq_ofParts (request.folder.getD lib.folder)
    refine ⟨folder, ?_⟩
    rw [placeOf, folderOf, folder]
    exact real_join _ request
  refused_iff shown base := by
    rw [loaded_eq]
    exact loadDocument_outside_iff
  opens key bytes found := by
    obtain ⟨⟨below, whole⟩, opened, same⟩ := findFile_eq_ok_iff.1 found
    have place : key.place = ofParts (request.place (request.folder.getD lib.folder)) := by
      rw [same]
    obtain ⟨-, file⟩ := (FileTree.openFile_eq_ok_iff (request.isPlain_place _)).1 opened
    refine ⟨place, place ▸ file, ?_⟩
    by_cases here : below = []
    · rw [here, List.append_nil] at whole
      right
      refine ⟨whole.symm, ?_⟩
      rw [whole]
      exact file
    · left
      exact ⟨below, here, whole.symm⟩
  reaches bytes stamp found inside := by
    have opened := (FileTree.openFile_eq_ok_iff (request.isPlain_place _)).2
      (FileTree.of_openFile found)
    exact findFile_eq_ok_iff.2 ⟨inside, opened, rfl⟩
  blind tree same := by
    rw [loaded_eq, loaded_eq]
    exact congrArg (fun loaded => loaded.1.map (·.document)) (loadDocument_congr same)

example : target "/data/../data//sub/./../a.json" = target "/data" ++ ["a.json".toList] ∧
    ¬target "/data" <+: target "/data/../data2/a.json" := by decide

end Library

end ColorSpans
