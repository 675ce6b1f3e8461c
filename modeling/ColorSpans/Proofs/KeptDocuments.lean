import ColorSpans.Proofs.DefaultOptions
import ColorSpans.Proofs.FileTree
import Mathlib.Data.List.Infix

/-! Kept documents. As long as every file that is written gets a time that it never had before, a
load gives what it would give if nothing had been kept. -/
namespace ColorSpans

inductive DataStep
  | load (request : LoadRequest) (validator : Option Validator)
  | forget
  | write (place : String) (bytes : List UInt8) (stamp : Int)
  | remove (place : String)
  | settings (own shared : Option String)
  | enter (folder : String)
  | leave

def validated (name : String) (validate : Validator) : Json → Except DocumentError Json
  | .obj members => ((validate members).map Json.obj).mapError (.refused name)
  | document => .ok document

namespace Library

def after (lib : Library) : DataStep → Library
  | .load request validator => (lib.load request validator).2
  | .forget => lib.forget
  | .write place bytes stamp => { lib with tree := lib.tree.addFile place bytes stamp }
  | .remove place => { lib with tree := lib.tree.remove place }
  | .settings own shared => { lib with own, shared }
  | .enter folder => lib.enter folder
  | .leave => lib.leave

def run (lib : Library) (steps : List DataStep) : Library := steps.foldl after lib

/-- What a load gives, kept or not. -/
def loaded (lib : Library) (request : LoadRequest) (validator : Option Validator) :
    Except DocumentError Json :=
  (lib.load request validator).1.map (·.document)

def folderOf (lib : Library) (request : LoadRequest) : String :=
  Path.real "/" (request.folder.getD lib.folder)

def placeOf (lib : Library) (request : LoadRequest) : String :=
  Path.real "/" (Path.join (lib.folderOf request) (documentName request.file))

/-- At some moment of a run there was a file with these bytes and this time. -/
def Had (lib : Library) (steps : List DataStep) (place : String) (bytes : List UInt8)
    (stamp : Int) : Prop :=
  ∃ earlier, earlier <+: steps ∧
    FileTree.entry? (lib.run earlier).tree place = some (.file bytes stamp)

/-- Every file that is written gets a time that it never had before. -/
def Renews (lib : Library) (steps : List DataStep) : Prop :=
  ∀ before place bytes stamp behind, steps = before ++ .write place bytes stamp :: behind →
    ∀ bytes', ¬lib.Had before place bytes' stamp

variable {lib : Library} {steps : List DataStep} {step : DataStep} {place : String}
  {bytes bytes' : List UInt8} {stamp : Int}

theorem run_concat (lib : Library) (steps : List DataStep) (step : DataStep) :
    lib.run (steps ++ [step]) = (lib.run steps).after step := by
  rw [run, run, List.foldl_append]
  rfl

theorem had_now (there : FileTree.entry? (lib.run steps).tree place = some (.file bytes stamp)) :
    lib.Had steps place bytes stamp := ⟨steps, List.prefix_refl steps, there⟩

theorem Had.later (had : lib.Had steps place bytes stamp) (step : DataStep) :
    lib.Had (steps ++ [step]) place bytes stamp := by
  obtain ⟨earlier, before, there⟩ := had
  exact ⟨earlier, before.trans (List.prefix_append steps [step]), there⟩

theorem load_eq (lib : Library) (request : LoadRequest) (validator : Option Validator) :
    lib.load request validator =
      ((loadDocument lib.tree lib.kept (request.folder.getD lib.folder) request validator).1,
        { lib with
          kept := (loadDocument lib.tree lib.kept (request.folder.getD lib.folder) request
            validator).2 }) := by
  rw [load]

theorem loaded_eq (lib : Library) (request : LoadRequest) (validator : Option Validator) :
    lib.loaded request validator =
      (loadDocument lib.tree lib.kept (request.folder.getD lib.folder) request validator).1.map
        (·.document) := by
  rw [loaded, load_eq]

theorem tree_after (lib : Library) (step : DataStep) : (lib.after step).tree =
    match step with
    | .write place bytes stamp => lib.tree.addFile place bytes stamp
    | .remove place => lib.tree.remove place
    | _ => lib.tree := by
  cases step with
  | load request validator => rw [after, load_eq]
  | leave =>
    rw [after, leave]
    split <;> rfl
  | _ => rfl

theorem entry?_after (there : FileTree.entry? (lib.after step).tree place =
      some (.file bytes stamp)) :
    step = .write place bytes stamp ∨ lib.tree.entry? place = some (.file bytes stamp) := by
  rw [tree_after] at there
  split at there
  · rcases FileTree.entry?_addFile there with ⟨rfl, rfl, rfl⟩ | before
    · exact .inl rfl
    · exact .inr before
  · exact .inr (FileTree.entry?_remove there).2
  · exact .inr there

theorem had_concat (had : lib.Had (steps ++ [step]) place bytes stamp) :
    lib.Had steps place bytes stamp ∨ step = .write place bytes stamp := by
  obtain ⟨earlier, before, there⟩ := had
  rcases List.prefix_concat_iff.1 before with rfl | before
  · rw [run_concat] at there
    exact (entry?_after there).symm.imp_left had_now
  · exact .inl ⟨earlier, before, there⟩

theorem Renews.init (renews : lib.Renews (steps ++ [step])) : lib.Renews steps := by
  rintro before place bytes stamp behind rfl
  refine renews before place bytes stamp (behind ++ [step]) ?_
  rw [List.append_assoc, List.cons_append]

theorem Renews.last (renews : lib.Renews (steps ++ [.write place bytes stamp]))
    (bytes' : List UInt8) :
    ¬lib.Had steps place bytes' stamp := renews steps place bytes stamp [] rfl bytes'

theorem Renews.unique (renews : lib.Renews steps) (had : lib.Had steps place bytes stamp)
    (had' : lib.Had steps place bytes' stamp) : bytes = bytes' := by
  -- A file that the last step writes was not there before with its time, so both are from before or
  -- both from it.
  induction steps using List.reverseRecOn with
  | nil =>
    obtain ⟨earlier, before, there⟩ := had
    obtain ⟨earlier', before', there'⟩ := had'
    obtain rfl := List.prefix_nil.1 before
    obtain rfl := List.prefix_nil.1 before'
    exact (Entry.file.inj (Option.some.inj (there.symm.trans there'))).1
  | append_singleton steps step ih =>
    rcases had_concat had with old | rfl
    · rcases had_concat had' with old' | rfl
      · exact ih renews.init old old'
      · exact absurd old (renews.last bytes)
    · rcases had_concat had' with old' | same
      · exact absurd old' (renews.last bytes')
      · exact (DataStep.write.inj same).2.1

theorem readFound_unchecked {key : DocumentKey} {validator : Option Validator}
    (unchecked : ¬(validator.isSome && key.mode == .object) = true) (bytes : List UInt8) :
    readFound key bytes validator = readFound key bytes none := by
  cases validator with
  | none => rfl
  | some validate =>
    have other : key.mode ≠ .object := by simpa using unchecked
    unfold readFound
    cases mode : key.mode with
    | object => exact absurd mode other
    | _ => rfl

theorem readFound_checked {key : DocumentKey} (mode : key.mode = .object) (bytes : List UInt8)
    (validate : Validator) :
    readFound key bytes (some validate) =
      readFound key bytes none >>= validated (Path.name key.place) validate := by
  unfold readFound
  rw [mode]
  cases readDocument key bytes with
  | error e => rfl
  | ok document => cases document <;> rfl

theorem of_findFile {tree : FileTree} {folder : String} {request : LoadRequest} {key : DocumentKey}
    (found : findFile tree folder request = .ok (key, bytes)) :
    tree.entry? key.place = some (.file bytes key.stamp) := by
  simp only [findFile] at found
  split at found
  · cases found
  · split at found
    · cases found
    · rename_i opened
      obtain ⟨rfl, rfl⟩ := Prod.mk.inj (Except.ok.inj found)
      exact FileTree.entry?_of_openFile opened

section

variable {tree : FileTree} {kept : Documents} {folder : String} {request : LoadRequest}
  {validator : Option Validator}

theorem loadDocument_unfound {e : DocumentError} (found : findFile tree folder request = .error e) :
    loadDocument tree kept folder request validator = (.error e, kept) := by
  unfold loadDocument
  rw [found]

theorem document_found {key : DocumentKey}
    (found : findFile tree folder request = .ok (key, bytes)) :
    (loadDocument tree kept folder request validator).1.map (·.document) =
      ((if validator.isNone then kept.lookup key else none).map .ok).getD
        (readFound key bytes validator) := by
  unfold loadDocument
  rw [found]
  dsimp only
  cases (if validator.isNone then kept.lookup key else none) with
  | some document => rfl
  | none => cases readFound key bytes validator <;> rfl

/-- What is given out is what the file is read as, if that holds of all that is kept. -/
theorem document_loadDocument
    (sound : ∀ key bytes document, findFile tree folder request = .ok (key, bytes) →
      (key, document) ∈ kept → readFound key bytes none = .ok document) :
    (loadDocument tree kept folder request validator).1.map (·.document) =
      findFile tree folder request >>= fun found => readFound found.1 found.2 validator := by
  cases found : findFile tree folder request with
  | error e =>
    rw [loadDocument_unfound found]
    rfl
  | ok file =>
    obtain ⟨key, bytes⟩ := file
    rw [document_found found]
    cases validator with
    | some validate => rfl
    | none =>
      cases hit : kept.lookup key with
      | none => rfl
      | some document =>
        obtain ⟨before, behind, rfl, -⟩ := List.lookup_eq_some_iff.1 hit
        have known := sound key bytes document found (List.mem_append_right _ List.mem_cons_self)
        exact known.symm

theorem mem_kept_loadDocument {entry : DocumentKey × Json}
    (there : entry ∈ (loadDocument tree kept folder request validator).2) :
    entry ∈ kept ∨ ∃ bytes, findFile tree folder request = .ok (entry.1, bytes) ∧
      readFound entry.1 bytes none = .ok entry.2 := by
  cases found : findFile tree folder request with
  | error e =>
    rw [loadDocument_unfound found] at there
    exact .inl there
  | ok file =>
    obtain ⟨key, bytes⟩ := file
    unfold loadDocument at there
    rw [found] at there
    dsimp only at there
    split at there
    · exact .inl there
    · split at there
      · exact .inl there
      · rename_i document read
        split at there
        · exact .inl there
        · rename_i unchecked
          rcases List.mem_cons.1 there with rfl | before
          · exact .inr ⟨bytes, rfl, readFound_unchecked unchecked bytes ▸ read⟩
          · exact .inl before

end

/-- What is kept is what a file with its time was read as. -/
def Sound (lib : Library) (steps : List DataStep) : Prop :=
  ∀ entry ∈ (lib.run steps).kept, ∃ bytes, lib.Had steps entry.1.place bytes entry.1.stamp ∧
    readFound entry.1 bytes none = .ok entry.2

theorem mem_kept_after {entry : DocumentKey × Json} (there : entry ∈ (lib.after step).kept) :
    entry ∈ lib.kept ∨ ∃ bytes, lib.tree.entry? entry.1.place = some (.file bytes entry.1.stamp) ∧
      readFound entry.1 bytes none = .ok entry.2 := by
  cases step with
  | load request validator =>
    rw [after, load_eq] at there
    dsimp only at there
    rcases mem_kept_loadDocument there with before | ⟨bytes, found, read⟩
    · exact .inl before
    · exact .inr ⟨bytes, of_findFile found, read⟩
  | forget => cases there
  | write place bytes stamp =>
    rw [after] at there
    exact .inl there
  | remove place =>
    rw [after] at there
    exact .inl there
  | settings own shared => exact .inl there
  | enter folder => cases there
  | leave =>
    rw [after, leave] at there
    split at there
    · exact .inl there
    · cases there

theorem Sound.concat (sound : lib.Sound steps) (step : DataStep) : lib.Sound (steps ++ [step]) := by
  intro entry there
  rw [run_concat] at there
  rcases mem_kept_after there with before | ⟨bytes, now, read⟩
  · obtain ⟨bytes, had, read⟩ := sound entry before
    exact ⟨bytes, had.later step, read⟩
  · exact ⟨bytes, (had_now now).later step, read⟩

theorem sound_run (empty : lib.kept = []) (steps : List DataStep) : lib.Sound steps := by
  induction steps using List.reverseRecOn with
  | nil =>
    intro entry there
    rw [run, List.foldl_nil, empty] at there
    cases there
  | append_singleton steps step ih => exact ih.concat step

theorem loaded_forget (lib : Library) (request : LoadRequest) (validator : Option Validator) :
    lib.forget.loaded request validator =
      findFile lib.tree (request.folder.getD lib.folder) request >>= fun found =>
        readFound found.1 found.2 validator := by
  rw [loaded_eq]
  show (loadDocument lib.tree [] (request.folder.getD lib.folder) request validator).1.map
    (·.document) = _
  exact document_loadDocument fun key bytes document _ there => absurd there List.not_mem_nil

theorem loaded_run_eq (empty : lib.kept = []) (renews : lib.Renews steps) (request : LoadRequest)
    (validator : Option Validator) :
    (lib.run steps).loaded request validator = (lib.run steps).forget.loaded request validator := by
  rw [loaded_forget, loaded_eq]
  refine document_loadDocument fun key bytes document found there => ?_
  obtain ⟨bytes', had, read⟩ := sound_run empty steps (key, document) there
  -- What was kept and what is there now have one place and one time.
  obtain rfl := renews.unique (had_now (of_findFile found)) had
  exact read

theorem place_of_findFile {tree : FileTree} {folder : String} {request : LoadRequest}
    {key : DocumentKey} (found : findFile tree folder request = .ok (key, bytes)) :
    key.place = Path.real "/" (Path.join (Path.real "/" folder) (documentName request.file)) := by
  simp only [findFile] at found
  split at found
  · cases found
  · split at found
    · cases found
    · obtain ⟨rfl, -⟩ := Prod.mk.inj (Except.ok.inj found)
      rfl

theorem loaded_forget_checked {request : LoadRequest} (mode : request.mode = .object)
    (validate : Validator) :
    lib.forget.loaded request (some validate) =
      lib.forget.loaded request none >>= validated (Path.name (lib.placeOf request)) validate := by
  rw [loaded_forget, loaded_forget]
  cases found : findFile lib.tree (request.folder.getD lib.folder) request with
  | error e => rfl
  | ok file =>
    obtain ⟨key, bytes⟩ := file
    have place : key.place = lib.placeOf request := place_of_findFile found
    rw [← place]
    exact readFound_checked ((mode_of_findFile found).trans mode) bytes validate

theorem loaded_missing {request : LoadRequest} (validator : Option Validator)
    (inside : Path.isWithin (lib.folderOf request) (lib.placeOf request) = true)
    (gone : ∀ bytes stamp, lib.tree.entry? (lib.placeOf request) ≠ some (.file bytes stamp)) :
    lib.loaded request validator = .error (.missing (lib.placeOf request)) := by
  obtain ⟨e, unopened⟩ : ∃ e, lib.tree.openFile "/" (lib.placeOf request) = .error e := by
    cases opened : lib.tree.openFile "/" (lib.placeOf request) with
    | error e => exact ⟨e, rfl⟩
    | ok file => exact absurd (FileTree.entry?_of_openFile opened) (gone file.1 file.2)
  have missing :
      findFile lib.tree (request.folder.getD lib.folder) request =
        .error (.missing (lib.placeOf request)) := by
    unfold placeOf folderOf at unopened inside
    rw [findFile, inside, unopened]
    rfl
  rw [loaded_eq, loadDocument_unfound missing]
  rfl

/-- From nothing kept on, whatever is loaded, forgotten, written and removed, if every file that is
written gets a time that it never had before: each load gives the document or the error that it
gives with nothing kept. A file that is removed is missing at once, and a validator of objects is
asked about each of them anew. -/
theorem loaded_run (lib : Library) (empty : lib.kept = []) {steps : List DataStep}
    (renews : lib.Renews steps) :
    (∀ request validator,
      (lib.run steps).loaded request validator = (lib.run steps).forget.loaded request validator) ∧
    (∀ request validator,
      Path.isWithin ((lib.run steps).folderOf request) ((lib.run steps).placeOf request) = true →
      ((lib.run steps).after (.remove ((lib.run steps).placeOf request))).loaded request validator =
        .error (.missing ((lib.run steps).placeOf request))) ∧
    ∀ request validate, request.mode = .object →
      (lib.run steps).loaded request (some validate) =
        (lib.run steps).loaded request none >>=
          validated (Path.name ((lib.run steps).placeOf request)) validate := by
  refine ⟨loaded_run_eq empty renews, fun request validator inside => ?_,
    fun request validate mode => ?_⟩
  · have gone (bytes : List UInt8) (stamp : Int) :
        FileTree.entry? ((lib.run steps).after (.remove ((lib.run steps).placeOf request))).tree
          ((lib.run steps).placeOf request) ≠ some (.file bytes stamp) :=
      fun there => (FileTree.entry?_remove there).1 rfl
    exact loaded_missing validator inside gone
  · rw [loaded_run_eq empty renews, loaded_run_eq empty renews]
    exact loaded_forget_checked mode validate

def written? : DataStep → Option (String × Int)
  | .write place _ stamp => some (place, stamp)
  | _ => none

theorem of_had (had : lib.Had steps place bytes stamp) :
    lib.tree.entry? place = some (.file bytes stamp) ∨
      (place, stamp) ∈ steps.filterMap written? := by
  induction steps using List.reverseRecOn with
  | nil =>
    obtain ⟨earlier, before, there⟩ := had
    obtain rfl := List.prefix_nil.1 before
    exact .inl there
  | append_singleton steps step ih =>
    rw [List.filterMap_append, List.mem_append]
    rcases had_concat had with old | rfl
    · exact (ih old).imp_right .inl
    · exact .inr (.inr List.mem_cons_self)

theorem renews_of_nodup (once : (steps.filterMap written?).Nodup)
    (fresh : ∀ entry ∈ steps.filterMap written?, ∀ bytes,
      lib.tree.entry? entry.1 ≠ some (.file bytes entry.2)) :
    lib.Renews steps := by
  rintro before place bytes stamp behind rfl bytes' had
  rw [List.filterMap_append] at once fresh
  have now : (place, stamp) ∈ (DataStep.write place bytes stamp :: behind).filterMap written? :=
    List.mem_filterMap.2 ⟨_, List.mem_cons_self, rfl⟩
  rcases of_had had with there | again
  · exact fresh (place, stamp) (List.mem_append_right _ now) bytes' there
  · exact (List.nodup_append.1 once).2.2 _ again _ now rfl

def plainRequest : LoadRequest := ⟨"a", .anything, none, "utf-8", false⟩

def objectRequest : LoadRequest := ⟨"a", .object, none, "utf-8", false⟩

def rewriting : List DataStep :=
  [.load plainRequest none, .write "/data/a.json" [91, 93] 2000, .load plainRequest none,
    .remove "/data/a.json", .write "/data/a.json" [123, 125] 3000]

def rewritten : Library := new (FileTree.empty.addFile "/data/a.json" [123, 125] 1000) "/data"

theorem loaded_run_rewriting :
    rewritten.kept = [] ∧ rewritten.Renews rewriting ∧ (rewritten.run rewriting).kept.length = 2 ∧
    (rewritten.run rewriting).loaded plainRequest none = (rewritten.run rewriting).forget.loaded
      plainRequest none ∧
    ((rewritten.run rewriting).after (.remove "/data/a.json")).loaded plainRequest none =
      .error (.missing "/data/a.json") ∧
    ∀ reason, (rewritten.run rewriting).loaded objectRequest (some fun _ => .error reason) =
      (rewritten.run rewriting).loaded objectRequest none >>= validated "a.json" fun _ =>
        .error reason := by
  have first : rewritten.tree.entry? "/data/a.json" = some (.file [123, 125] 1000) := by
    decide +kernel
  have renews : rewritten.Renews rewriting := by
    refine renews_of_nodup (by decide) fun entry there bytes => ?_
    rcases List.mem_cons.1 there with rfl | there
    · rw [first]
      simp
    · rw [List.mem_singleton.1 there, first]
      simp
  obtain ⟨same, missing, checked⟩ := loaded_run rewritten rfl renews
  have place : (rewritten.run rewriting).placeOf plainRequest = "/data/a.json" := by decide +kernel
  have inside : Path.isWithin ((rewritten.run rewriting).folderOf plainRequest) "/data/a.json" =
      true := by
    decide +kernel
  have name : Path.name ((rewritten.run rewriting).placeOf objectRequest) = "a.json" := by
    decide +kernel
  have removed := missing plainRequest none
  rw [place] at removed
  refine ⟨rfl, renews, by decide +kernel, same plainRequest none, removed inside, fun reason => ?_⟩
  rw [← name]
  exact checked objectRequest (fun _ => .error reason) rfl

end Library

end ColorSpans
