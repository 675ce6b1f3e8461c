import ColorSpans.Proofs.Sass.Walk

/-! What a commit keeps: the sheets that the root leads to, with their records. -/
namespace ColorSpans.Sass

def eraseAll {β : Type} (m : Std.ExtTreeMap String β) (paths : List String) :
    Std.ExtTreeMap String β :=
  paths.foldl (·.erase ·) m

theorem getElem?_eraseAll {β : Type} (m : Std.ExtTreeMap String β) (paths : List String)
    (q : String) :
    (eraseAll m paths)[q]? = if q ∈ paths then none else m[q]? := by
  induction paths generalizing m with
  | nil => rfl
  | cons path paths ih =>
    rw [eraseAll, List.foldl_cons, ← eraseAll, ih, Std.ExtTreeMap.getElem?_erase]
    by_cases later : q ∈ paths
    · simp [later]
    · by_cases same : path = q <;> simp [later, same, Ne.symm]

theorem mergeSheets_congr {sheets sheets' : Sheets} {order : List String}
    (same : ∀ path ∈ order, sheets[path]?.map Sheet.flatten = sheets'[path]?.map Sheet.flatten) :
    mergeSheets sheets order = mergeSheets sheets' order := by
  refine List.foldl_ext _ _ _ fun out path there => ?_
  have alike := same path there
  cases h : sheets[path]? <;> cases h' : sheets'[path]? <;> simp_all

namespace Loaded

theorem dropAll_cons (s : Loaded) (path : String) (paths : List String) :
    s.dropAll (path :: paths) = (s.drop path).dropAll paths := rfl

theorem sheets_dropAll (s : Loaded) (paths : List String) :
    (s.dropAll paths).sheets = eraseAll s.sheets paths := by
  induction paths generalizing s with
  | nil => rfl
  | cons path paths ih => rw [dropAll_cons, ih, sheets_drop]; rfl

theorem stamps_dropAll (s : Loaded) (paths : List String) :
    (s.dropAll paths).stamps = eraseAll s.stamps paths := by
  induction paths generalizing s with
  | nil => rfl
  | cons path paths ih => rw [dropAll_cons, ih, stamps_drop]; rfl

theorem watches_dropAll (s : Loaded) (paths : List String) :
    (s.dropAll paths).watches = eraseAll s.watches paths := by
  induction paths generalizing s with
  | nil => rfl
  | cons path paths ih => rw [dropAll_cons, ih, watches_drop]; rfl

theorem disk_dropAll (s : Loaded) (paths : List String) :
    (s.dropAll paths).world.disk = s.world.disk := by
  induction paths generalizing s with
  | nil => rfl
  | cons path paths ih => rw [dropAll_cons, ih, disk_drop]

theorem reads_dropAll (s : Loaded) (paths : List String) :
    (s.dropAll paths).world.reads = s.world.reads := by
  induction paths generalizing s with
  | nil => rfl
  | cons path paths ih => rw [dropAll_cons, ih, reads_drop]

end Loaded

namespace Variables

variable (v : Variables) (s : Loaded)

def swept : List String :=
  s.sheets.keys.filter fun path => !(reachable s.sheets v.root).contains path

theorem mem_swept {path : String} :
    path ∈ v.swept s ↔ path ∈ s.sheets ∧ path ∉ reachable s.sheets v.root := by
  simp [swept]

@[simp] theorem root_commit : (v.commit s).1.root = v.root := rfl

@[simp] theorem owner_commit : (v.commit s).1.owner = v.owner := rfl

@[simp] theorem matcher_commit : (v.commit s).1.matcher = v.matcher := rfl

@[simp] theorem disk_commit : (v.commit s).2.disk = s.world.disk := s.disk_dropAll _

@[simp] theorem reads_commit : (v.commit s).2.reads = s.world.reads := s.reads_dropAll _

theorem getElem?_sheets_commit (path : String) :
    (v.commit s).1.sheets[path]? =
      if path ∈ reachable s.sheets v.root then s.sheets[path]? else none := by
  have kept : (v.commit s).1.sheets[path]? =
      if path ∈ v.swept s then none else s.sheets[path]? := by
    rw [← getElem?_eraseAll, ← Loaded.sheets_dropAll]
    rfl
  rw [kept]
  by_cases there : path ∈ s.sheets
  · by_cases found : path ∈ reachable s.sheets v.root <;> simp [mem_swept, there, found]
  · simp [mem_swept, there]

theorem of_sheets_commit {v : Variables} {s : Loaded} {path : String} {sheet : Sheet}
    (kept : (v.commit s).1.sheets[path]? = some sheet) : s.sheets[path]? = some sheet := by
  rw [getElem?_sheets_commit] at kept
  split at kept
  · exact kept
  · cases kept

theorem getElem?_stamps_commit (path : String) :
    (v.commit s).1.stamps[path]? = if path ∈ v.swept s then none else s.stamps[path]? := by
  rw [← getElem?_eraseAll, ← Loaded.stamps_dropAll]
  rfl

theorem getElem?_stamps_commit_of_mem {path : String} (kept : path ∈ (v.commit s).1.sheets) :
    (v.commit s).1.stamps[path]? = s.stamps[path]? := by
  have stays : path ∉ v.swept s := by
    rw [mem_swept]
    rintro ⟨-, lost⟩
    rw [Std.ExtTreeMap.mem_iff_isSome_getElem?, getElem?_sheets_commit, if_neg lost] at kept
    cases kept
  rw [getElem?_stamps_commit, if_neg stays]

theorem getElem?_watches_commit (path : String) :
    (v.commit s).1.watches[path]? = if path ∈ v.swept s then none else s.watches[path]? := by
  rw [← getElem?_eraseAll, ← Loaded.watches_dropAll]
  rfl

variable {v s} {root : String}

theorem mem_sheets_commit (rooted : v.root = some root) {path : String} :
    path ∈ (v.commit s).1.sheets ↔ path ∈ reachable s.sheets (some root) := by
  rw [Std.ExtTreeMap.mem_iff_isSome_getElem?, getElem?_sheets_commit, rooted]
  by_cases found : path ∈ reachable s.sheets (some root)
  · simp [found, mem_of_mem_reachable found]
  · simp [found]

theorem reachable_commit (rooted : v.root = some root) :
    reachable (v.commit s).1.sheets (some root) = reachable s.sheets (some root) := by
  by_cases there : root ∈ s.sheets
  · refine (reachable_congr (fun path inside => ?_) (fun a b => mem_reachable_of_edge)
      (root_mem_reachable there)).symm
    have same : edgesOf (v.commit s).1.sheets path = edgesOf s.sheets path := by
      rw [edgesOf, getElem?_sheets_commit, rooted, if_pos inside]
      rfl
    rw [Graph.trim, Graph.trim, same]
    refine Option.map_congr fun edges node => List.filter_congr fun q target => ?_
    by_cases known : q ∈ s.sheets
    · have edge : (edgesOf s.sheets).Edge path q := ⟨edges, node, target, isSome_edgesOf.2 known⟩
      have kept := (mem_sheets_commit (v := v) rooted).2 (mem_reachable_of_edge inside edge)
      rw [isSome_edgesOf.2 known, isSome_edgesOf.2 kept]
    · have gone : q ∉ (v.commit s).1.sheets := fun kept =>
        known (mem_of_mem_reachable ((mem_sheets_commit rooted).1 kept))
      rw [Bool.eq_iff_iff, isSome_edgesOf, isSome_edgesOf]
      exact ⟨fun h => absurd h known, fun h => absurd h gone⟩
  · rw [reachable_eq_nil there, reachable_eq_nil]
    exact fun kept => there (mem_of_mem_reachable ((mem_sheets_commit rooted).1 kept))

theorem definitions_commit (rooted : v.root = some root) :
    (v.commit s).1.definitions =
      resolveAll (mergeSheets (v.commit s).1.sheets
        (reachable (v.commit s).1.sheets (some root))) := by
  rw [reachable_commit rooted]
  refine congrArg resolveAll ?_
  show mergeSheets (s.dropAll (v.swept s)).sheets (reachable s.sheets v.root) = _
  rw [rooted]
  rfl

theorem leads_commit (rooted : v.root = some root) {path : String}
    (kept : path ∈ (v.commit s).1.sheets) : (edgesOf (v.commit s).1.sheets).Leads root path := by
  rw [mem_sheets_commit rooted, ← reachable_commit (v := v) rooted] at kept
  exact (leads_of_mem_reachable kept).2

end Variables

end ColorSpans.Sass
