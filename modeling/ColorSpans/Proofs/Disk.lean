import ColorSpans.Disk
import ColorSpans.Proofs.Path

/-! Disks that know a file by all its absolute spellings, and what becomes of a disk when its files
are rewritten or deleted. -/
namespace ColorSpans

/-- A file has one time of change under its normalized and its real spelling. -/
def Disk.IsConsistent (disk : Disk) : Prop :=
  ∀ path, Path.isAbsolute path = true →
    disk.stamp? (disk.real (Path.normal path)) = disk.stamp? (Path.normal path)

/-- Absolute paths that are normalized. -/
def Spelled (paths : List String) : Prop :=
  ∀ candidate ∈ paths, ∃ path, Path.isAbsolute path = true ∧ candidate = Path.normal path

theorem Disk.IsConsistent.stamp?_real {disk : Disk} (consistent : disk.IsConsistent)
    {paths : List String}
    (spelled : Spelled paths) {candidate : String} (asked : candidate ∈ paths) :
    disk.stamp? (disk.real candidate) = disk.stamp? candidate := by
  obtain ⟨path, absolute, rfl⟩ := spelled candidate asked
  exact consistent path absolute

theorem Disk.isConsistent_empty (working : String) (unreadable : List String) :
    Disk.IsConsistent ⟨working, ∅, unreadable⟩ := fun path _ => by
  simp [Disk.stamp?]

theorem Disk.IsConsistent.insert {disk : Disk} (h : disk.IsConsistent) (body : List Char)
    (rooted : body.head? ≠ some '/') (file : File) :
    Disk.IsConsistent ⟨disk.working, (disk.files.insert (String.ofList ('/' :: body)) file).insert
      (String.ofList ('/' :: '/' :: body)) file, disk.unreadable⟩ := by
  intro path absolute
  have before := h path absolute
  obtain ⟨parts, plain, one | two⟩ := Path.normal_absolute absolute
  · rw [one, Disk.real, (Path.real_joinParts _ plain).1]
  · rw [two, Disk.real, (Path.real_joinParts _ plain).2] at before ⊢
    have first : (Path.joinParts parts).head? ≠ some '/' := Path.head?_joinParts plain
    have apart : body ≠ '/' :: Path.joinParts parts := by
      rintro rfl
      exact rooted rfl
    have apart' : '/' :: body ≠ Path.joinParts parts := by
      intro same
      rw [← same] at first
      exact first rfl
    simp only [Disk.stamp?] at before ⊢
    simp only [Std.ExtTreeMap.getElem?_insert, Std.LawfulEqCmp.compare_eq_iff_eq, String.ofList_inj,
      List.cons.injEq, true_and, apart, apart', if_false]
    by_cases same : body = Path.joinParts parts
    · simp [same]
    · simpa [same] using before

/-- Files were rewritten or deleted; none was made, and what could not be read still cannot. -/
structure Disk.Revises (disk disk' : Disk) : Prop where
  working : disk'.working = disk.working
  unreadable : ∀ path, path ∈ disk'.unreadable ↔ path ∈ disk.unreadable
  files : ∀ path ∈ disk'.files, path ∈ disk.files

namespace Disk.Revises

variable {disk disk' : Disk} {path : String}

theorem real_eq (h : disk.Revises disk') (path : String) : disk'.real path = disk.real path := by
  rw [Disk.real, Disk.real, h.working]

theorem isSome_stamp? (h : disk.Revises disk') (there : (disk'.stamp? path).isSome = true) :
    (disk.stamp? path).isSome = true := by
  simp only [Disk.stamp?, Option.isSome_map, ← Std.ExtTreeMap.mem_iff_isSome_getElem?] at there ⊢
  exact h.files path there

theorem lines?_eq (h : disk.Revises disk') (same : disk'.files[path]? = disk.files[path]?) :
    disk'.lines? path = disk.lines? path := by
  have unreadable := h.unreadable path
  simp only [Disk.lines?, List.contains_eq_mem, decide_eq_true_eq, same, unreadable]

theorem isSome_lines? (h : disk.Revises disk') (readable : (disk'.lines? path).isSome = true) :
    (disk.lines? path).isSome = true := by
  have unreadable := h.unreadable path
  have there := h.files path
  simp only [Disk.lines?, List.contains_eq_mem, decide_eq_true_eq, unreadable] at readable ⊢
  split at readable
  · cases readable
  · rename_i can
    rw [if_neg can, Option.isSome_map, ← Std.ExtTreeMap.mem_iff_isSome_getElem?]
    rw [Option.isSome_map, ← Std.ExtTreeMap.mem_iff_isSome_getElem?] at readable
    exact there readable

end Disk.Revises

end ColorSpans
