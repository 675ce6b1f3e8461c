import ColorSpans.Sass.Sheet

/-! Absolute paths: folders, joined paths and real paths of absolute ones are absolute, so an
absolute file imports absolute files only. -/
namespace ColorSpans.Path

theorem isAbsolute_real (working path : String) : isAbsolute (real working path) = true := by
  simp [isAbsolute, real]

theorem isAbsolute_join {folder path : String} (h : isAbsolute folder = true) :
    isAbsolute (join folder path) = true := by
  have first : folder.toList.head? = some '/' := by simpa [isAbsolute] using h
  have longer : ∀ rest : String, isAbsolute (folder ++ rest) = true := by
    intro rest
    simp [isAbsolute, List.head?_append, first]
  by_cases already : isAbsolute path = true
  · rw [join, if_pos already]
    exact already
  · rw [join, if_neg already]
    split
    · exact longer path
    · rw [String.append_assoc]
      exact longer _

theorem head?_dropWhile_reverse {cs : List Char} (p : Char → Bool)
    (left : (cs.reverse.dropWhile p).reverse ≠ []) :
    (cs.reverse.dropWhile p).reverse.head? = cs.head? := by
  have begins : (cs.reverse.dropWhile p).reverse <+: cs := by
    rw [← List.reverse_suffix, List.reverse_reverse]
    exact List.dropWhile_suffix _
  obtain ⟨rest, whole⟩ := begins
  have first := congrArg List.head? whole
  rw [List.head?_append, List.head?_eq_some_head left] at first
  rw [← first, List.head?_eq_some_head left]
  rfl

theorem isAbsolute_folder {path : String} (h : isAbsolute path = true) :
    isAbsolute (folder path) = true := by
  obtain ⟨rest, begins⟩ : ∃ rest, path.toList = '/' :: rest := by
    cases found : path.toList with
    | nil => simp [isAbsolute, found] at h
    | cons c rest => exact ⟨rest, by simpa [isAbsolute, found] using h⟩
  have parts : splitParts path.toList = [] :: splitParts rest := by rw [begins]; rfl
  have head : joinParts (splitParts path.toList).dropLast = [] ∨
      (joinParts (splitParts path.toList).dropLast).head? = some '/' := by
    rw [parts, List.dropLast_cons_of_ne_nil (splitParts_ne_nil rest)]
    cases (splitParts rest).dropLast with
    | nil => exact .inl rfl
    | cons part parts => exact .inr rfl
  simp only [folder]
  split
  · rcases head with none | some
    · simp [none, isAbsolute]
    · simp [isAbsolute, List.head?_append, some]
  · rename_i left
    have left : ((joinParts (splitParts path.toList).dropLast).reverse.dropWhile
        (· == '/')).reverse ≠ [] := by
      simpa using left
    rcases head with none | some
    · simp [none] at left
    · rw [isAbsolute, String.toList_ofList, head?_dropWhile_reverse _ left, some]
      rfl

/-- A part that a normalized absolute path is made of. -/
def IsPlain (part : List Char) : Prop := part ≠ [] ∧ part ≠ ['.'] ∧ part ≠ ['.', '.'] ∧ '/' ∉ part

theorem not_mem_splitParts {cs part : List Char} (there : part ∈ splitParts cs) : '/' ∉ part := by
  induction cs generalizing part with
  | nil => simp_all [splitParts]
  | cons c cs ih =>
    rw [splitParts] at there
    split at there
    · rcases List.mem_cons.1 there with rfl | there
      · exact List.not_mem_nil
      · exact ih there
    · rename_i other
      have other : c ≠ '/' := by simpa using other
      cases found : splitParts cs with
      | nil => exact absurd found (splitParts_ne_nil cs)
      | cons first rest =>
        rw [found] at there ih
        rcases List.mem_cons.1 there with rfl | there
        · exact not_or.2 ⟨other.symm, ih List.mem_cons_self⟩ ∘ List.mem_cons.1
        · exact ih (List.mem_cons_of_mem _ there)

theorem splitParts_append_slash {part : List Char} (whole : '/' ∉ part) (rest : List Char) :
    splitParts (part ++ '/' :: rest) = part :: splitParts rest := by
  induction part with
  | nil => rfl
  | cons c part ih =>
    obtain ⟨other, whole⟩ := not_or.1 (mt List.mem_cons.2 whole)
    rw [List.cons_append, splitParts, if_neg (by simpa using Ne.symm other), ih whole]

theorem splitParts_joinParts {parts : List (List Char)} (some : parts ≠ [])
    (whole : ∀ part ∈ parts, '/' ∉ part) : splitParts (joinParts parts) = parts := by
  induction parts with
  | nil => exact absurd rfl some
  | cons part parts ih =>
    have first := whole part List.mem_cons_self
    cases parts with
    | nil =>
      have alone : ∀ cs : List Char, '/' ∉ cs → splitParts cs = [cs] := by
        intro cs whole
        induction cs with
        | nil => rfl
        | cons c cs ih =>
          obtain ⟨other, whole⟩ := not_or.1 (mt List.mem_cons.2 whole)
          rw [splitParts, if_neg (by simpa using Ne.symm other), ih whole]
      exact alone part first
    | cons next parts =>
      have rest := ih (List.cons_ne_nil _ _) fun part there =>
        whole part (List.mem_cons_of_mem _ there)
      rw [joinParts, splitParts_append_slash first, rest]
      exact List.cons_ne_nil _ _

theorem addPart_plain {part : List Char} (plain : IsPlain part) (absolute : Bool)
    (parts : List (List Char)) :
    addPart absolute parts part = part :: parts := by
  obtain ⟨some, here, above, _⟩ := plain
  rw [addPart.eq_def, if_neg (by simp [some, here]), if_neg above]

theorem isPlain_addPart {parts : List (List Char)} {part : List Char} (whole : '/' ∉ part)
    (plain : ∀ p ∈ parts, IsPlain p) : ∀ p ∈ addPart true parts part, IsPlain p := by
  intro p there
  rw [addPart.eq_def] at there
  split at there
  · exact plain p there
  · rename_i here
    obtain ⟨some, here⟩ := not_or.1 here
    split at there
    · rename_i above
      cases parts with
      | nil => cases there
      | cons last rest =>
        have ne : last ≠ part := fun same =>
          (plain last List.mem_cons_self).2.2.1 (same.trans above)
        dsimp only at there
        rw [if_neg ne] at there
        exact plain p (List.mem_cons_of_mem _ there)
    · rename_i above
      rcases List.mem_cons.1 there with rfl | there
      · exact ⟨some, here, above, whole⟩
      · exact plain p there

theorem foldl_addPart_plain {parts : List (List Char)} (plain : ∀ p ∈ parts, IsPlain p)
    (before : List (List Char)) : parts.foldl (addPart true) before = parts.reverse ++ before := by
  induction parts generalizing before with
  | nil => rfl
  | cons part parts ih =>
    rw [List.foldl_cons, addPart_plain (plain part List.mem_cons_self),
      ih fun p there => plain p (List.mem_cons_of_mem _ there), List.reverse_cons,
      List.append_assoc]
    rfl

theorem normalParts_cons_slash (cs : List Char) :
    normalParts ('/' :: cs) = ((splitParts cs).foldl (addPart true) []).reverse := by
  have absolute : (leadingSlashes ('/' :: cs) != 0) = true := by
    rw [bne_iff_ne, leadingSlashes.eq_def]
    split <;> simp_all
  rw [normalParts, absolute]
  rfl

theorem isPlain_normalParts (cs : List Char) : ∀ p ∈ normalParts ('/' :: cs), IsPlain p := by
  have all : ∀ parts before : List (List Char), (∀ p ∈ parts, '/' ∉ p) → (∀ p ∈ before, IsPlain p) →
      ∀ p ∈ parts.foldl (addPart true) before, IsPlain p := by
    intro parts
    induction parts with
    | nil => exact fun before _ plain => plain
    | cons part parts ih =>
      intro before whole plain
      exact ih _ (fun p there => whole p (List.mem_cons_of_mem _ there))
        (isPlain_addPart (whole part List.mem_cons_self) plain)
  intro p there
  rw [normalParts_cons_slash, List.mem_reverse] at there
  exact all _ [] (fun p => not_mem_splitParts) (fun p none => absurd none List.not_mem_nil) p there

theorem normalParts_joinParts {parts : List (List Char)} (plain : ∀ p ∈ parts, IsPlain p) :
    normalParts ('/' :: joinParts parts) = parts := by
  rw [normalParts_cons_slash]
  by_cases none : parts = []
  · subst none
    rfl
  · rw [splitParts_joinParts none fun p there => (plain p there).2.2.2, foldl_addPart_plain plain,
      List.append_nil, List.reverse_reverse]

theorem head?_joinParts {parts : List (List Char)} (plain : ∀ p ∈ parts, IsPlain p) :
    (joinParts parts).head? ≠ some '/' := by
  intro first
  cases parts with
  | nil => cases first
  | cons part parts =>
    obtain ⟨some, _, _, whole⟩ := plain part List.mem_cons_self
    cases part with
    | nil => exact some rfl
    | cons c part =>
      have same : c = '/' := by
        cases parts with
        | nil => simpa [joinParts] using first
        | cons next parts => simpa [joinParts] using first
      exact whole (same ▸ List.mem_cons_self)

theorem normal_absolute {path : String} (absolute : isAbsolute path = true) :
    ∃ parts, (∀ p ∈ parts, IsPlain p) ∧ (normal path = String.ofList ('/' :: joinParts parts) ∨
      normal path = String.ofList ('/' :: '/' :: joinParts parts)) := by
  obtain ⟨rest, begins⟩ : ∃ rest, path.toList = '/' :: rest := by
    cases found : path.toList with
    | nil => simp [isAbsolute, found] at absolute
    | cons c rest => exact ⟨rest, by simpa [isAbsolute, found] using absolute⟩
  refine ⟨normalParts path.toList, begins ▸ isPlain_normalParts rest, ?_⟩
  have slashes : leadingSlashes path.toList = 1 ∨ leadingSlashes path.toList = 2 := by
    rw [begins, leadingSlashes.eq_def]
    split <;> simp_all
  rcases slashes with one | two
  · exact .inl (by simp [normal, one])
  · exact .inr (by simp [normal, two])

theorem real_joinParts (working : String) {parts : List (List Char)} (plain : ∀ p ∈ parts,
    IsPlain p) :
    real working (String.ofList ('/' :: joinParts parts)) = String.ofList ('/' :: joinParts parts) ∧
      real working (String.ofList ('/' :: '/' :: joinParts parts)) =
        String.ofList ('/' :: joinParts parts) := by
  have rooted : ∀ cs : List Char, join working (String.ofList ('/' :: cs)) =
      String.ofList ('/' :: cs) :=
    fun cs => if_pos (by simp [isAbsolute])
  have twice : normalParts ('/' :: '/' :: joinParts parts) =
      normalParts ('/' :: joinParts parts) := by
    rw [normalParts_cons_slash, normalParts_cons_slash]
    rfl
  rw [real, real, rooted, rooted, String.toList_ofList, String.toList_ofList, twice,
    normalParts_joinParts plain]
  exact ⟨rfl, rfl⟩

theorem real_real {working : String} (absolute : isAbsolute working = true)
    (other path : String) : real other (real working path) = real working path := by
  have whole := (isAbsolute_join absolute : isAbsolute (join working path) = true)
  obtain ⟨rest, begins⟩ : ∃ rest, (join working path).toList = '/' :: rest := by
    cases found : (join working path).toList with
    | nil => simp [isAbsolute, found] at whole
    | cons c rest => exact ⟨rest, by simpa [isAbsolute, found] using whole⟩
  have plain : ∀ p ∈ normalParts (join working path).toList, IsPlain p := by
    rw [begins]
    exact isPlain_normalParts rest
  exact (real_joinParts other plain).1

end ColorSpans.Path

namespace ColorSpans.Sass

theorem Sheet.candidates_absolute {sheet : Sheet} {importer candidate : String}
    (absolute : Path.isAbsolute importer = true) (there : candidate ∈ sheet.candidates importer) :
    ∃ path, Path.isAbsolute path = true ∧ candidate = Path.normal path := by
  obtain ⟨target, _, found⟩ := List.mem_flatMap.1 there
  simp only [Sass.candidates] at found
  split at found
  · cases found
  · obtain ⟨name, _, rfl⟩ := List.mem_map.1 found
    exact ⟨_, Path.isAbsolute_join (Path.isAbsolute_join (Path.isAbsolute_folder absolute)), rfl⟩

end ColorSpans.Sass
