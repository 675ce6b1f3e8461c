import ColorSpans.FileTree
import ColorSpans.Proofs.Outcome
import ColorSpans.Proofs.Path
import Mathlib.Data.String.Basic

/-! Trees of files from outside. However a path is spelled, it leads to one place, and the file that
is opened under it is the one that stands there; writing or removing a file makes no other file. -/
namespace ColorSpans

namespace Path

theorem joinParts_concat {parts : List (List Char)} (some : parts ≠ []) (part : List Char) :
    joinParts (parts ++ [part]) = joinParts parts ++ '/' :: part := by
  induction parts with
  | nil => exact absurd rfl some
  | cons first parts ih =>
    cases parts with
    | nil => rfl
    | cons second parts =>
      show first ++ '/' :: joinParts (second :: parts ++ [part]) =
        first ++ '/' :: joinParts (second :: parts) ++ '/' :: part
      rw [ih (List.cons_ne_nil _ _), List.append_assoc, List.cons_append]

theorem joinParts_ne_nil {parts : List (List Char)} (some : parts ≠ [])
    (plain : ∀ p ∈ parts, IsPlain p) :
    joinParts parts ≠ [] := by
  cases parts with
  | nil => exact absurd rfl some
  | cons part parts =>
    have nonempty := (plain part List.mem_cons_self).1
    cases parts with
    | nil => exact nonempty
    | cons next parts => exact List.append_ne_nil_of_left_ne_nil nonempty _

theorem splitParts_append (first rest : List Char) :
    splitParts (first ++ '/' :: rest) = splitParts first ++ splitParts rest := by
  induction first with
  | nil => rfl
  | cons c first ih =>
    rw [List.cons_append, splitParts, splitParts]
    split
    · rw [ih, List.cons_append]
    · rw [ih]
      cases found : splitParts first with
      | nil => exact absurd found (splitParts_ne_nil first)
      | cons part parts => rfl

/-- Where parts lead from a place, one after another: an empty part and a dot stay there, two dots
go back from it and stay at the root. -/
def lead (place : List (List Char)) : List (List Char) → List (List Char)
  | [] => place
  | part :: rest =>
      if part = [] ∨ part = ['.'] then lead place rest
      else if part = ['.', '.'] then lead place.dropLast rest
      else lead (place ++ [part]) rest

/-- The names of the place that a path leads to from the root. -/
def target (path : String) : List (List Char) := lead [] (splitParts path.toList)

variable {place rest : List (List Char)}

theorem lead_append (place first rest : List (List Char)) :
    lead place (first ++ rest) = lead (lead place first) rest := by
  induction first generalizing place with
  | nil => rfl
  | cons part first ih =>
    rw [List.cons_append, lead, lead]
    split
    · exact ih place
    · split
      · exact ih place.dropLast
      · exact ih (place ++ [part])

theorem isPlain_append {part : List Char} (plain : ∀ p ∈ place, IsPlain p) (last : IsPlain part) :
    ∀ p ∈ place ++ [part], IsPlain p := by
  intro p there
  rcases List.mem_append.1 there with there | there
  · exact plain p there
  · exact List.mem_singleton.1 there ▸ last

theorem isPlain_lead (plain : ∀ p ∈ place, IsPlain p) (whole : ∀ p ∈ rest, '/' ∉ p) :
    ∀ p ∈ lead place rest, IsPlain p := by
  induction rest generalizing place with
  | nil => exact plain
  | cons part rest ih =>
    have later : ∀ p ∈ rest, '/' ∉ p := fun p there => whole p (List.mem_cons_of_mem part there)
    rw [lead]
    split
    · exact ih plain later
    · rename_i moves
      split
      · exact ih (fun p there => plain p (List.dropLast_subset place there)) later
      · rename_i down
        obtain ⟨some, here⟩ := not_or.1 moves
        exact ih (isPlain_append plain ⟨some, here, down, whole part List.mem_cons_self⟩) later

theorem isPlain_target (path : String) : ∀ p ∈ target path, IsPlain p :=
  isPlain_lead (fun _ none => absurd none List.not_mem_nil) fun _ => not_mem_splitParts

theorem foldl_addPart (plain : ∀ p ∈ place, IsPlain p) (whole : ∀ p ∈ rest, '/' ∉ p) :
    rest.foldl (addPart true) place.reverse = (lead place rest).reverse := by
  induction rest generalizing place with
  | nil => rfl
  | cons part rest ih =>
    have later : ∀ p ∈ rest, '/' ∉ p := fun p there => whole p (List.mem_cons_of_mem part there)
    rw [List.foldl_cons, lead, addPart.eq_def]
    split
    · exact ih plain later
    · rename_i moves
      split
      · rename_i up
        have shorter : ∀ p ∈ place.dropLast, IsPlain p :=
          fun p there => plain p (List.dropLast_subset place there)
        rw [← ih shorter later]
        rcases List.eq_nil_or_concat' place with rfl | ⟨before, last, rfl⟩
        · rfl
        · -- The last part is a name, so two dots are not put behind it.
          have name : last ≠ part := by
            rw [up]
            exact (plain last (List.mem_append_right before List.mem_cons_self)).2.2.1
          rw [List.reverse_append, List.reverse_singleton, List.singleton_append,
            List.dropLast_concat]
          dsimp only
          rw [if_neg name]
      · rename_i down
        obtain ⟨some, here⟩ := not_or.1 moves
        have further := isPlain_append plain ⟨some, here, down, whole part List.mem_cons_self⟩
        rw [← ih further later, List.reverse_append, List.reverse_singleton, List.singleton_append]

theorem normalParts_eq_lead (cs : List Char) :
    normalParts ('/' :: cs) = lead [] (splitParts cs) := by
  have nowhere : ∀ p ∈ ([] : List (List Char)), IsPlain p :=
    fun _ none => absurd none List.not_mem_nil
  rw [normalParts_cons_slash]
  have led : (splitParts cs).foldl (addPart true) [] = (lead [] (splitParts cs)).reverse :=
    foldl_addPart nowhere fun _ => not_mem_splitParts
  rw [led, List.reverse_reverse]

def ofParts (parts : List (List Char)) : String := String.ofList ('/' :: joinParts parts)

theorem real_eq_ofParts (path : String) : real "/" path = ofParts (target path) := by
  have rooted : ∃ cs, (join "/" path).toList = '/' :: cs ∧
      lead [] (splitParts cs) = target path := by
    by_cases absolute : isAbsolute path = true
    · cases spelled : path.toList with
      | nil => simp [isAbsolute, spelled] at absolute
      | cons c cs =>
        obtain rfl : c = '/' := by simpa [isAbsolute, spelled] using absolute
        refine ⟨cs, ?_, ?_⟩
        · rw [join, if_pos absolute, spelled]
        · rw [target, spelled]
          rfl
    · refine ⟨path.toList, ?_, rfl⟩
      rw [join, if_neg absolute, if_pos (.inr rfl), String.toList_append]
      rfl
  obtain ⟨cs, spelled, led⟩ := rooted
  rw [real, spelled, normalParts_eq_lead, led, ofParts]

variable {parts : List (List Char)}

theorem target_ofParts (plain : ∀ p ∈ parts, IsPlain p) : target (ofParts parts) = parts := by
  have rooted : target (ofParts parts) = lead [] (splitParts (joinParts parts)) := by
    rw [target, ofParts, String.toList_ofList]
    rfl
  rw [rooted, ← normalParts_eq_lead, normalParts_joinParts plain]

theorem isWithin_ofParts (plain : ∀ p ∈ place, IsPlain p) (plain' : ∀ p ∈ parts, IsPlain p) :
    isWithin (ofParts place) (ofParts parts) = true ↔ place <+: parts := by
  rw [isWithin, ofParts, ofParts, String.toList_ofList, String.toList_ofList,
    normalParts_joinParts plain, normalParts_joinParts plain', List.isPrefixOf_iff_prefix]

theorem target_join (folder path : String) : target (join folder path) =
    if isAbsolute path then target path else lead (target folder) (splitParts path.toList) := by
  rw [join]
  split
  · rfl
  · split
    · rename_i closed
      rcases closed with rfl | closed
      · rw [String.empty_append]
        rfl
      · obtain ⟨before, spelled⟩ := List.getLast?_eq_some_iff.1 closed
        rw [target, target, String.toList_append, spelled, List.append_assoc, List.singleton_append,
          splitParts_append, splitParts_append, lead_append, lead_append]
        rfl
    · rw [target, target, String.append_assoc, String.toList_append, String.toList_append]
      rw [← lead_append, ← splitParts_append]
      rfl

end Path

namespace FileTree

open ColorSpans.Path

variable {tree : FileTree}

theorem child_ofParts {parts : List (List Char)} (plain : ∀ p ∈ parts, IsPlain p)
    (part : List Char) :
    child (ofParts parts) (String.ofList part) = ofParts (parts ++ [part]) := by
  rw [child, ofParts, ofParts, ← String.toList_inj]
  by_cases none : parts = []
  · subst none
    rw [if_pos (show String.ofList ('/' :: joinParts []) = "/" from rfl)]
    simp only [String.toList_append, String.toList_ofList]
    rfl
  · have below : String.ofList ('/' :: joinParts parts) ≠ "/" := by
      rw [ne_eq, String.ofList_eq]
      exact fun root => joinParts_ne_nil none plain (List.cons.inj root).2
    rw [if_neg below, joinParts_concat none]
    simp only [String.toList_append, String.toList_ofList, List.append_assoc]
    rfl

theorem real_up {before : List (List Char)} (plain : ∀ p ∈ before, IsPlain p) :
    real "/" (ofParts before ++ "/..") = ofParts before.dropLast := by
  have led : target (ofParts before ++ "/..") = before.dropLast := by
    have spelled : (ofParts before ++ "/..").toList =
        (ofParts before).toList ++ '/' :: ['.', '.'] :=
      String.toList_append
    rw [target, spelled, splitParts_append, lead_append, ← target, target_ofParts plain]
    rfl
  rw [real_eq_ofParts, led]

theorem follow_cons {before : List (List Char)} (plain : ∀ p ∈ before, IsPlain p) (part : List Char)
    (rest : List String) : tree.follow (ofParts before) (String.ofList part :: rest) =
      match tree.entry? (ofParts before) with
      | some .folder =>
          if part = [] ∨ part = ['.'] then tree.follow (ofParts before) rest
          else if part = ['.', '.'] then tree.follow (ofParts before.dropLast) rest
          else if (tree.entry? (ofParts (before ++ [part]))).isSome then
            tree.follow (ofParts (before ++ [part])) rest
          else .error .missing
      | _ => .error .notFolder := by
  have stays : (String.ofList part = "" ∨ String.ofList part = ".") ↔ (part = [] ∨ part = ['.']) :=
    or_congr String.ofList_eq String.ofList_eq
  have back : String.ofList part = ".." ↔ part = ['.', '.'] := String.ofList_eq
  rw [follow]
  cases tree.entry? (ofParts before) with
  | none => rfl
  | some entry =>
    cases entry with
    | file bytes stamp => rfl
    | folder => simp only [real_up plain, child_ofParts plain, stays, back]

def Reaches (tree : FileTree) (parts : List (List Char)) : Prop :=
  ∀ above, above <+: parts → above ≠ parts → tree.entry? (ofParts above) = some .folder

variable {before parts rest : List (List Char)}

theorem reaches_root : tree.Reaches [] :=
  fun _ above other => absurd (List.prefix_nil.1 above) other

theorem Reaches.dropLast (h : tree.Reaches parts) : tree.Reaches parts.dropLast := by
  intro above below other
  have shorter := List.dropLast_prefix parts
  apply h above (below.trans shorter)
  rintro rfl
  exact other (below.eq_of_length_le shorter.length_le)

theorem Reaches.concat (h : tree.Reaches parts)
    (folder : tree.entry? (ofParts parts) = some .folder) (part : List Char) :
    tree.Reaches (parts ++ [part]) := by
  intro above below other
  rcases List.prefix_concat_iff.1 below with same | below
  · exact absurd same other
  · by_cases same : above = parts
    · rw [same]
      exact folder
    · exact h above below same

theorem of_follow (plain : ∀ p ∈ before, IsPlain p) (whole : ∀ p ∈ rest, '/' ∉ p)
    (h : tree.Reaches before) {place : String}
    (led : tree.follow (ofParts before) (rest.map String.ofList) = .ok place) :
    place = ofParts (lead before rest) ∧ tree.Reaches (lead before rest) := by
  induction rest generalizing before with
  | nil => exact ⟨(Except.ok.inj led).symm, h⟩
  | cons part rest ih =>
    have later : ∀ p ∈ rest, '/' ∉ p := fun p there => whole p (List.mem_cons_of_mem part there)
    rw [List.map_cons, follow_cons plain] at led
    rw [lead]
    split at led
    · rename_i folder
      split
      · rename_i here
        rw [if_pos here] at led
        exact ih plain later h led
      · rename_i moves
        rw [if_neg moves] at led
        split
        · rename_i back
          rw [if_pos back] at led
          exact ih (fun p there => plain p (List.dropLast_subset before there)) later h.dropLast led
        · rename_i down
          rw [if_neg down] at led
          obtain ⟨some, here⟩ := not_or.1 moves
          split at led
          · exact ih (isPlain_append plain ⟨some, here, down, whole part List.mem_cons_self⟩) later
              (h.concat folder part) led
          · cases led
    · cases led

theorem follow_eq_ok (plain : ∀ p ∈ before ++ rest, IsPlain p) (h : tree.Reaches (before ++ rest))
    (there : (tree.entry? (ofParts (before ++ rest))).isSome = true) :
    tree.follow (ofParts before) (rest.map String.ofList) = .ok (ofParts (before ++ rest)) := by
  induction rest generalizing before with
  | nil =>
    rw [List.append_nil]
    rfl
  | cons part rest ih =>
    have step : before ++ part :: rest = before ++ [part] ++ rest :=
      List.append_cons before part rest
    have folder : tree.entry? (ofParts before) = some .folder := by
      apply h before (List.prefix_append before _)
      intro same
      simpa using congrArg List.length same
    have next : (tree.entry? (ofParts (before ++ [part]))).isSome = true := by
      by_cases last : rest = []
      · rw [last] at there
        exact there
      · have above : tree.entry? (ofParts (before ++ [part])) = some .folder := by
          apply h
          · rw [step]
            exact List.prefix_append _ rest
          · intro same
            rw [step] at same
            exact last (List.self_eq_append_right.1 same)
        rw [above]
        rfl
    obtain ⟨nonempty, here, back, -⟩ := plain part (List.mem_append_right before List.mem_cons_self)
    have named : ∀ p ∈ before, IsPlain p := fun p there => plain p (List.mem_append_left _ there)
    rw [List.map_cons, follow_cons named, folder]
    dsimp only
    rw [if_neg (not_or.2 ⟨nonempty, here⟩), if_neg back, if_pos next, step]
    rw [step] at plain h there
    exact ih plain h there

theorem locate_eq {path : String} (some : path ≠ "") :
    tree.locate "/" path = tree.follow (ofParts [])
      ((splitParts path.toList).map String.ofList) := by
  rw [locate, if_neg some, ite_self]
  rfl

theorem of_locate {path place : String} (led : tree.locate "/" path = .ok place) :
    place = ofParts (target path) ∧ tree.Reaches (target path) := by
  by_cases none : path = ""
  · rw [locate, if_pos none] at led
    cases led
  · rw [locate_eq none] at led
    exact of_follow (fun _ none => absurd none List.not_mem_nil) (fun _ => not_mem_splitParts)
      reaches_root led

theorem locate_ofParts (plain : ∀ p ∈ parts, IsPlain p) (h : tree.Reaches parts)
    (there : (tree.entry? (ofParts parts)).isSome = true) :
    tree.locate "/" (ofParts parts) = .ok (ofParts parts) := by
  have some : ofParts parts ≠ "" := by
    rw [ofParts, ne_eq, String.ofList_eq]
    exact List.cons_ne_nil _ _
  have split : (splitParts (ofParts parts).toList).map String.ofList =
      "" :: (splitParts (joinParts parts)).map String.ofList := by
    rw [ofParts, String.toList_ofList]
    rfl
  rw [locate_eq some, split]
  by_cases none : parts = []
  · subst none
    rfl
  · rw [splitParts_joinParts none fun p there => (plain p there).2.2.2]
    exact follow_eq_ok plain h there

/-- Whatever a path is spelled like, the file that is opened stands where it leads. -/
theorem of_openFile {path : String} {bytes : List UInt8} {stamp : Int}
    (opened : tree.openFile "/" path = .ok (bytes, stamp)) :
    tree.Reaches (target path) ∧
      tree.entry? (ofParts (target path)) = some (.file bytes stamp) := by
  obtain ⟨place, led, found⟩ := bind_eq_ok.1 opened
  obtain ⟨rfl, reached⟩ := of_locate led
  split at found
  · rename_i there
    obtain ⟨rfl, rfl⟩ := Prod.mk.inj (Except.ok.inj found)
    exact ⟨reached, there⟩
  · cases found
  · cases found

theorem openFile_eq_ok_iff (plain : ∀ p ∈ parts, IsPlain p) {bytes : List UInt8} {stamp : Int} :
    tree.openFile "/" (ofParts parts) = .ok (bytes, stamp) ↔
      tree.Reaches parts ∧ tree.entry? (ofParts parts) = some (.file bytes stamp) := by
  constructor
  · intro opened
    have there := of_openFile opened
    rw [target_ofParts plain] at there
    exact there
  · rintro ⟨reached, file⟩
    have there : (tree.entry? (ofParts parts)).isSome = true := by
      rw [file]
      rfl
    apply bind_eq_ok.2
    exact ⟨ofParts parts, locate_ofParts plain reached there, by rw [file]⟩

theorem entry?_of_openFile {path : String} {bytes : List UInt8} {stamp : Int}
    (opened : tree.openFile "/" (real "/" path) = .ok (bytes, stamp)) :
    tree.entry? (real "/" path) = some (.file bytes stamp) := by
  rw [real_eq_ofParts] at opened ⊢
  exact ((openFile_eq_ok_iff (isPlain_target path)).1 opened).2

variable {place : String} {bytes bytes' : List UInt8} {stamp stamp' : Int}

theorem entry?_eq_file_iff :
    tree.entry? place = some (.file bytes stamp) ↔
      place ≠ "/" ∧ tree.entries[place]? = some (.file bytes stamp) := by
  unfold entry?
  split
  · rename_i root
    simp [root]
  · rename_i below
    simp [below]

theorem entry?_addFolders {places : List String}
    (there : entry? (tree.addFolders places) place = some (.file bytes stamp)) :
    tree.entry? place = some (.file bytes stamp) := by
  induction places generalizing tree with
  | nil => exact there
  | cons first places ih =>
    have before : entry? ⟨tree.entries.insertIfNew first .folder⟩ place =
        some (.file bytes stamp) :=
      ih there
    obtain ⟨below, found⟩ := entry?_eq_file_iff.1 before
    rw [Std.ExtTreeMap.getElem?_insertIfNew] at found
    split at found
    · cases found
    · exact entry?_eq_file_iff.2 ⟨below, found⟩

theorem entry?_addFile {written : String}
    (there : entry? (tree.addFile written bytes' stamp') place = some (.file bytes stamp)) :
    (place = written ∧ bytes = bytes' ∧ stamp = stamp') ∨
      tree.entry? place = some (.file bytes stamp) := by
  obtain ⟨below, found⟩ := entry?_eq_file_iff.1 there
  rw [addFile, Std.ExtTreeMap.getElem?_insert] at found
  split at found
  · rename_i same
    obtain ⟨rfl, rfl⟩ := Entry.file.inj (Option.some.inj found)
    exact .inl ⟨(Std.LawfulEqCmp.compare_eq_iff_eq.1 same).symm, rfl, rfl⟩
  · have before : entry? (tree.addFolders (above written)) place = some (.file bytes stamp) :=
      entry?_eq_file_iff.2 ⟨below, found⟩
    exact .inr (entry?_addFolders before)

theorem entry?_remove {removed : String}
    (there : entry? (tree.remove removed) place = some (.file bytes stamp)) :
    place ≠ removed ∧ tree.entry? place = some (.file bytes stamp) := by
  obtain ⟨below, found⟩ := entry?_eq_file_iff.1 there
  rw [remove, Std.ExtTreeMap.getElem?_erase] at found
  split at found
  · cases found
  · rename_i other
    exact ⟨fun same => other (Std.LawfulEqCmp.compare_eq_iff_eq.2 same.symm),
      entry?_eq_file_iff.2 ⟨below, found⟩⟩

end FileTree

end ColorSpans
