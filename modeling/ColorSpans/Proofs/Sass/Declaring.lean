import ColorSpans.Proofs.Literal.Refusals
import ColorSpans.Sass.Line
import Mathlib.Data.List.Infix

/-! Lines that declare one variable and say nothing else. -/
namespace ColorSpans.Sass
open Text

structure Uncommented (cs : List Char) : Prop where
  line : ¬['/', '/'] <:+: cs
  block : ¬['/', '*'] <:+: cs

theorem dropBlockComments_eq {cs : List Char} (plain : ¬['/', '*'] <:+: cs) :
    dropBlockComments cs = cs := by
  fun_induction dropBlockComments cs with
  | case1 cs rest found ih =>
    refine absurd ?_ plain
    fun_cases skipBlockComment cs with
    | case1 behind => exact ⟨[], behind, rfl⟩
    | case2 => simp_all [skipBlockComment]
  | case2 => rfl
  | case3 c rest _ ih =>
    exact congrArg (c :: ·) (ih fun later => plain (later.trans (List.suffix_cons c rest).isInfix))

theorem dropLineComment_eq {cs : List Char} (plain : ¬['/', '/'] <:+: cs) (before : Option Char) :
    dropLineComment before cs = cs := by
  fun_induction dropLineComment before cs with
  | case1 => rfl
  | case2 _ rest | case3 _ rest => exact absurd ⟨[], rest, rfl⟩ plain
  | case4 _ c rest _ ih =>
    exact congrArg (c :: ·) (ih fun later => plain (later.trans (List.suffix_cons c rest).isInfix))

theorem Uncommented.of_not_mem {cs : List Char} (plain : '/' ∉ cs) : Uncommented cs :=
  ⟨fun found => plain (found.subset List.mem_cons_self),
    fun found => plain (found.subset List.mem_cons_self)⟩

theorem Uncommented.dropComments_eq {cs : List Char} (plain : Uncommented cs) :
    dropComments cs = cs := by
  rw [dropComments, dropBlockComments_eq plain.block, dropLineComment_eq plain.line]

theorem afterBlockComment_suffix {cs rest : List Char} (found : afterBlockComment cs = some rest) :
    rest <:+ cs := by
  fun_induction afterBlockComment cs with
  | case1 => cases found
  | case2 behind =>
    cases found
    exact (List.suffix_cons _ _).trans (List.suffix_cons _ _)
  | case3 => cases found
  | case4 c behind _ _ ih => exact (ih found).trans (List.suffix_cons _ _)

theorem dropBlockComments_subset (cs : List Char) : dropBlockComments cs ⊆ cs := by
  fun_induction dropBlockComments cs with
  | case1 cs rest found ih =>
    refine List.Subset.trans ih ?_
    fun_cases skipBlockComment cs with
    | case1 behind =>
      have found : afterBlockComment behind = some rest := found
      have behind := (afterBlockComment_suffix found).subset
      exact fun c there => List.mem_cons_of_mem _ (List.mem_cons_of_mem _ (behind there))
    | case2 => simp_all [skipBlockComment]
  | case2 => exact List.Subset.refl _
  | case3 c rest _ ih => exact List.cons_subset_cons c ih

theorem dropLineComment_subset (before : Option Char) (cs : List Char) :
    dropLineComment before cs ⊆ cs := by
  fun_induction dropLineComment before cs with
  | case1 => exact List.Subset.refl _
  | case2 before rest =>
    exact fun c there =>
      List.mem_cons_of_mem _ (List.mem_cons_of_mem _ ((List.dropWhile_suffix _).subset there))
  | case3 before rest _ ih => exact List.cons_subset_cons _ ih
  | case4 before c rest _ ih => exact List.cons_subset_cons c ih

theorem dropComments_subset (cs : List Char) : dropComments cs ⊆ cs :=
  List.Subset.trans (dropLineComment_subset none _) (dropBlockComments_subset cs)

theorem infix_of_enclosed {front cs : List Char} {first second stop : Char} (clear : first ∉ front)
    (other : second ≠ stop) (found : [first, second] <:+: front ++ (cs ++ [stop])) :
    [first, second] <:+: cs := by
  induction front with
  | nil =>
    rcases List.infix_concat_iff.1 found with ends | inside
    · obtain ⟨before, same⟩ := ends
      have last := congrArg List.getLast? same
      simp at last
      exact absurd last other
    · exact inside
  | cons c front ih =>
    rcases List.infix_cons_iff.1 found with here | later
    · exact absurd (List.cons_prefix_cons.1 here).1 fun same => clear (same ▸ List.mem_cons_self)
    · exact ih (fun there => clear (List.mem_cons_of_mem _ there)) later

/-- The name of a variable, as it stands behind a dollar sign. -/
structure IsName (name : List Char) : Prop where
  nonempty : name ≠ []
  chars : ∀ c ∈ name, isNameChar c = true

theorem IsName.not_mem {name : List Char} (h : IsName name) {c : Char}
    (foreign : isNameChar c = false) :
    c ∉ name :=
  fun there => Bool.false_ne_true (foreign.symm.trans (h.chars c there))

def blankCodes : List Nat :=
  List.range' 9 5 ++ List.range' 28 5 ++ List.range' 0x2000 11 ++
    [0x85, 0xa0, 0x1680, 0x2028, 0x2029, 0x202f, 0x205f, 0x3000]

theorem isNameChar_of_isBlank {c : Char} (blank : isBlank c = true) : isNameChar c = false := by
  have listed : c.toNat ∈ blankCodes := by
    simp only [isBlank, Bool.or_eq_true, Bool.and_eq_true, decide_eq_true_eq, beq_iff_eq] at blank
    simp only [blankCodes, List.mem_append, List.mem_range'_1, List.mem_cons,
      List.not_mem_nil, or_false]
    omega
  have foreign : ∀ n ∈ blankCodes, isNameChar (Char.ofNat n) = false := by decide +kernel
  rw [← Char.ofNat_toNat c]
  exact foreign _ listed

theorem dropFlags_eq {value : List Char} (unflagged : '!' ∉ value) : dropFlags value = value := by
  have flagless : dropFlag value.reverse = none := by
    refine Option.map_eq_none_iff.2 (List.find?_eq_none.2 fun flag there begins => unflagged ?_)
    have mark : '!' ∈ flag.reverse := by
      simp only [flags, List.mem_cons, List.not_mem_nil, or_false] at there
      rcases there with rfl | rfl <;> decide
    exact List.mem_reverse.1 ((List.isPrefixOf_iff_prefix.1 begins).subset mark)
  have same : dropFlagsReversed value.reverse = value.reverse := by
    unfold dropFlagsReversed
    split
    · rename_i rest found
      cases flagless.symm.trans found
    · rfl
  rw [dropFlags, same, List.reverse_reverse]

theorem readValue_blank (matcher : Option Matcher) (text : List Char) :
    readValue matcher (' ' :: text) = readValue matcher text := rfl

theorem IsName.readValue_eq {name : List Char} (h : IsName name) (matcher : Option Matcher) :
    readValue matcher ('$' :: name) = .ok (some (.alias (String.ofList name))) := by
  have solid : ∀ c ∈ '$' :: name, isBlank c = false := by
    intro c there
    rcases List.mem_cons.1 there with rfl | there
    · decide
    · exact Bool.eq_false_iff.2 fun blank => h.not_mem (isNameChar_of_isBlank blank) there
  have unflagged : '!' ∉ '$' :: name := by
    simpa using h.not_mem (by decide)
  have value : dropFlags (trim ('$' :: name)) = '$' :: name := by
    rw [trim, dropAround_eq_self solid, dropFlags_eq unflagged]
  have whole : ('$' == '$' && !name.isEmpty && name.all isNameChar) = true := by
    simpa [h.nonempty] using h.chars
  simp only [readValue.eq_def, value, whole, if_true]

theorem readValue_color {m : Matcher} {value : String} {r : Reading}
    (trimmed : trim value.toList = value.toList) (unflagged : '!' ∉ value.toList)
    (own : value.toList.head? ≠ some '$') (read : m.readColumn none value 0 = .ok (some r)) :
    readValue (some m) value.toList = .ok (some (.color r.color)) := by
  have text : dropFlags (trim value.toList) = value.toList := by
    rw [trimmed, dropFlags_eq unflagged]
  have color : m.readAt none value.toList 0 = .ok (some r) := Matcher.readAt_of_readColumn read
  simp only [readValue.eq_def, text]
  cases chars : value.toList with
  | nil =>
    rw [chars] at color
    cases color
  | cons c rest =>
    rw [chars] at own color
    have other : (c == '$' && !rest.isEmpty && rest.all isNameChar) = false := by
      have first : c ≠ '$' := fun same => own (same ▸ rfl)
      simp [first]
    simp only [other, color]
    rfl

section

variable {name text : List Char} (named : IsName name) (unended : ';' ∉ text)

include named unended

theorem splitDeclaration_eq (rest : List Char) :
    splitDeclaration (name ++ ':' :: (text ++ ';' :: rest)) = some (name, text, ';' :: rest) := by
  have front : (name ++ ':' :: (text ++ ';' :: rest)).takeWhile isNameChar = name := by
    rw [List.takeWhile_append_of_pos named.chars, List.takeWhile_cons_of_neg (by decide),
      List.append_nil]
  have back : (name ++ ':' :: (text ++ ';' :: rest)).dropWhile isNameChar =
      ':' :: (text ++ ';' :: rest) := by
    rw [List.dropWhile_append_of_pos named.chars, List.dropWhile_cons_of_neg (by decide)]
  have inside : ∀ c ∈ text, (c != ';') = true :=
    fun c there => bne_iff_ne.2 fun same => unended (same ▸ there)
  have taken : (text ++ ';' :: rest).takeWhile (· != ';') = text := by
    rw [List.takeWhile_append_of_pos inside, List.takeWhile_cons_of_neg (by decide),
      List.append_nil]
  have left : (text ++ ';' :: rest).dropWhile (· != ';') = ';' :: rest := by
    rw [List.dropWhile_append_of_pos inside, List.dropWhile_cons_of_neg (by decide)]
  have colon : dropBlanks (':' :: (text ++ ';' :: rest)) = ':' :: (text ++ ';' :: rest) := rfl
  have nonempty := named.nonempty
  rw [splitDeclaration, front, back, colon]
  cases name with
  | nil => exact absurd rfl nonempty
  | cons c name =>
    show some (c :: name, (text ++ ';' :: rest).takeWhile (· != ';'),
      (text ++ ';' :: rest).dropWhile (· != ';')) = _
    rw [taken, left]

theorem declarationTexts_eq :
    declarationTexts ('$' :: (name ++ ':' :: (text ++ [';']))) = [(String.ofList name, text)] := by
  have parts := splitDeclaration_eq named unended []
  have last : declarationTexts [';'] = [] := by
    rw [declarationTexts, if_neg (by decide), declarationTexts]
  rw [declarationTexts, if_pos (beq_self_eq_true _)]
  split
  · rename_i found
    cases parts.symm.trans found
    rw [last]
  · rename_i found
    cases parts.symm.trans found

end

theorem readImports_eq {line : List Char} (undirected : '@' ∉ line) :
    readImports false line = ⟨[], false⟩ := by
  have none : directive line = none := by
    induction line with
    | nil => rfl
    | cons c line ih =>
      have other : c ≠ '@' := fun same => undirected (same ▸ List.mem_cons_self)
      simp [directive, other, ih fun later => undirected (List.mem_cons_of_mem _ later)]
  simp [readImports, none]

/-- A text that a declaration can take up: it does not end it, begins no comment and is no
directive. -/
structure Declarable (text : List Char) : Prop where
  unended : ';' ∉ text
  uncommented : Uncommented text
  undirected : '@' ∉ text

theorem IsName.declarable {name : List Char} (h : IsName name) : Declarable ('$' :: name) := by
  have foreign (c : Char) (other : isNameChar c = false) (first : c ≠ '$') : c ∉ '$' :: name :=
    fun there => (List.mem_cons.1 there).elim first (h.not_mem other)
  exact ⟨foreign ';' (by decide) (by decide), .of_not_mem (foreign '/' (by decide) (by decide)),
    foreign '@' (by decide) (by decide)⟩

def declaring (name text : String) : String := "$" ++ name ++ ": " ++ text ++ ";"

section

variable {name text : String} (named : IsName name.toList) (plain : Declarable text.toList)

theorem toList_declaring (name text : String) : (declaring name text).toList =
    ('$' :: (name.toList ++ [':', ' '])) ++ (text.toList ++ [';']) := by
  simp [declaring]

include named plain

theorem dropComments_declaring :
    dropComments (declaring name text).toList = (declaring name text).toList := by
  have slash : '/' ∉ '$' :: (name.toList ++ [':', ' ']) := by
    simpa using named.not_mem (by decide)
  rw [toList_declaring]
  exact Uncommented.dropComments_eq
    ⟨fun found => plain.uncommented.line (infix_of_enclosed slash (by decide) found),
      fun found => plain.uncommented.block (infix_of_enclosed slash (by decide) found)⟩

theorem readDeclarations_declaring (matcher : Option Matcher) :
    readDeclarations matcher (dropComments (declaring name text).toList) =
      (readValue matcher text.toList).map fun d => d.elim ∅ ((∅ : Declarations).insert name) := by
  have unended : ';' ∉ ' ' :: text.toList := by simpa using plain.unended
  have texts : declarationTexts (declaring name text).toList = [(name, ' ' :: text.toList)] := by
    have only := declarationTexts_eq named unended
    rw [String.ofList_toList] at only
    rw [toList_declaring, ← only]
    simp
  rw [dropComments_declaring named plain, readDeclarations, texts, List.foldlM_cons,
    readValue_blank]
  cases readValue matcher text.toList with
  | error e => rfl
  | ok d => cases d <;> rfl

theorem readImports_declaring :
    readImports false (dropComments (declaring name text).toList) = ⟨[], false⟩ := by
  have front : '@' ∉ name.toList := named.not_mem (by decide)
  rw [dropComments_declaring named plain, toList_declaring, readImports_eq]
  simp [front, plain.undirected]

end

end ColorSpans.Sass
