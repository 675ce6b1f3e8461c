import ColorSpans.Proofs.Sass.Declaring
import ColorSpans.Proofs.Sass.Ranges
import Mathlib.Data.List.TakeWhile

/-! Imports and the layout of a text. A text imports the strings between each keyword and the
semicolon that ends its list, wherever its lines break. Of a line only the end of an open list is
read, or else its first directive, and an import that begins behind that is missed. -/
namespace ColorSpans.Sass
open Text

def isKeyword (text : List Char) : Bool :=
  importKeywords.contains (String.ofList (text.takeWhile isWord))

def importBody : List Char → Option (List Char)
  | [] => none
  | c :: rest =>
      if c == '@' && isKeyword rest then some (rest.dropWhile isWord) else importBody rest

/-- The lists of a text, each from a keyword to a semicolon or to the end. -/
def lists (text : List Char) : List (List Char) := (text.splitOn ';').filterMap importBody

/-- The quoted texts of a text; each of them stands on one line. -/
def stringsOf (text : List Char) : List String := (text.splitOn '\n').flatMap quotedTexts

/-- What a text imports. -/
def importedBy (text : List Char) : List String := (lists text).flatMap stringsOf

/-- Every list of a text names something, and no other list begins in it. -/
def Tidy (text : List Char) : Prop :=
  ∀ list ∈ lists text, stringsOf list ≠ [] ∧ importBody list = none

def textOf (lines : List String) : List Char :=
  lines.flatMap fun line => dropComments line.toList ++ ['\n']

def afterList (text : List Char) : Option (List Char) :=
  match text.dropWhile (· != ';') with
  | [] => none
  | _ :: rest => some rest

/-- What stands on a line behind all that is read of it: behind the end of an open list, or else
behind the first directive, with its list if it is an import. -/
def unreadOf (pending : Bool) (line : List Char) : Option (List Char) :=
  if pending then afterList line
  else match directive line with
    | none => none
    | some (word, text) => if importKeywords.contains word then afterList text else some text

/-- No line has an import behind all that is read of it. -/
def readsAll (pending : Bool) : List String → Bool
  | [] => true
  | line :: lines =>
      ((unreadOf pending (dropComments line.toList)).bind importBody).isNone &&
        readsAll (readImports pending (dropComments line.toList)).pending lines

theorem semicolon_cases (text : List Char) : ';' ∉ text ∨ ∃ part rest,
    text = part ++ ';' :: rest ∧ ';' ∉ part := by
  by_cases there : ';' ∈ text
  · exact .inr (List.eq_append_cons_of_mem there)
  · exact .inl there

section part

variable {part : List Char} (closed : ';' ∉ part)

include closed

theorem lists_part : lists part = (importBody part).toList := by
  rw [lists, List.splitOn_eq_singleton closed]
  cases body : importBody part <;> simp [body]

theorem all_ne_semicolon : ∀ c ∈ part, (c != ';') = true := by
  intro c there
  exact bne_iff_ne.2 fun same => closed (same ▸ there)

theorem takeWhile_part : part.takeWhile (· != ';') = part :=
  List.takeWhile_eq_self_iff.2 (all_ne_semicolon closed)

theorem afterList_part : afterList part = none := by
  rw [afterList, List.dropWhile_eq_nil_iff.2 (all_ne_semicolon closed)]

theorem takeWhile_part_append (rest : List Char) :
    (part ++ ';' :: rest).takeWhile (· != ';') = part := by
  rw [takeWhile_append_stop (by decide), takeWhile_part closed]

theorem afterList_part_append (rest : List Char) : afterList (part ++ ';' :: rest) = some rest := by
  rw [afterList, dropWhile_append_stop (by decide),
    List.dropWhile_eq_nil_iff.2 (all_ne_semicolon closed)]
  rfl

end part

theorem lists_append (text more : List Char) :
    lists (text ++ ';' :: more) = lists text ++ lists more := by
  have split : (text ++ ';' :: more).splitOn ';' = text.splitOn ';' ++ more.splitOn ';' :=
    List.splitOnP_append_cons text more (beq_self_eq_true ';')
  rw [lists, split, List.filterMap_append]
  rfl

theorem stringsOf_append (text more : List Char) :
    stringsOf (text ++ '\n' :: more) = stringsOf text ++ stringsOf more := by
  have split : (text ++ '\n' :: more).splitOn '\n' = text.splitOn '\n' ++ more.splitOn '\n' :=
    List.splitOnP_append_cons text more (beq_self_eq_true '\n')
  rw [stringsOf, split, List.flatMap_append]
  rfl

theorem stringsOf_line {text : List Char} (broken : '\n' ∉ text) :
    stringsOf text = quotedTexts text := by
  rw [stringsOf, List.splitOn_eq_singleton broken, List.flatMap_singleton]

section stop

variable {stop : Char} (foreign : isWord stop = false)

include foreign

theorem isKeyword_append (text more : List Char) :
    isKeyword (text ++ stop :: more) = isKeyword text := by
  rw [isKeyword, isKeyword, takeWhile_append_stop foreign]

theorem importBody_append (other : stop ≠ '@') (text more : List Char) :
    importBody (text ++ stop :: more) =
      match importBody text with
      | some body => some (body ++ stop :: more)
      | none => importBody more := by
  induction text with
  | nil => simp [importBody, other]
  | cons c text ih =>
    rw [List.cons_append, importBody, importBody, isKeyword_append foreign,
      dropWhile_append_stop foreign, ih]
    split <;> rfl

end stop

/-- A text that is still to be read, and whether it begins inside a list. -/
structure Place where
  inside : Bool
  text : List Char

namespace Place

def first (p : Place) : List Char := p.text.takeWhile (· != ';')

def further (p : Place) : List (List Char) :=
  if p.inside then (afterList p.text).elim [] lists else lists p.text

def imports (p : Place) : List String :=
  (if p.inside then stringsOf p.first else []) ++ p.further.flatMap stringsOf

/-- What is asked of a text that may begin inside a list: what is left of that need not name
anything. -/
structure Neat (p : Place) : Prop where
  first : p.inside = true → importBody p.first = none
  further : ∀ list ∈ p.further, stringsOf list ≠ [] ∧ importBody list = none

/-- Reading goes on from one place to another, and finds some strings on its way. -/
structure Passes (p : Place) (found : List String) (q : Place) : Prop where
  imports : p.imports = found ++ q.imports
  neat : p.Neat → q.Neat

theorem Passes.refl (p : Place) : p.Passes [] p := ⟨rfl, id⟩

theorem Passes.trans {p q r : Place} {found more : List String} (h : p.Passes found q)
    (h' : q.Passes more r) :
    p.Passes (found ++ more) r :=
  ⟨by rw [h.imports, h'.imports, List.append_assoc], fun neat => h'.neat (h.neat neat)⟩

theorem Passes.of_eq {p q : Place} (outside : p.inside = false) (other : q.inside = false)
    (same : lists p.text = lists q.text) : p.Passes [] q := by
  have further : p.further = q.further := by
    rw [Place.further, Place.further, outside, other]
    exact same
  refine ⟨?_, fun neat => ⟨fun inside => ?_, further ▸ neat.further⟩⟩
  · rw [Place.imports, Place.imports, outside, other, further]
    rfl
  · rw [other] at inside
    cases inside

theorem imports_nil (inside : Bool) : imports ⟨inside, []⟩ = [] := by
  have nothing : stringsOf [] = [] := by
    rw [stringsOf_line List.not_mem_nil, quotedTexts]
  cases inside with
  | true => exact List.append_eq_nil_iff.2 ⟨nothing, rfl⟩
  | false => rfl

variable {c : Char} {part text : List Char}

theorem passes_cons (other : c = '@' → isKeyword text = false) :
    Passes ⟨false, c :: text⟩ [] ⟨false, text⟩ := by
  refine .of_eq rfl rfl ?_
  have skip (rest : List Char) (same : isKeyword rest = isKeyword text) :
      importBody (c :: rest) = importBody rest := by
    rw [importBody, same, if_neg]
    intro both
    obtain ⟨sign, keyword⟩ := Bool.and_eq_true_iff.1 both
    rw [other (beq_iff_eq.1 sign)] at keyword
    cases keyword
  show lists (c :: text) = lists text
  by_cases semicolon : c = ';'
  · subst semicolon
    exact lists_append [] text
  rcases semicolon_cases text with closed | ⟨part, rest, rfl, closed⟩
  · have closed' : ';' ∉ c :: text := by simpa [Ne.symm semicolon] using closed
    rw [lists_part closed, lists_part closed', skip text rfl]
  · have closed' : ';' ∉ c :: part := by simpa [Ne.symm semicolon] using closed
    rw [← List.cons_append, lists_append, lists_append, lists_part closed, lists_part closed',
      skip part (isKeyword_append (by decide) part rest).symm]

theorem passes_keyword (keyword : isKeyword text = true) :
    Passes ⟨false, '@' :: text⟩ [] ⟨true, text.dropWhile isWord⟩ ∧
      (Neat ⟨false, '@' :: text⟩ → stringsOf (first ⟨true, text.dropWhile isWord⟩) ≠ []) := by
  have body (rest : List Char) (same : isKeyword rest = isKeyword text) :
      importBody ('@' :: rest) = some (rest.dropWhile isWord) := by
    rw [importBody, same, keyword]
    rfl
  have all : further ⟨false, '@' :: text⟩ =
      first ⟨true, text.dropWhile isWord⟩ :: further ⟨true, text.dropWhile isWord⟩ := by
    show lists ('@' :: text) = _
    rcases semicolon_cases text with closed | ⟨part, rest, rfl, closed⟩
    · have closed' : ';' ∉ '@' :: text := by simpa using closed
      have within : ';' ∉ text.dropWhile isWord :=
        fun there => closed ((List.dropWhile_suffix _).subset there)
      rw [lists_part closed', body text rfl, first, further, takeWhile_part within, if_pos rfl,
        afterList_part within]
      rfl
    · have closed' : ';' ∉ '@' :: part := by simpa using closed
      have within : ';' ∉ part.dropWhile isWord :=
        fun there => closed ((List.dropWhile_suffix _).subset there)
      rw [← List.cons_append, lists_append, lists_part closed',
        body part (isKeyword_append (by decide) part rest).symm, first, further,
        dropWhile_append_stop (by decide), takeWhile_part_append within, if_pos rfl,
          afterList_part_append within]
      rfl
  refine ⟨⟨?_, fun neat => ⟨fun _ => ?_, fun list there => ?_⟩⟩, fun neat => ?_⟩
  · rw [imports, imports, all]
    rfl
  · exact (neat.further _ (all ▸ List.mem_cons_self)).2
  · exact neat.further list (all ▸ List.mem_cons_of_mem _ there)
  · exact (neat.further _ (all ▸ List.mem_cons_self)).1

theorem passes_semicolon (closed : ';' ∉ part) :
    Passes ⟨true, part ++ ';' :: text⟩ (stringsOf part) ⟨false, text⟩ := by
  have further : further ⟨true, part ++ ';' :: text⟩ = lists text := by
    rw [Place.further, if_pos rfl, afterList_part_append closed]
    rfl
  refine ⟨?_, fun neat => ⟨nofun, fun list there => neat.further list (further ▸ there)⟩⟩
  rw [imports, further, if_pos rfl, first, takeWhile_part_append closed]
  rfl

theorem passes_newline (closed : ';' ∉ part) :
    Passes ⟨true, part ++ '\n' :: text⟩ (stringsOf part) ⟨true, text⟩ := by
  have first : first ⟨true, part ++ '\n' :: text⟩ = part ++ '\n' :: first ⟨true, text⟩ := by
    rw [Place.first, List.takeWhile_append_of_pos (all_ne_semicolon closed),
      List.takeWhile_cons_of_pos (by decide)]
    rfl
  have after : afterList (part ++ '\n' :: text) = afterList text := by
    rw [afterList, List.dropWhile_append_of_pos (all_ne_semicolon closed),
      List.dropWhile_cons_of_pos (by decide)]
    rfl
  have further : further ⟨true, part ++ '\n' :: text⟩ = further ⟨true, text⟩ := by
    rw [Place.further, Place.further, if_pos rfl, if_pos rfl, after]
  refine ⟨?_, fun neat => ⟨fun _ => ?_, fun list there => neat.further list (further ▸ there)⟩⟩
  · rw [imports, imports, further, if_pos rfl, if_pos rfl, first, stringsOf_append,
      List.append_assoc]
  · have none := neat.first rfl
    rw [first, importBody_append (by decide) (by decide)] at none
    split at none
    · cases none
    · exact none

theorem passes_dropWhile {skipped : Char → Bool} (sign : skipped '@' = false)
    (part text : List Char) :
    Passes ⟨false, part ++ text⟩ [] ⟨false, part.dropWhile skipped ++ text⟩ := by
  induction part with
  | nil => exact .refl _
  | cons c part ih =>
    rw [List.dropWhile_cons]
    split
    · rename_i skip
      refine (passes_cons fun same => ?_).trans ih
      subst same
      cases sign.symm.trans skip
    · exact .refl _

theorem passes_idle (idle : importBody part = none) :
    Passes ⟨false, part ++ '\n' :: text⟩ [] ⟨false, text⟩ := by
  induction part with
  | nil => exact passes_cons fun same => absurd same (by decide)
  | cons c part ih =>
    rw [importBody] at idle
    split at idle
    · cases idle
    · rename_i other
      refine (passes_cons fun sign => ?_).trans (ih idle)
      exact (isKeyword_append (by decide) part text).trans (by simpa [sign] using other)

theorem further_eq (clear : importBody (first ⟨true, text⟩) = none) :
    further ⟨false, text⟩ = further ⟨true, text⟩ := by
  show lists text = (afterList text).elim [] lists
  rcases semicolon_cases text with closed | ⟨part, rest, rfl, closed⟩
  · rw [first, takeWhile_part closed] at clear
    rw [lists_part closed, clear, afterList_part closed]
    rfl
  · rw [first, takeWhile_part_append closed] at clear
    rw [lists_append, lists_part closed, clear, afterList_part_append closed]
    rfl

theorem Neat.leave (neat : Neat ⟨true, text⟩) : Neat ⟨false, text⟩ :=
  ⟨nofun, further_eq (neat.first rfl) ▸ neat.further⟩

theorem imports_leave (neat : Neat ⟨true, text⟩) :
    imports ⟨true, text⟩ = stringsOf (first ⟨true, text⟩) ++ imports ⟨false, text⟩ := by
  rw [imports, imports, further_eq (neat.first rfl)]
  rfl

theorem passes_first (c : Char) (part text : List Char) :
    (importBody (c :: part) = some (part.dropWhile isWord) ∧
      Passes ⟨false, c :: part ++ '\n' :: text⟩ [] ⟨true, part.dropWhile isWord ++ '\n' :: text⟩ ∧
      (Neat ⟨false, c :: part ++ '\n' :: text⟩ →
        stringsOf (first ⟨true, part.dropWhile isWord ++ '\n' :: text⟩) ≠ [])) ∨
    (importBody (c :: part) = importBody part ∧
      Passes ⟨false, c :: part ++ '\n' :: text⟩ [] ⟨false, part ++ '\n' :: text⟩) := by
  have same : isKeyword (part ++ '\n' :: text) = isKeyword part :=
    isKeyword_append (by decide) part text
  by_cases both : (c == '@' && isKeyword part) = true
  · obtain ⟨sign, keyword⟩ := Bool.and_eq_true_iff.1 both
    obtain rfl := beq_iff_eq.1 sign
    have enter := passes_keyword (same.trans keyword)
    rw [dropWhile_append_stop (by decide)] at enter
    exact .inl ⟨by rw [importBody, if_pos both], enter⟩
  · refine .inr ⟨by rw [importBody, if_neg both], passes_cons fun sign => ?_⟩
    exact same.trans (by simpa [sign] using both)

theorem imports_next {inside : Bool} (neat : Neat ⟨inside, part ++ '\n' :: text⟩) :
    Neat ⟨false, text⟩ ∧ (imports ⟨false, text⟩).Sublist
      (imports ⟨inside, part ++ '\n' :: text⟩) := by
  -- By the length of the line: behind a list, a keyword or a character less of it is left.
  induction long : part.length using Nat.strong_induction_on generalizing part inside
    with | _ length shorter
  subst long
  have onward {rest : List Char} {inside' : Bool} {found : List String}
      (less : rest.length < part.length)
      (passes : Passes ⟨inside, part ++ '\n' :: text⟩ found ⟨inside', rest ++ '\n' :: text⟩) :
      Neat ⟨false, text⟩ ∧ (imports ⟨false, text⟩).Sublist
        (imports ⟨inside, part ++ '\n' :: text⟩) := by
    obtain ⟨behind, fewer⟩ := shorter rest.length less (passes.neat neat) rfl
    exact ⟨behind, passes.imports ▸ fewer.trans (List.sublist_append_right _ _)⟩
  cases inside with
  | true =>
    rcases semicolon_cases part with closed | ⟨list, rest, rfl, closed⟩
    · have passes : Passes ⟨true, part ++ '\n' :: text⟩ _ _ := passes_newline closed
      have behind := passes.neat neat
      refine ⟨behind.leave, ?_⟩
      rw [passes.imports, imports_leave behind]
      exact (List.sublist_append_right _ _).trans (List.sublist_append_right _ _)
    · have passes : Passes ⟨true, (list ++ ';' :: rest) ++ '\n' :: text⟩ (stringsOf list)
          ⟨false, rest ++ '\n' :: text⟩ := by
        rw [List.append_assoc, List.cons_append]
        exact passes_semicolon closed
      refine onward ?_ passes
      rw [List.length_append, List.length_cons]
      omega
  | false =>
    cases part with
    | nil =>
      have passes : Passes ⟨false, [] ++ '\n' :: text⟩ [] ⟨false, text⟩ := passes_idle rfl
      exact ⟨passes.neat neat, passes.imports ▸ List.Sublist.refl _⟩
    | cons c part =>
      rcases passes_first c part text with ⟨-, passes, -⟩ | ⟨-, passes⟩
      · exact onward (Nat.lt_succ_of_le (List.dropWhile_suffix _).length_le) passes
      · exact onward (Nat.lt_succ_self _) passes

theorem Neat.missed (neat : Neat ⟨false, part ++ '\n' :: text⟩) (begins : importBody part ≠ none) :
    (imports ⟨false, text⟩).length < (imports ⟨false, part ++ '\n' :: text⟩).length := by
  induction part with
  | nil => exact absurd rfl begins
  | cons c part ih =>
    rcases passes_first c part text with ⟨-, passes, names⟩ | ⟨same, passes⟩
    · have inside := passes.neat neat
      have named := List.length_pos_iff.2 (names neat)
      have kept := (imports_next inside.leave).2.length_le
      rw [passes.imports, List.nil_append, imports_leave inside, List.length_append]
      omega
    · rw [passes.imports]
      exact ih (passes.neat neat) (same ▸ begins)

end Place

open Place

section line

variable {line : List Char} (broken : '\n' ∉ line) (text : List Char)

theorem quotedTexts_cons {c : Char} (other : isQuote c = false) (cs : List Char) :
    quotedTexts (c :: cs) = quotedTexts cs := by
  rw [quotedTexts, other, if_neg Bool.false_ne_true]

theorem readImports_dropBlanks (list : List Char) :
    readImports true (dropBlanks list) = readImports true list ∧
      afterList (dropBlanks list) = afterList list := by
  induction list with
  | nil => exact ⟨rfl, rfl⟩
  | cons c list ih =>
    rw [dropBlanks, List.dropWhile_cons]
    split
    · rename_i blank
      have apart {other : Char} (solid : isBlank other = false) : c ≠ other := by
        rintro rfl
        exact Bool.false_ne_true (solid.symm.trans blank)
      have open_ : (c != ';') = true := bne_iff_ne.2 (apart (by decide))
      have silent : isQuote c = false := by
        rw [isQuote, beq_eq_false_iff_ne.2 (apart (by decide)),
          beq_eq_false_iff_ne.2 (apart (by decide))]
        rfl
      have semicolon : (c :: list).contains ';' = list.contains ';' := by
        rw [List.contains_cons, beq_eq_false_iff_ne.2 (apart (by decide)).symm, Bool.false_or]
      have taken : (c :: list).takeWhile (· != ';') = c :: list.takeWhile (· != ';') :=
        List.takeWhile_cons_of_pos open_
      have dropped : (c :: list).dropWhile (· != ';') = list.dropWhile (· != ';') :=
        List.dropWhile_cons_of_pos open_
      refine ⟨ih.1.trans ?_, ih.2.trans ?_⟩
      · simp only [readImports, if_true, taken, quotedTexts_cons silent, semicolon]
      · rw [afterList, afterList, dropped]
    · exact ⟨rfl, rfl⟩

theorem isKeyword_of_wordless {text : List Char} (wordless : text.takeWhile isWord = []) :
    isKeyword text = false := by
  rw [isKeyword, wordless]
  rfl

theorem importBody_eq_none (undirected : directive line = none) : importBody line = none := by
  induction line with
  | nil => rfl
  | cons c line ih =>
    simp only [directive] at undirected
    split at undirected
    · cases undirected
    · rename_i other
      rw [importBody, if_neg, ih undirected]
      intro both
      obtain ⟨sign, keyword⟩ := Bool.and_eq_true_iff.1 both
      have wordless : line.takeWhile isWord = [] := by simpa [beq_iff_eq.1 sign] using other
      exact Bool.false_ne_true ((isKeyword_of_wordless wordless).symm.trans keyword)

theorem readImports_directive {word : String} {behind : List Char}
    (found : directive line = some (word, behind)) :
    readImports false line = if importKeywords.contains word then readImports true behind
      else ⟨[], false⟩ := by
  simp only [readImports, found]
  cases importKeywords.contains word <;> rfl

def behindLine (unread : Option (List Char)) (pending : Bool) (text : List Char) : Place :=
  match unread with
  | none => ⟨pending, text⟩
  | some rest => ⟨false, rest ++ '\n' :: text⟩

include broken

theorem passes_list :
    Passes ⟨true, line ++ '\n' :: text⟩ (readImports true line).targets
      (behindLine (afterList line) (readImports true line).pending text) ∧
    ((afterList line).isSome = true → (readImports true line).pending = false) := by
  rcases semicolon_cases line with closed | ⟨list, rest, rfl, closed⟩
  · have targets : (readImports true line).targets = stringsOf line := by
      rw [stringsOf_line broken]
      exact congrArg quotedTexts (takeWhile_part closed)
    have pending : (readImports true line).pending = true := by simp [readImports, closed]
    rw [targets, pending, afterList_part closed]
    exact ⟨passes_newline closed, fun ended => absurd ended Bool.false_ne_true⟩
  · have targets : (readImports true (list ++ ';' :: rest)).targets = stringsOf list := by
      rw [stringsOf_line fun there => broken (List.mem_append_left _ there)]
      exact congrArg quotedTexts (takeWhile_part_append closed rest)
    have pending : (readImports true (list ++ ';' :: rest)).pending = false := by simp [readImports]
    rw [targets, afterList_part_append closed, List.append_assoc]
    exact ⟨passes_semicolon closed, fun _ => pending⟩

theorem passes_directive {word : String} {behind : List Char}
    (found : directive line = some (word, behind)) :
    ∃ rest, word = String.ofList (rest.takeWhile isWord) ∧
      behind = dropBlanks (rest.dropWhile isWord) ∧
      '\n' ∉ rest ∧ Passes ⟨false, line ++ '\n' :: text⟩ [] ⟨false,
        '@' :: rest ++ '\n' :: text⟩ := by
  induction line with
  | nil => cases found
  | cons c line ih =>
    have broken' : '\n' ∉ line := fun there => broken (List.mem_cons_of_mem _ there)
    simp only [directive] at found
    split at found
    · rename_i both
      obtain ⟨sign, -⟩ := Bool.and_eq_true_iff.1 both
      obtain rfl := beq_iff_eq.1 sign
      obtain ⟨rfl, rfl⟩ := Prod.mk.inj (Option.some.inj found)
      refine ⟨line, rfl, ?_, broken', .refl _⟩
      refine List.takeWhile_eq_self_iff.2 fun c there => bne_iff_ne.2 fun same => broken' ?_
      exact same ▸ (List.dropWhile_suffix _).subset ((List.dropWhile_suffix _).subset there)
    · rename_i other
      obtain ⟨rest, named, left, unbroken, passes⟩ := ih broken' found
      refine ⟨rest, named, left, unbroken, (passes_cons fun sign => ?_).trans passes⟩
      have wordless : line.takeWhile isWord = [] := by simpa [sign] using other
      exact (isKeyword_append (by decide) line text).trans (isKeyword_of_wordless wordless)

/-- Reading goes on behind what is read of a line, unless that is all of it. -/
theorem passes_line (pending : Bool) :
    Passes ⟨pending, line ++ '\n' :: text⟩ (readImports pending line).targets
      (behindLine (unreadOf pending line) (readImports pending line).pending text) ∧
    ((unreadOf pending line).isSome = true → (readImports pending line).pending = false) := by
  cases pending with
  | true => exact passes_list broken text
  | false =>
    cases found : directive line with
    | none =>
      have idle : importBody line = none := importBody_eq_none found
      simp only [readImports, unreadOf, found]
      exact ⟨passes_idle idle, fun _ => rfl⟩
    | some directive =>
      obtain ⟨word, behind⟩ := directive
      obtain ⟨rest, rfl, rfl, broken', passes⟩ := passes_directive broken text found
      have same : isKeyword (rest ++ '\n' :: text) = isKeyword rest :=
        isKeyword_append (by decide) rest text
      have imports := readImports_directive found
      have unread : unreadOf false line = if isKeyword rest
          then afterList (dropBlanks (rest.dropWhile isWord))
          else some (dropBlanks (rest.dropWhile isWord)) := by
        simp only [unreadOf, found]
        rfl
      rw [← isKeyword.eq_def] at imports
      cases keyword : isKeyword rest with
      | true =>
        have broken'' : '\n' ∉ rest.dropWhile isWord :=
          fun there => broken' ((List.dropWhile_suffix _).subset there)
        have enter := (passes_keyword (same.trans keyword)).1
        rw [dropWhile_append_stop (by decide)] at enter
        rw [keyword, if_pos rfl, (readImports_dropBlanks _).1] at imports
        rw [keyword, if_pos rfl, (readImports_dropBlanks _).2] at unread
        rw [imports, unread]
        obtain ⟨onward, pending⟩ := passes_list broken'' text
        exact ⟨passes.trans (enter.trans onward), pending⟩
      | false =>
        rw [keyword, if_neg Bool.false_ne_true] at imports unread
        rw [imports, unread]
        refine ⟨passes.trans ((passes_cons fun _ => same.trans keyword).trans ?_), fun _ => rfl⟩
        exact (passes_dropWhile (by decide) rest _).trans
          (passes_dropWhile (by decide) (rest.dropWhile isWord) _)

theorem passes_whole {pending : Bool} (whole : (unreadOf pending line).bind importBody = none) :
    Passes ⟨pending, line ++ '\n' :: text⟩ (readImports pending line).targets
      ⟨(readImports pending line).pending, text⟩ := by
  obtain ⟨passes, closed⟩ := passes_line broken text pending
  cases unread : unreadOf pending line with
  | none =>
    rw [unread] at passes
    exact passes
  | some rest =>
    rw [unread] at passes whole closed
    rw [closed rfl, ← List.append_nil (readImports pending line).targets]
    exact passes.trans (passes_idle whole)

end line

theorem textOf_cons (line : String) (lines : List String) :
    textOf (line :: lines) = dropComments line.toList ++ '\n' :: textOf lines := by
  rw [textOf, List.flatMap_cons, List.append_assoc]
  rfl

variable {lines : List String}

theorem importsOf_eq_of_readsAll (broken : ∀ line ∈ lines, '\n' ∉ line.toList) {pending : Bool}
    (whole : readsAll pending lines = true) :
    (Sheet.importsOf pending lines).flatten = imports ⟨pending, textOf lines⟩ := by
  induction lines generalizing pending with
  | nil => exact (imports_nil pending).symm
  | cons line lines ih =>
    obtain ⟨here, later⟩ := Bool.and_eq_true_iff.1 whole
    have broken' : '\n' ∉ dropComments line.toList := fun there =>
      broken line List.mem_cons_self (dropComments_subset _ there)
    have passes := passes_whole broken' (textOf lines) (Option.isNone_iff_eq_none.1 here)
    rw [textOf_cons, passes.imports,
      ← ih (fun line there => broken line (List.mem_cons_of_mem _ there)) later]
    rfl

theorem importsOf_sublist (broken : ∀ line ∈ lines, '\n' ∉ line.toList) {pending : Bool}
    (neat : Neat ⟨pending, textOf lines⟩) :
    (Sheet.importsOf pending lines).flatten.Sublist (imports ⟨pending, textOf lines⟩) := by
  induction lines generalizing pending with
  | nil => exact List.nil_sublist _
  | cons line lines ih =>
    have broken' : '\n' ∉ dropComments line.toList := fun there =>
      broken line List.mem_cons_self (dropComments_subset _ there)
    have broken_rest : ∀ line ∈ lines, '\n' ∉ line.toList := fun line there =>
      broken line (List.mem_cons_of_mem _ there)
    obtain ⟨passes, closed⟩ := passes_line broken' (textOf lines) pending
    rw [textOf_cons] at neat ⊢
    rw [passes.imports, Sheet.importsOf, List.flatten_cons]
    refine (List.append_sublist_append_left _).2 ?_
    have behind := passes.neat neat
    cases unread : unreadOf pending (dropComments line.toList) with
    | none =>
      rw [unread] at behind
      exact ih broken_rest behind
    | some left =>
      rw [unread] at behind closed
      obtain ⟨next, fewer⟩ := imports_next behind
      rw [closed rfl]
      exact (ih broken_rest next).trans fewer

theorem readsAll_of_importsOf_eq (broken : ∀ line ∈ lines, '\n' ∉ line.toList) {pending : Bool}
    (neat : Neat ⟨pending, textOf lines⟩)
    (same : (Sheet.importsOf pending lines).flatten = imports ⟨pending, textOf lines⟩) :
    readsAll pending lines = true := by
  induction lines generalizing pending with
  | nil => rfl
  | cons line lines ih =>
    have broken' : '\n' ∉ dropComments line.toList := fun there =>
      broken line List.mem_cons_self (dropComments_subset _ there)
    have broken_rest : ∀ line ∈ lines, '\n' ∉ line.toList := fun line there =>
      broken line (List.mem_cons_of_mem _ there)
    obtain ⟨passes, closed⟩ := passes_line broken' (textOf lines) pending
    rw [textOf_cons] at neat same
    rw [Sheet.importsOf, List.flatten_cons] at same
    cases whole : (unreadOf pending (dropComments line.toList)).bind importBody with
    | none =>
      have onward := passes_whole broken' (textOf lines) whole
      rw [onward.imports] at same
      rw [readsAll, whole, ih broken_rest (onward.neat neat) (List.append_cancel_left same)]
      rfl
    | some list =>
      obtain ⟨left, unread, begins⟩ := Option.bind_eq_some_iff.1 whole
      rw [unread] at passes closed
      rw [passes.imports, closed rfl] at same
      have behind := passes.neat neat
      have fewer := (importsOf_sublist broken_rest (imports_next behind).1).length_le
      have more := behind.missed (begins ▸ Option.some_ne_none list)
      rw [List.append_cancel_left same] at fewer
      exact absurd fewer (Nat.not_le_of_lt more)

/-- A sheet has all imports of its text, in order, if no import begins behind what is read of a
line; and where every list names something and no other begins in it, only then. -/
theorem targets_eq_iff {matcher : Option Matcher} {lines : List String} {sheet : Sheet}
    (broken : ∀ line ∈ lines, '\n' ∉ line.toList) (read : Sheet.read matcher lines = .ok sheet) :
    (readsAll false lines = true → sheet.targets = importedBy (textOf lines)) ∧
      (Tidy (textOf lines) → (sheet.targets = importedBy (textOf lines) ↔
        readsAll false lines = true)) := by
  rw [Sheet.targets_of_read read]
  have whole : readsAll false lines = true →
      (Sheet.importsOf false lines).flatten = importedBy (textOf lines) :=
    importsOf_eq_of_readsAll broken
  exact ⟨whole, fun tidy => ⟨readsAll_of_importsOf_eq broken ⟨nofun, tidy⟩, whole⟩⟩

def spreadLines : List String :=
  ["@charset \"utf-8\";", "$x: $y; @import \"a\",", "  'b'; $c: $x;", "@use \"d\";"]

theorem targets_eq_spread : ∃ sheet, Sheet.read none spreadLines = .ok sheet ∧
    sheet.targets = ["a", "b", "d"] ∧
    importedBy (textOf spreadLines) = ["a", "b", "d"] ∧ readsAll false spreadLines = true := by
  have good : (Sheet.read none spreadLines).toOption.isSome = true := by decide +kernel
  cases read : Sheet.read none spreadLines with
  | error e =>
    rw [read] at good
    cases good
  | ok sheet =>
    have tidy : Tidy (textOf spreadLines) := by
      unfold Tidy
      decide +kernel
    have imported : importedBy (textOf spreadLines) = ["a", "b", "d"] := by decide +kernel
    have whole : readsAll false spreadLines = true := by decide +kernel
    obtain ⟨-, iff⟩ := targets_eq_iff (by decide) read
    exact ⟨sheet, rfl, ((iff tidy).2 whole).trans imported, imported, whole⟩

def importsRead (lines : List String) : Option (List String) × List String :=
  ((Sheet.read none lines).toOption.map Sheet.targets, importedBy (textOf lines))

/-- An import is missed behind the end of another, behind a directive of another kind and behind the
end of a list that began on an earlier line. -/
theorem targets_ne_importedBy :
    importsRead ["@import \"a\"; @import \"b\";"] = (some ["a"], ["a", "b"]) ∧
      importsRead ["@charset \"utf-8\"; @use \"b\";"] = (some [], ["b"]) ∧
      importsRead ["@import \"a\",", "\"b\"; @import \"c\";"] =
        (some ["a", "b"], ["a", "b", "c"]) := by
  decide +kernel

end ColorSpans.Sass
