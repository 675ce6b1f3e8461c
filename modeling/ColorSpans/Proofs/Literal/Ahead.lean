import ColorSpans.Literal.Functional

/-! What lies ahead of a column. A pattern that goes along a line by columns reads what it would
read of the rest of the line alone, and is then as far on as it leaves less of that rest. -/
namespace ColorSpans
open Numeral Text

namespace Text

section run

variable {α : Type} {p : α → Bool} {xs : List α} {column stop : Nat}

theorem drop_eq_cons {x : α} (here : xs[column]? = some x) :
    xs.drop column = x :: xs.drop (column + 1) := by
  obtain ⟨inside, rfl⟩ := List.getElem?_eq_some_iff.1 here
  exact List.drop_eq_getElem_cons inside

theorem drop_ne_cons {x : α} (other : xs[column]? ≠ some x) (tail : List α) :
    xs.drop column ≠ x :: tail := by
  intro same
  rw [← List.head?_drop, same] at other
  exact other rfl

theorem runEnd_eq (p : α → Bool) (xs : List α) (column : Nat) :
    runEnd p xs column = column + ((xs.drop column).takeWhile p).length := by
  induction column using runEnd.induct p xs with
  | case1 column more ih =>
    obtain ⟨x, here, good⟩ := (Option.any_eq_true p _).1 more
    rw [runEnd, if_pos more, ih, drop_eq_cons here, List.takeWhile_cons_of_pos good,
      List.length_cons]
    omega
  | case2 column last =>
    have none : (xs.drop column).takeWhile p = [] := by
      cases here : xs[column]? with
      | none => rw [List.drop_eq_nil_of_le (List.getElem?_eq_none_iff.1 here), List.takeWhile_nil]
      | some x =>
        rw [here, Option.any_some] at last
        rw [drop_eq_cons here, List.takeWhile_cons_of_neg last]
    rw [runEnd, if_neg last, none, List.length_nil, Nat.add_zero]

theorem le_runEnd (p : α → Bool) (xs : List α) (column : Nat) : column ≤ runEnd p xs column := by
  rw [runEnd_eq]
  exact Nat.le_add_right ..

theorem runEnd_eq_self_iff (p : α → Bool) (xs : List α) (column : Nat) :
    runEnd p xs column = column ↔ (xs.drop column).takeWhile p = [] := by
  rw [runEnd_eq, ← List.length_eq_zero_iff]
  omega

theorem drop_runEnd (p : α → Bool) (xs : List α) (column : Nat) :
    xs.drop (runEnd p xs column) = (xs.drop column).dropWhile p := by
  have whole : xs.drop column = (xs.drop column).takeWhile p ++ (xs.drop column).dropWhile p :=
    List.takeWhile_append_dropWhile.symm
  rw [runEnd_eq, ← List.drop_drop]
  exact (congrArg _ whole).trans List.drop_left

theorem between_runEnd (p : α → Bool) (xs : List α) (column : Nat) :
    between xs column (runEnd p xs column : Nat) = (xs.drop column).takeWhile p := by
  rw [between_natCast, runEnd_eq, List.drop_take, Nat.add_sub_cancel_left]
  exact (List.prefix_iff_eq_take.1 (List.takeWhile_prefix p)).symm

theorem between_succ {x : α} (from_ : column ≤ stop) (here : xs[stop]? = some x) :
    between xs column ((stop : Int) + 1) = between xs column stop ++ [x] := by
  have room : column ≤ (xs.take stop).length := by
    have := (List.getElem?_eq_some_iff.1 here).1
    rw [List.length_take]
    omega
  have next : (stop : Int) + 1 = ((stop + 1 : Nat) : Int) := rfl
  rw [next, between_natCast, between_natCast, List.take_add_one, here,
    List.drop_append_of_le_length room]
  rfl

theorem standsAt_eq [DecidableEq α] (word xs : List α) (column : Nat) :
    standsAt word xs column = word.isPrefixOf (xs.drop column) := by
  induction word generalizing column with
  | nil => rfl
  | cons x word ih =>
    rw [standsAt, ih]
    cases here : xs[column]? with
    | none => rw [List.drop_eq_nil_of_le (List.getElem?_eq_none_iff.1 here)]; rfl
    | some y =>
      rw [drop_eq_cons here, List.isPrefixOf_cons_cons]
      congr 1
      rw [Bool.eq_iff_iff, beq_iff_eq, beq_iff_eq, Option.some.injEq, eq_comm]

end run

end Text

/-- The text of an argument, without the sign of a mandatory percentage, and the rest. -/
def Argument.read (a : Argument) (cs : List Char) : Option (List Char × List Char) :=
  let digits := cs.takeWhile isDigit
  let rest := cs.dropWhile isDigit
  match a with
  | .channel =>
      if digits.isEmpty then none
      else match rest with
        | '%' :: rest => some (digits ++ ['%'], rest)
        | _ => some (digits, rest)
  | .degrees => if digits.isEmpty then none else some (digits, rest)
  | .percent =>
      if digits.isEmpty then none
      else match rest with
        | '%' :: rest => some (digits, rest)
        | _ => none
  | .opacity =>
      let text := cs.takeWhile fun c => c == '.' || isDigit c
      if text.isEmpty then none else some (text, cs.dropWhile fun c => c == '.' || isDigit c)

def withRest {β : Type} (chars : List Char) (found : β × Nat) : β × List Char :=
  (found.1, chars.drop found.2)

theorem Argument.readAt_withRest (a : Argument) (chars : List Char) (column : Nat) :
    (a.readAt chars column).map (withRest chars) = a.read (chars.drop column) := by
  have start := le_runEnd isDigit chars column
  have digits := between_runEnd isDigit chars column
  have rest := drop_runEnd isDigit chars column
  have empty : runEnd isDigit chars column = column ↔
      ((chars.drop column).takeWhile isDigit).isEmpty = true :=
    (runEnd_eq_self_iff ..).trans List.isEmpty_iff.symm
  cases a with
  | degrees =>
    simp only [readAt, read, empty, ← digits]
    split
    · rfl
    · rw [Option.map_some, withRest, rest]
  | opacity =>
    have empty := runEnd_eq_self_iff (fun c => c == '.' || isDigit c) chars column
    simp only [readAt, read, empty, List.isEmpty_iff]
    split
    · rfl
    · rw [Option.map_some, withRest, drop_runEnd, between_runEnd]
  | channel =>
    simp only [readAt, read, empty, ← rest]
    split
    · rfl
    · by_cases sign : chars[runEnd isDigit chars column]? = some '%'
      · rw [if_pos sign, drop_eq_cons sign, between_succ start sign, digits]
        rfl
      · rw [if_neg sign, digits]
        split
        · rename_i tail same
          exact absurd same (drop_ne_cons sign tail)
        · rfl
  | percent =>
    simp only [readAt, read, empty, ← rest]
    split
    · rfl
    · by_cases sign : chars[runEnd isDigit chars column]? = some '%'
      · rw [if_pos sign, drop_eq_cons sign, digits]
        rfl
      · rw [if_neg sign]
        split
        · rename_i tail same
          exact absurd same (drop_ne_cons sign tail)
        · rfl

def Separator.skip? : Separator → List Char → Option (List Char)
  | .comma, cs =>
      match dropBlanks cs with
      | ',' :: rest => some (dropBlanks rest)
      | _ => none
  | .gap, cs =>
      match cs with
      | c :: rest => if isBlank c then some (dropBlanks rest) else none
      | [] => none

theorem Separator.skipAt?_drop (sep : Separator) (chars : List Char) (column : Nat) :
    (sep.skipAt? chars column).map chars.drop = sep.skip? (chars.drop column) := by
  have rest := drop_runEnd isBlank chars column
  cases sep with
  | comma =>
    simp only [skipAt?, skip?, dropBlanks, ← rest]
    by_cases sign : chars[runEnd isBlank chars column]? = some ','
    · rw [if_pos sign, drop_eq_cons sign, Option.map_some, drop_runEnd]
      rfl
    · rw [if_neg sign]
      split
      · rename_i tail same
        exact absurd same (drop_ne_cons sign tail)
      · rfl
  | gap =>
    simp only [skipAt?, skip?, runEnd_eq_self_iff]
    cases ahead : chars.drop column with
    | nil => rfl
    | cons c tail =>
      rw [ahead] at rest
      by_cases blank : isBlank c
      · rw [List.takeWhile_cons_of_pos blank, if_neg (List.cons_ne_nil _ _), Option.map_some, rest,
          List.dropWhile_cons_of_pos blank]
        exact (if_pos blank).symm
      · rw [List.takeWhile_cons_of_neg blank, if_pos rfl]
        exact (if_neg blank).symm

def readArguments (sep : Separator) :
    List Argument → List Char → Option (List (List Char) × List Char)
  | [], cs => some ([], cs)
  | [a], cs => (a.read cs).map fun (text, rest) => ([text], rest)
  | a :: more, cs => do
      let (text, rest) ← a.read cs
      let rest ← sep.skip? rest
      let (texts, rest) ← readArguments sep more rest
      return (text :: texts, rest)

theorem readArgumentsAt_withRest (sep : Separator) (chars : List Char) (arguments : List Argument)
    (column : Nat) :
    (readArgumentsAt sep chars arguments column).map (withRest chars) =
      readArguments sep arguments (chars.drop column) := by
  induction arguments generalizing column with
  | nil => rfl
  | cons a more ih =>
    cases more with
    | nil =>
      rw [readArgumentsAt, readArguments, ← a.readAt_withRest]
      cases a.readAt chars column <;> rfl
    | cons b more =>
      rw [readArgumentsAt, readArguments, ← a.readAt_withRest]
      · cases a.readAt chars column with
        | none => rfl
        | some found =>
          simp only [Option.map_some, withRest, Option.bind_eq_bind, Option.bind_some,
            ← sep.skipAt?_drop]
          cases sep.skipAt? chars found.2 with
          | none => rfl
          | some next =>
            simp only [Option.map_some, Option.bind_some, ← ih]
            cases readArgumentsAt sep chars (b :: more) next <;> rfl
      · exact nofun
      · exact nofun

namespace ColorFunction

def afterOpening? (f : ColorFunction) (cs : List Char) : Option (List Char) :=
  if f.opening.isPrefixOf cs then some (cs.drop f.opening.length) else none

def readCallWith (f : ColorFunction) (sep : Separator) (cs : List Char) :
    Option (List (List Char) × List Char) := do
  let rest ← f.afterOpening? cs
  let (texts, rest) ← readArguments sep f.arguments (dropBlanks rest)
  match dropBlanks rest with
  | ')' :: rest => some (texts, rest)
  | _ => none

def readCall (f : ColorFunction) (cs : List Char) : Option (List (List Char) × List Char) :=
  (f.readCallWith .comma cs).or (f.readCallWith .gap cs)

variable {f : ColorFunction} {chars : List Char} {column : Nat}

theorem callWithAt?_withRest (sep : Separator) :
    (f.callWithAt? sep chars column).map (withRest chars) =
      f.readCallWith sep (chars.drop column) := by
  rw [callWithAt?, readCallWith, afterOpening?, standsAt_eq]
  split
  · simp only [Option.bind_eq_bind, Option.bind_some, List.drop_drop, dropBlanks, ← drop_runEnd,
      ← readArgumentsAt_withRest]
    cases readArgumentsAt sep chars f.arguments
      (runEnd isBlank chars (column + f.opening.length)) with
    | none => rfl
    | some found =>
      simp only [Option.map_some, withRest, Option.bind_some, ← drop_runEnd]
      by_cases bracket : chars[runEnd isBlank chars found.2]? = some ')'
      · rw [if_pos bracket, drop_eq_cons bracket]
        rfl
      · rw [if_neg bracket]
        split
        · rename_i tail same
          exact absurd same (drop_ne_cons bracket tail)
        · rfl
  · rfl

theorem callWithAt?_inside {sep : Separator} {texts : List (List Char)} {stop : Nat}
    (found : f.callWithAt? sep chars column = some (texts, stop)) : stop ≤ chars.length := by
  rw [callWithAt?] at found
  split at found
  · simp only [Option.bind_eq_bind, Option.bind_eq_some_iff] at found
    obtain ⟨_, _, found⟩ := found
    split at found
    · rename_i bracket
      obtain ⟨rfl, rfl⟩ := found
      exact (List.getElem?_eq_some_iff.1 bracket).1
    · cases found
  · cases found

theorem callAt?_inside {texts : List (List Char)} {stop : Nat}
    (found : f.callAt? chars column = some (texts, stop)) : stop ≤ chars.length := by
  rcases Option.or_eq_some_iff.1 found with comma | ⟨-, gap⟩
  · exact callWithAt?_inside comma
  · exact callWithAt?_inside gap

theorem callAt?_withRest :
    (f.callAt? chars column).map (withRest chars) = f.readCall (chars.drop column) := by
  rw [callAt?, readCall, Option.map_or, callWithAt?_withRest, callWithAt?_withRest]

end ColorFunction

end ColorSpans
