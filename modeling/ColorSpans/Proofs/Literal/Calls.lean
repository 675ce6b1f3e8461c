import ColorSpans.Proofs.Literal.Spot
import ColorSpans.Proofs.Numeral
import Mathlib.Algebra.GroupWithZero.Nat
import Mathlib.Data.List.Forall2

/-! The grammar of calls, said without a reader: a keyword and a bracket, arguments with separators
of one kind between them, blanks around all of them, a bracket. The reader finds exactly the calls
of the grammar, and a text begins with one call at most. -/
namespace ColorSpans
open Numeral Text

section run

variable {p : Char → Bool} {run rest : List Char}

def Stops (p : Char → Bool) (cs : List Char) : Prop := ∀ c ∈ cs.head?, p c = false

theorem stops_cons {c : Char} (foreign : p c = false) (cs : List Char) : Stops p (c :: cs) :=
  fun _ same => Option.some.inj same ▸ foreign

theorem all_takeWhile (p : Char → Bool) (cs : List Char) : ∀ c ∈ cs.takeWhile p, p c = true :=
  List.all_eq_true.1 List.all_takeWhile

theorem dropWhile_append_run (all : ∀ c ∈ run, p c = true) (stops : Stops p rest) :
    (run ++ rest).dropWhile p = rest := by
  rw [List.dropWhile_append_of_pos all]
  cases rest with
  | nil => rfl
  | cons c rest => simp [stops c rfl]

theorem takeWhile_append_run (all : ∀ c ∈ run, p c = true) (stops : Stops p rest) :
    (run ++ rest).takeWhile p = run := by
  rw [List.takeWhile_append_of_pos all]
  cases rest with
  | nil => simp
  | cons c rest => simp [stops c rfl]

end run

def Argument.Takes : Argument → List Char → Prop
  | .channel, text => ∃ digits, Digits digits ∧ (text = digits ∨ text = digits ++ ['%'])
  | .degrees, text => Digits text
  | .percent, text => Digits text
  | .opacity, text => text ≠ [] ∧ ∀ c ∈ text, c = '.' ∨ isDigit c = true

/-- How an argument is written: behind a percentage stands its sign. -/
def Argument.written : Argument → List Char → List Char
  | .percent, text => text ++ ['%']
  | .channel, text | .degrees, text | .opacity, text => text

def Closes (cs : List Char) : Prop := ∀ c ∈ cs.head?, isDigit c = false ∧ c ≠ '%' ∧ c ≠ '.'

theorem closes_cons {c : Char} (foreign : isDigit c = false ∧ c ≠ '%' ∧ c ≠ '.') (cs : List Char) :
    Closes (c :: cs) :=
  fun _ same => Option.some.inj same ▸ foreign

theorem closes_of_isBlank {c : Char} (blank : isBlank c = true) (cs : List Char) :
    Closes (c :: cs) := by
  refine closes_cons ⟨?_, ?_, ?_⟩ cs
  · refine Bool.eq_false_iff.2 fun digit => ?_
    rw [isBlank_of_isDigit digit] at blank
    cases blank
  · rintro rfl
    cases blank
  · rintro rfl
    cases blank

theorem Closes.stops {cs : List Char} (h : Closes cs) : Stops isDigit cs :=
  fun c first => (h c first).1

theorem digits_takeWhile {cs : List Char} (found : ¬(cs.takeWhile isDigit).isEmpty = true) :
    Digits (cs.takeWhile isDigit) where
  nonempty none := found (List.isEmpty_iff.2 none)
  all := all_takeWhile isDigit cs

theorem takes_read {a : Argument} {cs text rest : List Char} (h : a.read cs = some (text, rest)) :
    a.Takes text ∧ cs = a.written text ++ rest := by
  have whole : cs.takeWhile isDigit ++ cs.dropWhile isDigit = cs := List.takeWhile_append_dropWhile
  cases a with
  | channel =>
    simp only [Argument.read] at h
    split at h
    · cases h
    · rename_i digits
      split at h
      · rename_i behind percent
        obtain ⟨rfl, rfl⟩ := Prod.mk.inj (Option.some.inj h)
        refine ⟨⟨_, digits_takeWhile digits, .inr rfl⟩, ?_⟩
        simpa [Argument.written, percent] using whole.symm
      · obtain ⟨rfl, rfl⟩ := Prod.mk.inj (Option.some.inj h)
        exact ⟨⟨_, digits_takeWhile digits, .inl rfl⟩, whole.symm⟩
  | degrees =>
    simp only [Argument.read] at h
    split at h
    · cases h
    · rename_i digits
      obtain ⟨rfl, rfl⟩ := Prod.mk.inj (Option.some.inj h)
      exact ⟨digits_takeWhile digits, whole.symm⟩
  | percent =>
    simp only [Argument.read] at h
    split at h
    · cases h
    · rename_i digits
      split at h
      · rename_i behind percent
        obtain ⟨rfl, rfl⟩ := Prod.mk.inj (Option.some.inj h)
        refine ⟨digits_takeWhile digits, ?_⟩
        simpa [Argument.written, percent] using whole.symm
      · cases h
  | opacity =>
    simp only [Argument.read] at h
    split at h
    · cases h
    · rename_i found
      obtain ⟨rfl, rfl⟩ := Prod.mk.inj (Option.some.inj h)
      refine ⟨⟨fun none => found (List.isEmpty_iff.2 none), fun c there => ?_⟩,
        List.takeWhile_append_dropWhile.symm⟩
      simpa using all_takeWhile _ cs c there

theorem read_written {a : Argument} {text rest : List Char} (taken : a.Takes text)
    (closes : Closes rest) :
    a.read (a.written text ++ rest) = some (text, rest) := by
  have signed : Stops isDigit ('%' :: rest) := stops_cons (by decide) rest
  cases a with
  | channel =>
    obtain ⟨digits, count, plain | percent⟩ := taken
    · subst plain
      have read := takeWhile_append_run count.all closes.stops
      have left := dropWhile_append_run count.all closes.stops
      cases rest with
      | nil =>
        rw [List.append_nil] at read left
        simp [Argument.read, Argument.written, read, left, count.nonempty]
      | cons c rest =>
        have unsigned : c ≠ '%' := (closes c rfl).2.1
        simp [Argument.read, Argument.written, read, left, count.nonempty, unsigned]
    · subst percent
      simp [Argument.read, Argument.written, takeWhile_append_run count.all signed,
        dropWhile_append_run count.all signed, count.nonempty]
  | degrees =>
    have count : Digits text := taken
    simp [Argument.read, Argument.written, takeWhile_append_run count.all closes.stops,
      dropWhile_append_run count.all closes.stops, count.nonempty]
  | percent =>
    have count : Digits text := taken
    simp [Argument.read, Argument.written, takeWhile_append_run count.all signed,
      dropWhile_append_run count.all signed, count.nonempty]
  | opacity =>
    obtain ⟨nonempty, all⟩ := taken
    have all : ∀ c ∈ text, (c == '.' || isDigit c) = true := by simpa using all
    have stops : Stops (fun c => c == '.' || isDigit c) rest := fun c first => by
      simp [closes c first]
    simp [Argument.read, Argument.written, takeWhile_append_run all stops,
      dropWhile_append_run all stops, nonempty]

def Blank (cs : List Char) : Prop := ∀ c ∈ cs, isBlank c = true

def Separator.Parts : Separator → List Char → Prop
  | .comma, cs => ∃ front back, Blank front ∧ Blank back ∧ cs = front ++ ',' :: back
  | .gap, cs => Blank cs ∧ cs ≠ []

theorem blank_takeWhile (cs : List Char) : Blank (cs.takeWhile isBlank) := all_takeWhile isBlank cs

theorem dropBlanks_run {front rest : List Char} (blank : Blank front) (stops : Stops isBlank rest) :
    dropBlanks (front ++ rest) = rest :=
  dropWhile_append_run blank stops

theorem parts_skip {sep : Separator} {cs rest : List Char} (h : sep.skip? cs = some rest) :
    ∃ gap, sep.Parts gap ∧ cs = gap ++ rest := by
  have whole (cs : List Char) : cs.takeWhile isBlank ++ dropBlanks cs = cs :=
    List.takeWhile_append_dropWhile
  cases sep with
  | comma =>
    simp only [Separator.skip?] at h
    split at h
    · rename_i behind comma
      obtain rfl := Option.some.inj h
      refine ⟨cs.takeWhile isBlank ++ ',' :: behind.takeWhile isBlank,
        ⟨_, _, blank_takeWhile cs, blank_takeWhile behind, rfl⟩, ?_⟩
      rw [List.append_assoc, List.cons_append, whole, ← comma, whole]
    · cases h
  | gap =>
    cases cs with
    | nil => cases h
    | cons c behind =>
      simp only [Separator.skip?] at h
      split at h
      · rename_i blank
        obtain rfl := Option.some.inj h
        refine ⟨c :: behind.takeWhile isBlank, ⟨?_, List.cons_ne_nil _ _⟩, ?_⟩
        · exact List.forall_mem_cons.2 ⟨blank, blank_takeWhile behind⟩
        · rw [List.cons_append, whole]
      · cases h

theorem skip_parts {sep : Separator} {gap rest : List Char} (parts : sep.Parts gap)
    (stops : Stops isBlank rest) : sep.skip? (gap ++ rest) = some rest := by
  cases sep with
  | comma =>
    obtain ⟨front, back, before, after, rfl⟩ := parts
    have comma : Stops isBlank (',' :: (back ++ rest)) := stops_cons (by decide) _
    simp [Separator.skip?, dropBlanks_run before comma, dropBlanks_run after stops]
  | gap =>
    obtain ⟨blank, nonempty⟩ := parts
    cases gap with
    | nil => exact absurd rfl nonempty
    | cons c gap =>
      obtain ⟨first, blank⟩ := List.forall_mem_cons.1 blank
      simp [Separator.skip?, first, dropBlanks_run blank stops]

theorem skip_comma_blank {gap rest : List Char} (blank : Blank gap) (stops : Stops isBlank rest)
    (plain : rest.head? ≠ some ',') : Separator.comma.skip? (gap ++ rest) = none := by
  rw [Separator.skip?, dropBlanks_run blank stops]
  cases rest with
  | nil => rfl
  | cons c rest =>
    have other : c ≠ ',' := fun same => plain (congrArg some same)
    simp [other]

theorem closes_blank {front : List Char} (blank : Blank front) {rest : List Char}
    (closes : Closes rest) :
    Closes (front ++ rest) := by
  cases front with
  | nil => exact closes
  | cons c front => exact closes_of_isBlank (blank c List.mem_cons_self) _

theorem Separator.Parts.closes {sep : Separator} {gap : List Char} (parts : sep.Parts gap)
    (rest : List Char) : Closes (gap ++ rest) := by
  cases sep with
  | comma =>
    obtain ⟨front, back, before, _, rfl⟩ := parts
    rw [List.append_assoc]
    exact closes_blank before (closes_cons (by decide) _)
  | gap =>
    obtain ⟨blank, nonempty⟩ := parts
    cases gap with
    | nil => exact absurd rfl nonempty
    | cons c gap => exact closes_of_isBlank (blank c List.mem_cons_self) _

/-- Arguments as they are written, with a separator between every two of them. -/
inductive Listed (sep : Separator) : List Argument → List (List Char) → List Char → Prop
  | last {a : Argument} {text : List Char} : a.Takes text → Listed sep [a] [text] (a.written text)
  | more {a b : Argument} {others : List Argument} {text gap cs : List Char}
      {texts : List (List Char)} : a.Takes text → sep.Parts gap → Listed sep
      (b :: others) texts cs →
      Listed sep (a :: b :: others) (text :: texts) (a.written text ++ (gap ++ cs))

theorem Listed.takes {sep : Separator} {arguments : List Argument} {texts : List (List Char)}
    {cs : List Char} (h : Listed sep arguments texts cs) :
    List.Forall₂ Argument.Takes arguments texts := by
  induction h with
  | last taken => exact .cons taken .nil
  | more taken _ _ ih => exact .cons taken ih

theorem Argument.Takes.head {a : Argument} {text : List Char} (h : a.Takes text)
    (rest : List Char) :
    ∃ c more, a.written text ++ rest = c :: more ∧ (c = '.' ∨ isDigit c = true) := by
  have digits {text : List Char} (count : Digits text) (rest : List Char) :
      ∃ c more, text ++ rest = c :: more ∧ (c = '.' ∨ isDigit c = true) := by
    cases text with
    | nil => exact absurd rfl count.nonempty
    | cons c text => exact ⟨c, text ++ rest, rfl, .inr (count.all c List.mem_cons_self)⟩
  cases a with
  | channel =>
    obtain ⟨text, count, rfl | rfl⟩ := h
    · exact digits count rest
    · rw [written, List.append_assoc]
      exact digits count _
  | degrees => exact digits h rest
  | percent =>
    rw [written, List.append_assoc]
    exact digits h _
  | opacity =>
    obtain ⟨nonempty, all⟩ := h
    cases text with
    | nil => exact absurd rfl nonempty
    | cons c text => exact ⟨c, text ++ rest, rfl, all c List.mem_cons_self⟩

theorem Listed.head {sep : Separator} {arguments : List Argument} {texts : List (List Char)}
    {cs : List Char} (h : Listed sep arguments texts cs) (rest : List Char) :
    ∃ c more, cs ++ rest = c :: more ∧ (c = '.' ∨ isDigit c = true) := by
  cases h with
  | last taken => exact taken.head rest
  | more taken _ _ =>
    rw [List.append_assoc]
    exact taken.head _

theorem Listed.front {sep : Separator} {arguments : List Argument} {texts : List (List Char)}
    {cs : List Char} (h : Listed sep arguments texts cs) (rest : List Char) :
    Stops isBlank (cs ++ rest) ∧ (cs ++ rest).head? ≠ some ',' := by
  obtain ⟨c, more, begins, rfl | digit⟩ := h.head rest
  · rw [begins]
    exact ⟨stops_cons (by decide) more, by simp⟩
  · rw [begins]
    refine ⟨stops_cons (isBlank_of_isDigit digit) more, ?_⟩
    rintro ⟨rfl⟩
    cases digit

theorem listed_readArguments {sep : Separator} {arguments : List Argument} {cs : List Char}
    {texts : List (List Char)} {rest : List Char} (nonempty : arguments ≠ [])
    (h : readArguments sep arguments cs = some (texts, rest)) :
    ∃ w, Listed sep arguments texts w ∧ cs = w ++ rest := by
  induction arguments generalizing cs texts rest with
  | nil => exact absurd rfl nonempty
  | cons a more ih =>
    cases more with
    | nil =>
      obtain ⟨⟨text, behind⟩, found, same⟩ := Option.map_eq_some_iff.1 h
      obtain ⟨rfl, rfl⟩ := Prod.mk.inj same
      obtain ⟨taken, same⟩ := takes_read found
      exact ⟨_, .last taken, same⟩
    | cons b more =>
      simp only [readArguments, Option.bind_eq_bind, Option.bind_eq_some_iff, Prod.exists] at h
      obtain ⟨text, behind, found, next, skipped, others, last, read, same⟩ := h
      obtain ⟨rfl, rfl⟩ := Prod.mk.inj (Option.some.inj same)
      obtain ⟨taken, rfl⟩ := takes_read found
      obtain ⟨gap, parts, rfl⟩ := parts_skip skipped
      obtain ⟨w, listed, rfl⟩ := ih (List.cons_ne_nil b more) read
      exact ⟨_, .more taken parts listed, by simp only [List.append_assoc]⟩

theorem Listed.read {sep : Separator} {arguments : List Argument} {texts : List (List Char)}
    {w rest : List Char} (h : Listed sep arguments texts w) (closes : Closes rest) :
    readArguments sep arguments (w ++ rest) = some (texts, rest) := by
  induction h with
  | last taken => simp [readArguments, read_written taken closes]
  | @more a b others text gap cs texts taken parts listed ih =>
    have first := read_written taken (parts.closes (cs ++ rest))
    have second := skip_parts parts (listed.front rest).1
    simp [readArguments, List.append_assoc, first, second, ih]

theorem Listed.not_comma {arguments : List Argument} {texts : List (List Char)} {w : List Char}
    (h : Listed .gap arguments texts w) (several : 1 < arguments.length) (rest : List Char) :
    readArguments .comma arguments (w ++ rest) = none := by
  cases h with
  | last => exact absurd several (Nat.lt_irrefl 1)
  | @more a b others text gap cs texts taken parts listed =>
    obtain ⟨stops, plain⟩ := listed.front rest
    have first := read_written taken (parts.closes (cs ++ rest))
    have second := skip_comma_blank parts.1 stops plain
    simp [readArguments, List.append_assoc, first, second]

namespace ColorFunction

def CallWith (f : ColorFunction) (sep : Separator) (texts : List (List Char)) (cs : List Char) :
    Prop :=
  ∃ front listed back, Blank front ∧ Listed sep f.arguments texts listed ∧ Blank back ∧
    cs = f.keyword.toList ++ '(' :: (front ++ (listed ++ (back ++ [')'])))

/-- A call with these argument texts, whatever stands between them. -/
def Call (f : ColorFunction) (texts : List (List Char)) (cs : List Char) : Prop :=
  ∃ sep, f.CallWith sep texts cs

theorem several_arguments (f : ColorFunction) : 1 < f.arguments.length := by
  cases f <;> decide

theorem afterOpening_eq_some_iff {f : ColorFunction} {cs rest : List Char} :
    f.afterOpening? cs = some rest ↔ cs = f.keyword.toList ++ '(' :: rest := by
  simp only [afterOpening?]
  constructor
  · intro h
    split at h
    · rename_i begins
      obtain ⟨behind, rfl⟩ := List.isPrefixOf_iff_prefix.1 begins
      obtain rfl := Option.some.inj h
      simp [opening]
    · cases h
  · rintro rfl
    simp [opening]

theorem callWith_of_readCallWith {f : ColorFunction} {sep : Separator} {cs : List Char}
    {texts : List (List Char)} {rest : List Char} (h : f.readCallWith sep cs = some (texts, rest)) :
    ∃ w, f.CallWith sep texts w ∧ cs = w ++ rest := by
  simp only [readCallWith, Option.bind_eq_bind, Option.bind_eq_some_iff, Prod.exists] at h
  obtain ⟨behind, opened, texts', next, read, closed⟩ := h
  obtain rfl := afterOpening_eq_some_iff.1 opened
  split at closed
  · rename_i left bracket
    obtain ⟨rfl, rfl⟩ := Prod.mk.inj (Option.some.inj closed)
    have nonempty : f.arguments ≠ [] :=
      List.ne_nil_of_length_pos (Nat.zero_lt_of_lt f.several_arguments)
    obtain ⟨listed, args, inner⟩ := listed_readArguments nonempty read
    have front : behind = behind.takeWhile isBlank ++ (listed ++ next) := by
      rw [← inner]
      exact List.takeWhile_append_dropWhile.symm
    have back : next = next.takeWhile isBlank ++ ')' :: left := by
      rw [← bracket]
      exact List.takeWhile_append_dropWhile.symm
    refine ⟨_, ⟨_, listed, _, blank_takeWhile behind, args, blank_takeWhile next, rfl⟩, ?_⟩
    conv_lhs => rw [front, back]
    simp
  · cases closed

theorem CallWith.read {f : ColorFunction} {sep : Separator} {texts : List (List Char)}
    {w : List Char} (h : f.CallWith sep texts w) (rest : List Char) :
    f.readCallWith sep (w ++ rest) = some (texts, rest) := by
  obtain ⟨front, listed, back, before, args, after, rfl⟩ := h
  have bracket : Stops isBlank (')' :: rest) := stops_cons (by decide) rest
  have closes : Closes (back ++ ')' :: rest) := closes_blank after (closes_cons (by decide) rest)
  have opened :
      f.afterOpening? (f.keyword.toList ++ '(' :: (front ++ (listed ++ (back ++ [')']))) ++ rest) =
      some (front ++ (listed ++ (back ++ ')' :: rest))) :=
    afterOpening_eq_some_iff.2 (by simp)
  rw [readCallWith, opened]
  simp [dropBlanks_run before (args.front _).1, args.read closes, dropBlanks_run after bracket]

theorem CallWith.not_comma {f : ColorFunction} {texts : List (List Char)} {w : List Char}
    (h : f.CallWith .gap texts w) (rest : List Char) :
    f.readCallWith .comma (w ++ rest) = none := by
  obtain ⟨front, listed, back, before, args, _, rfl⟩ := h
  have opened :
      f.afterOpening? (f.keyword.toList ++ '(' :: (front ++ (listed ++ (back ++ [')']))) ++ rest) =
      some (front ++ (listed ++ (back ++ ')' :: rest))) :=
    afterOpening_eq_some_iff.2 (by simp)
  rw [readCallWith, opened]
  simp [dropBlanks_run before (args.front _).1, args.not_comma f.several_arguments]

/-- The reader takes exactly the calls of the grammar. -/
theorem readCall_eq_some_iff {f : ColorFunction} {cs : List Char} {texts : List (List Char)}
    {rest : List Char} :
    f.readCall cs = some (texts, rest) ↔ ∃ w, f.Call texts w ∧ cs = w ++ rest := by
  constructor
  · intro h
    rcases Option.or_eq_some_iff.1 h with comma | ⟨_, gap⟩
    · obtain ⟨w, call, same⟩ := callWith_of_readCallWith comma
      exact ⟨w, ⟨.comma, call⟩, same⟩
    · obtain ⟨w, call, same⟩ := callWith_of_readCallWith gap
      exact ⟨w, ⟨.gap, call⟩, same⟩
  · rintro ⟨w, ⟨sep, call⟩, rfl⟩
    cases sep with
    | comma => rw [readCall, call.read rest, Option.some_or]
    | gap => rw [readCall, call.not_comma rest, Option.none_or, call.read rest]

theorem Call.takes {f : ColorFunction} {texts : List (List Char)} {w : List Char}
    (h : f.Call texts w) :
    List.Forall₂ Argument.Takes f.arguments texts := by
  obtain ⟨_, _, _, _, _, args, _⟩ := h
  exact args.takes

theorem Call.readCall_take {f : ColorFunction} {texts : List (List Char)} {cs : List Char} {n : Nat}
    (h : f.Call texts (cs.take n)) : f.readCall cs = some (texts, cs.drop n) :=
  readCall_eq_some_iff.2 ⟨_, h, (List.take_append_drop n cs).symm⟩

theorem takes_readCall {f : ColorFunction} {cs : List Char} {texts : List (List Char)}
    {rest : List Char} (h : f.readCall cs = some (texts, rest)) :
    List.Forall₂ Argument.Takes f.arguments texts := by
  obtain ⟨_, call, _⟩ := readCall_eq_some_iff.1 h
  exact call.takes

theorem Call.unique {f : ColorFunction} {texts texts' : List (List Char)}
    {w w' rest rest' : List Char} (h : f.Call texts w) (h' : f.Call texts' w')
    (same : w ++ rest = w' ++ rest') :
    w = w' ∧ texts = texts' := by
  have first : f.readCall (w ++ rest) = some (texts, rest) := readCall_eq_some_iff.2 ⟨w, h, rfl⟩
  have second : f.readCall (w ++ rest) = some (texts', rest') :=
    readCall_eq_some_iff.2 ⟨w', h', same⟩
  obtain ⟨rfl, rfl⟩ := Prod.mk.inj (Option.some.inj (first.symm.trans second))
  exact ⟨List.append_cancel_right same, rfl⟩

end ColorFunction

def Argument.least : Argument → Nat
  | .percent => 2
  | .channel | .degrees | .opacity => 1

theorem Argument.Takes.least_le {a : Argument} {text : List Char} (h : a.Takes text) :
    a.least ≤ (a.written text).length := by
  cases a with
  | channel =>
    obtain ⟨digits, count, rfl | rfl⟩ := h
    · exact List.length_pos_iff.2 count.nonempty
    · simp [least, written]
  | degrees => exact List.length_pos_iff.2 (Digits.nonempty h)
  | percent =>
    have positive := List.length_pos_iff.2 (Digits.nonempty h)
    simp only [least, written, List.length_append, List.length_singleton]
    omega
  | opacity => exact List.length_pos_iff.2 h.1

theorem Separator.Parts.length_pos {sep : Separator} {gap : List Char} (parts : sep.Parts gap) :
    0 < gap.length := by
  cases sep with
  | comma =>
    obtain ⟨front, back, _, _, rfl⟩ := parts
    simp only [List.length_append, List.length_cons]
    omega
  | gap => exact List.length_pos_iff.2 parts.2

theorem Listed.least_le {sep : Separator} {arguments : List Argument} {texts : List (List Char)}
    {cs : List Char} (h : Listed sep arguments texts cs) :
    (arguments.map Argument.least).sum + arguments.length ≤ cs.length + 1 := by
  induction h with
  | last taken =>
    have := taken.least_le
    simpa using this
  | more taken parts _ ih =>
    have := taken.least_le
    have := parts.length_pos
    simp only [List.map_cons, List.sum_cons, List.length_cons, List.length_append] at ih ⊢
    omega

namespace ColorFunction

theorem Call.shortest_le {f : ColorFunction} {texts : List (List Char)} {w : List Char}
    (h : f.Call texts w) : f.shortest.length ≤ w.length := by
  obtain ⟨sep, front, listed, back, _, args, _, rfl⟩ := h
  have inner := args.least_le
  have around : f.shortest.length + 1 =
      f.keyword.toList.length + 2 +
        ((f.arguments.map Argument.least).sum + f.arguments.length) := by
    cases f <;> decide
  simp only [List.length_append, List.length_cons, List.length_nil]
  omega

theorem length_readCall_le {f : ColorFunction} {cs : List Char} {texts : List (List Char)}
    {rest : List Char} (h : f.readCall cs = some (texts, rest)) :
    f.shortest.length + rest.length ≤ cs.length := by
  obtain ⟨w, call, rfl⟩ := readCall_eq_some_iff.1 h
  have := call.shortest_le
  rw [List.length_append]
  omega

end ColorFunction

section readFunction

variable {a : Arithmetic} {f : ColorFunction} (s : Spot)

theorem readFunction_none (h : f.readCall s.ahead = none) : readFunction a f s = .ok none := by
  rw [readFunction, h]
  split <;> rfl

theorem readFunction_some {texts : List (List Char)} {rest : List Char}
    (h : f.readCall s.ahead = some (texts, rest)) :
    readFunction a f s = (f.color a texts).map fun color =>
      color.map fun c => ⟨s.ahead.length - rest.length, c.hexText⟩ := by
  have room := ColorFunction.length_readCall_le h
  rw [readFunction, if_neg (by omega), h]

end readFunction

end ColorSpans
