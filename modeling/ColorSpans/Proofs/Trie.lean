import ColorSpans.Trie

/-! A trie as the set of the words that were put into it. The characters of each level stay in
order, so a walk lists the words in ascending order. Going along a line by columns finds the longest
word that what lies ahead begins with, and a character that stands in no word ends the search. -/
namespace ColorSpans.Trie

def words : Trie → List (List Char)
  | empty => []
  | node c ends below right =>
      (if ends then [[c]] else []) ++ below.words.map (c :: ·) ++ right.words

def longestPrefix : Trie → List Char → Option (List Char)
  | empty, _ => none
  | _, [] => none
  | node d ends below right, c :: text =>
      if c = d then
        match below.longestPrefix text with
        | some word => some (c :: word)
        | none => if ends then some [c] else none
      else right.longestPrefix (c :: text)

@[simp] theorem longestPrefix_nil (t : Trie) : t.longestPrefix [] = none := by cases t <;> rfl

theorem contains_single (word other : List Char) :
    (single word).contains other = (decide (word = other) && !word.isEmpty) := by
  induction word generalizing other with
  | nil => cases other <;> simp [single]
  | cons c word ih =>
    cases other with
    | nil => simp
    | cons d other =>
      by_cases h : d = c
      · subst h
        cases other with
        | nil => cases word <;> simp [single, contains]
        | cons e other =>
          have inner := ih (e :: other)
          cases word with
          | nil => simp [single, contains]
          | cons w word =>
            have step : (single (d :: w :: word)).contains (d :: e :: other) =
                (single (w :: word)).contains (e :: other) := by
              rw [single, contains, if_pos rfl]; rfl
            rw [step, inner]; simp
      · simp [single, contains, h, Ne.symm h]

theorem longestPrefix_isPrefix {t : Trie} {text word : List Char}
    (h : t.longestPrefix text = some word) : word <+: text := by
  induction t generalizing text word with
  | empty => cases text <;> simp [longestPrefix] at h
  | node d ends below right hb hr =>
    cases text with
    | nil => simp at h
    | cons c text =>
      simp only [longestPrefix] at h
      split at h
      · split at h
        · rename_i found inner
          simp only [Option.some.injEq] at h
          subst h
          exact (List.prefix_cons_inj c).2 (hb inner)
        · split at h
          · simp only [Option.some.injEq] at h
            subst h
            exact ⟨text, rfl⟩
          · simp at h
      · exact hr h

theorem longestPrefix_ne_nil {t : Trie} {text word : List Char}
    (h : t.longestPrefix text = some word) : word ≠ [] := by
  induction t generalizing text word with
  | empty => cases text <;> simp [longestPrefix] at h
  | node d ends below right hb hr =>
    cases text with
    | nil => simp at h
    | cons c text =>
      simp only [longestPrefix] at h
      split at h
      · split at h
        · simp only [Option.some.injEq] at h; simp [← h]
        · split at h
          · simp only [Option.some.injEq] at h; simp [← h]
          · simp at h
      · exact hr h

theorem longestPrefix_cons (t : Trie) (c : Char) (text : List Char) :
    t.longestPrefix (c :: text) = (t.child? c).bind fun child =>
      ((child.2.longestPrefix text).map (c :: ·)).or (if child.1 then some [c] else none) := by
  induction t with
  | empty => rfl
  | node d ends below right _ ih =>
    rw [longestPrefix, child?]
    split
    · rw [Option.bind_some]
      cases below.longestPrefix text <;> rfl
    · exact ih

theorem lastEnd_natCast (t : Trie) (chars : List Char) (column : Nat) (last : Int) :
    t.lastEnd chars column last =
      ((t.longestPrefix (chars.drop column)).map fun word => (column + word.length : Int)).getD
      last := by
  induction ahead : chars.drop column generalizing t column last with
  | nil =>
    have outside : ¬(column : Int) < chars.length := by
      have := List.drop_eq_nil_iff.1 ahead
      omega
    rw [lastEnd, if_neg outside, longestPrefix_nil]
    rfl
  | cons c text ih =>
    have here : chars[column]? = some c := by rw [← List.head?_drop, ahead, List.head?_cons]
    have next : chars.drop (column + 1) = text := by rw [← List.tail_drop, ahead, List.tail_cons]
    have inside : (column : Int) < chars.length := by
      have := (List.getElem?_eq_some_iff.1 here).1
      omega
    rw [lastEnd, if_pos inside, Text.charAt?_natCast, here, Option.bind_some, longestPrefix_cons]
    cases t.child? c with
    | none => rfl
    | some child =>
      have step : (column : Int) + 1 = ((column + 1 : Nat) : Int) := rfl
      simp only [Option.bind_some, step, ih child.2 (column + 1) _ next]
      cases child.2.longestPrefix text with
      | none => cases child.1 <;> rfl
      | some word =>
        simp only [Option.map_some, Option.some_or, Option.getD_some, List.length_cons]
        omega

theorem longestAt_natCast (t : Trie) (line : List Char) (column : Nat) :
    t.longestAt line column = t.longestPrefix (line.drop column) := by
  rw [longestAt, lastEnd_natCast]
  cases found : t.longestPrefix (line.drop column) with
  | none => rfl
  | some word =>
    have stop : (column : Int) + word.length = ((column + word.length : Nat) : Int) := rfl
    have same : (line.drop column).take word.length = word :=
      (List.prefix_iff_eq_take.1 (longestPrefix_isPrefix found)).symm
    rw [Option.map_some, Option.getD_some, stop, if_neg (by omega), Text.between_natCast,
      List.drop_take, Nat.add_sub_cancel_left, same]

theorem mem_words_single {word found : List Char} (there : found ∈ (single word).words) :
    found = word := by
  induction word generalizing found with
  | nil => simp [single, words] at there
  | cons c word ih =>
    simp only [single, words, List.append_nil, List.mem_append, List.mem_map] at there
    rcases there with ends | ⟨rest, below, rfl⟩
    · split at ends
      · rename_i last
        rw [List.isEmpty_iff.1 last, List.mem_singleton.1 ends]
      · simp at ends
    · rw [ih below]

theorem mem_words_insert {t : Trie} {word found : List Char}
    (there : found ∈ (t.insert word).words) :
    found = word ∨ found ∈ t.words := by
  induction t generalizing word found with
  | empty =>
    cases word with
    | nil => exact .inr there
    | cons c word => exact .inl (mem_words_single there)
  | node d ends below right ihBelow ihRight =>
    cases word with
    | nil => exact .inr there
    | cons c word =>
      simp only [insert] at there
      split at there
      · rename_i same
        subst same
        simp only [words, List.mem_append, List.mem_map] at there ⊢
        rcases there with (own | ⟨rest, inner, rfl⟩) | later
        · split at own
          · rename_i ended
            rw [List.mem_singleton.1 own]
            cases word with
            | nil => exact .inl rfl
            | cons e word => simp_all
          · simp at own
        · rcases ihBelow inner with rfl | inner
          · exact .inl rfl
          · exact .inr (.inl (.inr ⟨rest, inner, rfl⟩))
        · exact .inr (.inr later)
      · split at there
        · have first : found ∈ (single (c :: word)).words ∨
              found ∈ (node d ends below right).words := by
            simpa [single, words, or_assoc] using there
          exact first.imp_left mem_words_single
        · simp only [words, List.mem_append] at there ⊢
          rcases there with here | later
          · exact .inr (.inl here)
          · exact (ihRight later).imp_right Or.inr

theorem mem_words_foldl_insert {given : List (List Char)} {t : Trie} {found : List Char}
    (there : found ∈ (given.foldl insert t).words) : found ∈ given ∨ found ∈ t.words := by
  induction given generalizing t with
  | nil => exact .inr there
  | cons word given ih =>
    rcases ih there with later | here
    · exact .inl (List.mem_cons_of_mem _ later)
    · rcases mem_words_insert here with rfl | before
      · exact .inl List.mem_cons_self
      · exact .inr before

theorem mem_of_mem_words_ofWords {given : List (List Char)} {found : List Char}
    (there : found ∈ (ofWords given).words) : found ∈ given := by
  rcases mem_words_foldl_insert there with known | none
  · exact known
  · simp [words] at none

theorem mem_words_of_longestPrefix {t : Trie} {text word : List Char}
    (found : t.longestPrefix text = some word) : word ∈ t.words := by
  induction t generalizing text word with
  | empty => cases text <;> simp [longestPrefix] at found
  | node d ends below right ihBelow ihRight =>
    cases text with
    | nil => simp at found
    | cons c text =>
      simp only [longestPrefix] at found
      simp only [words, List.mem_append, List.mem_map]
      split at found
      · rename_i same
        subst same
        split at found
        · rename_i inner deeper
          exact .inl (.inr ⟨inner, ihBelow deeper, Option.some.inj found⟩)
        · split at found
          · rename_i ended
            simp [ended, ← Option.some.inj found]
          · cases found
      · exact .inr (ihRight found)

theorem longestPrefix_of_contains {t : Trie} {word : List Char} (h : t.contains word = true) :
    t.longestPrefix word = some word := by
  induction t generalizing word with
  | empty => simp at h
  | node d ends below right ihBelow ihRight =>
    cases word with
    | nil => simp at h
    | cons c word =>
      simp only [contains] at h
      simp only [longestPrefix]
      split at h
      · rename_i same
        subst same
        rw [if_pos rfl]
        split at h
        · rename_i last
          rw [List.isEmpty_iff.1 last]
          simp [h]
        · rw [ihBelow h]
      · rename_i other
        rw [if_neg other]
        exact ihRight h

theorem longestPrefix_append_cons {t : Trie} {stop : Char} (foreign : ∀ word ∈ t.words, stop ∉ word)
    (text more : List Char) : t.longestPrefix (text ++ stop :: more) = t.longestPrefix text := by
  induction t generalizing text with
  | empty => cases text <;> simp [longestPrefix]
  | node d ends below right ihBelow ihRight =>
    have later := ihRight fun word there => foreign word (by simp [words, there])
    cases text with
    | nil =>
      rw [longestPrefix_nil]
      cases found : (node d ends below right).longestPrefix ([] ++ stop :: more) with
      | none => rfl
      | some word =>
        obtain ⟨rest, same⟩ := longestPrefix_isPrefix found
        cases word with
        | nil => exact absurd rfl (longestPrefix_ne_nil found)
        | cons c word =>
          obtain rfl : c = stop := (List.cons.inj same).1
          exact absurd List.mem_cons_self (foreign _ (mem_words_of_longestPrefix found))
    | cons c text =>
      simp only [List.cons_append, longestPrefix]
      split
      · rename_i same
        have inner := ihBelow fun word there => by
          have longer := foreign (d :: word) (by simp [words, there])
          exact fun inside => longer (List.mem_cons_of_mem _ inside)
        rw [inner]
      · exact later (c :: text)

def heads : Trie → List Char
  | empty => []
  | node c _ _ right => c :: right.heads

def Ordered : Trie → Prop
  | empty => True
  | node c _ below right => (∀ d ∈ right.heads, c < d) ∧ below.Ordered ∧ right.Ordered

theorem ordered_single (word : List Char) : (single word).Ordered := by
  induction word with
  | nil => trivial
  | cons c word ih => exact ⟨nofun, ih, trivial⟩

theorem mem_heads_insert {t : Trie} {c d : Char} {word : List Char}
    (there : d ∈ (t.insert (c :: word)).heads) : d = c ∨ d ∈ t.heads := by
  induction t with
  | empty => exact .inl (List.mem_singleton.1 there)
  | node e ends below right _ ih =>
    simp only [insert] at there
    split at there
    · exact .inr there
    · split at there
      · exact List.mem_cons.1 there
      · rcases List.mem_cons.1 there with rfl | later
        · exact .inr List.mem_cons_self
        · exact (ih later).imp_right (List.mem_cons_of_mem e)

theorem Ordered.insert {t : Trie} (h : t.Ordered) (word : List Char) : (t.insert word).Ordered := by
  induction t generalizing word with
  | empty =>
    cases word with
    | nil => trivial
    | cons c word => exact ordered_single (c :: word)
  | node d ends below right ihBelow ihRight =>
    cases word with
    | nil => exact h
    | cons c word =>
      obtain ⟨first, orderedBelow, orderedRight⟩ := h
      simp only [Trie.insert]
      split
      · exact ⟨first, ihBelow orderedBelow word, orderedRight⟩
      · split
        · rename_i less
          refine ⟨fun e there => ?_, ordered_single word, first, orderedBelow, orderedRight⟩
          rcases List.mem_cons.1 there with rfl | later
          · exact less
          · exact Char.lt_trans less (first e later)
        · rename_i other notLess
          refine ⟨fun e there => ?_, orderedBelow, ihRight orderedRight (c :: word)⟩
          rcases mem_heads_insert there with rfl | later
          · exact Char.not_le.1 fun before =>
              other (Char.le_antisymm before (Char.not_lt.1 notLess))
          · exact first e later

theorem contains_of_not_mem_heads {t : Trie} {c : Char} (absent : c ∉ t.heads) (word : List Char) :
    t.contains (c :: word) = false := by
  induction t with
  | empty => rfl
  | node d ends below right _ ih =>
    obtain ⟨other, later⟩ := not_or.1 (mt List.mem_cons.2 absent)
    rw [contains, if_neg other]
    exact ih later

theorem contains_single_iff {word : List Char} (nonempty : word ≠ []) (other : List Char) :
    (single word).contains other = true ↔ other = word := by
  rw [contains_single, Bool.and_eq_true, decide_eq_true_iff, Bool.not_eq_true',
    List.isEmpty_eq_false_iff]
  exact ⟨fun h => h.1.symm, fun h => ⟨h.symm, nonempty⟩⟩

theorem contains_insert {t : Trie} (h : t.Ordered) {word : List Char} (nonempty : word ≠ [])
    (other : List Char) : (t.insert word).contains other = true ↔
    other = word ∨ t.contains other = true := by
  induction t generalizing word other with
  | empty =>
    cases word with
    | nil => exact absurd rfl nonempty
    | cons c word => simpa [Trie.insert] using contains_single_iff nonempty other
  | node d ends below right ihBelow ihRight =>
    obtain ⟨first, orderedBelow, orderedRight⟩ := h
    cases word with
    | nil => exact absurd rfl nonempty
    | cons c word =>
      cases other with
      | nil => simp
      | cons e other =>
        simp only [Trie.insert]
        split
        case isTrue same =>
          subst same
          simp only [contains]
          split
          case isTrue same =>
            subst same
            rw [List.cons_inj_right]
            cases word with
            | nil => cases other <;> simp
            | cons w word =>
              cases other with
              | nil => simp
              | cons f other => exact ihBelow orderedBelow (List.cons_ne_nil w word) (f :: other)
          case isFalse apart => simp [apart]
        case isFalse apart =>
          split
          case isTrue less =>
            by_cases same : e = c
            · -- No character of the level is the new one.
              subst same
              have absent : e ∉ (node d ends below right).heads := fun there => by
                rcases List.mem_cons.1 there with rfl | later
                · exact Char.lt_irrefl _ less
                · exact Char.lt_irrefl _ (Char.lt_trans less (first e later))
              rw [contains_of_not_mem_heads absent, ← contains_single_iff nonempty]
              simp [single, contains]
            · rw [contains, if_neg same]
              simp [same]
          case isFalse =>
            simp only [contains]
            split
            case isTrue same =>
              subst same
              simp [Ne.symm apart]
            case isFalse => exact ihRight orderedRight nonempty (e :: other)

theorem contains_foldl_insert {given : List (List Char)} {t : Trie} (h : t.Ordered)
    (word : List Char) :
    (given.foldl insert t).contains word = true ↔
      (word ∈ given ∧ word ≠ []) ∨ t.contains word = true := by
  induction given generalizing t with
  | nil => simp
  | cons first given ih =>
    have once : (t.insert first).contains word = true ↔
        (word = first ∧ word ≠ []) ∨ t.contains word = true := by
      cases first with
      | nil => simp
      | cons c first =>
        rw [contains_insert h (List.cons_ne_nil c first)]
        exact or_congr_left ⟨fun same => ⟨same, same ▸ List.cons_ne_nil c first⟩, And.left⟩
    rw [List.foldl_cons, ih (h.insert first), once, List.mem_cons, or_and_right, ← or_assoc,
      or_comm (a := word ∈ given ∧ word ≠ [])]

theorem contains_ofWords (given : List (List Char)) (word : List Char) :
    (ofWords given).contains word = true ↔ word ∈ given ∧ word ≠ [] := by
  rw [ofWords, contains_foldl_insert (t := empty) trivial]
  simp

theorem mem_words_node {d : Char} {ends : Bool} {below right : Trie} {word : List Char} :
    word ∈ (node d ends below right).words ↔
      (ends = true ∧ word = [d]) ∨ (∃ rest ∈ below.words, word = d :: rest) ∨
        word ∈ right.words := by
  rw [words, List.mem_append, List.mem_append, List.mem_map, or_assoc]
  cases ends <;> simp [eq_comm]

theorem head_mem_heads {t : Trie} {c : Char} {word : List Char} (there : c :: word ∈ t.words) :
    c ∈ t.heads := by
  induction t with
  | empty => cases there
  | node d ends below right _ ih =>
    rcases mem_words_node.1 there with ⟨-, same⟩ | ⟨rest, -, same⟩ | later
    · exact List.mem_cons.2 (.inl (List.cons.inj same).1)
    · exact List.mem_cons.2 (.inl (List.cons.inj same).1)
    · exact List.mem_cons_of_mem d (ih later)

theorem nil_notMem_words (t : Trie) : [] ∉ t.words := by
  induction t with
  | empty => exact List.not_mem_nil
  | node d ends below right _ ih =>
    intro there
    rcases mem_words_node.1 there with ⟨-, same⟩ | ⟨rest, -, same⟩ | later
    · cases same
    · cases same
    · exact ih later

theorem mem_words_iff {t : Trie} (h : t.Ordered) (word : List Char) :
    word ∈ t.words ↔ t.contains word = true := by
  induction t generalizing word with
  | empty => simp [words]
  | node d ends below right ihBelow ihRight =>
    obtain ⟨first, orderedBelow, orderedRight⟩ := h
    cases word with
    | nil => simpa using nil_notMem_words (node d ends below right)
    | cons c word =>
      rw [mem_words_node, contains]
      by_cases same : c = d
      · subst same
        have elsewhere : c :: word ∉ right.words :=
          fun later => Char.lt_irrefl c (first c (head_mem_heads later))
        rw [if_pos rfl]
        cases word with
        | nil => simp [elsewhere, nil_notMem_words]
        | cons e word => simp [elsewhere, ihBelow orderedBelow]
      · rw [if_neg same, ← ihRight orderedRight]
        simp [same]

theorem pairwise_words {t : Trie} (h : t.Ordered) : t.words.Pairwise (· < ·) := by
  induction t with
  | empty => exact List.Pairwise.nil
  | node d ends below right ihBelow ihRight =>
    obtain ⟨first, orderedBelow, orderedRight⟩ := h
    have own : (if ends then [[d]] else []).Pairwise (· < ·) := by cases ends <;> simp
    have inner : (below.words.map (d :: ·)).Pairwise (· < ·) :=
      (ihBelow orderedBelow).map _ fun word other less => List.cons_lt_cons_iff.2 (.inr ⟨rfl, less⟩)
    have shorter : ∀ word ∈ if ends then [[d]] else [], ∀ other ∈ below.words.map (d :: ·),
        word < other := by
      intro word there other longer
      obtain ⟨rest, beneath, rfl⟩ := List.mem_map.1 longer
      split at there
      · obtain rfl := List.mem_singleton.1 there
        cases rest with
        | nil => exact absurd beneath (nil_notMem_words below)
        | cons e rest => exact List.cons_lt_cons_iff.2 (.inr ⟨rfl, List.nil_lt_cons e rest⟩)
      · cases there
    have before : ∀ word ∈ (if ends then [[d]] else []) ++ below.words.map (d :: ·),
        ∀ other ∈ right.words, word < other := by
      intro word there other later
      obtain ⟨rest, rfl⟩ : ∃ rest, word = d :: rest := by
        rcases List.mem_append.1 there with short | long
        · split at short
          · exact ⟨[], List.mem_singleton.1 short⟩
          · cases short
        · obtain ⟨rest, -, rfl⟩ := List.mem_map.1 long
          exact ⟨rest, rfl⟩
      cases other with
      | nil => exact absurd later (nil_notMem_words right)
      | cons e tail => exact List.cons_lt_cons_iff.2 (.inl (first e (head_mem_heads later)))
    rw [words, List.pairwise_append, List.pairwise_append]
    exact ⟨⟨own, inner, shorter⟩, ihRight orderedRight, before⟩

theorem ordered_foldl_insert {t : Trie} (h : t.Ordered) (given : List (List Char)) :
    (given.foldl Trie.insert t).Ordered := by
  induction given generalizing t with
  | nil => exact h
  | cons word given ih => exact ih (h.insert word)

theorem ordered_ofWords (given : List (List Char)) : (ofWords given).Ordered :=
  ordered_foldl_insert (t := empty) trivial given

theorem mem_words_ofWords (given : List (List Char)) (word : List Char) :
    word ∈ (ofWords given).words ↔ word ∈ given ∧ word ≠ [] := by
  rw [mem_words_iff (ordered_ofWords given), contains_ofWords]

theorem words_ofWords {given : List (List Char)} (ascending : given.Pairwise (· < ·))
    (nonempty : [] ∉ given) :
    (ofWords given).words = given := by
  have listed := pairwise_words (ordered_ofWords given)
  have nodup {words : List (List Char)} (ascending : words.Pairwise (· < ·)) : words.Nodup := by
    refine List.Pairwise.imp ?_ ascending
    rintro word _ less rfl
    exact List.lt_irrefl word less
  have perm : (ofWords given).words.Perm given := by
    rw [List.perm_ext_iff_of_nodup (nodup listed) (nodup ascending)]
    intro word
    rw [mem_words_ofWords, and_iff_left_iff_imp]
    exact fun there none => nonempty (none ▸ there)
  exact perm.eq_of_pairwise (fun _ _ _ _ less more => absurd more (List.lt_asymm less))
    listed ascending

def Stop.words (stop : Stop) : List (List Char) :=
  (if stop.ends then [stop.reached] else []) ++ stop.below.words.map (stop.reached ++ ·)

theorem flatMap_words_stops (reached : List Char) (t : Trie) :
    (t.stops reached).flatMap Stop.words = t.words.map (reached ++ ·) := by
  induction t with
  | empty => rfl
  | node c ends below right _ ih =>
    rw [stops, List.flatMap_cons, ih, Stop.words, words, List.map_append, List.map_append,
      List.map_map]
    cases ends <;> simp [Function.comp_def]

theorem visit_eq (left : List Stop) : visit left = left.flatMap Stop.words := by
  induction left using visit.induct with
  | case1 => rw [visit, List.flatMap_nil]
  | case2 stop rest ih =>
    rw [visit, ih, List.flatMap_append, flatMap_words_stops, List.flatMap_cons, Stop.words,
      List.append_assoc]

theorem walk_eq (t : Trie) : t.walk = t.words := by
  rw [walk, visit_eq, List.flatMap_singleton, Stop.words]
  exact List.map_id' t.words

theorem contains_of_longestPrefix {t : Trie} {text word : List Char}
    (found : t.longestPrefix text = some word) : t.contains word = true := by
  induction t generalizing text word with
  | empty => cases text <;> simp [longestPrefix] at found
  | node d ends below right ihBelow ihRight =>
    cases text with
    | nil => simp at found
    | cons c text =>
      simp only [longestPrefix] at found
      split at found
      · rename_i same
        subst same
        split at found
        · rename_i inner deeper
          obtain rfl := Option.some.inj found
          rw [contains, if_pos rfl, if_neg (by simpa using longestPrefix_ne_nil deeper)]
          exact ihBelow deeper
        · split at found
          · rename_i ended
            obtain rfl := Option.some.inj found
            simp [contains, ended]
          · cases found
      · rename_i other
        cases word with
        | nil => exact absurd rfl (longestPrefix_ne_nil found)
        | cons e word =>
          obtain ⟨rest, same⟩ := longestPrefix_isPrefix found
          obtain rfl : e = c := (List.cons.inj same).1
          rw [contains, if_neg other]
          exact ihRight found

theorem exists_longestPrefix {t : Trie} {text word : List Char} (known : t.contains word = true)
    (begins : word <+: text) : ∃ found, t.longestPrefix text = some found ∧
    word.length ≤ found.length := by
  induction t generalizing text word with
  | empty => simp at known
  | node d ends below right ihBelow ihRight =>
    obtain ⟨rest, rfl⟩ := begins
    cases word with
    | nil => simp at known
    | cons c word =>
      simp only [contains] at known
      simp only [List.cons_append, longestPrefix]
      split at known
      · rename_i same
        rw [if_pos same]
        split at known
        · rename_i last
          rw [List.isEmpty_iff.1 last]
          split
          · exact ⟨_, rfl, by simp⟩
          · exact ⟨_, if_pos known, by simp⟩
        · obtain ⟨found, deeper, long⟩ := ihBelow known (List.prefix_append word rest)
          rw [deeper]
          exact ⟨_, rfl, Nat.succ_le_succ long⟩
      · rename_i other
        rw [if_neg other]
        exact ihRight known (List.prefix_append (c :: word) rest)

theorem longestPrefix_eq_some_iff {t : Trie} {text word : List Char} :
    t.longestPrefix text = some word ↔ t.contains word = true ∧ word <+: text ∧
      ∀ other, t.contains other = true → other <+: text → other.length ≤ word.length := by
  constructor
  · intro found
    refine ⟨contains_of_longestPrefix found, longestPrefix_isPrefix found,
      fun other known begins => ?_⟩
    obtain ⟨longest, same, long⟩ := exists_longestPrefix known begins
    obtain rfl := Option.some.inj (found.symm.trans same)
    exact long
  · rintro ⟨known, begins, longest⟩
    obtain ⟨found, same, long⟩ := exists_longestPrefix known begins
    have short := longest found (contains_of_longestPrefix same) (longestPrefix_isPrefix same)
    have equal := List.prefix_of_prefix_length_le begins (longestPrefix_isPrefix same) long
    rw [same, equal.eq_of_length_le short]

end ColorSpans.Trie
