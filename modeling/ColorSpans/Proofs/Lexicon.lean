import ColorSpans.Lexicon
import ColorSpans.Proofs.Trie
import Mathlib.Data.Finset.Card
import Mathlib.Data.String.Basic

/-! Lexicons as finite sets of words. In whatever order words are put in, and however often, a
lexicon has just those that are not empty, counts each of them once, finds the longest that stands
in a text, and lists them in ascending order. -/
namespace ColorSpans

namespace Lexicon

structure Keeps (l : Lexicon) (words : Finset String) : Prop where
  ordered : l.trie.Ordered
  contains_iff : ∀ word : String, l.trie.contains word.toList = true ↔ word ∈ words
  size : l.size = words.card

variable {l : Lexicon} {words : Finset String}

theorem keeps_empty : Keeps empty ∅ where
  ordered := trivial
  contains_iff := by simp [empty]
  size := rfl

theorem Keeps.insert (h : Keeps l words) (word : String) :
    Keeps (l.insert word) (if word = "" then words else Insert.insert word words) := by
  by_cases none : word = ""
  · subst none
    have same : l.insert "" = l := by simp [Lexicon.insert]
    rw [same, if_pos rfl]
    exact h
  · have some : word.toList ≠ [] := mt String.toList_eq_nil_iff.1 none
    rw [if_neg none]
    refine ⟨h.ordered.insert word.toList, fun other => ?_, ?_⟩
    · rw [Lexicon.insert, Trie.contains_insert h.ordered some, String.toList_inj, h.contains_iff,
        Finset.mem_insert]
    · simp only [Lexicon.insert, none, h.contains_iff, false_or, h.size]
      split
      · rename_i known
        rw [Finset.insert_eq_of_mem known]
      · rename_i new
        rw [Finset.card_insert_of_notMem new]

theorem Keeps.foldl_insert (h : Keeps l words) (given : List String) :
    Keeps (given.foldl Lexicon.insert l) (words ∪ given.toFinset.erase "") := by
  induction given generalizing l words with
  | nil => simpa using h
  | cons word given ih =>
    have later := ih (h.insert word)
    have same : (if word = "" then words else Insert.insert word words) ∪ given.toFinset.erase "" =
        words ∪ (word :: given).toFinset.erase "" := by
      rw [List.toFinset_cons]
      split
      · rename_i none
        rw [none, Finset.erase_insert_eq_erase]
      · rename_i some
        rw [Finset.erase_insert_of_ne some, Finset.insert_union, Finset.union_insert]
    rw [List.foldl_cons, ← same]
    exact later

theorem keeps_ofWords (given : List String) : Keeps (ofWords given) (given.toFinset.erase "") := by
  have all := keeps_empty.foldl_insert given
  rw [Finset.empty_union] at all
  exact all

theorem Keeps.contains_str (h : Keeps l words) (value : Json) :
    l.contains value = true ↔ ∃ word ∈ words, value = .str word := by
  cases value with
  | str word => simp [contains, h.contains_iff]
  | _ => simp [contains]

/-- A word that was put in, and with which the text goes on from the column. -/
structure Begins (given : List String) (text : String) (column : Nat) (word : String) : Prop where
  put : word ∈ given
  nonempty : word ≠ ""
  stands : word.toList <+: text.toList.drop column

variable {given other : List String} {text word : String} {column : Nat}

theorem longestFrom_natCast (l : Lexicon) (text : String) (column : Nat) :
    l.longestFrom text column =
      .ok ((l.trie.longestPrefix (text.toList.drop column)).map String.ofList) := by
  have counted : ¬(column : Int) < -text.toList.length := by omega
  rw [longestFrom, Trie.longestFrom, if_neg counted, Trie.longestAt_natCast]
  rfl

theorem begins_iff : Begins given text column word ↔
    (ofWords given).trie.contains word.toList = true ∧ word.toList <+: text.toList.drop column := by
  rw [(keeps_ofWords given).contains_iff, Finset.mem_erase, List.mem_toFinset]
  constructor
  · intro h
    exact ⟨⟨h.nonempty, h.put⟩, h.stands⟩
  · rintro ⟨⟨nonempty, put⟩, stands⟩
    exact ⟨put, nonempty, stands⟩

theorem longest_iff :
    ((ofWords given).trie.longestPrefix (text.toList.drop column)).map String.ofList = some word ↔
      Begins given text column word ∧ ∀ other, Begins given text column other →
        other.length ≤ word.length := by
  have spelled : ((ofWords given).trie.longestPrefix (text.toList.drop column)).map String.ofList =
      some word ↔
      (ofWords given).trie.longestPrefix (text.toList.drop column) = some word.toList := by
    rw [Option.map_eq_some_iff]
    constructor
    · rintro ⟨found, same, rfl⟩
      rw [same, String.toList_ofList]
    · intro found
      exact ⟨word.toList, found, String.ofList_toList⟩
  rw [spelled, Trie.longestPrefix_eq_some_iff, begins_iff, and_assoc]
  refine and_congr_right fun _ => and_congr_right fun _ => ?_
  constructor
  · intro longest other begins
    obtain ⟨known, stands⟩ := begins_iff.1 begins
    exact longest other.toList known stands
  · intro longest other known stands
    have begins : Begins given text column (String.ofList other) := by
      rw [begins_iff, String.toList_ofList]
      exact ⟨known, stands⟩
    have bound := longest (String.ofList other) begins
    rw [String.length_ofList] at bound
    exact bound

theorem longest_none_iff :
    ((ofWords given).trie.longestPrefix (text.toList.drop column)).map String.ofList = none ↔
      ∀ word, ¬Begins given text column word := by
  rw [Option.map_eq_none_iff]
  constructor
  · intro none word begins
    obtain ⟨known, stands⟩ := begins_iff.1 begins
    obtain ⟨found, some, -⟩ := Trie.exists_longestPrefix known stands
    rw [none] at some
    cases some
  · intro nothing
    by_contra found
    obtain ⟨word, found⟩ := Option.ne_none_iff_exists'.1 found
    have begins : Begins given text column (String.ofList word) := by
      rw [begins_iff, String.toList_ofList]
      exact ⟨Trie.contains_of_longestPrefix found, Trie.longestPrefix_isPrefix found⟩
    exact nothing _ begins

theorem longest_congr (same : ∀ word, word ≠ "" → (word ∈ other ↔ word ∈ given)) (text : String)
    (column : Nat) :
    (ofWords other).longestFrom text column = (ofWords given).longestFrom text column := by
  have begins (word : String) : Begins other text column word ↔ Begins given text column word := by
    constructor
    · intro h
      exact ⟨(same word h.nonempty).1 h.put, h.nonempty, h.stands⟩
    · intro h
      exact ⟨(same word h.nonempty).2 h.put, h.nonempty, h.stands⟩
  rw [longestFrom_natCast, longestFrom_natCast, Except.ok.injEq]
  refine Option.ext fun word => ?_
  rw [longest_iff, longest_iff, begins]
  simp only [begins]

/-- A lexicon is the set of the words that were put in, but for the empty one, in whatever order and
however often they came. -/
theorem kept_ofWords (given : List String) :
    (∀ value, (ofWords given).contains value = true ↔
      ∃ word ∈ given, word ≠ "" ∧ value = .str word) ∧
    (ofWords given).size = (given.toFinset.erase "").card ∧
    (∀ (text : String) (column : Nat), ∃ found,
      (ofWords given).longestFrom text column = .ok found ∧
      (∀ word, found = some word ↔
        Begins given text column word ∧ ∀ other, Begins given text column other →
          other.length ≤ word.length) ∧
      (found = none ↔ ∀ word, ¬Begins given text column word)) ∧
    ∀ other : List String, (∀ word, word ≠ "" → (word ∈ other ↔ word ∈ given)) →
      (∀ value, (ofWords other).contains value = (ofWords given).contains value) ∧
      (ofWords other).size = (ofWords given).size ∧
      ∀ (text : String) (column : Nat),
        (ofWords other).longestFrom text column = (ofWords given).longestFrom text column := by
  have keeps := keeps_ofWords given
  refine ⟨fun value => ?_, keeps.size, fun text column => ?_, fun other same => ?_⟩
  · rw [keeps.contains_str]
    simp only [Finset.mem_erase, List.mem_toFinset]
    exact exists_congr fun word => by rw [and_comm (a := word ≠ ""), and_assoc]
  · exact ⟨_, longestFrom_natCast _ text column, fun word => longest_iff, longest_none_iff⟩
  · have keeps' := keeps_ofWords other
    have words : other.toFinset.erase "" = given.toFinset.erase "" := by
      ext word
      simp only [Finset.mem_erase, List.mem_toFinset]
      exact and_congr_right (same word)
    refine ⟨fun value => ?_, ?_, longest_congr same⟩
    · rw [Bool.eq_iff_iff, keeps.contains_str, keeps'.contains_str, words]
    · rw [keeps.size, keeps'.size, words]

example : (ofWords ["rgb", "", "rgba", "rgb"]).longestFrom "an rgb(0, 0, 0)" 3 = .ok
    (some "rgb") := by cbv

/-- The words that were put in are listed once each, but for the empty one, in ascending order and
each before its extensions. -/
theorem listed_ofWords (given : List String) :
    (ofWords given).words.Pairwise
      (fun word other => word < other ∧ ¬other.toList <+: word.toList) ∧
    ∀ word, (ofWords given).words.count word = if word ∈ given ∧ word ≠ "" then 1 else 0 := by
  have keeps := keeps_ofWords given
  have spelled : (ofWords given).words = (ofWords given).trie.words.map String.ofList := by
    rw [words, Trie.walk_eq]
  have ascending : (ofWords given).words.Pairwise (· < ·) := by
    rw [spelled]
    refine (Trie.pairwise_words keeps.ordered).map _ fun word other less => ?_
    rw [String.lt_iff, String.toList_ofList, String.toList_ofList]
    exact less
  have mem_iff (word : String) : word ∈ (ofWords given).words ↔ word ∈ given ∧ word ≠ "" := by
    have there : word ∈ (ofWords given).words ↔ word.toList ∈ (ofWords given).trie.words := by
      rw [spelled, List.mem_map]
      constructor
      · rintro ⟨found, there, rfl⟩
        rw [String.toList_ofList]
        exact there
      · intro there
        exact ⟨word.toList, there, String.ofList_toList⟩
    rw [there, Trie.mem_words_iff keeps.ordered, keeps.contains_iff, Finset.mem_erase,
      List.mem_toFinset, and_comm]
  constructor
  · refine ascending.imp fun less => ⟨less, fun longer => ?_⟩
    exact List.not_lt.2 longer.le (String.lt_iff.1 less)
  · intro word
    have nodup : (ofWords given).words.Nodup := ascending.imp fun less => ne_of_lt less
    rw [List.Nodup.count nodup]
    simp only [mem_iff]

example : (ofWords ["ab", "", "b", "a", "ab"]).words = ["a", "ab", "b"] := by cbv

end Lexicon

end ColorSpans
