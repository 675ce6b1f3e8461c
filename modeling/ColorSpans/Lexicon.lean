import ColorSpans.Json.Basic
import ColorSpans.Literal.ColumnError
import ColorSpans.Trie

/-! Texts put into a trie one after another. How many they are is counted as they come in. -/
namespace ColorSpans

/-- A column before the start cannot be read from. A word that ends before the last column of the
line counts as none if it began at a negative column. -/
def Trie.longestFrom (t : Trie) (line : List Char) (column : Int) :
    Except ColumnError (Option (List Char)) :=
  if column < -line.length then .error (.outside column) else .ok (t.longestAt line column)

structure Lexicon where
  trie : Trie
  size : Nat
  deriving DecidableEq, Repr

namespace Lexicon

def empty : Lexicon := ⟨.empty, 0⟩

/-- A word counts when it ends where no word ended before. -/
def insert (l : Lexicon) (word : String) : Lexicon :=
  ⟨l.trie.insert word.toList,
    if word = "" ∨ l.trie.contains word.toList then l.size else l.size + 1⟩

def ofWords (words : List String) : Lexicon := words.foldl insert empty

/-- Only texts can be in it. -/
def contains (l : Lexicon) : Json → Bool
  | .str word => l.trie.contains word.toList
  | _ => false

def longestFrom (l : Lexicon) (text : String) (column : Int) : Except ColumnError (Option String) :=
  (l.trie.longestFrom text.toList column).map fun found => found.map String.ofList

def words (l : Lexicon) : List String := l.trie.walk.map String.ofList

def display (l : Lexicon) : String := "Trie(size=" ++ toString l.size ++ ")"

/-- The trie is the one that its words alone make. -/
theorem trie_ofWords (given : List String) : (ofWords given).trie =
    Trie.ofWords (given.map String.toList) := by
  have onward (l : Lexicon) :
      (given.foldl insert l).trie = (given.map String.toList).foldl Trie.insert l.trie := by
    induction given generalizing l with
    | nil => rfl
    | cons word given ih => exact ih (l.insert word)
  exact onward empty

end Lexicon

end ColorSpans
