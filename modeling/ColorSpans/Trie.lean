import ColorSpans.Text.Columns

/-! A set of words kept as a trie. The nodes of one level stand in ascending order of their
characters, so the words come out sorted by code point, each before its extensions. -/
namespace ColorSpans

/-- A level of the trie: its first character, whether a word ends there, the level below and the
rest of the level. -/
inductive Trie
  | empty
  | node (c : Char) (ends : Bool) (below right : Trie)
  deriving Repr, DecidableEq, Inhabited

namespace Trie

def single : List Char → Trie
  | [] => empty
  | c :: word => node c word.isEmpty (single word) empty

/-- The empty word is not kept. -/
def insert : Trie → List Char → Trie
  | t, [] => t
  | empty, c :: word => single (c :: word)
  | node d ends below right, c :: word =>
      if c = d then node d (ends || word.isEmpty) (below.insert word) right
      else if c < d then node c word.isEmpty (single word) (node d ends below right)
      else node d ends below (right.insert (c :: word))

def ofWords (words : List (List Char)) : Trie := words.foldl insert empty

def contains : Trie → List Char → Bool
  | _, [] => false
  | empty, _ => false
  | node d ends below right, c :: word =>
      if c = d then if word.isEmpty then ends else below.contains word
      else right.contains (c :: word)

/-- The node of a level that has this character: whether a word ends there, and the level below. -/
def child? : Trie → Char → Option (Bool × Trie)
  | empty, _ => none
  | node d ends below right, c => if c = d then some (ends, below) else right.child? c

/-- The column behind the last word that ends on the way along the line; `last` if none does. -/
def lastEnd (t : Trie) (line : List Char) (column last : Int) : Int :=
  if column < line.length then
    match (Text.charAt? line column).bind t.child? with
    | some (ends, below) => below.lastEnd line (column + 1) (if ends then column + 1 else last)
    | none => last
  else last
termination_by (line.length - column).toNat

/-- The longest word that stands at a column, as the line shows it from there up to its end. -/
def longestAt (t : Trie) (line : List Char) (column : Int) : Option (List Char) :=
  let stop := t.lastEnd line column (-1)
  if stop < 0 then none else some (Text.between line column stop)

/-- A node that is still to be visited: the characters that lead to it, whether a word ends there,
and the level below. -/
structure Stop where
  reached : List Char
  ends : Bool
  below : Trie

/-- The nodes of a level, in the order of their characters. -/
def stops (reached : List Char) : Trie → List Stop
  | empty => []
  | node c ends below right => ⟨reached ++ [c], ends, below⟩ :: right.stops reached

def nodeCount : Trie → Nat
  | empty => 0
  | node _ _ below right => below.nodeCount + right.nodeCount + 1

/-- How many nodes are left to visit: those that wait, and all below them. -/
def nodesLeft : List Stop → Nat
  | [] => 0
  | stop :: rest => stop.below.nodeCount + 1 + nodesLeft rest

theorem nodesLeft_append (first rest : List Stop) :
    nodesLeft (first ++ rest) = nodesLeft first + nodesLeft rest := by
  induction first with
  | nil => exact (Nat.zero_add _).symm
  | cons stop first ih => rw [List.cons_append, nodesLeft, nodesLeft, ih, ← Nat.add_assoc]

theorem nodesLeft_stops (reached : List Char) (t : Trie) :
    nodesLeft (t.stops reached) = t.nodeCount := by
  induction t with
  | empty => rfl
  | node c ends below right _ ih =>
    simp only [stops, nodesLeft, ih, nodeCount]
    omega

/-- Visits the first of the nodes that are left, and puts those below it before the others. -/
def visit : List Stop → List (List Char)
  | [] => []
  | stop :: rest =>
      (if stop.ends then [stop.reached] else []) ++ visit (stop.below.stops stop.reached ++ rest)
termination_by left => nodesLeft left
decreasing_by
  rw [nodesLeft_append, nodesLeft_stops, nodesLeft]
  omega

/-- All words, as a walk from the root meets them. -/
def walk (t : Trie) : List (List Char) := visit [⟨[], false, t⟩]

@[simp] theorem insert_nil (t : Trie) : t.insert [] = t := by cases t <;> rfl

@[simp] theorem contains_nil (t : Trie) : t.contains [] = false := by cases t <;> rfl

@[simp] theorem contains_empty (word : List Char) : empty.contains word = false := by
  cases word <;> rfl

end Trie

end ColorSpans
