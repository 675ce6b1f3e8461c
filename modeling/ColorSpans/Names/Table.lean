import ColorSpans.Lexicon
import ColorSpans.Literal.Reading
import ColorSpans.Names.Value
import ColorSpans.Text.Category
import Std.Data.ExtTreeMap

/-! Tables of color names. A table keeps each name's color, and the names once more as a trie to
find the longest of them at a spot. -/
namespace ColorSpans

abbrev Colors := Std.ExtTreeMap String String

/-- Names and host values, in the host's order. -/
abbrev HostNames := List (String × Json)

/-- A palette names a color by a prefix, a dash and a shade. -/
structure Palette where
  prefixes : List String
  shades : List (String × String)

structure NameTable where
  colors : Colors
  lexicon : Lexicon
  minLength : Nat
  maxLength : Nat
  minLength_le : ∀ name ∈ colors.keys, minLength ≤ name.length

namespace NameTable

def trie (t : NameTable) : Trie := t.lexicon.trie

def ofColors (colors : Colors) : NameTable :=
  let lengths := colors.keys.map String.length
  { colors
    lexicon := .ofWords colors.keys
    minLength := lengths.min?.getD 0
    maxLength := lengths.max?.getD 0
    minLength_le := fun _ there => List.min?_getD_le_of_mem (List.mem_map_of_mem there) }

def empty : NameTable := ofColors ∅

def lookup? (t : NameTable) (name : String) : Option String := t.colors[name]?

def size (t : NameTable) : Nat := t.colors.size

/-- A line feed may follow the last digit. -/
def endsInDigit (name : String) : Bool :=
  let cs := name.toList.reverse
  (match cs with
    | '\n' :: rest => rest.head?.any Text.isDigit
    | _ => false) || cs.head?.any Text.isDigit

structure Rules where
  lowercase : Bool := true
  stripDigits : Bool := false

def Rules.keeps (rules : Rules) (name : String) : Bool :=
  name != "" && !(rules.stripDigits && endsInDigit name)

/-- A name's own color replaces one it had from another name's lowercase form. -/
def addName (rules : Rules) (colors : Colors) (name : String) (value : Json) : Colors :=
  match rules.keeps name, normalizeColor value with
  | true, some color =>
      let colors := colors.insert name color
      if rules.lowercase then colors.insertIfNew (Text.lower name) color else colors
  | _, _ => colors

def addHostNames (rules : Rules) (colors : Colors) (named : HostNames) : Colors :=
  named.foldl (fun out entry => addName rules out entry.1 entry.2) colors

def paletteName (pre shade : String) : String := pre ++ "-" ++ shade

def addShade (prefixes : List String) (colors : Colors) (shade value : String) : Colors :=
  match colorOfText value with
  | none => colors
  | some color => prefixes.foldl (fun out pre => out.insert (paletteName pre shade) color) colors

def addPalette (colors : Colors) (palette : Palette) : Colors :=
  palette.shades.foldl (fun out shade => addShade palette.prefixes out shade.1 shade.2) colors

/-- The palette's names, if one is given, replace host names of the same spelling. -/
def build (rules : Rules) (named : HostNames) (palette : Option Palette) : NameTable :=
  let host := addHostNames rules ∅ named
  ofColors (match palette with
    | some palette => addPalette host palette
    | none => host)

@[simp] theorem colors_ofColors (colors : Colors) : (ofColors colors).colors = colors := rfl

@[simp] theorem trie_ofColors (colors : Colors) :
    (ofColors colors).trie = Trie.ofWords (colors.keys.map String.toList) :=
  Lexicon.trie_ofWords colors.keys

@[simp] theorem trie_build (rules : Rules) (named : HostNames) (palette : Option Palette) :
    (build rules named palette).trie =
      Trie.ofWords ((build rules named palette).colors.keys.map String.toList) :=
  trie_ofColors _

/-- The longest name at the column, if no character of a name touches it on either side. Where too
little is left of the line for any name, none is looked for. -/
def readAt (t : NameTable) (line : List Char) (column : Nat) : Option Reading :=
  if t.colors.isEmpty || line.length - (column : Int) < t.minLength then none
  else if 0 < column && isIdentifierCode (codeAt line (column - 1)) then none
  else match t.trie.longestAt line column with
    | none => none
    | some name =>
        if isIdentifierCode (codeAt line (column + name.length)) then none
        else (t.lookup? (String.ofList name)).map fun color => ⟨name.length, color⟩

end NameTable

end ColorSpans
