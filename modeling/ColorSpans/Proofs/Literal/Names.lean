import ColorSpans.Matcher
import ColorSpans.Proofs.ColorText

/-! Whatever names and values a host gives, every color of a name table is a color text. -/
namespace ColorSpans

def Colored (colors : Std.ExtTreeMap String String) : Prop :=
  ∀ (name color : String), colors[name]? = some color → IsColorText color

theorem colored_empty : Colored ∅ := fun name color found => by simp at found

theorem Colored.insert {colors : Std.ExtTreeMap String String} (h : Colored colors) (name : String)
    {color : String} (good : IsColorText color) : Colored (colors.insert name color) := by
  intro other found there
  rw [Std.ExtTreeMap.getElem?_insert] at there
  split at there
  · exact Option.some.inj there ▸ good
  · exact h other found there

theorem Colored.insertIfNew {colors : Std.ExtTreeMap String String} (h : Colored colors)
    (name : String)
    {color : String} (good : IsColorText color) : Colored (colors.insertIfNew name color) := by
  intro other found there
  rw [Std.ExtTreeMap.getElem?_insertIfNew] at there
  split at there
  · exact Option.some.inj there ▸ good
  · exact h other found there

namespace NameTable

theorem colored_addName {colors : Colors} (h : Colored colors) (rules : Rules) (name : String)
    (value : Json) : Colored (addName rules colors name value) := by
  rw [addName]
  split
  · rename_i color _ found
    have good := isColorText_normalizeColor found
    dsimp only
    split
    · exact (h.insert name good).insertIfNew _ good
    · exact h.insert name good
  · exact h

theorem colored_addHostNames {colors : Colors} (h : Colored colors) (rules : Rules)
    (named : HostNames) :
    Colored (addHostNames rules colors named) := by
  induction named generalizing colors with
  | nil => exact h
  | cons entry named ih => exact ih (colored_addName h rules entry.1 entry.2)

theorem colored_addShade {colors : Colors} (h : Colored colors) (prefixes : List String)
    (shade value : String) : Colored (addShade prefixes colors shade value) := by
  rw [addShade]
  split
  · exact h
  · rename_i color found
    have good := isColorText_colorOfText found
    clear found
    induction prefixes generalizing colors with
    | nil => exact h
    | cons pre prefixes ih => exact ih (h.insert _ good)

theorem colored_addPalette {colors : Colors} (h : Colored colors) (palette : Palette) :
    Colored (addPalette colors palette) := by
  rw [addPalette]
  induction palette.shades generalizing colors with
  | nil => exact h
  | cons shade shades ih => exact ih (colored_addShade h palette.prefixes shade.1 shade.2)

theorem colored_build (rules : Rules) (named : HostNames) (palette : Option Palette) :
    Colored (build rules named palette).colors := by
  have host := colored_addHostNames colored_empty rules named
  rw [build.eq_def, colors_ofColors]
  split
  · exact colored_addPalette host _
  · exact host

end NameTable

end ColorSpans
