import ColorSpans.Proofs.Literal.Scan
import ColorSpans.Proofs.Sass.Contents

/-! The colors of variables. Declarations hold what a matcher reads, so definitions hold color texts
in every state that can be reached, and scanning with them finds color texts again. -/
namespace ColorSpans.Sass
open Numeral

namespace Declarations

def Colored (declarations : Declarations) : Prop :=
  ∀ (name hex : String), declarations[name]? = some (.color hex) → IsColorText hex

theorem colored_empty : Colored ∅ := fun name hex found => by simp at found

theorem Colored.insert {declarations : Declarations} (h : declarations.Colored) (name : String)
    {d : Declaration} (good : ∀ hex, d = .color hex → IsColorText hex) :
    Colored (Std.ExtTreeMap.insert declarations name d) := by
  intro other hex found
  rw [Std.ExtTreeMap.getElem?_insert] at found
  split at found
  · exact good hex (Option.some.inj found)
  · exact h other hex found

theorem Colored.insertMany {declarations : Declarations} (h : declarations.Colored)
    (entries : List (String × Declaration)) (good : ∀ entry ∈ entries, ∀ hex, entry.2 = .color hex →
      IsColorText hex) : Colored (declarations.insertMany entries) := by
  induction entries generalizing declarations with
  | nil => exact h
  | cons entry entries ih =>
    rw [Std.ExtTreeMap.insertMany_cons]
    exact ih (h.insert entry.1 (good entry List.mem_cons_self)) fun other there =>
      good other (List.mem_cons_of_mem _ there)

theorem Colored.toList {declarations : Declarations} (h : declarations.Colored) :
    ∀ entry ∈ declarations.toList, ∀ hex, entry.2 = .color hex → IsColorText hex := by
  intro entry there hex color
  refine h entry.1 hex ?_
  rw [← color]
  exact Std.ExtTreeMap.mem_toList_iff_getElem?_eq_some.1 there

end Declarations

def Sheet.Colored (sheet : Sheet) : Prop :=
  ∀ (number : Int) (found : Declarations), sheet.declarations[number]? = some found → found.Colored

section reading

variable {matcher : Option Matcher} (sound : ∀ m, matcher = some m → m.Sound)

include sound

theorem isColorText_readValue {text : List Char} {hex : String}
    (h : readValue matcher text = .ok (some (.color hex))) : IsColorText hex := by
  simp only [readValue.eq_def] at h
  cases value : dropFlags (Text.trim text) with
  | nil => simp [value] at h
  | cons c name =>
    simp only [value] at h
    split at h
    · cases h
    · cases matcher with
      | none => cases h
      | some m =>
        obtain ⟨reading, found, h⟩ := bind_eq_ok.1 h
        obtain ⟨r, rfl, same⟩ := Option.map_eq_some_iff.1 (Except.ok.inj h)
        obtain rfl := Declaration.color.inj same
        exact (Matcher.fits_readAt (sound m rfl) (fun d none => by cases none) found).colored

theorem colored_readDeclarations {line : List Char} {found : Declarations}
    (h : readDeclarations matcher line = .ok found) : found.Colored := by
  rw [readDeclarations] at h
  refine foldlM_preserves (fun out entry next good read => ?_) Declarations.colored_empty h
  obtain ⟨d, value, read⟩ := bind_eq_ok.1 read
  cases d with
  | none => exact Except.ok.inj read ▸ good
  | some d =>
    obtain rfl := Except.ok.inj read
    exact good.insert entry.1 fun hex color => isColorText_readValue sound (color ▸ value)

theorem colored_readFrom {lines : List String} {sheet out : Sheet} {first : Int} {pending : Bool}
    (h : sheet.Colored) (read : Sheet.readFrom matcher sheet first pending lines = .ok out) :
    out.Colored := by
  induction lines generalizing sheet first pending with
  | nil => exact Except.ok.inj read ▸ h
  | cons line lines ih =>
    obtain ⟨found, declared, rest⟩ := bind_eq_ok.1 read
    have good := colored_readDeclarations sound declared
    refine ih ?_ rest
    have added : (sheet.addDeclarations first found).Colored := by
      rw [Sheet.addDeclarations]
      split
      · exact h
      · intro number other there
        rw [Std.ExtTreeMap.getElem?_insert] at there
        split at there
        · exact Option.some.inj there ▸ good
        · exact h number other there
    rw [Sheet.addImports]
    split
    · exact added
    · exact added

theorem keptByReading_colored : KeptByReading matcher Sheet.Colored where
  empty number found there := by simp [Sheet.empty] at there
  erase sheet range h number found there := by
    rw [Sheet.erase, Std.ExtTreeMap.getElem?_filter'] at there
    exact h number found (Option.filter_eq_some_iff.1 there).1
  read _ _ _ _ _ h read := colored_readFrom sound h read
  edges _ _ h := h

end reading

theorem Sheet.Colored.flatten {sheet : Sheet} (h : sheet.Colored) : sheet.flatten.Colored := by
  rw [Sheet.flatten, Std.ExtTreeMap.foldl_eq_foldl_toList]
  refine List.foldlRecOn _ _ Declarations.colored_empty fun out good line there => ?_
  have found : sheet.declarations[line.1]? = some line.2 :=
    Std.ExtTreeMap.mem_toList_iff_getElem?_eq_some.1 there
  exact good.insertMany _ (h line.1 line.2 found).toList

theorem colored_mergeSheets {sheets : Sheets} (h : Throughout Sheet.Colored sheets)
    (order : List String) :
    (mergeSheets sheets order).Colored := by
  rw [mergeSheets]
  refine List.foldlRecOn _ _ Declarations.colored_empty fun out good path _ => ?_
  split
  · rename_i sheet found
    exact good.insertMany _ (h path sheet found).flatten.toList
  · exact good

theorem isColorText_followAlias {merged : Declarations} (h : merged.Colored) (limit : Nat)
    {d : Option Declaration} {hex : String}
    (declared : ∀ hex, d = some (.color hex) → IsColorText hex)
    (found : followAlias merged limit d = some hex) : IsColorText hex := by
  induction limit generalizing d with
  | zero =>
    cases d with
    | none => cases found
    | some d =>
      rcases d with own | target
      · exact declared hex (by rw [Option.some.inj found])
      · cases found
  | succ limit ih =>
    cases d with
    | none => cases found
    | some d =>
      rcases d with own | target
      · exact declared hex (by rw [Option.some.inj found])
      · exact ih (h target) found

theorem colored_resolveAll {merged : Declarations} (h : merged.Colored) :
    ColorSpans.Colored (resolveAll merged) := by
  intro name color found
  rw [resolveAll, Std.ExtTreeMap.getElem?_filterMap'] at found
  obtain ⟨d, _, resolved⟩ := Option.bind_eq_some_iff.1 found
  exact isColorText_followAlias h _ (h name) resolved

theorem Reachable.colored {owner : Nat} {matcher : Option Matcher}
    (sound : ∀ m, matcher = some m → m.Sound) {s : State} (h : Reachable owner matcher s) :
    ColorSpans.Colored s.held.definitions := by
  obtain ⟨order, same⟩ := h.definitions_eq
  rw [same]
  exact colored_resolveAll (colored_mergeSheets (h.throughout (keptByReading_colored sound)) order)

/-- Whatever is recognized, scanned spans are in order, apart and inside their line, their colors
are color texts, and variables that are read with the same matcher are color texts in every state
that can be reached. -/
theorem inOrder_and_colored {a : Arithmetic} (bounded : a.Bounded) (config : Config)
    (palette : Palette) :
    (∀ (definitions : Option Definitions) (line : String) (spans : List Span),
      (∀ d, definitions = some d → ColorSpans.Colored d) →
      (Matcher.compileWith a config palette).scan definitions line = .ok spans →
      (spans.Pairwise fun s t => s.start < t.start ∧ s.stop ≤ t.start) ∧
        ∀ s ∈ spans, 0 ≤ s.start ∧ s.start < s.stop ∧ s.stop ≤ line.length ∧ IsColorText s.color) ∧
    ∀ (owner : Nat) (s : State), Reachable owner (some (.compileWith a config palette)) s →
      ∀ (name color : String), s.held.definitions[name]? = some color → IsColorText color := by
  have sound := Matcher.sound_compileWith bounded config palette
  refine ⟨fun definitions line spans colored scanned => ?_, fun owner s reached => ?_⟩
  · have order := Matcher.inOrder_scan sound colored scanned
    refine ⟨order.apart.imp_of_mem fun first second apart => ⟨?_, apart⟩, order.inside⟩
    have positive := (order.inside _ first).2.1
    omega
  · exact reached.colored fun m same => Option.some.inj same ▸ sound

def grey : Arithmetic := ⟨fun c _ => .ok c, fun _ => .ok (some ⟨127, 127, 127⟩)⟩

theorem bounded_grey : grey.Bounded where
  premultiply _ _ _ before _ _ same := Except.ok.inj same ▸ before
  ofHsl _ _ _ _ _ _ _ same := by
    obtain rfl := Option.some.inj (Except.ok.inj same)
    decide

def everything : Config :=
  ⟨true, ⟨true, true, true⟩, true, true, true, .off, true, some [("brand", .str "#AbC")]⟩

def lineOfAll : String := "#AbC 0x80fe0000 rgb(1,2,3) hsl(0, 0%, 50%) $x brand"

def spansOfAll : List Span :=
  [⟨0, 4, "aabbcc"⟩, ⟨5, 15, "7f0000"⟩, ⟨16, 26, "010203"⟩, ⟨27, 42, "7f7f7f"⟩, ⟨43, 45, "102030"⟩,
    ⟨46, 51, "aabbcc"⟩]

def aliased : State :=
  (State.start 0 (some (.compileWith grey everything ⟨[], []⟩)) ⟨⟨"/", ∅, []⟩, [], []⟩).step
    (.update (some "/m.scss") ["$a: $b;", "$b: hsl(0, 0%, 50%);"] ⟨0, none⟩)

theorem inOrder_and_colored_of_all :
    ((spansOfAll.Pairwise fun s t => s.start < t.start ∧ s.stop ≤ t.start) ∧
      ∀ s ∈ spansOfAll, 0 ≤ s.start ∧ s.start < s.stop ∧ s.stop ≤ lineOfAll.length ∧
        IsColorText s.color) ∧
    (∀ (name color : String), aliased.held.definitions[name]? = some color → IsColorText color) ∧
    aliased.held.definitions.toList = [("a", "7f7f7f"), ("b", "7f7f7f")] := by
  have both := inOrder_and_colored bounded_grey everything ⟨[], []⟩
  have known : ∀ d, some ((∅ : Definitions).insert "x" "102030") = some d →
      ColorSpans.Colored d := by
    rintro d ⟨⟩
    exact colored_empty.insert "x" (by decide)
  have scanned : ((Matcher.compileWith grey everything ⟨[], []⟩).scan
      (some ((∅ : Definitions).insert "x" "102030")) lineOfAll).toOption = some spansOfAll := by
    decide +kernel
  exact ⟨both.1 _ lineOfAll spansOfAll known (eq_ok_of_toOption scanned),
    both.2 0 aliased (.step _ (.start _)),
    by decide +kernel⟩

end ColorSpans.Sass
