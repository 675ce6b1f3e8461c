import ColorSpans.Proofs.Names.Coherence

/-! Tables and the order of a host's names. The first name that comes with a lowercase form gives it
its color, so the order shows exactly where two names that differ in color share a form that nothing
else gives a color. -/
namespace ColorSpans.NameTable

/-- Every order of the names gives the same colors. -/
def OrderFree (rules : Rules) (named : HostNames) (palette : Option Palette) : Prop :=
  ∀ named', named.Perm named' →
    (build rules named' palette).colors = (build rules named palette).colors

/-- Neither the host nor the palette gives a color for the name itself. -/
structure Vacant (rules : Rules) (named : HostNames) (palette : Option Palette) (name : String) :
    Prop where
  host : ∀ entry ∈ named, entry.1 = name → colorOf rules entry = none
  palette : ∀ given ∈ palette, ¬given.Names name

/-- Names that share a vacant lowercase form have one color. -/
def FormsAgree (rules : Rules) (named : HostNames) (palette : Option Palette) : Prop :=
  ∀ a ∈ named, ∀ b ∈ named, Text.lower a.1 = Text.lower b.1 →
    Vacant rules named palette (Text.lower a.1) →
    ∀ color color', colorOf rules a = some color → colorOf rules b = some color' → color = color'

variable {rules : Rules} {named named' : HostNames} {palette : Option Palette} {name color : String}

theorem Vacant.perm (vacant : Vacant rules named palette name) (perm : named.Perm named') :
    Vacant rules named' palette name :=
  ⟨fun entry there => vacant.host entry (perm.mem_iff.2 there), vacant.palette⟩

theorem vacant_iff (distinct : (named.map Prod.fst).Nodup) :
    Vacant rules named palette name ↔
      palette.bind (·.colorOf? name) = none ∧ ownColor? rules named name = none := by
  rw [Option.bind_eq_none_iff, Option.eq_none_iff_forall_ne_some]
  constructor
  · intro vacant
    refine ⟨fun given there => Option.not_isSome_iff_eq_none.1
      (mt Palette.isSome_colorOf?_iff.1 (vacant.palette given there)), fun color found => ?_⟩
    obtain ⟨entry, there, own, given⟩ := (ownColor?_eq_some_iff distinct).1 found
    rw [vacant.host entry there own] at given
    cases given
  · rintro ⟨unmade, missing⟩
    refine ⟨fun entry there own => ?_, fun given there names => ?_⟩
    · rw [Option.eq_none_iff_forall_ne_some]
      exact fun color given =>
        missing color ((ownColor?_eq_some_iff distinct).2 ⟨entry, there, own, given⟩)
    · have made := Palette.isSome_colorOf?_iff.2 names
      rw [unmade given there] at made
      cases made

theorem getElem?_build_vacant (distinct : (named.map Prod.fst).Nodup)
    (vacant : Vacant rules named palette name) :
    (build rules named palette).colors[name]? = loweredColor? rules named name := by
  obtain ⟨unmade, missing⟩ := (vacant_iff distinct).1 vacant
  rw [getElem?_build distinct, unmade, missing, Option.none_or, Option.none_or]

theorem getElem?_build_first (lowercase : rules.lowercase = true) {entry : String × Json}
    (distinct : ((entry :: named).map Prod.fst).Nodup)
    (vacant : Vacant rules (entry :: named) palette (Text.lower entry.1))
    (given : colorOf rules entry = some color) :
    (build rules (entry :: named) palette).colors[Text.lower entry.1]? = some color := by
  rw [getElem?_build_vacant distinct vacant, loweredColor?, findSome?_cons_or,
    if_pos ⟨lowercase, rfl⟩, given, Option.some_or]

theorem ownColor?_perm (distinct : (named.map Prod.fst).Nodup) (perm : named.Perm named')
    (name : String) :
    ownColor? rules named' name = ownColor? rules named name := by
  have distinct' : (named'.map Prod.fst).Nodup := (perm.map Prod.fst).nodup_iff.1 distinct
  refine Option.ext fun color => ?_
  rw [ownColor?_eq_some_iff distinct, ownColor?_eq_some_iff distinct']
  simp only [perm.mem_iff]

theorem loweredColor?_eq_some_iff (agree : rules.lowercase = true →
      ∀ a ∈ named, ∀ b ∈ named, Text.lower a.1 = name → Text.lower b.1 = name →
        ∀ color color', colorOf rules a = some color → colorOf rules b = some color' →
          color = color') :
    loweredColor? rules named name = some color ↔
      ∃ entry ∈ named, rules.lowercase = true ∧ Text.lower entry.1 = name ∧
        colorOf rules entry = some color := by
  refine ⟨exists_of_loweredColor?, ?_⟩
  rintro ⟨entry, there, lowercase, lower, given⟩
  cases found : loweredColor? rules named name with
  | none =>
    have missing := List.findSome?_eq_none_iff.1 found entry there
    rw [if_pos ⟨lowercase, lower⟩, given] at missing
    cases missing
  | some color' =>
    obtain ⟨other, there', -, lower', given'⟩ := exists_of_loweredColor? found
    rw [agree lowercase other there' entry there lower' lower color' color given' given]

theorem loweredColor?_perm (agree : rules.lowercase = true → FormsAgree rules named palette)
    (vacant : Vacant rules named palette name) (perm : named.Perm named') :
    loweredColor? rules named' name = loweredColor? rules named name := by
  have alike (lowercase : rules.lowercase = true) (a) (there : a ∈ named) (b) (there' : b ∈ named)
      (lower : Text.lower a.1 = name) (lower' : Text.lower b.1 = name) :
      ∀ color color', colorOf rules a = some color → colorOf rules b = some color' →
        color = color' :=
    agree lowercase a there b there' (lower.trans lower'.symm) (lower ▸ vacant)
  refine Option.ext fun color => ?_
  rw [loweredColor?_eq_some_iff alike, loweredColor?_eq_some_iff fun lowercase a there b there' =>
    alike lowercase a (perm.mem_iff.2 there) b (perm.mem_iff.2 there')]
  simp only [perm.mem_iff]

theorem orderFree_of_formsAgree (distinct : (named.map Prod.fst).Nodup)
    (agree : rules.lowercase = true → FormsAgree rules named palette) :
    OrderFree rules named palette := by
  intro named' perm
  have distinct' : (named'.map Prod.fst).Nodup := (perm.map Prod.fst).nodup_iff.1 distinct
  apply Std.ExtTreeMap.ext_getElem?
  intro name
  by_cases vacant : Vacant rules named palette name
  · rw [getElem?_build_vacant distinct vacant, getElem?_build_vacant distinct' (vacant.perm perm),
      loweredColor?_perm agree vacant perm]
  · rw [getElem?_build distinct, getElem?_build distinct', ownColor?_perm distinct perm]
    cases unmade : palette.bind (·.colorOf? name) with
    | some color => rfl
    | none =>
      cases missing : ownColor? rules named name with
      | some color => rfl
      | none => exact absurd ((vacant_iff distinct).2 ⟨unmade, missing⟩) vacant

theorem formsAgree_of_orderFree (distinct : (named.map Prod.fst).Nodup)
    (lowercase : rules.lowercase = true) (free : OrderFree rules named palette) :
    FormsAgree rules named palette := by
  -- Whichever entry is put first gives the form its color.
  have first {entry : String × Json} (there : entry ∈ named)
      (vacant : Vacant rules named palette (Text.lower entry.1)) {color : String}
      (given : colorOf rules entry = some color) :
      (build rules named palette).colors[Text.lower entry.1]? = some color := by
    obtain ⟨before, behind, rfl⟩ := List.append_of_mem there
    have perm : (before ++ entry :: behind).Perm (entry :: (before ++ behind)) := List.perm_middle
    rw [← free _ perm]
    exact getElem?_build_first lowercase ((perm.map Prod.fst).nodup_iff.1 distinct)
      (vacant.perm perm) given
  intro a there b there' same vacant color color' given given'
  have found := first there vacant given
  have found' := first there' (same ▸ vacant) given'
  rw [same, found'] at found
  exact (Option.some.inj found).symm

/-- The order of distinct names does not show, exactly if no lowercase forms are made or names that
share one have one color, but for forms that the host or the palette has as names of their own. -/
theorem orderFree_iff (rules : Rules) {named : HostNames} (distinct : (named.map Prod.fst).Nodup)
    (palette : Option Palette) :
    OrderFree rules named palette ↔ (rules.lowercase = true → FormsAgree rules named palette) :=
  ⟨fun free lowercase => formsAgree_of_orderFree distinct lowercase free,
    orderFree_of_formsAgree distinct⟩

theorem orderFree_iff_colliding :
    (collidingNames.map Prod.fst).Nodup ∧
      OrderFree ⟨true, true⟩ collidingNames (some skyPalette) := by
  have distinct : (collidingNames.map Prod.fst).Nodup := by decide
  refine ⟨distinct, (orderFree_iff ⟨true, true⟩ distinct (some skyPalette)).2 fun _ => ?_⟩
  intro a there b there' same vacant color color' given given'
  have forms : ∀ a ∈ collidingNames, ∀ b ∈ collidingNames, Text.lower a.1 = Text.lower b.1 →
      a.1 = b.1 ∨ Text.lower a.1 = "red" := by decide +kernel
  rcases forms a there b there' same with own | red
  · rw [List.inj_on_of_nodup_map distinct there there' own, given'] at given
    exact (Option.some.inj given).symm
  · have taken : colorOf ⟨true, true⟩ ("red", .str " 0000FF ") = none :=
      vacant.host _ (by simp [collidingNames]) red.symm
    exact absurd taken (by decide +kernel)

/-- Two names in two colors share a form, and nothing else has it. -/
def shoutedNames : HostNames := [("Red", .str "#ff0000"), ("RED", .str "#00ff00")]

theorem not_orderFree_shouted :
    (shoutedNames.map Prod.fst).Nodup ∧ ¬OrderFree {} shoutedNames none := by
  refine ⟨by decide, fun free => ?_⟩
  have same := free [("RED", .str "#00ff00"), ("Red", .str "#ff0000")] (List.Perm.swap ..)
  have first : (build {} shoutedNames none).colors["red"]? = some "ff0000" := by decide +kernel
  have second : (build {} [("RED", .str "#00ff00"), ("Red", .str "#ff0000")] none).colors["red"]? =
      some "00ff00" := by decide +kernel
  rw [same, first] at second
  exact absurd second (by decide)

end ColorSpans.NameTable
