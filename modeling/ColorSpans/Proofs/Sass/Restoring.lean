import ColorSpans.Proofs.Sass.Renaming

/-! Imports that come back. A file that is deleted is forgotten with all that only it imports. Once
it is written again the next update of the buffer loads it, exactly if the buffer's own file imports
it itself. -/
namespace ColorSpans
open Sass

/-- All files say what they said, and some of them were not even written again. -/
structure Disk.Resembles (disk disk' : Disk) (kept : String → Prop) : Prop where
  working : disk'.working = disk.working
  lines : ∀ path, disk'.lines? path = disk.lines? path
  has : ∀ path, disk'.has path = disk.has path
  stamps : ∀ path, kept path → disk'.stamp? path = disk.stamp? path

namespace Disk.Resembles

variable {disk disk' : Disk} {kept : String → Prop} {matcher : Option Matcher} {path : String}
  {sheet : Sheet}

theorem real_eq (h : disk.Resembles disk' kept) : disk'.real = disk.real := by
  funext path
  rw [Disk.real, Disk.real, h.working]

theorem tells (h : disk.Resembles disk' kept) (tells : disk.Tells matcher path sheet) :
    disk'.Tells matcher path sheet := by
  obtain ⟨lines, fresh, found, rest⟩ := tells
  exact ⟨lines, fresh, (h.lines path).trans found, rest⟩

theorem edgesOf_eq (h : disk.Resembles disk' kept) (importer : String) (sheet : Sheet) :
    disk'.edgesOf importer sheet = disk.edgesOf importer sheet := by
  rw [Disk.edgesOf, Disk.edgesOf, h.real_eq, funext h.has]

theorem keyOf_eq (h : disk.Resembles disk' kept) (given : Option String) :
    Variables.keyOf disk' given = Variables.keyOf disk given := by
  unfold Variables.keyOf
  rw [h.real_eq]

end Disk.Resembles

namespace Sass

/-- The states that updates get variables into, all under one path, as long as none fails and the
disk stays. Where the buffer has no file and relative imports, the disk knows what they stand
for. -/
inductive Retold (owner : Nat) (matcher : Option Matcher) (world : World) (path : Option String) :
    State → Prop
  | start : Retold owner matcher world path (.start owner matcher world)
  | update {s : State} {lines : List String} {range : Sheet.Range}
      (before : Retold owner matcher world path s) (numbered : 0 ≤ range.start)
      (known : Variables.keyOf s.world.disk path = Variables.bufferKey → ∀ sheet,
        s.held.rereadSheet Variables.bufferKey lines range = .ok sheet →
        s.world.disk.Knows (sheet.candidates Variables.bufferKey))
      (done : s.outcome (.update path lines range) = .ok ()) :
      Retold owner matcher world path (s.step (.update path lines range))

/-- The only root is the buffer's own file, whose lines are numbered from 0. It is not watched, and
all that is watched is held, as is all that other files import. -/
structure Variables.Settles (v : Variables) (disk : Disk) (key : String) : Prop where
  rooted : (v.root = none ∧ v.sheets = ∅) ∨ v.root = some key
  numbered : ∀ sheet, v.sheets[key]? = some sheet → sheet.Numbered
  unwatched : key ∉ v.watches
  held : ∀ path ∈ v.watches, path ∈ v.sheets
  closed : ∀ (own : List String) (a b : String), a ∈ v.sheets → a ≠ key →
    Source.Imports ⟨disk, v.matcher, key, own⟩ a b → b = key ∨ b ∈ v.sheets

namespace Variables.Settles

variable {v : Variables} {disk : Disk} {key path : String} {lines : List String} {sheet : Sheet}

theorem keeps_iff (h : v.Settles disk key) : v.Keeps path ↔ path ∈ v.sheets ∧ path ≠ key := by
  refine and_congr_right fun there => ?_
  rcases h.rooted with ⟨-, none⟩ | some
  · rw [none] at there
    exact absurd there Std.ExtTreeMap.not_mem_empty
  · rw [some, Ne, Option.some.injEq]
    exact not_congr eq_comm

theorem reread_iff (h : v.Settles disk key) :
    v.rereadSheet key lines .whole = .ok sheet ↔ Sheet.read v.matcher lines = .ok sheet := by
  refine Variables.rereadSheet_whole fun old found => h.numbered old ?_
  rcases h.rooted with ⟨none, -⟩ | some
  · rwa [Variables.sheetsWithoutOldRoot_eq (.inl none)] at found
  · rwa [Variables.sheetsWithoutOldRoot_eq (.inr some)] at found

theorem mem_startRoot (h : v.Settles disk key) (world : World) (sheet : Sheet) (path : String) :
    path ∈ (v.startRoot world key sheet).sheets ↔ path = key ∨ (path ∈ v.sheets ∧ path ≠ key) := by
  rw [Variables.mem_startRoot, h.keeps_iff]

section

variable {world : World} {t : Loaded} {notes : List Note} {edges : List String}
  (course : Course (v.setRoot key).loader [key] (.imports key) (v.startRoot world key sheet) notes
    (.ok edges) t)

include course

theorem held_of_course (h : v.Settles disk key) (grows : (v.startRoot world key sheet).Grows t)
    (paired : (v.start world).Paired) (watched : path ∈ t.watches) : path ∈ t.sheets := by
  rcases grows.new path ((course.paired paired path).1 watched) with before | loaded
  · have early : path ∈ v.watches := (paired path).2 before
    have other : path ≠ key := fun own => h.unwatched (own ▸ early)
    exact grows.mem ((h.mem_startRoot world sheet path).2 (.inr ⟨h.held path early, other⟩))
  · exact loaded

theorem closed_of_course (h : v.Settles disk key) (honest : Honest v.loader disk [] (v.start world))
    (consistent : disk.IsConsistent) (known : disk.Knows (sheet.candidates key)) {own : List String}
    {a b : String} (held : a ∈ t.sheets) (other : a ≠ key)
    (imports : Source.Imports ⟨disk, v.matcher, key, own⟩ a b) (apart : b ≠ key) :
    b ∈ t.sheets := by
  have begins := honest.begins known
  have mem := h.mem_startRoot world sheet
  by_cases early : a ∈ (v.startRoot world key sheet).sheets
  · have before := (((mem a).1 early).resolve_left other).1
    have kept := (h.closed own a b before other imports).resolve_left apart
    exact (course.honest consistent begins rfl).1.mem ((mem b).2 (.inr ⟨kept, apart⟩))
  · let src : Source := ⟨disk, v.matcher, key, own⟩
    have rooted : (v.setRoot key).loader.root = some src.root := rfl
    have matched : (v.setRoot key).loader.matcher = src.matcher := rfl
    have spread (a b : String) (_ : True) (_ : src.Imports a b) :
        b ∈ (v.startRoot world key sheet).sheets ∨ True := .inr trivial
    have covers := course.covers rooted matched consistent begins ((mem key).2 (.inl rfl)) spread
      (fun _ _ _ => .inr trivial) rfl
    exact (covers.2 a held early).2 b imports

theorem of_course (h : v.Settles disk key) (honest : Honest v.loader disk [] (v.start world))
    (paired : (v.start world).Paired) (consistent : disk.IsConsistent)
    (known : disk.Knows (sheet.candidates key)) (numbered : sheet.Numbered) :
    ((v.setRoot key).commit t).1.Settles disk key := by
  obtain ⟨grows, ends⟩ := course.honest consistent (honest.begins known) rfl
  have ends : Honest (v.setRoot key).loader disk [] t := ends
  have there (path : String) :
      path ∈ ((v.setRoot key).commit t).1.sheets ↔ path ∈ reachable t.sheets (some key) :=
    Variables.mem_sheets_commit rfl
  have watched (path : String) (now : path ∈ ((v.setRoot key).commit t).1.watches) :
      path ∈ t.watches ∧ path ∉ (v.setRoot key).swept t := by
    rw [Std.ExtTreeMap.mem_iff_isSome_getElem?, Variables.getElem?_watches_commit] at now
    split at now
    · cases now
    · exact ⟨Std.ExtTreeMap.mem_iff_isSome_getElem?.2 now, ‹_›⟩
  refine ⟨.inr rfl, fun held found => ?_, fun own => ?_, fun path now => ?_,
    fun own a b held other imports => ?_⟩
  · have first : (v.startRoot world key sheet).sheets[key]? = some sheet := by
      rw [Variables.getElem?_startRoot, if_pos rfl]
    obtain ⟨last, found', declarations, imports⟩ := grows.held key sheet first
    obtain rfl : held = last :=
      Option.some.inj ((Variables.of_sheets_commit found).symm.trans found')
    exact ⟨declarations ▸ numbered.1, imports ▸ numbered.2⟩
  · exact h.unwatched ((course.spares rfl (fun _ => Task.noConfusion) paired).1.1
      (watched key own).1)
  · obtain ⟨late, unswept⟩ := watched path now
    rw [Variables.mem_swept] at unswept
    exact (there path).2 (by_contra fun lost =>
      unswept ⟨h.held_of_course course grows paired late, lost⟩)
  · refine or_iff_not_imp_left.2 fun apart => (there b).2 ?_
    have reached := (there a).1 held
    obtain ⟨importer, found⟩ := exists_sheet (mem_of_mem_reachable reached)
    let src : Source := ⟨disk, v.matcher, key, own⟩
    have tells : src.Tells a importer := by
      obtain ⟨text, fresh, lines, rest⟩ :=
        ends.tells a importer found fun same => other (Option.some.inj same).symm
      exact ⟨text, fresh, (if_neg other : src.lines? a = _).trans lines, rest⟩
    have listed := (ends.edge_iff found tells (tells.imports_iff.1 imports).2 apart).2 imports
    have loaded := h.closed_of_course course honest consistent known (mem_of_sheet found) other
      imports apart
    exact mem_reachable_of_edge reached
      ⟨importer.edges, by rw [edgesOf, found]; rfl, listed, isSome_edgesOf.2 loaded⟩

end

theorem forgets {src : Source} (h : v.Settles src.disk src.root)
    (matched : v.matcher = src.matcher) :
    v.Forgets src := by
  refine ⟨h.unwatched, fun path watched => .inl (h.keeps_iff.2 ⟨h.held path watched, ?_⟩),
    fun path leads => ?_⟩
  · exact fun own => h.unwatched (own ▸ watched)
  · induction leads with
    | refl => exact .inr .refl
    | @tail a b _ imports ih =>
      by_cases own : b = src.root
      · exact .inr (own ▸ .refl)
      by_cases keeps : v.Keeps b
      · exact .inl keeps
      rcases ih with kept | passes
      · obtain ⟨held, other⟩ := h.keeps_iff.1 kept
        have closed := (h.closed src.own a b held other (matched ▸ imports)).resolve_left own
        exact absurd (h.keeps_iff.2 ⟨closed, own⟩) keeps
      · exact .inr (passes.tail ⟨imports, keeps⟩)

end Variables.Settles

namespace Retold

variable {owner : Nat} {matcher : Option Matcher} {world : World} {path : Option String} {s : State}

theorem updated (run : Retold owner matcher world path s) : Updated owner matcher world s := by
  induction run with
  | start => exact .start
  | update _ _ known done ih => exact .update ih known done

theorem settles (run : Retold owner matcher world path s) (consistent : world.disk.IsConsistent) :
    s.held.Settles world.disk (Variables.keyOf world.disk path) := by
  induction run with
  | start =>
    have none (path : String) : path ∉ (Variables.new owner matcher).sheets :=
      Std.ExtTreeMap.not_mem_empty
    refine ⟨.inl ⟨rfl, rfl⟩, ?_, ?_, ?_, ?_⟩
    · exact fun sheet found => absurd (mem_of_sheet found) (none _)
    · exact Std.ExtTreeMap.not_mem_empty
    · exact fun path watched => absurd watched Std.ExtTreeMap.not_mem_empty
    · exact fun _ a _ held => absurd held (none a)
  | @update s lines range before numbered known done ih =>
    have honest := before.updated.honest consistent
    have disk : s.world.disk = world.disk := honest.same
    have move := s.moves (.update path lines range)
    rw [done] at move
    generalize s.step (.update path lines range) = t at move
    cases move with
    | @updated _ _ _ key sheet _ _ _ named good course =>
      rw [disk] at named known
      subst named
      have spelled := knows_keyOf consistent fun unnamed => known unnamed sheet (unnamed ▸ good)
      refine ih.of_course course honest before.updated.reachable.paired consistent spelled ?_
      refine Sheet.numbered_readFrom (.erase ?_ range) numbered
        (Variables.readFrom_of_rereadSheet good)
      rw [Sheets.sheet]
      cases found : s.held.sheets[Variables.keyOf world.disk path]? with
      | none => exact Sheet.numbered_empty
      | some old => exact ih.numbered old found

theorem awaits (run : Retold owner matcher world path s) (consistent : world.disk.IsConsistent)
    {lines : List String} (known : Variables.keyOf world.disk path = Variables.bufferKey → ∀ sheet,
      Sheet.read matcher lines = .ok sheet →
        world.disk.Knows (sheet.candidates Variables.bufferKey)) :
    s.Awaits ⟨world.disk, matcher, Variables.keyOf world.disk path, lines⟩ path := by
  have honest := run.updated.honest consistent
  have disk : s.world.disk = world.disk := honest.same
  have matched := run.updated.reachable.matcher_eq
  refine ⟨by rw [disk], matched, consistent, honest, run.updated.reachable.paired, fun sheet => ?_,
    fun sheet read => knows_keyOf consistent fun unnamed => known unnamed sheet read⟩
  rw [(run.settles consistent).reread_iff, matched]

theorem mirrors (run : Retold owner matcher world path s) (consistent : world.disk.IsConsistent)
    {lines : List String} (known : Variables.keyOf world.disk path = Variables.bufferKey → ∀ sheet,
      Sheet.read matcher lines = .ok sheet →
        world.disk.Knows (sheet.candidates Variables.bufferKey))
    (done : s.outcome (.update path lines .whole) = .ok ()) :
    Mirrors ⟨world.disk, matcher, Variables.keyOf world.disk path, lines⟩
      (s.step (.update path lines .whole)).held := by
  have awaits := run.awaits consistent known
  obtain ⟨t, renamed, held⟩ := awaits.renamed done
  obtain ⟨led, watched⟩ := renamed.forgets_iff.1 ((run.settles consistent).forgets awaits.matched)
  exact held ▸ renamed.mirrors led watched

end Retold

namespace Variables

variable {v : Variables} {src : Source} {world : World} {file a b : String} {sheet : Sheet}

def without (v : Variables) (world : World) (file : String) : Variables :=
  (v.commit ((v.start world).drop file)).1

theorem of_sheets_without (found : (v.without world file).sheets[a]? = some sheet) :
    a ≠ file ∧ v.sheets[a]? = some sheet := Loaded.of_sheets_drop (of_sheets_commit found)

theorem not_mem_without (world : World) : file ∉ (v.without world file).sheets := by
  intro there
  obtain ⟨sheet, found⟩ := exists_sheet there
  exact (of_sheets_without found).1 rfl

theorem getElem?_stamps_without (kept : a ∈ (v.without world file).sheets) :
    (v.without world file).stamps[a]? = v.stamps[a]? := by
  obtain ⟨sheet, found⟩ := exists_sheet kept
  rw [without, getElem?_stamps_commit_of_mem _ _ kept, Loaded.stamps_drop,
    Std.ExtTreeMap.getElem?_erase,
    if_neg (mt Std.LawfulEqCmp.eq_of_compare (of_sheets_without found).1.symm)]
  rfl

theorem of_stamps_without {stamp : Int} (found : (v.without world file).stamps[a]? = some stamp) :
    a ≠ file ∧ v.stamps[a]? = some stamp := by
  rw [without, getElem?_stamps_commit] at found
  split at found
  · cases found
  · rw [Loaded.stamps_drop, Std.ExtTreeMap.getElem?_erase] at found
    split at found
    · cases found
    · rename_i other
      exact ⟨fun same => other (same ▸ Std.ReflCmp.compare_self), found⟩

theorem of_watches_without (watched : a ∈ (v.without world file).watches) : a ∈ v.watches := by
  rw [Std.ExtTreeMap.mem_iff_isSome_getElem?, without, getElem?_watches_commit] at watched
  split at watched
  · cases watched
  · rw [← Std.ExtTreeMap.mem_iff_isSome_getElem?, Loaded.watches_drop,
      Std.ExtTreeMap.mem_erase] at watched
    exact watched.2

theorem paired_without {before : World} (gone : World) (paired : (v.start before).Paired)
    (again : World) :
    ((v.without gone file).start again).Paired := by
  have same : (v.start gone).Paired := paired
  exact (same.drop file).dropAll (v.swept ((v.start gone).drop file))

end Variables

theorem Honest.without {v : Variables} {disk : Disk} {file : String} {world again : World}
    (h : Honest v.loader disk [] (v.start world)) (recorded : ∀ path ∈ v.stamps, path ∈ v.sheets)
    (gone : World) (back : disk.Resembles again.disk fun path => path ∈ v.sheets ∧ path ≠ file) :
    Honest (v.without gone file).loader again.disk [] ((v.without gone file).start again) := by
  refine ⟨rfl, fun _ busy => absurd busy List.not_mem_nil, ?_, ?_, ?_, ?_, ?_⟩
  · intro path held other
    obtain ⟨sheet, found⟩ := exists_sheet held
    exact h.absolute path (mem_of_sheet (Variables.of_sheets_without found).2) other
  · exact fun path sheet found other =>
      back.tells (h.tells path sheet (Variables.of_sheets_without found).2 other)
  · intro path sheet found _
    rw [funext back.has, back.edgesOf_eq]
    exact h.links path sheet (Variables.of_sheets_without found).2 List.not_mem_nil
  · intro path held other
    obtain ⟨sheet, found⟩ := exists_sheet held
    obtain ⟨apart, before⟩ := Variables.of_sheets_without found
    rw [back.stamps path ⟨mem_of_sheet before, apart⟩, ← h.current path (mem_of_sheet before) other]
    exact Variables.getElem?_stamps_without held
  · intro path stamp found
    obtain ⟨apart, before⟩ := Variables.of_stamps_without found
    have known := recorded path
      (Std.ExtTreeMap.mem_iff_isSome_getElem?.2 (Option.isSome_iff_exists.2 ⟨stamp, before⟩))
    rw [back.lines, back.stamps path ⟨known, apart⟩]
    exact h.recorded path stamp before

namespace Mirrors

variable {src : Source} {v : Variables} {world : World} {file a b : String} {sheet : Sheet}

theorem edge_iff (h : Mirrors src v) (found : v.sheets[a]? = some sheet) (there : b ∈ v.sheets)
    (other : b ≠ src.root) : b ∈ sheet.edges ↔ src.Imports a b := by
  obtain ⟨own, foundOwn⟩ := exists_sheet there
  have readable := (h.tells b own foundOwn).readable
  have foreign := Source.isForeign_of_readable readable other
  have links := congrArg (b ∈ ·) (h.links a sheet found)
  simp only [List.mem_filter, foreign, and_true] at links
  rw [links, (h.tells a sheet found).imports_iff]
  exact (and_iff_left readable).symm

theorem mem_importsOf (h : Mirrors src v) {disk : Disk} {path : Option String}
    (named : Variables.keyOf disk path = src.root) (there : b ∈ v.sheets) (other : b ≠ src.root) :
    b ∈ (v.importsOf disk path).map Prod.fst ↔ src.Imports src.root b := by
  obtain ⟨sheet, found⟩ := exists_sheet ((h.led src.root).2 .refl)
  obtain ⟨stamp, known⟩ :=
    Option.isSome_iff_exists.1 (Bool.and_eq_true_iff.1 (h.isForeign there other)).2
  have stamped : v.stamps[b]? = some stamp := by rw [h.stamps, if_pos ⟨there, other⟩, known]
  rw [Variables.importsOf, Variables.sheetAt, named, found, ← h.edge_iff found there other,
    List.mem_map]
  constructor
  · rintro ⟨⟨_, _⟩, listed, rfl⟩
    obtain ⟨edge, asked, this⟩ := List.mem_filterMap.1 listed
    obtain ⟨_, _, same⟩ := Option.map_eq_some_iff.1 this
    rwa [← (Prod.mk.inj same).1]
  · exact fun edge => ⟨(b, stamp), List.mem_filterMap.2 ⟨b, edge, by rw [stamped]; rfl⟩, rfl⟩

variable (h : Mirrors src v) (rooted : v.root = some src.root) (other : file ≠ src.root)

include h rooted other

theorem root_mem_without : src.root ∈ (v.without world file).sheets := by
  refine (Variables.mem_sheets_commit rooted).2 (root_mem_reachable ?_)
  exact (Loaded.mem_sheets_drop _ _ _).2 ⟨other.symm, (h.led _).2 .refl⟩

theorem mem_without_of_imports (imports : src.Imports a b) (apart : b ≠ file)
    (there : a ∈ (v.without world file).sheets) : b ∈ (v.without world file).sheets := by
  by_cases own : b = src.root
  · exact own ▸ h.root_mem_without rooted other
  have reached := (Variables.mem_sheets_commit rooted).1 there
  obtain ⟨sheet, found⟩ := exists_sheet there
  have held := (Variables.of_sheets_without found).2
  have target : b ∈ v.sheets := (h.led b).2 (((h.led a).1 (mem_of_sheet held)).tail imports)
  have listed := (h.edge_iff held target own).2 imports
  refine (Variables.mem_sheets_commit rooted).2 (mem_reachable_of_edge reached
    ⟨sheet.edges, ?_, listed, isSome_edgesOf.2 ((Loaded.mem_sheets_drop _ _ _).2 ⟨apart, target⟩)⟩)
  rw [edgesOf, Variables.of_sheets_commit found]
  rfl

omit h other in
theorem keeps_without_iff {path : String} : (v.without world file).Keeps path ↔
    path ∈ (v.without world file).sheets ∧ path ≠ src.root := by
  rw [Variables.Keeps, show (v.without world file).root = some src.root from rooted, Ne,
    Option.some.injEq]
  exact and_congr_right fun _ => not_congr eq_comm

theorem imports_of_passes {path : String} (passes : src.Passes (v.without world file) path) :
    path = src.root ∨ src.Imports src.root file := by
  induction passes with
  | refl => exact .inl rfl
  | @tail a b _ step ih =>
    rcases ih with rfl | imports
    · by_cases own : b = src.root
      · exact .inl own
      by_cases this : b = file
      · exact .inr (this ▸ step.1)
      · have stays : b ∈ (v.without world file).sheets :=
          h.mem_without_of_imports rooted other step.1 this (h.root_mem_without rooted other)
        exact absurd ((keeps_without_iff rooted).2 ⟨stays, own⟩) step.2
    · exact .inr imports

theorem passed_iff (world : World) (loaded : file ∈ v.sheets) :
    (∀ path, src.Leads path → (v.without world file).Keeps path ∨
      src.Passes (v.without world file) path) ↔ src.Imports src.root file := by
  constructor
  · intro passed
    rcases passed file ((h.led file).1 loaded) with kept | passes
    · exact absurd kept.1 (Variables.not_mem_without world)
    · exact (h.imports_of_passes rooted other passes).resolve_left other
  · intro direct path leads
    induction leads with
    | refl => exact .inr .refl
    | @tail a b _ imports ih =>
      by_cases kept : (v.without world file).Keeps b
      · exact .inl kept
      by_cases own : b = src.root
      · exact .inr (own ▸ .refl)
      rcases ih with there | passes
      · have this : b = file := by_contra fun apart => kept ((keeps_without_iff rooted).2
          ⟨h.mem_without_of_imports rooted other imports apart there.1, own⟩)
        exact .inr (.single ⟨this ▸ direct, kept⟩)
      · exact .inr (passes.tail ⟨imports, kept⟩)

end Mirrors

namespace Source

variable {src : Source} {disk : Disk} {kept : String → Prop}

theorem lines?_resembles (back : src.disk.Resembles disk kept) :
    { src with disk : Source }.lines? = src.lines? := by
  funext path
  rw [lines?, lines?, back.lines]

theorem edgesOf_resembles (back : src.disk.Resembles disk kept) :
    { src with disk : Source }.edgesOf = src.edgesOf := by
  have linked : { src with disk : Source }.isLinked = src.isLinked :=
    funext fun path => congrArg (path == src.root || ·) (back.has path)
  funext importer sheet
  rw [edgesOf, edgesOf, linked, back.real_eq]

theorem imports_resembles (back : src.disk.Resembles disk kept) :
    { src with disk : Source }.Imports = src.Imports := by
  funext a b
  rw [Imports, Imports, lines?_resembles back, edgesOf_resembles back]

theorem leads_resembles (back : src.disk.Resembles disk kept) :
    { src with disk : Source }.Leads = src.Leads := by
  rw [Leads, Leads, imports_resembles back]

end Source

/-- Variables show again what they showed before. -/
structure Variables.Restored (v v' : Variables) : Prop where
  definitions : v'.definitions = v.definitions
  files : ∀ path, path ∈ v'.sheets ↔ path ∈ v.sheets
  watched : ∀ path, path ∈ v'.watches ↔ path ∈ v.watches

theorem Mirrors.restored {src : Source} {disk : Disk} {kept : String → Prop} {v v' : Variables}
    (h : Mirrors src v) (back : src.disk.Resembles disk kept) (h' : Mirrors { src with disk } v') :
    v.Restored v' := by
  have files (path : String) : path ∈ v'.sheets ↔ path ∈ v.sheets := by
    rw [h'.led, h.led, Source.leads_resembles back]
  have foreign : { src with disk : Source }.isForeign = src.isForeign :=
    funext fun path => congrArg (path != src.root && ·) (back.has path)
  let stamped : Variables := { v with stamps := v'.stamps }
  have mirrors : Mirrors { src with disk } stamped := by
    refine ⟨fun path => ?_, fun path sheet found => ?_, fun path sheet found => ?_, fun path => ?_,
      h.watched, h.defined⟩
    · rw [Source.leads_resembles back]
      exact h.led path
    · obtain ⟨lines, fresh, there, rest⟩ := h.tells path sheet found
      exact ⟨lines, fresh, Source.lines?_resembles back ▸ there, rest⟩
    · rw [foreign, Source.edgesOf_resembles back]
      exact h.links path sheet found
    · have stamps := h'.stamps path
      simp only [files] at stamps
      exact stamps
  have definitions : v'.definitions = stamped.definitions := h'.definitions_alike mirrors
  exact ⟨definitions, files, fun path => by rw [h'.watched, h.watched, files]⟩

theorem Source.passes_resembles {src : Source} {disk : Disk} {kept : String → Prop}
    (back : src.disk.Resembles disk kept) : { src with disk : Source }.Passes = src.Passes := by
  funext v
  rw [Passes, Passes, imports_resembles back]

theorem Source.sound_resembles {src : Source} {disk : Disk} {kept inside : String → Prop}
    (back : src.disk.Resembles disk kept) (sound : src.Sound inside) :
    { src with disk : Source }.Sound inside := by
  intro path within
  rw [lines?_resembles back, edgesOf_resembles back]
  exact sound path within

theorem Renamed.restores_iff {src : Source} {v : Variables} {disk : Disk} {kept : String → Prop}
    {gone : World} {file : String} {t : Loaded}
    (renamed : Renamed { src with disk } (v.without gone file) t) (h : Mirrors src v)
    (rooted : v.root = some src.root) (other : file ≠ src.root) (loaded : file ∈ v.sheets)
    (back : src.disk.Resembles disk kept) :
    (v.Restored (((v.without gone file).setRoot src.root).commit t).1 ↔ src.Imports src.root file) ∧
      (file ∈ (((v.without gone file).setRoot src.root).commit t).1.sheets ↔
        src.Imports src.root file) := by
  have forgets : (v.without gone file).Forgets { src with disk } ↔ src.Imports src.root file := by
    have known (path : String) (watched : path ∈ (v.without gone file).watches) :=
      (h.watched path).1 (Variables.of_watches_without watched)
    rw [← h.passed_iff rooted other gone loaded, ← Source.leads_resembles back,
      ← Source.passes_resembles back]
    exact ⟨Variables.Forgets.passed,
      fun passed => ⟨fun own => (known _ own).2 rfl, fun path watched => .inr
      (Source.leads_resembles back ▸ (h.led path).1 (known path watched).1), passed⟩⟩
  have restored : v.Restored (((v.without gone file).setRoot src.root).commit t).1 ↔
      src.Imports src.root file := by
    rw [← forgets]
    constructor
    · intro restored
      have led (path : String) := (restored.files path).trans (h.led path)
      rw [← Source.leads_resembles back] at led
      refine renamed.forgets_iff.2 ⟨led, fun path => (restored.watched path).trans ?_⟩
      rw [h.watched, ← restored.files path, led]
    · intro forgets
      obtain ⟨led, watched⟩ := renamed.forgets_iff.1 forgets
      exact h.restored back (renamed.mirrors led watched)
  refine ⟨restored, fun there => ?_, fun direct => ((restored.2 direct).files file).2 loaded⟩
  obtain ⟨sheet, found⟩ := exists_sheet there
  rcases (renamed.held file).1 (mem_of_sheet (Variables.of_sheets_commit found)) with kept | passes
  · exact absurd kept.1 (Variables.not_mem_without gone)
  · rw [Source.passes_resembles back] at passes
    exact (h.imports_of_passes rooted other passes).resolve_left other

namespace State

variable {s : State} {file : String}

theorem held_fire_gone (watched : file ∈ s.held.watches)
    (missing : s.world.disk.stamp? file = none) :
    s.outcome (.fire file) = .ok () ∧ (s.step (.fire file)).held = s.held.without s.world file := by
  have move := s.moves (.fire file)
  generalize s.step (.fire file) = t at move ⊢
  generalize s.outcome (.fire file) = outcome at move ⊢
  cases move with
  | unwatched unknown => exact absurd watched unknown
  | gone => exact ⟨rfl, rfl⟩
  | stuck _ there | reloaded _ there => cases missing.symm.trans there

/-- A file is deleted, its watch calls back, and the file is written again. -/
def putBack (s : State) (gone again : World) (file : String) : State :=
  ((s.step (.outside gone)).step (.fire file)).step (.outside again)

end State

namespace Retold

variable {owner : Nat} {matcher : Option Matcher} {world gone again : World} {path : Option String}
  {s : State} {lines : List String} {file : String}

theorem whole (run : Retold owner matcher world path s) (consistent : world.disk.IsConsistent)
    (known : Variables.keyOf world.disk path = Variables.bufferKey → ∀ sheet,
      Sheet.read matcher lines = .ok sheet →
        world.disk.Knows (sheet.candidates Variables.bufferKey))
    (done : s.outcome (.update path lines .whole) = .ok ()) :
    Retold owner matcher world path (s.step (.update path lines .whole)) := by
  have awaits := run.awaits consistent known
  have disk : s.world.disk = world.disk := awaits.honest.same
  refine run.update (Int.le_refl 0) (fun unnamed sheet good => ?_) done
  rw [disk] at unnamed ⊢
  exact known unnamed sheet ((awaits.whole sheet).1 (unnamed ▸ good))

theorem awaits_putBack (run : Retold owner matcher world path s)
    (consistent : world.disk.IsConsistent)
    (mirrors : Mirrors ⟨world.disk, matcher, Variables.keyOf world.disk path, lines⟩ s.held)
    (rooted : s.held.root = some (Variables.keyOf world.disk path))
    (held : (s.putBack gone again file).held = s.held.without gone file)
    (back : world.disk.Resembles again.disk fun kept => kept ∈ s.held.sheets ∧ kept ≠ file)
    (consistent' : again.disk.IsConsistent)
    (known : Variables.keyOf again.disk path = Variables.bufferKey → ∀ sheet,
      Sheet.read matcher lines = .ok sheet →
        again.disk.Knows (sheet.candidates Variables.bufferKey)) :
    (s.putBack gone again file).Awaits ⟨again.disk, matcher, Variables.keyOf world.disk path,
      lines⟩ path := by
  have key := back.keyOf_eq path
  have recorded (path : String) (known : path ∈ s.held.stamps) : path ∈ s.held.sheets := by
    rw [Std.ExtTreeMap.mem_iff_isSome_getElem?, mirrors.stamps] at known
    split at known
    · exact ‹_ ∧ _›.1
    · cases known
  have matched : s.held.matcher = matcher := run.updated.reachable.matcher_eq
  refine ⟨key, ?_, consistent', ?_, ?_, fun sheet => ?_, fun sheet read => ?_⟩
  · rw [held]
    exact matched
  · rw [held]
    exact (run.updated.honest consistent).without recorded gone back
  · rw [held]
    exact Variables.paired_without gone run.updated.reachable.paired again
  · rw [held, Variables.rereadSheet_whole,
      show (s.held.without gone file).matcher = matcher from matched]
    intro old found
    have kept : (s.held.without gone file).sheetsWithoutOldRoot (Variables.keyOf world.disk path) =
      (s.held.without gone file).sheets := Variables.sheetsWithoutOldRoot_eq (.inr rooted)
    rw [kept] at found
    exact (run.settles consistent).numbered old (Variables.of_sheets_without found).2
  · rw [← key]
    exact knows_keyOf consistent' fun unnamed => known unnamed sheet read

/-- A file that was deleted and is back is loaded again by the update that loaded it first, exactly
if the buffer's own file imports it itself. Then all is as before; else nothing shows of the file,
though it is there. -/
theorem restored_iff (run : Retold owner matcher world path s)
    (consistent : world.disk.IsConsistent)
    (known : Variables.keyOf world.disk path = Variables.bufferKey → ∀ sheet,
      Sheet.read matcher lines = .ok sheet →
        world.disk.Knows (sheet.candidates Variables.bufferKey))
    (done : s.outcome (.update path lines .whole) = .ok ())
    (loaded : file ∈ (s.step (.update path lines .whole)).held.sheets)
    (other : file ≠ Variables.keyOf world.disk path) (missing : gone.disk.stamp? file = none)
    (back : world.disk.Resembles again.disk fun kept =>
      kept ∈ (s.step (.update path lines .whole)).held.sheets ∧ kept ≠ file)
    (consistent' : again.disk.IsConsistent)
    (known' : Variables.keyOf again.disk path = Variables.bufferKey → ∀ sheet,
      Sheet.read matcher lines = .ok sheet →
        again.disk.Knows (sheet.candidates Variables.bufferKey)) :
    let before := s.step (.update path lines .whole)
    let after := (before.putBack gone again file).step (.update path lines .whole)
    let imports := (before.held.importsOf world.disk path).map Prod.fst
    (before.step (.outside gone)).outcome (.fire file) = .ok () ∧
      (before.putBack gone again file).outcome (.update path lines .whole) = .ok () ∧
      (before.held.Restored after.held ↔ file ∈ imports) ∧
        (file ∈ after.held.sheets ↔ file ∈ imports) := by
  intro before after imports
  have mirrors : Mirrors ⟨world.disk, matcher, Variables.keyOf world.disk path,
      lines⟩ before.held :=
    run.mirrors consistent known done
  have run' : Retold owner matcher world path before := run.whole consistent known done
  have rooted : before.held.root = some (Variables.keyOf world.disk path) := by
    rcases (run'.settles consistent).rooted with ⟨-, none⟩ | some
    · rw [none] at loaded
      exact absurd loaded Std.ExtTreeMap.not_mem_empty
    · exact some
  obtain ⟨fired, held⟩ := State.held_fire_gone (s := before.step (.outside gone))
    ((mirrors.watched file).2 ⟨loaded, other⟩) missing
  have held : (before.putBack gone again file).held = before.held.without gone file := held
  have awaits := run'.awaits_putBack consistent mirrors rooted held back consistent' known'
  have ended := awaits.succeeds (Source.sound_resembles back mirrors.sound) .refl
  obtain ⟨t, renamed, updated⟩ := awaits.renamed ended
  rw [held] at renamed
  have direct : file ∈ imports ↔
      Source.Imports ⟨world.disk, matcher, Variables.keyOf world.disk path, lines⟩
      (Variables.keyOf world.disk path) file := mirrors.mem_importsOf rfl loaded other
  rw [direct, show after.held = _ from updated, held]
  exact ⟨fired, ended, renamed.restores_iff mirrors rooted other loaded back⟩

end Retold

namespace Upkeep

theorem resembles_placed (disk : Disk) (body : String) (file : File) (stamp : Int) :
    (placed disk body file).Resembles (placed disk body ⟨stamp, file.lines⟩) fun path =>
      path ≠ String.ofList ('/' :: body.toList) ∧
        path ≠ String.ofList ('/' :: '/' :: body.toList) := by
  refine ⟨rfl, fun path => ?_, fun path => ?_, fun path apart => ?_⟩
  · simp only [Disk.lines?, placed, Std.ExtTreeMap.getElem?_insert]
    split
    · rfl
    · split_ifs <;> rfl
  · simp only [Disk.has, Disk.stamp?, placed, Std.ExtTreeMap.getElem?_insert]
    split_ifs <;> rfl
  · simp only [Disk.stamp?, placed, Std.ExtTreeMap.getElem?_insert,
      Std.LawfulEqCmp.compare_eq_iff_eq]
    rw [if_neg apart.2.symm, if_neg apart.1.symm, if_neg apart.2.symm, if_neg apart.1.symm]

def importLines : List String := ["@import \"v\";"]

def importing (world : World) : State :=
  (State.start 0 (some sixDigits) world).step (.update (some "/main.scss") importLines .whole)

def worldGone : World := { worldBefore with disk := ⟨"/", ∅, []⟩ }

def worldBack : World :=
  { worldBefore with disk := placed ⟨"/", ∅, []⟩ "v.scss" ⟨2, ["$c: #111111;"]⟩ }

theorem restored_direct : "/v.scss" ∈ (importing worldBefore).held.sheets ∧
    (importing worldBefore).held.definitions.toList = [("c", "111111")] ∧
      worldGone.disk.stamp? "/v.scss" = none ∧
    (importing worldBefore).held.Restored
      (((importing worldBefore).putBack worldGone worldBack "/v.scss").step
      (.update (some "/main.scss") importLines .whole)).held := by
  have named : Variables.keyOf worldBefore.disk (some "/main.scss") = "/main.scss" := by
    decide +kernel
  have named' : Variables.keyOf worldBack.disk (some "/main.scss") ≠ Variables.bufferKey := by
    decide +kernel
  have before : ((State.start 0 (some sixDigits) worldBefore).outcome
        (.update (some "/main.scss") importLines .whole)).toOption = some () ∧
      (importing worldBefore).held.sheets.keys = ["/main.scss", "/v.scss"] ∧
      "/v.scss" ∈ ((importing worldBefore).held.importsOf worldBefore.disk (some "/main.scss")).map
        Prod.fst ∧
      (importing worldBefore).held.definitions.toList = [("c", "111111")] := by decide +kernel
  obtain ⟨done, keys, direct, definitions⟩ := before
  have held (path : String) :
      path ∈ (importing worldBefore).held.sheets ↔ path = "/main.scss" ∨ path = "/v.scss" := by
    rw [← Std.ExtTreeMap.mem_keys, keys, List.mem_cons, List.mem_singleton]
  have consistent : worldBefore.disk.IsConsistent := isConsistent_diskWith _ _
  have consistent' : worldBack.disk.IsConsistent :=
    (Disk.isConsistent_empty "/" []).insert "v.scss".toList (by decide) ⟨2, ["$c: #111111;"]⟩
  have back : worldBefore.disk.Resembles worldBack.disk fun kept =>
      kept ∈ (importing worldBefore).held.sheets ∧ kept ≠ "/v.scss" := by
    obtain ⟨working, lines, has, stamps⟩ :=
      resembles_placed ⟨"/", ∅, []⟩ "v.scss" ⟨1, ["$c: #111111;"]⟩ 2
    refine ⟨working, lines, has, fun path kept => stamps path ?_⟩
    rw [((held path).1 kept.1).resolve_right kept.2]
    decide
  have missing : worldGone.disk.stamp? "/v.scss" = none := by decide +kernel
  have other : "/v.scss" ≠ Variables.keyOf worldBefore.disk (some "/main.scss") := by
    rw [named]
    decide
  have loaded : "/v.scss" ∈ (importing worldBefore).held.sheets := (held _).2 (.inr rfl)
  have first : Retold 0 (some sixDigits) worldBefore (some "/main.scss")
    (.start 0 (some sixDigits) worldBefore) := .start
  have restored := first.restored_iff consistent
    (fun unnamed => absurd (named.symm.trans unnamed) (by decide)) (eq_ok_of_toOption done) loaded
      other missing back
    consistent' fun unnamed => absurd unnamed named'
  exact ⟨loaded, definitions, missing, restored.2.2.1.2 direct⟩

def Unrestored (world gone again : World) (file : String) : Prop :=
  world.disk.IsConsistent ∧ again.disk.IsConsistent ∧
    (State.start 0 (some sixDigits) world).outcome
      (.update (some "/main.scss") importLines .whole) = .ok () ∧
    file ∈ (importing world).held.sheets ∧ (importing world).held.root ≠ some file ∧
    gone.disk.stamp? file = none ∧
    (world.disk.Resembles again.disk fun kept => kept ∈ (importing world).held.sheets ∧
      kept ≠ file) ∧
    ¬(importing world).held.Restored (((importing world).putBack gone again file).step
      (.update (some "/main.scss") importLines .whole)).held

def nested (stamp : Int) : Disk :=
  placed (diskWith "@import \"w\";" 1) "w.scss" ⟨stamp, ["$y: #222222;"]⟩

def worldNested (stamp : Int) : World := ⟨nested stamp, [], []⟩

/-- What is imported by an import only stays away, as that one has not changed. -/
theorem unrestored_nested :
    Unrestored (worldNested 1) ⟨diskWith "@import \"w\";" 1, [], []⟩ (worldNested 2) "/w.scss" := by
  have consistent (stamp : Int) : (nested stamp).IsConsistent :=
    (isConsistent_diskWith _ _).insert "w.scss".toList (by decide) ⟨stamp, ["$y: #222222;"]⟩
  have before : ((State.start 0 (some sixDigits) (worldNested 1)).outcome
        (.update (some "/main.scss") importLines .whole)).toOption = some () ∧
      (importing (worldNested 1)).held.sheets.keys = ["/main.scss", "/v.scss", "/w.scss"] ∧
      (importing (worldNested 1)).held.root = some "/main.scss" := by decide +kernel
  have after : "/w.scss" ∉
      (((importing (worldNested 1)).putBack ⟨diskWith "@import \"w\";" 1, [], []⟩
      (worldNested 2) "/w.scss").step
        (.update (some "/main.scss") importLines .whole)).held.sheets := by
    decide +kernel
  obtain ⟨done, keys, rooted⟩ := before
  have held (path : String) : path ∈ (importing (worldNested 1)).held.sheets ↔
      path = "/main.scss" ∨ path = "/v.scss" ∨ path = "/w.scss" := by
    rw [← Std.ExtTreeMap.mem_keys, keys, List.mem_cons, List.mem_cons, List.mem_singleton]
  have loaded : "/w.scss" ∈ (importing (worldNested 1)).held.sheets := (held _).2 (.inr (.inr rfl))
  refine ⟨consistent 1, consistent 2, eq_ok_of_toOption done, loaded,
    by rw [rooted]; decide, by decide +kernel, ?_,
    fun restored => after ((restored.files _).2 loaded)⟩
  obtain ⟨working, lines, has, stamps⟩ :=
    resembles_placed (diskWith "@import \"w\";" 1) "w.scss" ⟨1, ["$y: #222222;"]⟩ 2
  refine ⟨working, lines, has, fun path kept => stamps path ?_⟩
  obtain ⟨there, other⟩ := kept
  rcases (held path).1 there with rfl | rfl | rfl
  · decide
  · decide
  · exact absurd rfl other

end Upkeep

end Sass

end ColorSpans
