import ColorSpans.Proofs.Sass.Honest
import ColorSpans.Proofs.Sass.Maintenance
import ColorSpans.Proofs.Sass.Ownership

/-! Buffers that get another path. The sheets of the files that they have imported stay, with what
was known of them under the path before. An update under the new one looks as if it were the first
exactly if nothing of that shows. -/
namespace ColorSpans.Sass

/-- The states that updates get variables into, under whatever paths, as long as none fails and the
disk stays. Where a buffer without a file has relative imports, the disk knows what they stand
for. -/
inductive Updated (owner : Nat) (matcher : Option Matcher) (world : World) : State → Prop
  | start : Updated owner matcher world (.start owner matcher world)
  | update {s : State} {path : Option String} {lines : List String} {range : Sheet.Range}
      (before : Updated owner matcher world s)
      (known : Variables.keyOf s.world.disk path = Variables.bufferKey → ∀ sheet,
        s.held.rereadSheet Variables.bufferKey lines range = .ok sheet →
        s.world.disk.Knows (sheet.candidates Variables.bufferKey))
      (done : s.outcome (.update path lines range) = .ok ()) :
      Updated owner matcher world (s.step (.update path lines range))

namespace Variables

variable {v : Variables} {key path : String}

/-- A sheet that stays when the buffer gets another path. -/
def Keeps (v : Variables) (path : String) : Prop := path ∈ v.sheets ∧ v.root ≠ some path

theorem isAbsolute_keyOf {disk : Disk} {given : Option String}
    (named : keyOf disk given ≠ bufferKey) :
    Path.isAbsolute (keyOf disk given) = true := by
  unfold keyOf at named ⊢
  split
  · exact absurd rfl named
  · exact absurd rfl named
  · exact Path.isAbsolute_real _ _

theorem getElem?_sheetsWithoutOldRoot (path : String) : (v.sheetsWithoutOldRoot key)[path]? =
    if v.root = some path ∧ path ≠ key then none else v.sheets[path]? := by
  rw [sheetsWithoutOldRoot]
  cases rooted : v.root with
  | none => rfl
  | some root =>
    dsimp only
    by_cases same : root = key
    · rw [if_pos same, if_neg fun both => both.2 ((Option.some.inj both.1).symm.trans same)]
    · rw [if_neg same, Std.ExtTreeMap.getElem?_erase]
      simp only [Std.LawfulEqCmp.compare_eq_iff_eq, Option.some.injEq]
      by_cases this : root = path
      · rw [if_pos this, if_pos ⟨this, fun own => same (this.trans own)⟩]
      · rw [if_neg this, if_neg fun both => this both.1]

theorem getElem?_startRoot (world : World) (sheet : Sheet) (path : String) :
    (v.startRoot world key sheet).sheets[path]? =
      if path = key then some sheet else if v.root = some path then none else v.sheets[path]? := by
  rw [startRoot, Std.ExtTreeMap.getElem?_insert]
  by_cases own : path = key
  · rw [if_pos own, if_pos (own ▸ Std.ReflCmp.compare_self)]
  · rw [if_neg own, if_neg fun same => own (Std.LawfulEqCmp.eq_of_compare same).symm,
      getElem?_sheetsWithoutOldRoot]
    simp only [own, ne_eq, not_false_eq_true, and_true]

theorem mem_startRoot (world : World) (sheet : Sheet) (path : String) :
    path ∈ (v.startRoot world key sheet).sheets ↔ path = key ∨ v.Keeps path := by
  rw [Std.ExtTreeMap.mem_iff_isSome_getElem?, getElem?_startRoot, Keeps,
    Std.ExtTreeMap.mem_iff_isSome_getElem?]
  by_cases own : path = key <;> by_cases before : v.root = some path <;> simp [own, before]

end Variables

theorem knows_keyOf {disk : Disk} {given : Option String} (consistent : disk.IsConsistent)
    {sheet : Sheet} (known : Variables.keyOf disk given = Variables.bufferKey →
      disk.Knows (sheet.candidates Variables.bufferKey)) :
    disk.Knows (sheet.candidates (Variables.keyOf disk given)) := by
  by_cases unnamed : Variables.keyOf disk given = Variables.bufferKey
  · exact unnamed ▸ known unnamed
  · exact consistent.knows (Variables.isAbsolute_keyOf unnamed) sheet

namespace Honest

variable {v : Variables} {disk : Disk} {world : World} {key : String} {sheet : Sheet} {s : Loaded}

theorem startRoot (h : Honest v.loader disk [] (v.start world)) (key : String) (sheet : Sheet) :
    Honest (v.setRoot key).loader disk [key] (v.startRoot world key sheet) := by
  have mem (path : String) : path ∈ (v.startRoot world key sheet).sheets ↔
      path = key ∨ v.Keeps path :=
    v.mem_startRoot world sheet path
  have other : ∀ path, (v.setRoot key).loader.root ≠ some path → path ≠ key := fun path root same =>
    root (congrArg some same.symm)
  have kept : ∀ (path : String) (held : Sheet),
      (v.startRoot world key sheet).sheets[path]? = some held →
      path ≠ key → v.root ≠ some path ∧ v.sheets[path]? = some held := by
    intro path held found apart
    rw [Variables.getElem?_startRoot, if_neg apart] at found
    split at found
    · cases found
    · exact ⟨‹_›, found⟩
  refine ⟨h.same, ?_, ?_, ?_, ?_, ?_, h.recorded⟩
  · intro path busy
    rw [List.mem_singleton] at busy
    exact (mem path).2 (.inl busy)
  · intro path there root
    obtain ⟨held, before⟩ := ((mem path).1 there).resolve_left (other path root)
    exact h.absolute path held before
  · intro path held found root
    obtain ⟨before, found⟩ := kept path held found (other path root)
    exact h.tells path held found before
  · intro path held found idle
    have apart : path ≠ key := fun same => idle (List.mem_singleton.2 same)
    exact h.links path held (kept path held found apart).2 List.not_mem_nil
  · intro path there root
    obtain ⟨held, before⟩ := ((mem path).1 there).resolve_left (other path root)
    exact h.current path held before

theorem begins (h : Honest v.loader disk [] (v.start world))
    (known : disk.Knows (sheet.candidates key)) :
    (Task.imports key).Begins (v.setRoot key).loader disk [key] (v.startRoot world key sheet) := by
  refine ⟨rfl, fun held found => ?_, h.startRoot key sheet⟩
  rw [Variables.getElem?_startRoot, if_pos rfl] at found
  exact Option.some.inj found ▸ known

theorem commit (h : Honest v.loader disk [] s) :
    Honest (v.commit s).1.loader disk [] ((v.commit s).1.start (v.commit s).2) := by
  have there : ∀ path, path ∈ (v.commit s).1.sheets → path ∈ s.sheets := by
    intro path held
    obtain ⟨sheet, found⟩ := exists_sheet held
    exact mem_of_sheet (Variables.of_sheets_commit found)
  refine ⟨(v.disk_commit s).trans h.same, ?_, ?_, ?_, ?_, ?_, ?_⟩
  · exact fun path none => absurd none List.not_mem_nil
  · exact fun path held => h.absolute path (there path held)
  · exact fun path sheet found => h.tells path sheet (Variables.of_sheets_commit found)
  · exact fun path sheet found => h.links path sheet (Variables.of_sheets_commit found)
  · exact fun path held other =>
      (v.getElem?_stamps_commit_of_mem s held).trans (h.current path (there path held) other)
  · intro path stamp found
    have found : (v.commit s).1.stamps[path]? = some stamp := found
    rw [v.getElem?_stamps_commit] at found
    split at found
    · cases found
    · exact h.recorded path stamp found

end Honest

namespace Updated

variable {owner : Nat} {matcher : Option Matcher} {world : World} {s : State}

theorem reachable (run : Updated owner matcher world s) : Reachable owner matcher s := by
  induction run with
  | start => exact .start world
  | update _ _ _ ih => exact .step _ ih

theorem honest (run : Updated owner matcher world s) (consistent : world.disk.IsConsistent) :
    Honest s.held.loader world.disk [] (s.held.start s.world) := by
  induction run with
  | start =>
    have none (path : String) : path ∉ ((Variables.new owner matcher).start world).sheets :=
      Std.ExtTreeMap.not_mem_empty
    refine ⟨rfl, ?_, ?_, ?_, ?_, ?_, ?_⟩
    · exact fun path busy => absurd busy List.not_mem_nil
    · exact fun path held => absurd held (none path)
    · exact fun path sheet found => absurd (mem_of_sheet found) (none path)
    · exact fun path sheet found => absurd (mem_of_sheet found) (none path)
    · exact fun path held => absurd held (none path)
    · intro path stamp found
      simp [State.start, Variables.start, Variables.new] at found
  | @update s path lines range before known done honest =>
    have move := s.moves (.update path lines range)
    rw [done] at move
    generalize s.step (.update path lines range) = t at move
    cases move with
    | @updated _ _ _ key sheet _ _ _ named good course =>
      have spelled : world.disk.Knows (sheet.candidates key) := by
        subst named
        rw [← honest.same] at consistent ⊢
        exact knows_keyOf consistent fun unnamed => known unnamed sheet (unnamed ▸ good)
      exact (course.honest consistent (honest.begins spelled) rfl).2.commit

end Updated

namespace Source

variable {src : Source} {path : String}

/-- The buffer's own file leads to another by imports, without going through sheets that stay. -/
def Passes (src : Source) (v : Variables) : String → Prop :=
  Relation.ReflTransGen (fun a b => src.Imports a b ∧ ¬v.Keeps b) src.root

theorem leads_of_passes {v : Variables} (passes : src.Passes v path) : src.Leads path :=
  Relation.ReflTransGen.mono (fun _ _ step => step.1) _ _ passes

theorem filter_edgesOf (src : Source) (importer : String) (sheet : Sheet) :
    (src.edgesOf importer sheet).filter src.isForeign =
      (src.disk.edgesOf importer sheet).filter (· != src.root) := by
  rw [edgesOf, Disk.edgesOf, filter_foldl_addEdge, filter_foldl_addEdge, List.filter_filter,
    List.filter_filter, List.filter_nil, List.filter_nil]
  refine congrArg (List.foldl addEdge []) (List.filter_congr fun q _ => ?_)
  rw [isForeign, isLinked, Disk.has]
  cases (src.disk.stamp? q).isSome <;> simp

end Source

theorem Honest.edge_iff {src : Source} {l : Loader} {t : Loaded} {a b : String} {sheet : Sheet}
    (h : Honest l src.disk [] t) (found : t.sheets[a]? = some sheet) (tells : src.Tells a sheet)
    (readable : (src.lines? b).isSome = true) (other : b ≠ src.root) :
    b ∈ sheet.edges ↔ src.Imports a b := by
  have foreign := Source.isForeign_of_readable readable other
  have links := h.links a sheet found List.not_mem_nil
  have listed : b ∈ (sheet.edges.filter src.disk.has).filter (· != src.root) ↔ b ∈ sheet.edges := by
    simp only [List.mem_filter, bne_iff_ne]
    exact ⟨fun both => both.1.1, fun edge => ⟨⟨edge, (Bool.and_eq_true_iff.1 foreign).2⟩, other⟩⟩
  rw [← listed, links, ← Source.filter_edgesOf, List.mem_filter, tells.imports_iff]
  exact ⟨fun both => ⟨both.1, readable⟩, fun both => ⟨both.1, foreign⟩⟩

/-- What an update has loaded that gives the buffer another path: the sheets that stay, and those
that are come to past them. Nothing that was watched is forgotten. -/
structure Renamed (src : Source) (v : Variables) (t : Loaded) : Prop where
  honest : Honest (v.setRoot src.root).loader src.disk [] t
  tells : ∀ (path : String) (sheet : Sheet), t.sheets[path]? = some sheet → src.Tells path sheet
  held : ∀ path, path ∈ t.sheets ↔ v.Keeps path ∨ src.Passes v path
  watched : ∀ path, path ∈ t.watches ↔ path ∈ v.watches ∨ (path ∈ t.sheets ∧ path ≠ src.root)
  paired : t.Paired

/-- Nothing of the path before shows: the new one was not watched, no watch is left behind, and
imports lead to nothing that sheets which stay hide. -/
structure Variables.Forgets (v : Variables) (src : Source) : Prop where
  unwatched : src.root ∉ v.watches
  released : ∀ path ∈ v.watches, v.Keeps path ∨ src.Leads path
  passed : ∀ path, src.Leads path → v.Keeps path ∨ src.Passes v path

namespace Renamed

variable {src : Source} {v : Variables} {t : Loaded} {a b path : String}

theorem root_mem (h : Renamed src v t) : src.root ∈ t.sheets := (h.held _).2 (.inr .refl)

theorem mem_sheets (src : Source) (v : Variables) (t : Loaded) (path : String) :
    path ∈ ((v.setRoot src.root).commit t).1.sheets ↔ path ∈ reachable t.sheets (some src.root) :=
  Variables.mem_sheets_commit rfl

theorem apart (other : path ≠ src.root) : (v.setRoot src.root).loader.root ≠ some path :=
  fun same =>
  other (Option.some.inj same).symm

theorem edge_iff (h : Renamed src v t) {sheet : Sheet} (found : t.sheets[a]? = some sheet)
    (there : b ∈ t.sheets) (other : b ≠ src.root) : b ∈ sheet.edges ↔ src.Imports a b := by
  obtain ⟨own, foundOwn⟩ := exists_sheet there
  exact h.honest.edge_iff found (h.tells a sheet found) (h.tells b own foundOwn).readable other

theorem leads_of_reachable (h : Renamed src v t)
    (found : path ∈ reachable t.sheets (some src.root)) :
    src.Leads path := by
  have chain := (leads_of_mem_reachable found).2
  clear found
  induction chain with
  | refl => exact .refl
  | @tail a b _ edge ih =>
    obtain ⟨edges, node, listed, target⟩ := edge
    obtain ⟨sheet, found, rfl⟩ := Option.map_eq_some_iff.1 node
    by_cases own : b = src.root
    · exact own ▸ .refl
    · exact ih.tail ((h.edge_iff found (isSome_edgesOf.1 target) own).1 listed)

theorem reachable_of_leads (h : Renamed src v t)
    (passed : ∀ path, src.Leads path → v.Keeps path ∨ src.Passes v path) (leads : src.Leads path) :
    path ∈ reachable t.sheets (some src.root) := by
  induction leads with
  | refl => exact root_mem_reachable h.root_mem
  | @tail a b chain imports ih =>
    by_cases own : b = src.root
    · rw [own]
      exact root_mem_reachable h.root_mem
    · have there : b ∈ t.sheets := (h.held b).2 (passed b (chain.tail imports))
      obtain ⟨sheet, found⟩ := exists_sheet (mem_of_mem_reachable ih)
      have listed := (h.edge_iff found there own).2 imports
      exact mem_reachable_of_edge ih
        ⟨sheet.edges, by rw [edgesOf, found]; rfl, listed, isSome_edgesOf.2 there⟩

theorem mem_watches (h : Renamed src v t) (path : String) :
    path ∈ ((v.setRoot src.root).commit t).1.watches ↔
      (path ∈ v.watches ∨ (path ∈ t.sheets ∧ path ≠ src.root)) ∧
        (path ∈ t.sheets → path ∈ ((v.setRoot src.root).commit t).1.sheets) := by
  rw [← h.watched path, Std.ExtTreeMap.mem_iff_isSome_getElem?, Variables.getElem?_watches_commit]
  have swept : path ∈ (v.setRoot src.root).swept t ↔
      path ∈ t.sheets ∧ path ∉ ((v.setRoot src.root).commit t).1.sheets := by
    rw [Variables.mem_swept, mem_sheets]
    rfl
  by_cases gone : path ∈ (v.setRoot src.root).swept t
  · rw [if_pos gone]
    exact iff_of_false nofun fun both => (swept.1 gone).2 (both.2 (swept.1 gone).1)
  · rw [if_neg gone, ← Std.ExtTreeMap.mem_iff_isSome_getElem?]
    exact (and_iff_left fun there => by_contra fun lost => gone (swept.2 ⟨there, lost⟩)).symm

/-- A commit leaves just what a new table would have, exactly if nothing of the path before
shows. -/
theorem forgets_iff (h : Renamed src v t) : v.Forgets src ↔
    (∀ path, path ∈ ((v.setRoot src.root).commit t).1.sheets ↔ src.Leads path) ∧
    ∀ path, path ∈ ((v.setRoot src.root).commit t).1.watches ↔
      src.Leads path ∧ path ≠ src.root := by
  have mem := mem_sheets src v t
  constructor
  · intro forgets
    have led (path : String) :
        path ∈ ((v.setRoot src.root).commit t).1.sheets ↔ src.Leads path := by
      rw [mem]
      exact ⟨h.leads_of_reachable, h.reachable_of_leads forgets.passed⟩
    refine ⟨led, fun path => ?_⟩
    rw [h.mem_watches, led]
    constructor
    · rintro ⟨watched | ⟨there, other⟩, stays⟩
      · refine ⟨?_, fun own => forgets.unwatched (own ▸ watched)⟩
        rcases forgets.released path watched with keeps | leads
        · exact stays ((h.held path).2 (.inl keeps))
        · exact leads
      · exact ⟨stays there, other⟩
    · rintro ⟨leads, other⟩
      exact ⟨.inr ⟨(h.held path).2 (forgets.passed path leads), other⟩, fun _ => leads⟩
  · rintro ⟨led, watched⟩
    refine ⟨fun root => ?_, fun path before => ?_, fun path leads => ?_⟩
    · refine ((watched src.root).1 ((h.mem_watches _).2 ⟨.inl root, fun _ => ?_⟩)).2 rfl
      exact (led _).2 .refl
    · -- A commit cancels no watch of a file that has no sheet.
      by_contra neither
      obtain ⟨loses, strays⟩ := not_or.1 neither
      have gone : path ∉ t.sheets := fun there =>
        ((h.held path).1 there).elim loses fun passes => strays (Source.leads_of_passes passes)
      exact strays ((watched path).1 ((h.mem_watches path).2
        ⟨.inl before, fun there => absurd there gone⟩)).1
    · exact (h.held path).1 (mem_of_mem_reachable ((mem path).1 ((led path).2 leads)))

theorem mirrors (h : Renamed src v t)
    (led : ∀ path, path ∈ ((v.setRoot src.root).commit t).1.sheets ↔ src.Leads path)
    (watched : ∀ path, path ∈ ((v.setRoot src.root).commit t).1.watches ↔
      src.Leads path ∧ path ≠ src.root) : Mirrors src ((v.setRoot src.root).commit t).1 := by
  have pairedAfter : Loaded.Paired (((v.setRoot src.root).commit t).1.start
      ((v.setRoot src.root).commit t).2) := h.paired.dropAll _
  refine ⟨led, fun path sheet found => h.tells path sheet (Variables.of_sheets_commit found),
    ?_, ?_, ?_, Variables.definitions_commit rfl⟩
  · intro path sheet found
    rw [Source.filter_edgesOf,
      ← h.honest.links path sheet (Variables.of_sheets_commit found) List.not_mem_nil,
        List.filter_filter]
    rfl
  · intro path
    split
    · rename_i there
      rw [Variables.getElem?_stamps_commit_of_mem _ _ there.1]
      obtain ⟨sheet, found⟩ := exists_sheet there.1
      exact h.honest.current path (mem_of_sheet (Variables.of_sheets_commit found)) (apart there.2)
    · rename_i gone
      rw [led, ← watched] at gone
      have absent := mt (pairedAfter path).2 gone
      rwa [Std.ExtTreeMap.mem_iff_isSome_getElem?, Option.not_isSome_iff_eq_none] at absent
  · exact fun path => (watched path).trans (and_congr_left' (led path).symm)

end Renamed

section

variable {src : Source} {v : Variables} {world : World} {lines : List String} {sheet : Sheet}
  {path : String}

theorem Honest.reread_iff (h : Honest v.loader src.disk [] (v.start world))
    (matched : v.matcher = src.matcher) (renames : v.root ≠ some src.root) :
    v.rereadSheet src.root lines .whole = .ok sheet ↔ Sheet.read src.matcher lines = .ok sheet := by
  rw [Variables.rereadSheet_whole, matched]
  intro old found
  rw [Variables.getElem?_sheetsWithoutOldRoot, if_neg fun both => both.2 rfl] at found
  exact (h.tells src.root old found renames).numbered

theorem Source.eq_root_or_of_passes (passes : src.Passes v path) :
    path = src.root ∨ ¬v.Keeps path := by
  rcases Relation.ReflTransGen.cases_tail passes with own | ⟨_, _, step⟩
  · exact .inl own
  · exact .inr step.2

variable {t : Loaded} {notes : List Note} {edges : List String}

theorem Honest.tells_of_grows (h : Honest (v.setRoot src.root).loader src.disk [] t)
    (grows : (v.startRoot world src.root sheet).Grows t) (matched : v.matcher = src.matcher)
    (read : Sheet.read src.matcher src.own = .ok sheet) {held : Sheet}
    (found : t.sheets[path]? = some held) :
    src.Tells path held := by
  by_cases own : path = src.root
  · subst own
    have first : (v.startRoot world src.root sheet).sheets[src.root]? = some sheet := by
      rw [Variables.getElem?_startRoot, if_pos rfl]
    obtain ⟨_, found', declarations, imports⟩ := grows.held _ sheet first
    obtain rfl := Option.some.inj (found.symm.trans found')
    exact ⟨src.own, sheet, Source.lines?_root, read, declarations, imports⟩
  · obtain ⟨text, fresh, lines, rest⟩ := h.tells path held found (Renamed.apart own)
    exact ⟨text, fresh, (Source.lines?_of_ne own).trans lines, matched ▸ rest⟩

theorem Course.mem_sheets_iff
    (course : Course (v.setRoot src.root).loader [src.root] (.imports src.root)
      (v.startRoot world src.root sheet) notes (.ok edges) t)
    (honest : Honest v.loader src.disk [] (v.start world)) (matched : v.matcher = src.matcher)
    (consistent : src.disk.IsConsistent) (known : src.disk.Knows (sheet.candidates src.root))
    (read : Sheet.read src.matcher src.own = .ok sheet) :
    path ∈ t.sheets ↔ v.Keeps path ∨ src.Passes v path := by
  have begins := honest.begins known
  have grows := (course.honest consistent begins rfl).1
  have mem (q : String) : q ∈ (v.startRoot world src.root sheet).sheets ↔
      q = src.root ∨ v.Keeps q :=
    v.mem_startRoot world sheet q
  have asks : (Task.imports src.root).asks src.disk (v.startRoot world src.root sheet) =
      (sheet.candidates src.root).map src.disk.real := by
    rw [Task.asks, Variables.getElem?_startRoot, if_pos rfl]
    rfl
  have imports (q : String) : src.Imports src.root q ↔
      q ∈ (Task.imports src.root).asks src.disk (v.startRoot world src.root sheet) ∧
        (src.lines? q).isSome = true := by
    rw [asks]
    exact Source.imports_iff_of_read Source.lines?_root read
  have spread (a b : String) (passes : src.Passes v a) (edge : src.Imports a b) :
      b ∈ (v.startRoot world src.root sheet).sheets ∨ src.Passes v b := by
    by_cases keeps : v.Keeps b
    · exact .inl ((mem b).2 (.inr keeps))
    · exact .inr (passes.tail ⟨edge, keeps⟩)
  obtain ⟨reached, closed⟩ :=
    course.covers rfl matched consistent begins ((mem _).2 (.inl rfl)) spread
    (fun q listed readable => spread _ q .refl ((imports q).2 ⟨listed, readable⟩)) rfl
  -- A file that is passed through is the buffer's own or new, so that the load has come to its
  -- imports.
  have onward (a b : String) (passes : src.Passes v a) (there : a ∈ t.sheets)
    (edge : src.Imports a b) :
      b ∈ t.sheets := by
    by_cases own : a = src.root
    · subst own
      exact reached b ((imports b).1 edge).1 ((imports b).1 edge).2
    · have strange := (Source.eq_root_or_of_passes passes).resolve_left own
      exact (closed a there fun early => ((mem a).1 early).elim own strange).2 b edge
  constructor
  · intro held
    by_cases early : path ∈ (v.startRoot world src.root sheet).sheets
    · exact ((mem path).1 early).elim (fun own => own ▸ .inr .refl) .inl
    · exact .inr (closed path held early).1
  · rintro (keeps | passes)
    · exact grows.mem ((mem path).2 (.inr keeps))
    · induction passes with
      | refl => exact grows.mem ((mem _).2 (.inl rfl))
      | tail passes step ih => exact onward _ _ passes ih step.1

theorem Course.mem_watches_iff
    (course : Course (v.setRoot src.root).loader [src.root] (.imports src.root)
      (v.startRoot world src.root sheet) notes (.ok edges) t)
    (paired : (v.start world).Paired) (grows : (v.startRoot world src.root sheet).Grows t)
    (recorded : ∀ q ∈ t.sheets, q ≠ src.root → q ∈ t.stamps) :
    path ∈ t.watches ↔ path ∈ v.watches ∨ (path ∈ t.sheets ∧ path ≠ src.root) := by
  rw [course.paired paired path]
  constructor
  · intro known
    by_cases own : path = src.root
    · subst own
      exact .inl ((course.spares rfl (fun _ => Task.noConfusion) paired).1.1
        ((course.paired paired _).2 known))
    · exact (grows.new path known).imp (paired path).2 fun there => ⟨there, own⟩
  · rintro (watched | ⟨there, other⟩)
    · exact grows.recorded path ((paired path).1 watched)
    · exact recorded path there other

theorem Renamed.of_course (honest : Honest v.loader src.disk [] (v.start world))
    (paired : (v.start world).Paired) (matched : v.matcher = src.matcher)
    (consistent : src.disk.IsConsistent) (known : src.disk.Knows (sheet.candidates src.root))
    (read : Sheet.read src.matcher src.own = .ok sheet)
    (course : Course (v.setRoot src.root).loader [src.root] (.imports src.root)
      (v.startRoot world src.root sheet) notes (.ok edges) t) : Renamed src v t := by
  obtain ⟨grows, ends⟩ := course.honest consistent (honest.begins known) rfl
  have tells : ∀ (q : String) (held : Sheet), t.sheets[q]? = some held → src.Tells q held :=
    fun _ _ => ends.tells_of_grows grows matched read
  have recorded : ∀ q ∈ t.sheets, q ≠ src.root → q ∈ t.stamps := by
    intro q there other
    obtain ⟨held, found⟩ := exists_sheet there
    rw [Std.ExtTreeMap.mem_iff_isSome_getElem?, ends.current q there (Renamed.apart other)]
    exact (Bool.and_eq_true_iff.1
      (Source.isForeign_of_readable (tells q held found).readable other)).2
  exact ⟨ends, tells, fun _ => course.mem_sheets_iff honest matched consistent known read,
    fun _ => course.mem_watches_iff paired grows recorded, course.paired paired⟩

end

structure State.Awaits (s : State) (src : Source) (path : Option String) : Prop where
  named : Variables.keyOf s.world.disk path = src.root
  matched : s.held.matcher = src.matcher
  consistent : src.disk.IsConsistent
  honest : Honest s.held.loader src.disk [] (s.held.start s.world)
  paired : (s.held.start s.world).Paired
  whole : ∀ sheet, s.held.rereadSheet src.root src.own .whole = .ok sheet ↔
    Sheet.read src.matcher src.own = .ok sheet
  known : ∀ sheet, Sheet.read src.matcher src.own = .ok sheet →
    src.disk.Knows (sheet.candidates src.root)

namespace State.Awaits

variable {s : State} {src : Source} {path : Option String}

theorem renamed (h : s.Awaits src path) (done : s.outcome (.update path src.own .whole) = .ok ()) :
    ∃ t, Renamed src s.held t ∧
      (s.step (.update path src.own .whole)).held = ((s.held.setRoot src.root).commit t).1 := by
  have move := s.moves (.update path src.own .whole)
  rw [done] at move
  generalize s.step (.update path src.own .whole) = after at move ⊢
  cases move with
  | @updated _ _ _ _ sheet _ _ t key good course =>
    obtain rfl := key.symm.trans h.named
    have read := (h.whole sheet).1 good
    exact ⟨t, .of_course h.honest h.paired h.matched h.consistent (h.known sheet read) read course,
      rfl⟩

theorem succeeds (h : s.Awaits src path) {inside : String → Prop} (sound : src.Sound inside)
    (own : inside src.root) : s.outcome (.update path src.own .whole) = .ok () := by
  obtain ⟨lines, sheet, found, read, closed⟩ := sound src.root own
  obtain rfl : src.own = lines := Option.some.inj (Source.lines?_root.symm.trans found)
  have move := s.moves (.update path src.own .whole)
  generalize s.step (.update path src.own .whole) = t at move
  generalize s.outcome (.update path src.own .whole) = outcome at move
  cases move with
  | unread bad =>
    rw [h.named, (h.whole sheet).2 read] at bad
    cases bad
  | @unloaded _ _ _ _ sheet' _ _ _ key good course =>
    obtain rfl := key.symm.trans h.named
    obtain rfl : sheet = sheet' := Except.ok.inj (read.symm.trans ((h.whole sheet').1 good))
    obtain ⟨_, ended⟩ := course.ends_of_sound rfl h.matched h.consistent
      (h.honest.begins (h.known sheet read)) sound
      fun q listed readable => closed q (by
        rw [Task.asks, Variables.getElem?_startRoot, if_pos rfl] at listed
        obtain ⟨candidate, asked, rfl⟩ := List.mem_map.1 listed
        exact Source.mem_edgesOf.2 ⟨⟨candidate, asked, rfl⟩, Source.isLinked_of_readable readable⟩)
          readable
    cases ended
  | updated => rfl

end State.Awaits

section

variable {owner : Nat} {matcher : Option Matcher} {world : World} {s : State} {path : String}
  {lines : List String}

theorem Updated.renamed (run : Updated owner matcher world s) (consistent : world.disk.IsConsistent)
    (named : path ≠ "") (renames : s.held.root ≠ some (world.disk.real path))
    (done : s.outcome (.update (some path) lines .whole) = .ok ()) :
    ∃ t, Renamed ⟨world.disk, matcher, world.disk.real path, lines⟩ s.held t ∧
      (s.step (.update (some path) lines .whole)).held =
        ((s.held.setRoot (world.disk.real path)).commit t).1 := by
  have honest := run.honest consistent
  have matched := run.reachable.matcher_eq
  have disk : s.world.disk = world.disk := honest.same
  have awaits : s.Awaits ⟨world.disk, matcher, world.disk.real path, lines⟩ (some path) :=
    ⟨by rw [Upkeep.keyOf_some _ named, disk], matched, consistent, honest, run.reachable.paired,
      fun _ => honest.reread_iff matched renames,
        fun sheet _ => consistent.knows (Path.isAbsolute_real _ _) sheet⟩
  exact awaits.renamed done

theorem Mirrors.sound {src : Source} {v : Variables} (h : Mirrors src v) : src.Sound src.Leads := by
  intro p leads
  obtain ⟨sheet, found⟩ := exists_sheet ((h.led p).2 leads)
  obtain ⟨text, fresh, lines, read, rest⟩ := h.tells p sheet found
  exact ⟨text, fresh, lines, read, fun q listed readable =>
    leads.tail ⟨text, fresh, lines, read, listed, readable⟩⟩

theorem Upkeep.scratch_cases (consistent : world.disk.IsConsistent) (named : path ≠ "")
    (other : Nat) :
    (scratch other matcher world path (some lines)).held.sheets = ∅ ∨
      Mirrors ⟨world.disk, matcher, world.disk.real path, lines⟩
        (scratch other matcher world path (some lines)).held := by
  have move := (State.start other matcher world).moves (.update (some path) lines .whole)
  cases done : (State.start other matcher world).outcome (.update (some path) lines .whole) with
  | ok =>
    have tracks := State.tracks_of_update (s := .start other matcher world)
      ⟨world.disk, matcher, world.disk.real path, lines⟩ (keyOf_some world.disk named)
        rfl consistent
      (ready_new rfl) done
    exact .inr tracks.mirrors
  | error e =>
    rw [done] at move
    left
    unfold scratch
    dsimp only
    generalize (State.start other matcher world).step (.update (some path) lines .whole) =
      t at move ⊢
    cases move <;> rfl

theorem Upkeep.mirrors_scratch (consistent : world.disk.IsConsistent) (named : path ≠ "")
    (other : Nat) {v : Variables}
    (h : Mirrors ⟨world.disk, matcher, world.disk.real path, lines⟩ v) :
    Mirrors ⟨world.disk, matcher, world.disk.real path, lines⟩
      (scratch other matcher world path (some lines)).held := by
  have key := keyOf_some world.disk named
  obtain ⟨text, fresh, found, read, -⟩ := h.sound _ .refl
  obtain rfl : text = lines := Option.some.inj (found.symm.trans Source.lines?_root)
  have done : (State.start other matcher world).outcome (.update (some path) text .whole) =
      .ok () :=
    State.update_succeeds (s := .start other matcher world)
      ⟨world.disk, matcher, world.disk.real path, text⟩ key rfl consistent (ready_new rfl)
      ((rereadSheet_new rfl _).2 read) h.sound .refl
  have tracks := State.tracks_of_update (s := .start other matcher world)
    ⟨world.disk, matcher, world.disk.real path, text⟩ key rfl consistent (ready_new rfl) done
  exact tracks.mirrors

/-- A buffer that gets another path looks as if it had just been made with it, exactly if nothing of
the path before shows. -/
theorem alike_renamed_iff (run : Updated owner matcher world s)
    (consistent : world.disk.IsConsistent) (named : path ≠ "")
    (renames : s.held.root ≠ some (world.disk.real path))
    (done : s.outcome (.update (some path) lines .whole) = .ok ()) (other : Nat) {again : World}
    (same : again.disk = world.disk) :
    Alike world.disk (s.step (.update (some path) lines .whole)).held
        (Upkeep.scratch other matcher again path (some lines)).held ↔
      s.held.Forgets ⟨world.disk, matcher, world.disk.real path, lines⟩ := by
  obtain ⟨t, renamed, held⟩ := run.renamed consistent named renames done
  rw [held, renamed.forgets_iff]
  rw [← same] at consistent renamed ⊢
  constructor
  · intro alike
    rcases Upkeep.scratch_cases consistent named other with empty | mirrors
    · have there := (alike.files (again.disk.real path)).1
        ((Variables.mem_sheets_commit rfl).2 (root_mem_reachable renamed.root_mem))
      rw [empty] at there
      exact absurd there Std.ExtTreeMap.not_mem_empty
    · refine ⟨fun p => (alike.files p).trans (mirrors.led p), fun p => ?_⟩
      exact (alike.watched p).trans ((mirrors.watched p).trans (and_congr_left' (mirrors.led p)))
  · rintro ⟨led, watched⟩
    have mirrors := renamed.mirrors led watched
    exact mirrors.alike (Upkeep.mirrors_scratch consistent named other mirrors) _

end

namespace Upkeep

theorem updated_imported : Updated 0 (some sixDigits) worldBefore imported.state :=
  .update .start (fun unnamed => absurd unnamed (by decide +kernel))
    (eq_ok_of_toOption (by decide +kernel))

def movedLines : List String := ["@import \"v\";", "$d: #333333;"]

def moved : State := imported.state.step (.update (some "/other.scss") movedLines .whole)

def movedAnew : State := scratch 1 (some sixDigits) worldBefore "/other.scss" (some movedLines)

theorem alike_renamed_moved : imported.state.held.root ≠ some "/other.scss" ∧
    moved.held.definitions.toList = [("c", "111111"), ("d", "333333")] ∧
    Alike worldBefore.disk moved.held movedAnew.held := by
  have consistent : worldBefore.disk.IsConsistent := isConsistent_diskWith _ _
  have named : "/other.scss" ≠ "" := by decide
  have real : worldBefore.disk.real "/other.scss" = "/other.scss" := by decide +kernel
  have before : imported.state.held.root ≠ some "/other.scss" ∧
      imported.state.held.root ≠ some "/v.scss" ∧
      "/v.scss" ∈ imported.state.held.sheets ∧ imported.state.held.watches.keys = ["/v.scss"] := by
    decide +kernel
  have after : (imported.state.outcome (.update (some "/other.scss") movedLines .whole)).toOption =
      some () ∧
      moved.held.definitions.toList = [("c", "111111"), ("d", "333333")] := by decide +kernel
  have anew : movedAnew.held.sheets.keys = ["/other.scss", "/v.scss"] := by decide +kernel
  obtain ⟨renames, other, there, watches⟩ := before
  have watched (path : String) : path ∈ imported.state.held.watches ↔ path = "/v.scss" := by
    rw [← Std.ExtTreeMap.mem_keys, watches, List.mem_singleton]
  have led : ∀ path, Source.Leads ⟨worldBefore.disk, some sixDigits, "/other.scss",
      movedLines⟩ path → path = "/other.scss" ∨ path = "/v.scss" := by
    intro path leads
    have tracked : movedAnew.held.sheets = ∅ ∨
        Mirrors ⟨worldBefore.disk, some sixDigits, worldBefore.disk.real "/other.scss", movedLines⟩
          movedAnew.held := scratch_cases consistent named 1
    rcases tracked with empty | mirrors
    · rw [empty] at anew
      cases anew
    · rw [real] at mirrors
      have held := Std.ExtTreeMap.mem_keys.2 ((mirrors.led path).2 leads)
      rw [anew] at held
      simpa using held
  have forgets : imported.state.held.Forgets
      ⟨worldBefore.disk, some sixDigits, worldBefore.disk.real "/other.scss", movedLines⟩ := by
    rw [real]
    refine ⟨fun root => ?_, fun path known => .inl ?_, fun path leads => ?_⟩
    · exact absurd ((watched _).1 root) (by decide)
    · rw [(watched path).1 known]
      exact ⟨there, other⟩
    · rcases led path leads with rfl | rfl
      · exact .inr .refl
      · exact .inl ⟨there, other⟩
  refine ⟨renames, after.2, ?_⟩
  exact (alike_renamed_iff updated_imported consistent named (real ▸ renames)
    (eq_ok_of_toOption after.1) 1
    rfl).2 forgets

def Remembers (world : World) (s : State) (path : String) (lines : List String) : Prop :=
  world.disk.IsConsistent ∧ Updated 0 (some sixDigits) world s ∧
    s.held.root ≠ some (world.disk.real path) ∧
      s.outcome (.update (some path) lines .whole) = .ok () ∧
    ¬Alike world.disk (s.step (.update (some path) lines .whole)).held
      (scratch 1 (some sixDigits) world path (some lines)).held

def taken : State := imported.state.step (.update (some "/v.scss") ["$y: #222222;"] .whole)

def backWorld : World :=
  ⟨⟨"/", ((diskWith "@import \"main\";" 1).files.insert "/main.scss" ⟨1, ["$m: #333333;"]⟩).insert
    "//main.scss"
    ⟨1, ["$m: #333333;"]⟩, []⟩, [], []⟩

def backed : State :=
  (State.start 0 (some sixDigits) backWorld).step
    (.update (some "/main.scss") ["@import \"v\";"] .whole)

/-- An import that becomes the buffer's own file stays watched, and goes on to be when the buffer
has left it. A file that was the buffer's own is not loaded for an import that stays. -/
theorem not_alike_renamed : Remembers worldBefore imported.state "/v.scss" ["$y: #222222;"] ∧
    Remembers worldBefore taken "/other.scss" [] ∧
    Remembers backWorld backed "/other.scss" ["@import \"v\";"] := by
  have consistent : worldBefore.disk.IsConsistent := isConsistent_diskWith _ _
  have consistent' : backWorld.disk.IsConsistent :=
    (isConsistent_diskWith "@import \"main\";" 1).insert "main.scss".toList (by decide) ⟨1,
      ["$m: #333333;"]⟩
  have first : imported.state.held.root ≠ some (worldBefore.disk.real "/v.scss") ∧
      (imported.state.outcome (.update (some "/v.scss") ["$y: #222222;"] .whole)).toOption =
        some () ∧
      "/v.scss" ∈ taken.held.watches ∧ "/v.scss" ∉ (scratch 1 (some sixDigits) worldBefore "/v.scss"
        (some ["$y: #222222;"])).held.watches := by decide +kernel
  have second : taken.held.root ≠ some (worldBefore.disk.real "/other.scss") ∧
      (taken.outcome (.update (some "/other.scss") [] .whole)).toOption = some () ∧
      "/v.scss" ∈ (taken.step (.update (some "/other.scss") [] .whole)).held.watches ∧
      "/v.scss" ∉ (scratch 1 (some sixDigits) worldBefore "/other.scss"
        (some [])).held.watches := by
    decide +kernel
  have started : Variables.keyOf backWorld.disk (some "/main.scss") ≠ Variables.bufferKey ∧
      ((State.start 0 (some sixDigits) backWorld).outcome
        (.update (some "/main.scss") ["@import \"v\";"] .whole)).toOption = some () := by
    decide +kernel
  have third : backed.held.root ≠ some (backWorld.disk.real "/other.scss") ∧
      (backed.outcome (.update (some "/other.scss") ["@import \"v\";"] .whole)).toOption = some () ∧
      "/main.scss" ∉ (backed.step
        (.update (some "/other.scss") ["@import \"v\";"] .whole)).held.sheets ∧
      "/main.scss" ∈ (scratch 1 (some sixDigits) backWorld "/other.scss"
        (some ["@import \"v\";"])).held.sheets := by decide +kernel
  have updated : Updated 0 (some sixDigits) worldBefore taken :=
    .update updated_imported (fun unnamed => absurd unnamed (by decide +kernel))
      (eq_ok_of_toOption first.2.1)
  have updated' : Updated 0 (some sixDigits) backWorld backed :=
    .update .start (fun unnamed => absurd unnamed started.1) (eq_ok_of_toOption started.2)
  refine ⟨⟨consistent, updated_imported, first.1, eq_ok_of_toOption first.2.1, fun alike => ?_⟩,
    ⟨consistent, updated, second.1, eq_ok_of_toOption second.2.1, fun alike => ?_⟩,
    ⟨consistent', updated', third.1, eq_ok_of_toOption third.2.1, fun alike => ?_⟩⟩
  · exact first.2.2.2 ((alike.watched _).1 first.2.2.1)
  · exact second.2.2.2 ((alike.watched _).1 second.2.2.1)
  · exact third.2.2.1 ((alike.files _).2 third.2.2.2)

end Upkeep

end ColorSpans.Sass
