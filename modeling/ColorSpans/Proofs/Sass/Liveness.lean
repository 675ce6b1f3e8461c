import ColorSpans.Proofs.Outcome
import ColorSpans.Proofs.Sass.Faithful
import ColorSpans.Proofs.Sass.Watching

/-! What is kept along a run. As long as no step fails and the buffer keeps its path, the files that
are kept are those that chains of imports lead to from the root, and all but the root are on record
and have one live watch. Files that only import each other are swept. -/
namespace ColorSpans.Sass

namespace Variables

def Imports (v : Variables) (disk : Disk) (importer path : String) : Prop :=
  ∃ given stamp, keyOf disk given = importer ∧ (path, stamp) ∈ v.importsOf disk given

/-- The key of some buffer, from wherever it is seen. -/
def IsKey (path : String) : Prop := ∀ disk : Disk, ∃ given, keyOf disk given = path

theorem isKey_real {disk : Disk} (absolute : Path.isAbsolute disk.working = true) (path : String) :
    IsKey (disk.real path) := by
  intro other
  refine ⟨some (disk.real path), ?_⟩
  have named : disk.real path ≠ "" := by
    intro none
    have slash : Path.isAbsolute (disk.real path) = true := Path.isAbsolute_real _ _
    rw [none] at slash
    cases slash
  rw [keyOf.eq_def]
  split
  · rename_i none
    cases none
  · rename_i none
    exact absurd (Option.some.inj none) named
  · rename_i same
    obtain rfl := Option.some.inj same
    exact Path.real_real absolute _ _

theorem isKey_keyOf {disk : Disk} (absolute : Path.isAbsolute disk.working = true)
    (given : Option String) : IsKey (keyOf disk given) := by
  rw [keyOf.eq_def]
  split
  · exact fun _ => ⟨none, rfl⟩
  · exact fun _ => ⟨none, rfl⟩
  · exact isKey_real absolute _

theorem imports_iff {v : Variables} {importer path : String} (key : IsKey importer) (disk : Disk) :
    v.Imports disk importer path ↔
      ∃ sheet, v.sheets[importer]? = some sheet ∧ path ∈ sheet.edges ∧ path ∈ v.stamps := by
  have told (given : Option String) : (∃ stamp, (path, stamp) ∈ v.importsOf disk given) ↔
      ∃ sheet, v.sheets[keyOf disk given]? = some sheet ∧ path ∈ sheet.edges ∧ path ∈ v.stamps := by
    rw [importsOf, sheetAt]
    cases v.sheets[keyOf disk given]? with
    | none => simp
    | some sheet =>
      constructor
      · rintro ⟨stamp, listed⟩
        obtain ⟨edge, there, found⟩ := List.mem_filterMap.1 listed
        obtain ⟨known, recorded, same⟩ := Option.map_eq_some_iff.1 found
        obtain ⟨rfl, rfl⟩ := Prod.mk.inj same
        refine ⟨sheet, rfl, there, Std.ExtTreeMap.mem_iff_isSome_getElem?.2 ?_⟩
        rw [recorded]
        rfl
      · rintro ⟨_, ⟨⟩, there, recorded⟩
        obtain ⟨stamp, found⟩ :=
          Option.isSome_iff_exists.1 (Std.ExtTreeMap.mem_iff_isSome_getElem?.1 recorded)
        refine ⟨stamp, List.mem_filterMap.2 ⟨path, there, ?_⟩⟩
        rw [found]
        rfl
  constructor
  · rintro ⟨given, stamp, rfl, there⟩
    exact (told given).1 ⟨stamp, there⟩
  · intro there
    obtain ⟨given, rfl⟩ := key disk
    obtain ⟨stamp, listed⟩ := (told given).2 there
    exact ⟨given, stamp, rfl, listed⟩

end Variables

open Variables

/-- What is held in good order: the root has a sheet, every other sheet is on record, every file on
record has its watch, and nothing else is on record or watched. -/
structure Loaded.Tended (owner : Nat) (root : String) (s : Loaded) : Prop where
  rooted : root ∈ s.sheets
  stamped : ∀ path, path ∈ s.stamps ↔ path ∈ s.sheets ∧ path ≠ root
  paired : s.Paired
  holds : s.world.board.Holds owner s.watches
  keys : ∀ path ∈ s.sheets, IsKey path

namespace Loaded.Tended

variable {owner : Nat} {root : String} {s : Loaded}

theorem noteRead (h : s.Tended owner root) (path : String) : (s.noteRead path).Tended owner root :=
  ⟨h.rooted, h.stamped, h.paired, h.holds, h.keys⟩

theorem drop (h : s.Tended owner root) {path : String} (other : path ≠ root) :
    (s.drop path).Tended owner root where
  rooted := (mem_sheets_drop s path root).2 ⟨other.symm, h.rooted⟩
  stamped q := by
    rw [mem_sheets_drop, stamps_drop, Std.ExtTreeMap.mem_erase, Ne,
      Std.LawfulEqCmp.compare_eq_iff_eq, h.stamped, and_assoc, eq_comm]
  paired := h.paired.drop path
  holds := holds_drop h.holds path
  keys q there := h.keys q ((mem_sheets_drop s path q).1 there).2

theorem dropAll (h : s.Tended owner root) {paths : List String} (other : root ∉ paths) :
    (s.dropAll paths).Tended owner root := by
  induction paths generalizing s with
  | nil => exact h
  | cons path paths ih =>
    have first : path ≠ root := fun same => other (same ▸ List.mem_cons_self)
    exact ih (h.drop first) fun later => other (List.mem_cons_of_mem _ later)

theorem take (h : s.Tended owner root) {path : String} (other : path ≠ root) (key : IsKey path)
    (stamp : Int) (sheet : Sheet) : (s.take owner path stamp sheet).Tended owner root where
  rooted := (mem_sheets_take s owner path stamp sheet root).2 (.inr h.rooted)
  stamped q := by
    rw [mem_sheets_take, stamps_take, Std.ExtTreeMap.mem_insert, Std.LawfulEqCmp.compare_eq_iff_eq,
      h.stamped]
    constructor
    · rintro (rfl | there)
      · exact ⟨.inl rfl, other⟩
      · exact ⟨.inr there.1, there.2⟩
    · rintro ⟨rfl | there, apart⟩
      · exact .inl rfl
      · exact .inr ⟨there, apart⟩
  paired := h.paired.take owner path stamp sheet
  holds := holds_take h.holds path stamp sheet
  keys q there := by
    rcases (mem_sheets_take s owner path stamp sheet q).1 there with rfl | there
    · exact key
    · exact h.keys q there

theorem link (h : s.Tended owner root) {importer : String} (there : importer ∈ s.sheets)
    (sheet : Sheet) (edges : List String) : (s.link importer sheet edges).Tended owner root := by
  have same := mem_sheets_link there sheet edges
  exact ⟨(same root).2 h.rooted, fun q => by rw [same]; exact h.stamped q, h.paired, h.holds,
    fun q known => h.keys q ((same q).1 known)⟩

end Loaded.Tended

def Task.Suits (root : String) : Task → Prop
  | .file path _ => path ≠ root ∧ IsKey path
  | _ => True

/-- Whatever a load does, it leaves everything in good order. -/
theorem Course.tended {l : Loader} {visiting : List String} {task : Task} {s s' : Loaded}
    {notes : List Note} {outcome : Except LoadError (List String)}
    (h : Course l visiting task s notes outcome s') {root : String} (rooted : l.root = some root)
    (absolute : Path.isAbsolute s.world.disk.working = true) (suits : task.Suits root)
    (tended : s.Tended l.owner root) : s'.Tended l.owner root := by
  have apart {candidate : String} {disk : Disk} (other : l.root ≠ some (disk.real candidate)) :
      disk.real candidate ≠ root := fun same => other (same ▸ rooted)
  induction h with
  | unreadable => exact (tended.noteRead _).drop suits.1
  | unparsable => exact tended.noteRead _
  | absent | done => exact tended
  | parsed _ _ _ ih =>
    exact ih (by simpa using absolute) trivial ((tended.noteRead _).take suits.1 suits.2 _ _)
  | linked _ _ still ih =>
    exact (ih absolute trivial tended).link (mem_of_sheet still) _ _
  | lost _ _ _ ih | broken _ _ ih | own _ _ ih | known _ _ _ _ ih =>
      exact ih absolute trivial tended
  | missing other _ _ ih =>
    exact ih (by simpa using absolute) trivial (tended.drop (apart other))
  | loaded other _ _ _ load _ first second =>
    refine second (by rw [load.disk_eq]; exact absolute) trivial ?_
    exact first absolute ⟨apart other, isKey_real absolute _⟩ tended
  | failed other _ _ _ _ ih => exact ih absolute ⟨apart other, isKey_real absolute _⟩ tended

theorem Loaded.Tended.commit {owner : Nat} {root : String} {s : Loaded} (h : s.Tended owner root)
    {v : Variables} (rooted : v.root = some root) :
    ((v.commit s).1.start (v.commit s).2).Tended owner root := by
  have kept : root ∉ v.swept s := by
    rw [mem_swept, rooted]
    exact fun ⟨_, lost⟩ => lost (root_mem_reachable h.rooted)
  exact h.dropAll kept

namespace State

/-- An update is for the file that the buffer has already, if it has one, and nobody else touches
its watches. No path is a symbolic link, so the same path of a buffer is the same key. -/
def Allows (s : State) : Step → Prop
  | .update path _ _ => ∀ root, s.held.root = some root → keyOf s.world.disk path = root
  | .outside world => Path.isAbsolute world.disk.working = true ∧ ∀ (path : String) (i : Nat),
      world.board[i]? = some ⟨path, s.held.owner, true⟩ ↔
        s.world.board[i]? = some ⟨path, s.held.owner, true⟩
  | _ => True

/-- Everything is in good order, and the root leads to every file that is kept. Before the first
update and after a close nothing is kept. -/
structure Tended (owner : Nat) (s : State) : Prop where
  owned : s.held.owner = owner
  absolute : Path.isAbsolute s.world.disk.working = true
  holds : s.world.board.Holds owner s.held.watches
  unrooted : s.held.root = none →
    s.held.sheets = ∅ ∧ s.held.stamps = ∅ ∧ s.held.watches = ∅
  rooted : ∀ root, s.held.root = some root → (s.held.start s.world).Tended owner root ∧
    ∀ path ∈ s.held.sheets, (edgesOf s.held.sheets).Leads root path

end State

/-- The states that a buffer gets into as long as no step fails and it keeps its path until it is
closed. At the start its owner has no live watch. -/
inductive Regular (owner : Nat) (matcher : Option Matcher) : State → Prop
  | start (world : World) (absolute : Path.isAbsolute world.disk.working = true)
      (fresh : ∀ (path : String) (i : Nat), world.board[i]? ≠ some ⟨path, owner, true⟩) :
      Regular owner matcher (.start owner matcher world)
  | step {s : State} {a : Step} (before : Regular owner matcher s) (allowed : s.Allows a)
      (done : s.outcome a = .ok ()) : Regular owner matcher (s.step a)

namespace State.Tended

variable {owner : Nat} {s : State}

theorem start {matcher : Option Matcher} {world : World}
    (absolute : Path.isAbsolute world.disk.working = true)
    (fresh : ∀ (path : String) (i : Nat), world.board[i]? ≠ some ⟨path, owner, true⟩) :
    (State.start owner matcher world).Tended owner where
  owned := rfl
  absolute := absolute
  holds path i := ⟨fun none => by simp [State.start, Variables.new] at none,
    fun live => absurd live (fresh path i)⟩
  unrooted _ := ⟨rfl, rfl, rfl⟩
  rooted _ := nofun

theorem of_watched (h : s.Tended owner) {path : String} (watched : path ∈ s.held.watches) :
    ∃ root, s.held.root = some root ∧ path ≠ root ∧ IsKey path := by
  cases rooted : s.held.root with
  | none =>
    rw [(h.unrooted rooted).2.2] at watched
    exact absurd watched Std.ExtTreeMap.not_mem_empty
  | some root =>
    have good := (h.rooted root rooted).1
    have kept := (good.stamped path).1 ((good.paired path).1 watched)
    exact ⟨root, rfl, kept.2, good.keys path kept.1⟩

theorem commit {v : Variables} {t : Loaded} {root : String} (owned : v.owner = owner)
    (rooted : v.root = some root) (absolute : Path.isAbsolute t.world.disk.working = true)
    (tended : t.Tended owner root) :
    (⟨(v.commit t).1, (v.commit t).2⟩ : State).Tended owner where
  owned := owned
  absolute := by simpa using absolute
  holds := (tended.commit rooted).holds
  unrooted none := by
    rw [root_commit, rooted] at none
    cases none
  rooted other same := by
    rw [root_commit, rooted] at same
    obtain rfl := Option.some.inj same
    exact ⟨tended.commit rooted, fun path kept => leads_commit rooted kept⟩

theorem startRoot (h : s.Tended owner) {path : Option String} {lines : List String}
    {range : Sheet.Range} (allowed : s.Allows (.update path lines range)) (sheet : Sheet) :
    (s.held.startRoot s.world (keyOf s.world.disk path) sheet).Tended owner
      (keyOf s.world.disk path) := by
  have key := isKey_keyOf h.absolute path
  generalize named : keyOf s.world.disk path = root at key ⊢
  have before : s.held.sheetsWithoutOldRoot root = s.held.sheets ∧
      (∀ q, q ∈ s.held.stamps ↔ q ∈ s.held.sheets ∧ q ≠ root) ∧
      (s.held.start s.world).Paired ∧ ∀ q ∈ s.held.sheets, IsKey q := by
    cases rooted : s.held.root with
    | none =>
      obtain ⟨sheets, stamps, watches⟩ := h.unrooted rooted
      refine ⟨by simp [sheetsWithoutOldRoot, rooted],
        fun q => by simp [sheets, stamps], fun q => ?_, fun q there => ?_⟩
      · simp [Variables.start, stamps, watches]
      · simp [sheets] at there
    | some old =>
      obtain rfl : root = old := named ▸ allowed old rooted
      have good := (h.rooted root rooted).1
      exact ⟨by simp [sheetsWithoutOldRoot, rooted], good.stamped, good.paired, good.keys⟩
  obtain ⟨sheets, stamped, paired, keys⟩ := before
  have mem (q : String) : q ∈ (s.held.startRoot s.world root sheet).sheets ↔
      root = q ∨ q ∈ s.held.sheets := by
    rw [Variables.startRoot, sheets, Std.ExtTreeMap.mem_insert, Std.LawfulEqCmp.compare_eq_iff_eq]
  refine ⟨(mem root).2 (.inl rfl), fun q => ?_, paired, h.holds, fun q there => ?_⟩
  · rw [mem]
    refine (stamped q).trans ⟨fun ⟨there, other⟩ => ⟨.inr there, other⟩, fun ⟨known, other⟩ => ?_⟩
    exact ⟨known.resolve_left other.symm, other⟩
  · rcases (mem q).1 there with rfl | there
    · exact key
    · exact keys q there

theorem step (h : s.Tended owner) {a : Step} (allowed : s.Allows a) (done : s.outcome a = .ok ()) :
    (s.step a).Tended owner := by
  have move := s.moves a
  rw [done] at move
  generalize s.step a = t at move ⊢
  cases move with
  | @updated _ _ _ _ sheet _ _ _ named good course =>
    subst named
    have began := h.startRoot allowed sheet
    rw [← h.owned] at began
    have same := course.disk_eq
    refine commit h.owned rfl (by rw [same]; exact h.absolute) ?_
    rw [← h.owned]
    exact course.tended rfl h.absolute trivial began
  | unwatched => exact h
  | gone watched missing =>
    obtain ⟨root, rooted, other, _⟩ := h.of_watched watched
    exact commit h.owned rooted (by rw [Loaded.disk_drop]; exact h.absolute)
      ((h.rooted root rooted).1.drop other)
  | reloaded watched there course =>
    obtain ⟨root, rooted, other, key⟩ := h.of_watched watched
    have began := (h.rooted root rooted).1
    rw [← h.owned] at began
    have same := course.disk_eq
    refine commit h.owned rooted (by rw [same]; exact h.absolute) ?_
    rw [← h.owned]
    exact course.tended rooted h.absolute ⟨other, key⟩ began
  | closed =>
    exact ⟨h.owned, h.absolute, h.holds.close, fun _ => ⟨rfl, rfl, rfl⟩, nofun⟩
  | outside =>
    obtain ⟨absolute, untouched⟩ := allowed
    have holds : Board.Holds _ owner s.held.watches := fun path i =>
      (h.holds path i).trans (h.owned ▸ untouched path i).symm
    exact ⟨h.owned, absolute, holds, h.unrooted, fun root rooted =>
      have ⟨good, leads⟩ := h.rooted root rooted
      ⟨⟨good.rooted, good.stamped, good.paired, holds, good.keys⟩, leads⟩⟩

end State.Tended

theorem Regular.tended {owner : Nat} {matcher : Option Matcher} {s : State}
    (run : Regular owner matcher s) : s.Tended owner := by
  induction run with
  | start world absolute fresh => exact .start absolute fresh
  | step _ allowed done ih => exact ih.step allowed done

/-- The files kept are those that the root's imports lead to. An edge back to the root is not told,
but no chain needs one. -/
theorem State.Tended.mem_sheets_iff {owner : Nat} {s : State} (h : s.Tended owner) {root : String}
    (rooted : s.held.root = some root) (path : String) :
    path ∈ s.held.sheets ↔ Relation.ReflTransGen (s.held.Imports s.world.disk) root path := by
  obtain ⟨good, leads⟩ := h.rooted root rooted
  constructor
  · intro kept
    induction leads path kept with
    | refl => exact .refl
    | @tail importer path chain edge ih =>
      have there := mem_of_leads good.rooted chain
      obtain ⟨edges, node, listed, target⟩ := edge
      obtain ⟨sheet, found, rfl⟩ := Option.map_eq_some_iff.1 node
      by_cases back : path = root
      · rw [back]
      · have recorded := (good.stamped path).2 ⟨isSome_edgesOf.1 target, back⟩
        refine .tail (ih there) ?_
        exact (imports_iff (good.keys importer there) _).2 ⟨sheet, found, listed, recorded⟩
  · intro chain
    induction chain with
    | refl => exact good.rooted
    | tail _ edge ih =>
      obtain ⟨_, _, _, recorded⟩ := (imports_iff (good.keys _ ih) _).1 edge
      exact ((good.stamped _).1 recorded).1

/-- Along a run of steps that do not fail, what is kept is just what the root leads to by imports.
All of it but the root is watched and on record, and nothing else is; what is watched has one live
watch, and what is not watched has none. -/
theorem live_imports {owner : Nat} {matcher : Option Matcher} {s : State}
    (run : Regular owner matcher s) :
    (∀ path, path ∈ s.held.sheets ↔ ∃ root, s.held.root = some root ∧
      Relation.ReflTransGen (s.held.Imports s.world.disk) root path) ∧
    (∀ path, path ∈ s.held.watches ↔ path ∈ s.held.sheets ∧ s.held.root ≠ some path) ∧
    (∀ path, path ∈ s.held.stamps ↔ path ∈ s.held.sheets ∧ s.held.root ≠ some path) ∧
    ∀ path, (path ∈ s.held.watches → ∃! i : Nat, s.world.board[i]? = some ⟨path, owner, true⟩) ∧
      (path ∉ s.held.watches → ∀ i : Nat, s.world.board[i]? ≠ some ⟨path, owner, true⟩) := by
  have h := run.tended
  have stamped (path : String) :
      path ∈ s.held.stamps ↔ path ∈ s.held.sheets ∧ s.held.root ≠ some path := by
    cases rooted : s.held.root with
    | none =>
      obtain ⟨sheets, stamps, _⟩ := h.unrooted rooted
      simp [sheets, stamps]
    | some root =>
      have recorded : path ∈ s.held.stamps ↔ path ∈ s.held.sheets ∧ path ≠ root :=
        (h.rooted root rooted).1.stamped path
      rw [recorded, Ne, Ne, Option.some.injEq, eq_comm]
  have paired (path : String) : path ∈ s.held.watches ↔ path ∈ s.held.stamps := by
    cases rooted : s.held.root with
    | none =>
      obtain ⟨_, stamps, watches⟩ := h.unrooted rooted
      simp [stamps, watches]
    | some root => exact (h.rooted root rooted).1.paired path
  refine ⟨fun path => ?_, fun path => (paired path).trans (stamped path), stamped,
    fun path => ⟨h.holds.existsUnique, h.holds.not_live⟩⟩
  cases rooted : s.held.root with
  | none => simp [(h.unrooted rooted).1]
  | some root =>
    rw [h.mem_sheets_iff rooted]
    simp

def cycleWorld : World :=
  ⟨⟨"/", ((∅ : Std.ExtTreeMap String File).insert "/a.scss" ⟨1, ["@import \"b\";"]⟩).insert
    "/b.scss"
    ⟨1, ["@import \"a\";"]⟩, []⟩, [], []⟩

def importCycle : Step := .update (some "/main.scss") ["@import \"a\";"] ⟨0, none⟩

def importNothing : Step := .update (some "/main.scss") [] ⟨0, none⟩

def cycleHeld : State := (State.start 0 none cycleWorld).step importCycle

def cycleSwept : State := cycleHeld.step importNothing

theorem live_imports_cycle :
    (∃ root, cycleHeld.held.root = some root ∧ Relation.ReflTransGen
      (cycleHeld.held.Imports cycleHeld.world.disk) root "/b.scss") ∧
    (∃! i : Nat, cycleHeld.world.board[i]? = some ⟨"/b.scss", 0, true⟩) ∧
    (¬∃ root, cycleSwept.held.root = some root ∧ Relation.ReflTransGen
      (cycleSwept.held.Imports cycleSwept.world.disk) root "/b.scss") ∧
    ∀ i : Nat, cycleSwept.world.board[i]? ≠ some ⟨"/b.scss", 0, true⟩ := by
  have first : ((State.start 0 none cycleWorld).outcome importCycle).toOption = some () ∧
      cycleHeld.held.root = some "/main.scss" ∧ "/b.scss" ∈ cycleHeld.held.sheets ∧
      "/b.scss" ∈ cycleHeld.held.watches := by
    decide +kernel
  have second : keyOf cycleHeld.world.disk (some "/main.scss") = "/main.scss" ∧
      (cycleHeld.outcome importNothing).toOption = some () ∧
      "/b.scss" ∉ cycleSwept.held.sheets ∧ "/b.scss" ∉ cycleSwept.held.watches := by
    decide +kernel
  obtain ⟨done, rooted, kept, watched⟩ := first
  obtain ⟨same, done', gone, unwatched⟩ := second
  have held : Regular 0 none cycleHeld :=
    .step (.start cycleWorld (by decide) (by simp [cycleWorld])) nofun (eq_ok_of_toOption done)
  have swept : Regular 0 none cycleSwept := by
    refine .step held (fun root held => ?_) (eq_ok_of_toOption done')
    obtain rfl := Option.some.inj (rooted.symm.trans held)
    exact same
  have before := live_imports held
  have after := live_imports swept
  exact ⟨(before.1 _).1 kept, (before.2.2.2 _).1 watched, mt (after.1 _).2 gone,
    (after.2.2.2 _).2 unwatched⟩

end ColorSpans.Sass
