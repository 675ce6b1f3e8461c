import ColorSpans.Proofs.Sass.Steps

/-! What a load leaves behind. A task has one course, and the last note of a file decides how the
load leaves its record. Of the buffer's own file nothing is noted or read. -/
namespace ColorSpans.Sass

namespace Note

def last (notes : List Note) (path : String) : Option Note := notes.reverse.find? (·.path == path)

theorem last_append (notes more : List Note) (path : String) :
    last (notes ++ more) path = (last more path).or (last notes path) := by
  rw [last, List.reverse_append, List.find?_append]
  rfl

theorem elim_last_cons (note : Note) (notes : List Note) (path : String) (before : Option Int) :
    (last (note :: notes) path).elim before stamp? =
      (last notes path).elim (if note.path = path then note.stamp? else before) stamp? := by
  rw [last, last, List.reverse_cons, List.find?_append, List.find?_singleton]
  cases notes.reverse.find? (·.path == path) with
  | some later => rfl
  | none => by_cases same : note.path = path <;> simp [same]

theorem mem_of_last {notes : List Note} {path : String} {note : Note}
    (h : last notes path = some note) :
    note ∈ notes := List.mem_reverse.1 (List.mem_of_find?_eq_some h)

theorem path_of_last {notes : List Note} {path : String} {note : Note}
    (h : last notes path = some note) :
    note.path = path := by
  simpa using List.find?_some h

end Note

/-- A file is watched exactly if its last change is on record. -/
def Loaded.Paired (s : Loaded) : Prop := ∀ path, path ∈ s.watches ↔ path ∈ s.stamps

namespace Loaded.Paired

variable {s : Loaded}

theorem drop (h : s.Paired) (path : String) : (s.drop path).Paired := by
  intro other
  rw [watches_drop, stamps_drop, Std.ExtTreeMap.mem_erase, Std.ExtTreeMap.mem_erase, h other]

theorem take (h : s.Paired) (owner : Nat) (path : String) (stamp : Int) (sheet : Sheet) :
    (s.take owner path stamp sheet).Paired := by
  intro other
  rw [mem_watches_take, stamps_take, Std.ExtTreeMap.mem_insert, Std.LawfulEqCmp.compare_eq_iff_eq,
    h other]

theorem link (h : s.Paired) (importer : String) (sheet : Sheet) (edges : List String) :
    (s.link importer sheet edges).Paired := h

theorem dropAll (h : s.Paired) (paths : List String) : (s.dropAll paths).Paired := by
  induction paths generalizing s with
  | nil => exact h
  | cons path paths ih => exact ih (h.drop path)

end Loaded.Paired

namespace Course

variable {l : Loader} {visiting : List String} {task : Task} {s s' s'' : Loaded}
    {notes notes' : List Note}
  {outcome outcome' : Except LoadError (List String)}

theorem unique (h : Course l visiting task s notes outcome s')
    (h' : Course l visiting task s notes' outcome' s'') :
    notes = notes' ∧ outcome = outcome' ∧ s' = s'' := by
  induction h generalizing notes' outcome' s'' with
  | unreadable lines =>
    cases h' with
    | unreadable => exact ⟨rfl, rfl, rfl⟩
    | unparsable found | parsed found => cases lines.symm.trans found
  | unparsable found bad =>
    cases h' with
    | unreadable lines => cases lines.symm.trans found
    | unparsable found' bad' =>
      obtain rfl := Option.some.inj (found.symm.trans found')
      obtain rfl := Except.error.inj (bad.symm.trans bad')
      exact ⟨rfl, rfl, rfl⟩
    | parsed found' good =>
      obtain rfl := Option.some.inj (found.symm.trans found')
      cases bad.symm.trans good
  | parsed found good _ ih =>
    cases h' with
    | unreadable lines => cases lines.symm.trans found
    | unparsable found' bad =>
      obtain rfl := Option.some.inj (found.symm.trans found')
      cases bad.symm.trans good
    | parsed found' good' rest' =>
      obtain rfl := Option.some.inj (found.symm.trans found')
      obtain rfl := Except.ok.inj (good.symm.trans good')
      obtain ⟨rfl, rfl, rfl⟩ := ih rest'
      exact ⟨rfl, rfl, rfl⟩
  | absent gone =>
    cases h' with
    | absent => exact ⟨rfl, rfl, rfl⟩
    | linked there | lost there | broken there => cases gone.symm.trans there
  | linked there _ still ih =>
    cases h' with
    | absent gone => cases gone.symm.trans there
    | linked there' rest' still' =>
      obtain rfl := Option.some.inj (there.symm.trans there')
      obtain ⟨rfl, same, rfl⟩ := ih rest'
      obtain rfl := Except.ok.inj same
      obtain rfl := Option.some.inj (still.symm.trans still')
      exact ⟨rfl, rfl, rfl⟩
    | lost there' rest' gone =>
      obtain rfl := Option.some.inj (there.symm.trans there')
      obtain ⟨rfl, _, rfl⟩ := ih rest'
      cases gone.symm.trans still
    | broken there' rest' =>
      obtain rfl := Option.some.inj (there.symm.trans there')
      obtain ⟨_, same, _⟩ := ih rest'
      cases same
  | lost there _ gone ih =>
    cases h' with
    | absent gone => cases gone.symm.trans there
    | linked there' rest' still =>
      obtain rfl := Option.some.inj (there.symm.trans there')
      obtain ⟨rfl, _, rfl⟩ := ih rest'
      cases gone.symm.trans still
    | lost there' rest' =>
      obtain rfl := Option.some.inj (there.symm.trans there')
      obtain ⟨rfl, _, rfl⟩ := ih rest'
      exact ⟨rfl, rfl, rfl⟩
    | broken there' rest' =>
      obtain rfl := Option.some.inj (there.symm.trans there')
      obtain ⟨_, same, _⟩ := ih rest'
      cases same
  | broken there _ ih =>
    cases h' with
    | absent gone => cases gone.symm.trans there
    | linked there' rest' | lost there' rest' =>
      obtain rfl := Option.some.inj (there.symm.trans there')
      obtain ⟨_, same, _⟩ := ih rest'
      cases same
    | broken there' rest' =>
      obtain rfl := Option.some.inj (there.symm.trans there')
      obtain ⟨rfl, same, rfl⟩ := ih rest'
      obtain rfl := Except.error.inj same
      exact ⟨rfl, rfl, rfl⟩
  | done => cases h'; exact ⟨rfl, rfl, rfl⟩
  | own root _ ih =>
    cases h' with
    | own _ rest' => exact ih rest'
    | missing other | known other | loaded other | failed other => exact absurd root other
  | missing other gone _ ih =>
    cases h' with
    | own root => exact absurd root other
    | missing _ _ rest' =>
      obtain ⟨rfl, rfl, rfl⟩ := ih rest'
      exact ⟨rfl, rfl, rfl⟩
    | known _ there | loaded _ there | failed _ there => cases gone.symm.trans there
  | known other there seen _ ih =>
    cases h' with
    | own root => exact absurd root other
    | missing _ gone => cases gone.symm.trans there
    | known _ _ _ rest' => exact ih rest'
    | loaded _ there' unseen stale | failed _ there' unseen stale =>
      obtain rfl := Option.some.inj (there.symm.trans there')
      exact absurd seen (not_or.2 ⟨unseen, Bool.eq_false_iff.1 stale⟩)
  | loaded other there unseen stale _ _ first second =>
    cases h' with
    | own root => exact absurd root other
    | missing _ gone => cases gone.symm.trans there
    | known _ there' seen =>
      obtain rfl := Option.some.inj (there.symm.trans there')
      exact absurd seen (not_or.2 ⟨unseen, Bool.eq_false_iff.1 stale⟩)
    | loaded _ there' _ _ load' rest' =>
      obtain rfl := Option.some.inj (there.symm.trans there')
      obtain ⟨rfl, _, rfl⟩ := first load'
      obtain ⟨rfl, rfl, rfl⟩ := second rest'
      exact ⟨rfl, rfl, rfl⟩
    | failed _ there' _ _ load' =>
      obtain rfl := Option.some.inj (there.symm.trans there')
      obtain ⟨_, same, _⟩ := first load'
      cases same
  | failed other there unseen stale _ ih =>
    cases h' with
    | own root => exact absurd root other
    | missing _ gone => cases gone.symm.trans there
    | known _ there' seen =>
      obtain rfl := Option.some.inj (there.symm.trans there')
      exact absurd seen (not_or.2 ⟨unseen, Bool.eq_false_iff.1 stale⟩)
    | loaded _ there' _ _ load' =>
      obtain rfl := Option.some.inj (there.symm.trans there')
      obtain ⟨_, same, _⟩ := ih load'
      cases same
    | failed _ there' _ _ load' =>
      obtain rfl := Option.some.inj (there.symm.trans there')
      exact ih load'

theorem paired (h : Course l visiting task s notes outcome s') (before : s.Paired) : s'.Paired := by
  refine h.maintains ⟨fun _ _ paired => paired, fun _ path paired => paired.drop path,
    ?_, ?_⟩ before
  · exact fun _ path stamp sheet paired => paired.take l.owner path stamp sheet
  · exact fun _ importer sheet edges paired => paired.link importer sheet edges

theorem getElem?_stamps (h : Course l visiting task s notes outcome s') (path : String) :
    s'.stamps[path]? = (Note.last notes path).elim s.stamps[path]? Note.stamp? := by
  induction h with
  | unreadable =>
    rw [Note.elim_last_cons, Loaded.stamps_drop, Std.ExtTreeMap.getElem?_erase]
    simp only [Std.LawfulEqCmp.compare_eq_iff_eq]
    rfl
  | unparsable | absent | done => rfl
  | parsed _ _ _ ih =>
    rw [Note.elim_last_cons, ih, Loaded.getElem?_stamps_take]
    rfl
  | linked _ _ _ ih => rw [Loaded.stamps_link, ih]
  | lost _ _ _ ih | broken _ _ ih | own _ _ ih | known _ _ _ _ ih | failed _ _ _ _ _ ih => exact ih
  | missing _ _ _ ih =>
    rw [Note.elim_last_cons, ih, Loaded.stamps_drop, Std.ExtTreeMap.getElem?_erase]
    simp only [Std.LawfulEqCmp.compare_eq_iff_eq]
    rfl
  | loaded _ _ _ _ _ _ first second =>
    rw [Note.last_append, second, first]
    cases Note.last _ path <;> rfl

theorem content_untold (h : Course l visiting task s notes outcome s') {β : Type}
    {content : Sheet → β} (blind : ∀ (sheet : Sheet) (edges : List String),
      content { sheet with edges } = content sheet)
    {path : String} (untold : ∀ note ∈ notes, note.path ≠ path) :
    s'.sheets[path]?.map content = s.sheets[path]?.map content := by
  induction h with
  | @unreadable _ read =>
    have other : read ≠ path := untold _ List.mem_cons_self
    simp [Std.ExtTreeMap.getElem?_erase, other]
  | unparsable | absent | done => rfl
  | @parsed _ read _ _ _ _ _ _ _ _ _ _ ih =>
    have other : read ≠ path := untold _ List.mem_cons_self
    rw [ih fun note there => untold note (List.mem_cons_of_mem _ there)]
    simp [Std.ExtTreeMap.getElem?_insert, other]
  | @linked _ importer _ _ _ _ _ _ _ _ still ih =>
    rw [← ih untold, Loaded.sheets_link, Std.ExtTreeMap.getElem?_insert]
    split
    · rename_i same
      rw [← Std.LawfulEqCmp.eq_of_compare same, still, Option.map_some, Option.map_some, blind]
    · rfl
  | lost _ _ _ ih | broken _ _ ih | own _ _ ih | known _ _ _ _ ih | failed _ _ _ _ _ ih =>
    exact ih untold
  | @missing _ candidate _ _ s _ _ _ _ _ _ ih =>
    have other : s.world.disk.real candidate ≠ path :=
      untold (.dropped (s.world.disk.real candidate)) List.mem_cons_self
    rw [ih fun note there => untold note (List.mem_cons_of_mem _ there)]
    simp [Std.ExtTreeMap.getElem?_erase, other]
  | loaded _ _ _ _ _ _ first second =>
    rw [second fun note there => untold note (List.mem_append_right _ there),
      first fun note there => untold note (List.mem_append_left _ there)]

theorem declarations_untold (h : Course l visiting task s notes outcome s') {path : String}
    (untold : ∀ note ∈ notes, note.path ≠ path) :
    s'.sheets[path]?.map Sheet.declarations = s.sheets[path]?.map Sheet.declarations :=
  h.content_untold (fun _ _ => rfl) untold

theorem notes_spare (h : Course l visiting task s notes outcome s') {root : String}
    (rooted : l.root = some root)
    (other : ∀ stamp, task ≠ .file root stamp) : ∀ note ∈ notes, note.path ≠ root := by
  induction h with
  | @unreadable _ path stamp =>
    intro note there
    rw [List.mem_singleton.1 there]
    exact fun same => other stamp (same ▸ rfl)
  | unparsable | absent | done => exact fun note there => absurd there List.not_mem_nil
  | @parsed _ path stamp _ _ _ _ _ _ _ _ _ ih =>
    intro note there
    cases there with
    | head => exact fun same => other stamp (same ▸ rfl)
    | tail _ later => exact ih (fun _ => Task.noConfusion) note later
  | linked _ _ _ ih | lost _ _ _ ih | broken _ _ ih | own _ _ ih | known _ _ _ _ ih =>
    exact ih fun _ => Task.noConfusion
  | missing apart _ _ ih =>
    intro note there
    cases there with
    | head => exact fun same => apart (rooted.trans (congrArg some same.symm))
    | tail _ later => exact ih (fun _ => Task.noConfusion) note later
  | loaded apart _ _ _ _ _ first second =>
    intro note there
    rcases List.mem_append.1 there with early | late
    · refine first (fun _ same => apart ?_) note early
      rw [rooted, (Task.file.inj same).1]
    · exact second (fun _ => Task.noConfusion) note late
  | failed apart _ _ _ _ ih =>
    refine ih fun _ same => apart ?_
    rw [rooted, (Task.file.inj same).1]

theorem reads_grow (h : Course l visiting task s notes outcome s') : ∃ new,
    s'.world.reads = s.world.reads ++ new ∧
      ∀ root, l.root = some root → (∀ stamp, task ≠ .file root stamp) → root ∉ new := by
  induction h with
  | @unreadable _ path stamp s =>
    refine ⟨[path], by simp, fun root _ other there => other stamp ?_⟩
    rw [List.mem_singleton.1 there]
  | @unparsable _ path stamp =>
    refine ⟨[path], rfl, fun root _ other there => other stamp ?_⟩
    rw [List.mem_singleton.1 there]
  | absent | done => exact ⟨[], by simp, fun _ _ _ => List.not_mem_nil⟩
  | @parsed _ path stamp _ _ _ _ _ _ _ _ _ ih =>
    obtain ⟨new, reads, spare⟩ := ih
    refine ⟨path :: new, by simpa using reads, fun root rooted other there => ?_⟩
    cases there with
    | head => exact other stamp rfl
    | tail _ later => exact spare root rooted (fun _ => nofun) later
  | linked _ _ _ ih | lost _ _ _ ih | broken _ _ ih | own _ _ ih | known _ _ _ _ ih =>
    obtain ⟨new, reads, spare⟩ := ih
    exact ⟨new, by simpa using reads, fun root rooted _ => spare root rooted fun _ => nofun⟩
  | missing _ _ _ ih =>
    obtain ⟨new, reads, spare⟩ := ih
    exact ⟨new, by simpa using reads, fun root rooted _ => spare root rooted fun _ => nofun⟩
  | loaded apart _ _ _ _ _ first second =>
    obtain ⟨early, reads, spare⟩ := first
    obtain ⟨late, reads', spare'⟩ := second
    refine ⟨early ++ late, by rw [reads', reads, List.append_assoc], fun root rooted _ there => ?_⟩
    rcases List.mem_append.1 there with there | there
    · refine spare root rooted (fun _ same => apart ?_) there
      rw [rooted, (Task.file.inj same).1]
    · exact spare' root rooted (fun _ => nofun) there
  | failed apart _ _ _ _ ih =>
    obtain ⟨new, reads, spare⟩ := ih
    refine ⟨new, reads, fun root rooted _ => spare root rooted fun _ same => apart ?_⟩
    rw [rooted, (Task.file.inj same).1]

theorem declarations_unread (h : Course l visiting task s notes outcome s') {new : List String}
    (reads : s'.world.reads = s.world.reads ++ new) {path : String} (unread : path ∉ new)
    {sheet' : Sheet} (found : s'.sheets[path]? = some sheet') :
    ∃ sheet, s.sheets[path]? = some sheet ∧ sheet.declarations = sheet'.declarations := by
  induction h generalizing sheet' new with
  | unreadable => exact ⟨sheet', (Loaded.of_sheets_drop found).2, rfl⟩
  | unparsable | absent | done => exact ⟨sheet', found, rfl⟩
  | @parsed _ read _ s _ _ _ _ _ _ _ rest ih =>
    obtain ⟨later, grown, _⟩ := rest.reads_grow
    have total := reads.symm.trans grown
    rw [Loaded.reads_take, Loaded.reads_noteRead, List.append_assoc] at total
    obtain rfl := List.append_cancel_left total
    obtain ⟨sheet, there, same⟩ := ih grown (fun late => unread (List.mem_cons_of_mem _ late)) found
    rcases Loaded.of_sheets_take there with ⟨rfl, _⟩ | ⟨_, there⟩
    · exact absurd List.mem_cons_self unread
    · exact ⟨sheet, there, same⟩
  | linked _ _ still ih =>
    rcases Loaded.of_sheets_link found with ⟨rfl, rfl⟩ | ⟨_, found⟩
    · obtain ⟨sheet, there, same⟩ := ih reads unread still
      exact ⟨sheet, there, same⟩
    · exact ih reads unread found
  | lost _ _ _ ih | broken _ _ ih | own _ _ ih | known _ _ _ _ ih | failed _ _ _ _ _ ih =>
    exact ih reads unread found
  | missing _ _ _ ih =>
    obtain ⟨sheet, there, same⟩ := ih (by simpa using reads) unread found
    exact ⟨sheet, (Loaded.of_sheets_drop there).2, same⟩
  | loaded _ _ _ _ load rest first second =>
    obtain ⟨early, grown, _⟩ := load.reads_grow
    obtain ⟨late, grown', _⟩ := rest.reads_grow
    obtain rfl : new = early ++ late := by
      rw [grown, List.append_assoc] at grown'
      exact List.append_cancel_left (reads.symm.trans grown')
    obtain ⟨between, there, same⟩ :=
      second grown' (fun there => unread (List.mem_append_right _ there)) found
    obtain ⟨sheet, there, same'⟩ :=
      first grown (fun there => unread (List.mem_append_left _ there)) there
    exact ⟨sheet, there, same'.trans same⟩

end Course

end ColorSpans.Sass
