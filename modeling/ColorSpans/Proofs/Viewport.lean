import ColorSpans.Viewport

/-! What a window newly shows. The part of it that is scanned never leaves the window, and is all of
it when nothing was looked at before. It holds every line that the window before did not show
exactly if the window did not outgrow that one; a window that keeps its length or gets shorter never
does. -/
namespace ColorSpans

namespace LineRange

structure IsWithin (part window : LineRange) : Prop where
  first : window.start ≤ part.start
  ordered : part.start ≤ part.stop
  last : part.stop ≤ window.stop

/-- Every line that a window shows and the window before did not is in the part. -/
def CoversRevealed (part window : LineRange) (previous : Option LineRange) : Prop :=
  ∀ line, window.contains line → (∀ before ∈ previous, ¬before.contains line) → part.contains line

/-- A window that got longer at both ends, or that got longer while its end moved up by less than
its length. -/
def Outgrows (window previous : LineRange) : Prop :=
  (window.start < previous.start ∧ previous.stop < window.stop) ∨
    (window.stop < previous.stop ∧ previous.length < window.length ∧
      previous.stop - window.stop < window.length)

variable {part window previous : LineRange}

theorem contains_iff {line : Int} : window.contains line = true ↔
    window.start ≤ line ∧ line < window.stop := by
  simp [contains]

theorem not_outgrows_of_length_le (shorter : window.length ≤ previous.length) :
    ¬window.Outgrows previous := by
  simp only [length, Outgrows] at shorter ⊢
  omega

theorem coversRevealed_self (window : LineRange) (previous : Option LineRange) :
    window.CoversRevealed window previous := fun _ shown _ => shown

theorem not_coversRevealed (line : Int) (shown : window.contains line)
    (new : ¬previous.contains line) (skipped : ¬part.contains line) :
    ¬part.CoversRevealed window (some previous) :=
  fun covers => skipped (covers line shown fun _ same => Option.some.inj same ▸ new)

end LineRange

open LineRange

variable {window previous : LineRange}

/-- The part that is scanned: the whole window, its end after a move down, or its beginning after a
move up. -/
inductive Scanned (previous window : LineRange) : LineRange → Prop
  | whole (apart : previous.stop = window.stop ∨ previous.start = window.start ∨
      previous.stop < window.start ∨ window.length < previous.stop - window.stop) :
      Scanned previous window window
  | tail (down : previous.stop < window.stop) (moved : previous.start ≠ window.start)
      (near : window.start ≤ previous.stop) : Scanned previous window ⟨previous.stop, window.stop⟩
  | head (up : window.stop < previous.stop) (moved : previous.start ≠ window.start)
      (near : previous.stop - window.stop ≤ window.length) :
      Scanned previous window ⟨window.start, window.start + (previous.stop - window.stop)⟩

theorem exists_scanned (previous : LineRange) (valid : window.start ≤ window.stop) :
    ∃ part, nextRange (some previous) window = .ok part ∧ Scanned previous window part := by
  simp only [nextRange, if_neg (Int.not_lt.2 valid)]
  refine ⟨_, rfl, ?_⟩
  by_cases edge : previous.stop = window.stop ∨ previous.start = window.start
  · rw [revealed, if_pos edge, if_neg (Int.lt_irrefl _)]
    exact .whole (by omega)
  · have moved : previous.start ≠ window.start := fun same => edge (.inr same)
    rw [revealed, if_neg edge]
    by_cases down : previous.stop < window.stop
    · rw [if_pos down]
      by_cases near : window.start ≤ previous.stop
      · rw [if_neg (by simp only [LineRange.length]; omega)]
        exact .tail down moved near
      · rw [if_pos (by simp only [LineRange.length]; omega)]
        exact .whole (by omega)
    · rw [if_neg down]
      by_cases near : previous.stop - window.stop ≤ window.length
      · rw [if_neg (by simp only [LineRange.length] at near ⊢; omega)]
        exact .head (by omega) moved near
      · rw [if_pos (by simp only [LineRange.length] at near ⊢; omega)]
        exact .whole (by omega)

theorem Scanned.isWithin {part : LineRange} (scanned : Scanned previous window part)
    (valid : window.start ≤ window.stop) : part.IsWithin window := by
  cases scanned with
  | whole => exact ⟨Int.le_refl _, valid, Int.le_refl _⟩
  | tail down _ near => exact ⟨near, Int.le_of_lt down, Int.le_refl _⟩
  | head up _ near =>
    rw [LineRange.length] at near
    exact ⟨Int.le_refl _, by dsimp only; omega, by dsimp only; omega⟩

theorem Scanned.coversRevealed_iff {part : LineRange} (scanned : Scanned previous window part)
    (ordered : previous.start ≤ previous.stop) :
    part.CoversRevealed window (some previous) ↔ ¬window.Outgrows previous := by
  cases scanned with
  | whole apart =>
    refine iff_of_true (coversRevealed_self _ _) ?_
    simp only [LineRange.length, Outgrows] at apart ⊢
    omega
  | tail down moved near =>
    simp only [LineRange.length, Outgrows]
    constructor
    · intro covers grown
      refine not_coversRevealed window.start ?_ ?_ ?_ covers <;> simp only [contains_iff] <;> omega
    · intro kept line shown new
      have new := new previous rfl
      simp only [contains_iff] at shown new ⊢
      omega
  | head up moved near =>
    simp only [LineRange.length, Outgrows] at near ⊢
    constructor
    · intro covers grown
      refine not_coversRevealed (window.start + (previous.stop - window.stop)) ?_ ?_ ?_ covers <;>
        simp only [contains_iff] <;> omega
    · intro kept line shown new
      have new := new previous rfl
      simp only [contains_iff] at shown new ⊢
      omega

theorem exists_nextRange (before : Option LineRange) (valid : window.start ≤ window.stop) :
    ∃ part, nextRange before window = .ok part := by
  rw [nextRange.eq_def, if_neg (Int.not_lt.2 valid)]
  cases before <;> exact ⟨_, rfl⟩

theorem ordered_of_nextRange {before : Option LineRange} {part : LineRange}
    (found : nextRange before window = .ok part) : window.start ≤ window.stop := by
  apply Int.not_lt.1
  intro crossed
  rw [nextRange.eq_def, if_pos crossed] at found
  cases found

theorem isWithin_nextRange {before : Option LineRange} {part : LineRange}
    (found : nextRange before window = .ok part) : part.IsWithin window := by
  have valid := ordered_of_nextRange found
  cases before with
  | none =>
    rw [nextRange, if_neg (Int.not_lt.2 valid)] at found
    obtain rfl := Except.ok.inj found
    exact ⟨Int.le_refl _, valid, Int.le_refl _⟩
  | some previous =>
    obtain ⟨part', same, scanned⟩ := exists_scanned previous valid
    obtain rfl := Except.ok.inj (same.symm.trans found)
    exact scanned.isWithin valid

namespace Viewport

inductive Event
  | look (window : LineRange)
  | reset

def Event.window? : Event → Option LineRange
  | .look window => if window.start ≤ window.stop then some window else none
  | .reset => none

def Event.isReset : Event → Bool
  | .look _ => false
  | .reset => true

def after (viewport : Viewport) : Event → Viewport
  | .look window => match viewport.update window with
    | .ok (_, viewport) => viewport
    | .error _ => viewport
  | .reset => new

def play (events : List Event) : Viewport := events.foldl after new

def lastLooked (events : List Event) : Option LineRange :=
  (events.reverse.takeWhile fun event => !event.isReset).findSome? Event.window?

theorem lastLooked_concat (events : List Event) (event : Event) : lastLooked (events ++ [event]) =
    if event.isReset then none else event.window?.or (lastLooked events) := by
  rw [lastLooked, List.reverse_append, List.reverse_singleton, List.singleton_append]
  cases event with
  | look window =>
    rw [List.takeWhile_cons_of_pos rfl, List.findSome?_cons]
    cases Event.window? (.look window) <;> rfl
  | reset => rfl

theorem previous_after (viewport : Viewport) (event : Event) : (viewport.after event).previous =
    if event.isReset then none else event.window?.or viewport.previous := by
  cases event with
  | look window =>
    by_cases valid : window.start ≤ window.stop
    · simp only [after, update, nextRange, if_neg (Int.not_lt.2 valid), Event.isReset,
        Event.window?, if_pos valid]
      cases viewport.previous <;> rfl
    · simp only [after, update, nextRange, if_pos (Int.not_le.1 valid), Event.isReset,
        Event.window?, if_neg valid]
      rfl
  | reset => rfl

theorem previous_play (events : List Event) : (play events).previous = lastLooked events := by
  rw [← List.reverse_reverse events]
  induction events.reverse with
  | nil => rfl
  | cons event events ih =>
    rw [List.reverse_cons, lastLooked_concat, play, List.foldl_append, List.foldl_cons,
      List.foldl_nil, previous_after, ← ih]
    rfl

theorem ordered_lastLooked {events : List Event} {window : LineRange}
    (last : lastLooked events = some window) :
    window.start ≤ window.stop := by
  obtain ⟨event, -, looked⟩ := List.exists_of_findSome?_eq_some last
  cases event with
  | look seen =>
    rw [Event.window?] at looked
    split at looked
    · rename_i valid
      exact Option.some.inj looked ▸ valid
    · cases looked
  | reset => cases looked

/-- In every run, each window that is looked at yields a part of it, and all of it if nothing was
looked at since the last reset. Every line that the window before did not show is in the part
exactly if the window did not outgrow that one. -/
theorem coversRevealed_play_iff (events : List Event) (window : LineRange)
    (valid : window.start ≤ window.stop) :
    ∃ part, (play events).update window = .ok (part, ⟨some window⟩) ∧ part.IsWithin window ∧
      (lastLooked events = none → part = window) ∧
      (part.CoversRevealed window (lastLooked events) ↔
        ∀ previous ∈ lastLooked events, ¬window.Outgrows previous) := by
  rw [update, previous_play]
  cases last : lastLooked events with
  | none =>
    have found : nextRange none window = .ok window := by
      rw [nextRange, if_neg (Int.not_lt.2 valid)]
    rw [found]
    refine ⟨window, rfl, isWithin_nextRange found, fun _ => rfl, ?_⟩
    exact iff_of_true (coversRevealed_self _ _) fun previous there =>
      absurd there (Option.not_mem_none previous)
  | some previous =>
    obtain ⟨part, found, scanned⟩ := exists_scanned previous valid
    rw [found]
    refine ⟨part, rfl, scanned.isWithin valid,
      fun none => absurd none (Option.some_ne_none previous), ?_⟩
    rw [scanned.coversRevealed_iff (ordered_lastLooked last)]
    simp

def scrolled : List Event := [.look ⟨0, 50⟩, .reset, .look ⟨30, 80⟩, .look ⟨25, 20⟩]

theorem coversRevealed_play_scrolled :
    LineRange.start ⟨20, 60⟩ ≤ LineRange.stop ⟨20, 60⟩ ∧ lastLooked scrolled = some ⟨30, 80⟩ ∧
    (play scrolled).update ⟨20, 60⟩ = .ok (⟨20, 40⟩, ⟨some ⟨20, 60⟩⟩) ∧
    CoversRevealed ⟨20, 40⟩ ⟨20, 60⟩ (lastLooked scrolled) := by
  have looked : (play scrolled).update ⟨20, 60⟩ = .ok (⟨20, 40⟩, ⟨some ⟨20, 60⟩⟩) := rfl
  obtain ⟨part, same, -, -, covers⟩ := coversRevealed_play_iff scrolled ⟨20, 60⟩ (by decide)
  obtain ⟨rfl, -⟩ := Prod.mk.inj (Except.ok.inj (looked.symm.trans same))
  refine ⟨by decide, rfl, looked, covers.2 fun previous last => ?_⟩
  obtain rfl : ⟨30, 80⟩ = previous := Option.some.inj last
  exact not_outgrows_of_length_le (by decide)

/-- A window that gets longer at both ends, and one that does while it moves up: in either the first
line that is skipped is one that was not shown before. -/
theorem not_coversRevealed_play_growing :
    ((play [.look ⟨5, 10⟩]).update ⟨0, 20⟩ = .ok (⟨10, 20⟩, ⟨some ⟨0, 20⟩⟩) ∧
      ¬CoversRevealed ⟨10, 20⟩ ⟨0, 20⟩ (lastLooked [.look ⟨5, 10⟩])) ∧
    ((play [.look ⟨10, 15⟩]).update ⟨0, 10⟩ = .ok (⟨0, 5⟩, ⟨some ⟨0, 10⟩⟩) ∧
      ¬CoversRevealed ⟨0, 5⟩ ⟨0, 10⟩ (lastLooked [.look ⟨10, 15⟩])) :=
  ⟨⟨rfl, not_coversRevealed 0 (by decide) (by decide) (by decide)⟩,
    ⟨rfl, not_coversRevealed 5 (by decide) (by decide) (by decide)⟩⟩

end Viewport

end ColorSpans
