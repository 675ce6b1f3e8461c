/-! Computations that may fail, taken apart where they succeed and where they do not. -/
namespace ColorSpans

variable {e α β : Type}

def Raises (x : Except e α) : Prop := ∃ error, x = .error error

@[simp] theorem raises_error (error : e) : Raises (.error error : Except e α) := ⟨error, rfl⟩

@[simp] theorem not_raises_ok (a : α) : ¬Raises (.ok a : Except e α) := nofun

theorem exists_ok_of_not_raises {x : Except e α} (fine : ¬Raises x) : ∃ a, x = .ok a := by
  cases x with
  | error error => exact absurd (raises_error error) fine
  | ok a => exact ⟨a, rfl⟩

theorem raises_bind {x : Except e α} {f : α → Except e β} :
    Raises (x >>= f) ↔ Raises x ∨ ∃ a, x = .ok a ∧ Raises (f a) := by
  cases x <;> simp [bind, Except.bind]

theorem raises_bind_of {x : Except e α} {f : α → Except e β} {failed : Prop}
    (next : ∀ a, Raises (f a) ↔ failed) : Raises (x >>= f) ↔ Raises x ∨ failed := by
  cases x with
  | error error => simp [bind, Except.bind]
  | ok a => simp [bind, Except.bind, next]

theorem raises_bind_some {x : Except e (Option α)} {f : Option α → Except e β}
    (missing : ¬Raises (f none)) :
    Raises (x >>= f) ↔ Raises x ∨ ∃ a, x = .ok (some a) ∧ Raises (f (some a)) := by
  rw [raises_bind]
  refine or_congr_right ⟨?_, ?_⟩
  · rintro ⟨found, same, failed⟩
    cases found with
    | none => exact absurd failed missing
    | some a => exact ⟨a, same, failed⟩
  · rintro ⟨a, same, failed⟩
    exact ⟨some a, same, failed⟩

theorem raises_map {x : Except e α} {f : α → β} : Raises (x.map f) ↔ Raises x := by
  cases x <;> simp [Except.map]

theorem raises_mapError {d : Type} {x : Except e α} {f : e → d} :
    Raises (x.mapError f) ↔ Raises x := by
  cases x with
  | error error => exact iff_of_true ⟨_, rfl⟩ ⟨_, rfl⟩
  | ok a => exact iff_of_false (not_raises_ok a) (not_raises_ok a)

theorem bind_eq_ok {x : Except e α} {f : α → Except e β} {b : β} :
    (x >>= f) = .ok b ↔ ∃ a, x = .ok a ∧ f a = .ok b := by
  cases x <;> simp [bind, Except.bind]

theorem map_eq_ok {x : Except e α} {f : α → β} {b : β} :
    x.map f = .ok b ↔ ∃ a, x = .ok a ∧ f a = b := by
  cases x <;> simp [Except.map]

theorem eq_ok_of_toOption {x : Except e α} {a : α} (h : x.toOption = some a) : x = .ok a := by
  cases x with
  | error _ => cases h
  | ok b => rw [Option.some.inj h]

theorem foldlM_preserves {P : β → Prop} {f : β → α → Except e β} {l : List α} {b out : β}
    (step : ∀ b a next, P b → f b a = .ok next → P next) (h : P b) (run : l.foldlM f b = .ok out) :
    P out := by
  induction l generalizing b with
  | nil => exact Except.ok.inj run ▸ h
  | cons a l ih =>
    rw [List.foldlM_cons] at run
    obtain ⟨next, first, rest⟩ := bind_eq_ok.1 run
    exact ih (step b a next h first) rest

end ColorSpans
