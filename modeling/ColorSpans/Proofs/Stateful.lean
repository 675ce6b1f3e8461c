/-! Computations that change a state and may fail. A failing one keeps what it changed so far. -/
namespace ColorSpans.Stateful

variable {ε σ τ α β : Type}

theorem run_bind (x : ExceptT ε (StateM σ) α) (f : α → ExceptT ε (StateM σ) β) (s : σ) :
    (x >>= f).run.run s = match x.run.run s with
      | (.ok a, s) => (f a).run.run s
      | (.error e, s) => (.error e, s) := by
  simp only [bind, ExceptT.bind, ExceptT.mk, ExceptT.run, StateT.bind, StateT.run, ExceptT.bindCont]
  generalize x s = outcome
  obtain ⟨_ | _, _⟩ := outcome <;> rfl

theorem run_bind_eq_ok {x : ExceptT ε (StateM σ) α} {f : α → ExceptT ε (StateM σ) β}
    {s t : σ} {b : β} :
    (x >>= f).run.run s = (.ok b, t) ↔
      ∃ a s', x.run.run s = (.ok a, s') ∧ (f a).run.run s' = (.ok b, t) := by
  rw [run_bind]
  generalize x.run.run s = after
  constructor
  · intro done
    obtain ⟨_ | a, s'⟩ := after
    · cases (Prod.mk.inj done).1
    · exact ⟨a, s', rfl, done⟩
  · rintro ⟨a, s', rfl, done⟩
    exact done

theorem run_pure (a : α) (s : σ) : (pure a : ExceptT ε (StateM σ) α).run.run s = (.ok a, s) := rfl

theorem run_get (s : σ) : (get : ExceptT ε (StateM σ) σ).run.run s = (.ok s, s) := rfl

theorem run_set (s t : σ) : (set t : ExceptT ε (StateM σ) PUnit).run.run s = (.ok ⟨⟩, t) := rfl

theorem run_modify (f : σ → σ) (s : σ) :
    (modify f : ExceptT ε (StateM σ) PUnit).run.run s = (.ok ⟨⟩, f s) := rfl

theorem run_forM_cons (f : α → ExceptT ε (StateM σ) PUnit) (a : α) (as : List α) (s : σ) :
    ((a :: as).forM f).run.run s = match (f a).run.run s with
      | (.ok _, s) => (as.forM f).run.run s
      | (.error e, s) => (.error e, s) := by
  change (f a >>= fun _ => as.forM f).run.run s = _
  rw [run_bind]
  generalize (f a).run.run s = after
  obtain ⟨_ | _, _⟩ := after <;> rfl

theorem run_forM_modify (f : α → σ → σ) (as : List α) (s : σ) :
    (as.forM fun a => (modify (f a) : ExceptT ε (StateM σ) PUnit)).run.run s =
      (.ok ⟨⟩, as.foldl (fun s a => f a s) s) := by
  induction as generalizing s with
  | nil => rfl
  | cons a as ih => exact ih (f a s)

variable {view : σ → τ}

/-- Started in `s`, it keeps what is seen of the state, whether it fails or not. -/
def KeepsFrom (view : σ → τ) (s : σ) (x : ExceptT ε (StateM σ) α) : Prop :=
  view (x.run.run s).2 = view s

def Keeps (view : σ → τ) (x : ExceptT ε (StateM σ) α) : Prop := ∀ s, KeepsFrom view s x

theorem keeps_pure (a : α) : Keeps view (pure a : ExceptT ε (StateM σ) α) := fun _ => rfl

theorem keeps_throw (e : ε) : Keeps view (throw e : ExceptT ε (StateM σ) α) := fun _ => rfl

theorem keeps_modify {f : σ → σ} (same : ∀ s, view (f s) = view s) :
    Keeps view (modify f : ExceptT ε (StateM σ) PUnit) := same

theorem keepsFrom_set {s t : σ} (same : view t = view s) :
    KeepsFrom view s (set t : ExceptT ε (StateM σ) PUnit) := same

theorem view_bind (x : ExceptT ε (StateM σ) α) {f : α → ExceptT ε (StateM σ) β}
    (hf : ∀ a, Keeps view (f a)) (s : σ) : view ((x >>= f).run.run s).2 = view (x.run.run s).2 := by
  rw [run_bind]
  generalize x.run.run s = after
  obtain ⟨_ | a, t⟩ := after
  · rfl
  · exact hf a t

theorem keeps_bind {x : ExceptT ε (StateM σ) α} {f : α → ExceptT ε (StateM σ) β}
    (hx : Keeps view x) (hf : ∀ a, Keeps view (f a)) : Keeps view (x >>= f) :=
  fun s => (view_bind x hf s).trans (hx s)

theorem keeps_get_bind {f : σ → ExceptT ε (StateM σ) β} (hf : ∀ s, KeepsFrom view s (f s)) :
    Keeps view (get >>= f) := hf

theorem keepsFrom_set_bind {s t : σ} {f : PUnit → ExceptT ε (StateM σ) β} (same : view t = view s)
    (hf : KeepsFrom view t (f ⟨⟩)) : KeepsFrom view s (set t >>= f) := hf.trans same

theorem keeps_forM {f : α → ExceptT ε (StateM σ) PUnit} (hf : ∀ a, Keeps view (f a)) (as : List α) :
    Keeps view (as.forM f) := by
  induction as with
  | nil => exact keeps_pure _
  | cons a as ih => exact keeps_bind (hf a) fun _ => ih

variable {P : σ → Prop}

def Preserves (P : σ → Prop) (x : ExceptT ε (StateM σ) α) : Prop := ∀ s, P s → P (x.run.run s).2

theorem preserves_pure (a : α) : Preserves P (pure a : ExceptT ε (StateM σ) α) := fun _ h => h

theorem preserves_bind {x : ExceptT ε (StateM σ) α} {f : α → ExceptT ε (StateM σ) β}
    (hx : Preserves P x) (hf : ∀ a, Preserves P (f a)) : Preserves P (x >>= f) := by
  intro s h
  rw [run_bind]
  have after := hx s h
  generalize x.run.run s = outcome at after
  obtain ⟨_ | a, t⟩ := outcome
  · exact after
  · exact hf a t after

theorem preserves_get_bind {f : σ → ExceptT ε (StateM σ) β}
    (hf : ∀ s, P s → P ((f s).run.run s).2) : Preserves P (get >>= f) := hf

theorem preservesFrom_set_bind {s t : σ} {f : PUnit → ExceptT ε (StateM σ) β} (ht : P t)
    (hf : Preserves P (f ⟨⟩)) : P ((set t >>= f).run.run s).2 := hf t ht

theorem preserves_forM {f : α → ExceptT ε (StateM σ) PUnit} (hf : ∀ a, Preserves P (f a))
    (as : List α) : Preserves P (as.forM f) := by
  induction as with
  | nil => exact preserves_pure _
  | cons a as ih => exact preserves_bind (hf a) fun _ => ih

theorem Keeps.preserves {x : ExceptT ε (StateM σ) α} (h : Keeps view x)
    (seen : ∀ s t, view t = view s → P s → P t) : Preserves P x := fun s => seen s _ (h s)

def Agree (P : σ → Prop) (x y : ExceptT ε (StateM σ) α) : Prop :=
  ∀ s, P s → x.run.run s = y.run.run s

theorem agree_refl (x : ExceptT ε (StateM σ) α) : Agree P x x := fun _ _ => rfl

theorem agree_bind {x : ExceptT ε (StateM σ) α} {f g : α → ExceptT ε (StateM σ) β}
    (hx : Preserves P x) (hf : ∀ a, Agree P (f a) (g a)) : Agree P (x >>= f) (x >>= g) := by
  intro s h
  rw [run_bind, run_bind]
  have after := hx s h
  generalize x.run.run s = outcome at after
  obtain ⟨_ | a, t⟩ := outcome
  · rfl
  · exact hf a t after

theorem agree_get_bind {f g : σ → ExceptT ε (StateM σ) β}
    (hf : ∀ s, P s → (f s).run.run s = (g s).run.run s) : Agree P (get >>= f) (get >>= g) := hf

variable {R : σ → σ → Prop}

/-- Started in two states, two computations end in the same way, in states that are related. -/
def LockstepFrom (R : σ → σ → Prop) (s t : σ) (x y : ExceptT ε (StateM σ) α) : Prop :=
  (x.run.run s).1 = (y.run.run t).1 ∧ R (x.run.run s).2 (y.run.run t).2

def Lockstep (R : σ → σ → Prop) (x y : ExceptT ε (StateM σ) α) : Prop :=
  ∀ s t, R s t → LockstepFrom R s t x y

theorem lockstep_pure (a : α) : Lockstep R (pure a : ExceptT ε (StateM σ) α) (pure a) :=
  fun _ _ related => ⟨rfl, related⟩

theorem lockstep_throw (e : ε) : Lockstep R (throw e : ExceptT ε (StateM σ) α) (throw e) :=
  fun _ _ related => ⟨rfl, related⟩

theorem lockstep_modify {f g : σ → σ} (related : ∀ s t, R s t → R (f s) (g t)) :
    Lockstep R (modify f : ExceptT ε (StateM σ) PUnit) (modify g) :=
  fun s t before => ⟨rfl, related s t before⟩

theorem lockstepFrom_set {s t s' t' : σ} (related : R s' t') :
    LockstepFrom R s t (set s' : ExceptT ε (StateM σ) PUnit) (set t') := ⟨rfl, related⟩

theorem lockstepFrom_set_bind {s t s' t' : σ} {f g : PUnit → ExceptT ε (StateM σ) β}
    (rest : LockstepFrom R s' t' (f ⟨⟩) (g ⟨⟩)) :
    LockstepFrom R s t (set s' >>= f) (set t' >>= g) := rest

theorem lockstepFrom_bind {x y : ExceptT ε (StateM σ) α} {f g : α → ExceptT ε (StateM σ) β}
    {s t : σ} (hx : LockstepFrom R s t x y) (hf : ∀ a, Lockstep R (f a) (g a)) :
    LockstepFrom R s t (x >>= f) (y >>= g) := by
  obtain ⟨outcome, after⟩ := hx
  rw [LockstepFrom, run_bind, run_bind]
  generalize x.run.run s = left at outcome after
  generalize y.run.run t = right at outcome after
  obtain ⟨e | a, s'⟩ := left
  · obtain ⟨_, t'⟩ := right
    obtain rfl := outcome
    exact ⟨rfl, after⟩
  · obtain ⟨_, t'⟩ := right
    obtain rfl := outcome
    exact hf a s' t' after

theorem lockstep_bind {x y : ExceptT ε (StateM σ) α} {f g : α → ExceptT ε (StateM σ) β}
    (hx : Lockstep R x y) (hf : ∀ a, Lockstep R (f a) (g a)) : Lockstep R (x >>= f) (y >>= g) :=
  fun s t related => lockstepFrom_bind (hx s t related) hf

theorem lockstepFrom_get_bind {s t : σ} {f g : σ → ExceptT ε (StateM σ) β}
    (rest : LockstepFrom R s t (f s) (g t)) : LockstepFrom R s t (get >>= f) (get >>= g) := rest

theorem lockstep_get_bind {f g : σ → ExceptT ε (StateM σ) β}
    (hf : ∀ s t, R s t → LockstepFrom R s t (f s) (g t)) : Lockstep R (get >>= f) (get >>= g) := hf

theorem lockstep_forM {f g : α → ExceptT ε (StateM σ) PUnit} {as : List α}
    (hf : ∀ a ∈ as, Lockstep R (f a) (g a)) : Lockstep R (as.forM f) (as.forM g) := by
  induction as with
  | nil => exact lockstep_pure _
  | cons a as ih =>
    exact lockstep_bind (hf a List.mem_cons_self) fun _ => ih fun b listed =>
      hf b (List.mem_cons_of_mem a listed)

theorem lockstep_foldlM {f g : β → α → ExceptT ε (StateM σ) β}
    (hf : ∀ b a, Lockstep R (f b a) (g b a)) (as : List α) (b : β) :
    Lockstep R (as.foldlM f b) (as.foldlM g b) := by
  induction as generalizing b with
  | nil => exact lockstep_pure b
  | cons a as ih => exact lockstep_bind (hf b a) ih

end ColorSpans.Stateful
