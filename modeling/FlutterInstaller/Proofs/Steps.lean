import FlutterInstaller.Host
import Mathlib.Order.Defs.Unbundled

/-!
Running steps that may fail. A step gives a result or an error and leaves a state behind; a sequence
succeeds exactly when each of its steps does, from the state that the one before it left. Steps that
do not tell related states from each other do not when they are put together, neither do steps change
what none of them changes, and steps that each lead to a related state do so together.
-/
namespace FlutterInstaller

section Perform

variable {ε σ α β : Type}

/-- What a step comes to from a state: its result, and the state after it. -/
def perform (m : ExceptT ε (StateM σ) α) (s : σ) : Except ε α × σ := m.run.run s

@[simp] theorem perform_pure (a : α) (s : σ) :
    perform (pure a : ExceptT ε (StateM σ) α) s = (.ok a, s) := rfl

@[simp] theorem perform_throw (e : ε) (s : σ) :
    perform (throw e : ExceptT ε (StateM σ) α) s = (.error e, s) := rfl

@[simp] theorem perform_get (s : σ) :
    perform (get : ExceptT ε (StateM σ) σ) s = (.ok s, s) := rfl

@[simp] theorem perform_set (t s : σ) :
    perform (set t : ExceptT ε (StateM σ) PUnit) s = (.ok ⟨⟩, t) := rfl

@[simp] theorem perform_modify (f : σ → σ) (s : σ) :
    perform (modify f : ExceptT ε (StateM σ) PUnit) s = (.ok ⟨⟩, f s) := rfl

theorem perform_bind (m : ExceptT ε (StateM σ) α) (f : α → ExceptT ε (StateM σ) β) (s : σ) :
    perform (m >>= f) s =
      match perform m s with
      | (.ok a, t) => perform (f a) t
      | (.error e, t) => (.error e, t) := by
  change (ExceptT.bindCont f (m.run.run s).1).run (m.run.run s).2 = _
  rcases h : m.run.run s with ⟨r, t⟩
  cases r <;> simp [perform, h, ExceptT.bindCont] <;> rfl

theorem perform_bind_of_ok {m : ExceptT ε (StateM σ) α} {f : α → ExceptT ε (StateM σ) β} {s t : σ}
    {a : α} (h : perform m s = (.ok a, t)) : perform (m >>= f) s = perform (f a) t := by
  rw [perform_bind, h]

theorem perform_bind_of_error {m : ExceptT ε (StateM σ) α} {f : α → ExceptT ε (StateM σ) β} {s t : σ}
    {e : ε} (h : perform m s = (.error e, t)) : perform (m >>= f) s = (.error e, t) := by
  rw [perform_bind, h]

theorem perform_tryCatch (m : ExceptT ε (StateM σ) α) (f : ε → ExceptT ε (StateM σ) α) (s : σ) :
    perform (tryCatch m f) s =
      match perform m s with
      | (.ok a, t) => (.ok a, t)
      | (.error e, t) => perform (f e) t := by
  change ((match (m.run.run s).1 with
    | .ok a => pure (.ok a)
    | .error e => f e : StateM σ (Except ε α)) (m.run.run s).2) = _
  rcases h : m.run.run s with ⟨r, t⟩
  cases r <;> simp [perform, h] <;> rfl

@[simp] theorem perform_get_bind (f : σ → ExceptT ε (StateM σ) β) (s : σ) :
    perform (get >>= f) s = perform (f s) s := perform_bind get f s

@[simp] theorem perform_set_bind (t : σ) (f : PUnit → ExceptT ε (StateM σ) β) (s : σ) :
    perform (set t >>= f) s = perform (f ⟨⟩) t := perform_bind (set t) f s

@[simp] theorem perform_modify_bind (g : σ → σ) (f : PUnit → ExceptT ε (StateM σ) β) (s : σ) :
    perform (modify g >>= f) s = perform (f ⟨⟩) (g s) := perform_bind (modify g) f s

theorem perform_bind_eq_ok {m : ExceptT ε (StateM σ) α} {f : α → ExceptT ε (StateM σ) β} {s u : σ}
    {b : β} :
    perform (m >>= f) s = (.ok b, u) ↔
      ∃ a t, perform m s = (.ok a, t) ∧ perform (f a) t = (.ok b, u) := by
  rw [perform_bind]
  rcases perform m s with ⟨r, t⟩
  cases r with
  | error e => simp
  | ok a =>
    constructor
    · exact fun h => ⟨a, t, rfl, h⟩
    · rintro ⟨a', t', ht, h⟩
      cases ht
      exact h

theorem perform_forM_concat {f : α → ExceptT ε (StateM σ) PUnit} {as : List α} {a : α} {s u : σ}
    (h : perform ((as ++ [a]).forM f) s = (.ok ⟨⟩, u)) :
    ∃ t, perform (as.forM f) s = (.ok ⟨⟩, t) ∧ perform (f a) t = (.ok ⟨⟩, u) := by
  induction as generalizing s with
  | nil =>
    rw [List.nil_append, List.forM] at h
    obtain ⟨_, t, ha, h⟩ := perform_bind_eq_ok.mp h
    cases h
    exact ⟨s, rfl, ha⟩
  | cons b as ih =>
    rw [List.cons_append, List.forM] at h
    obtain ⟨_, r, hb, h⟩ := perform_bind_eq_ok.mp h
    obtain ⟨t, has, ha⟩ := ih h
    refine ⟨t, ?_, ha⟩
    rw [List.forM, perform_bind_of_ok hb, has]

theorem perform_map (f : α → β) (m : ExceptT ε (StateM σ) α) (s : σ) :
    perform (f <$> m) s = ((perform m s).1.map f, (perform m s).2) := by
  rw [map_eq_pure_bind, perform_bind]
  rcases perform m s with ⟨_ | _, t⟩ <;> rfl

theorem perform_map_eq_ok {f : α → β} {m : ExceptT ε (StateM σ) α} {s u : σ} {b : β} :
    perform (f <$> m) s = (.ok b, u) ↔ ∃ a, perform m s = (.ok a, u) ∧ f a = b := by
  rw [map_eq_pure_bind, perform_bind_eq_ok]
  constructor
  · rintro ⟨a, t, ha, h⟩
    cases h
    exact ⟨a, ha, rfl⟩
  · rintro ⟨a, ha, rfl⟩
    exact ⟨a, u, ha, rfl⟩

end Perform

section Respects

variable {ε σ α β : Type} {R : σ → σ → Prop} {s t : σ}

structure Agree (R : σ → σ → Prop) (x y : Except ε α × σ) : Prop where
  result : x.1 = y.1
  state : R x.2 y.2

theorem Agree.of_ok {x y : Except ε α × σ} {a : α} (h : Agree R x y) (hx : x = (.ok a, s)) :
    ∃ t, y = (.ok a, t) ∧ R s t := by
  subst hx
  exact ⟨y.2, Prod.ext h.result.symm rfl, h.state⟩

/-- A step that does not tell related states from each other. -/
def Respects (R : σ → σ → Prop) (m : ExceptT ε (StateM σ) α) : Prop :=
  ∀ ⦃s t⦄, R s t → Agree R (perform m s) (perform m t)

theorem respects_pure (a : α) : Respects R (pure a : ExceptT ε (StateM σ) α) :=
  fun _ _ h => ⟨rfl, h⟩

theorem respects_throw (e : ε) : Respects R (throw e : ExceptT ε (StateM σ) α) :=
  fun _ _ h => ⟨rfl, h⟩

theorem Respects.bind {m : ExceptT ε (StateM σ) α} {f : α → ExceptT ε (StateM σ) β}
    (hm : Respects R m) (hf : ∀ a, Respects R (f a)) : Respects R (m >>= f) := by
  intro s t h
  have hagree := hm h
  rw [perform_bind, perform_bind]
  generalize perform m s = x, perform m t = y at hagree ⊢
  obtain ⟨r, s'⟩ := x
  obtain ⟨r', t'⟩ := y
  obtain ⟨hresult, hstate⟩ := hagree
  cases hresult
  cases r with
  | error e => exact ⟨rfl, hstate⟩
  | ok a => exact hf a hstate

theorem Respects.map {m : ExceptT ε (StateM σ) α} (f : α → β) (hm : Respects R m) :
    Respects R (f <$> m) := by
  rw [map_eq_pure_bind]
  exact hm.bind fun a => respects_pure (f a)

theorem Respects.tryCatch {m : ExceptT ε (StateM σ) α} {f : ε → ExceptT ε (StateM σ) α}
    (hm : Respects R m) (hf : ∀ e, Respects R (f e)) : Respects R (tryCatch m f) := by
  intro s t h
  have hagree := hm h
  rw [perform_tryCatch, perform_tryCatch]
  generalize perform m s = x, perform m t = y at hagree ⊢
  obtain ⟨r, s'⟩ := x
  obtain ⟨r', t'⟩ := y
  obtain ⟨hresult, hstate⟩ := hagree
  cases hresult
  cases r with
  | error e => exact hf e hstate
  | ok a => exact ⟨rfl, hstate⟩

theorem respects_get_bind {f : σ → ExceptT ε (StateM σ) β}
    (hf : ∀ ⦃s t⦄, R s t → Agree R (perform (f s) s) (perform (f t) t)) :
    Respects R (get >>= f) := by
  intro s t h
  rw [perform_get_bind, perform_get_bind]
  exact hf h

theorem Respects.mapM {f : α → ExceptT ε (StateM σ) β} (hf : ∀ a, Respects R (f a))
    (as : List α) : Respects R (as.mapM f) := by
  induction as with
  | nil => exact respects_pure []
  | cons a as ih =>
    rw [List.mapM_cons]
    exact (hf a).bind fun b => ih.bind fun bs => respects_pure (b :: bs)

theorem Respects.forM {f : α → ExceptT ε (StateM σ) PUnit} (hf : ∀ a, Respects R (f a))
    (as : List α) : Respects R (as.forM f) := by
  induction as with
  | nil => exact respects_pure PUnit.unit
  | cons a as ih => exact (hf a).bind fun _ => ih

end Respects

section Keeps

variable {ε σ α β γ : Type} {view : σ → γ}

/-- A step that leaves what is seen of the state as it is, whether it fails or not. -/
def Keeps (view : σ → γ) (m : ExceptT ε (StateM σ) α) : Prop := ∀ s, view (perform m s).2 = view s

theorem keeps_pure (a : α) : Keeps view (pure a : ExceptT ε (StateM σ) α) := fun _ => rfl

theorem keeps_throw (e : ε) : Keeps view (throw e : ExceptT ε (StateM σ) α) := fun _ => rfl

theorem keeps_get : Keeps view (get : ExceptT ε (StateM σ) σ) := fun _ => rfl

theorem Keeps.bind {m : ExceptT ε (StateM σ) α} {f : α → ExceptT ε (StateM σ) β}
    (hm : Keeps view m) (hf : ∀ a, Keeps view (f a)) : Keeps view (m >>= f) := by
  intro s
  have hs := hm s
  rw [perform_bind]
  generalize perform m s = x at hs ⊢
  obtain ⟨r, t⟩ := x
  cases r with
  | error e => exact hs
  | ok a => exact (hf a t).trans hs

theorem Keeps.map {m : ExceptT ε (StateM σ) α} (f : α → β) (hm : Keeps view m) :
    Keeps view (f <$> m) := by
  rw [map_eq_pure_bind]
  exact hm.bind fun a => keeps_pure (f a)

theorem Keeps.mapM {f : α → ExceptT ε (StateM σ) β} (hf : ∀ a, Keeps view (f a)) (as : List α) :
    Keeps view (as.mapM f) := by
  induction as with
  | nil => exact keeps_pure []
  | cons a as ih =>
    rw [List.mapM_cons]
    exact (hf a).bind fun b => ih.bind fun bs => keeps_pure (b :: bs)

end Keeps

section Advances

variable {ε σ α β : Type} {R : σ → σ → Prop} [IsPreorder σ R]

/-- A step that leads to a related state, whether it fails or not. -/
def Advances (R : σ → σ → Prop) (m : ExceptT ε (StateM σ) α) : Prop := ∀ s, R s (perform m s).2

omit [IsPreorder σ R] in
theorem Advances.of_perform {m : ExceptT ε (StateM σ) α} (hm : Advances R m) {s t : σ}
    {x : Except ε α} (h : perform m s = (x, t)) : R s t := by
  have hs := hm s
  rwa [h] at hs

theorem advances_pure (a : α) : Advances R (pure a : ExceptT ε (StateM σ) α) :=
  fun s => Std.Refl.refl s

theorem advances_throw (e : ε) : Advances R (throw e : ExceptT ε (StateM σ) α) :=
  fun s => Std.Refl.refl s

theorem Advances.bind {m : ExceptT ε (StateM σ) α} {f : α → ExceptT ε (StateM σ) β}
    (hm : Advances R m) (hf : ∀ a, Advances R (f a)) : Advances R (m >>= f) := by
  intro s
  have hs := hm s
  rw [perform_bind]
  generalize perform m s = x at hs ⊢
  obtain ⟨r, t⟩ := x
  cases r with
  | error e => exact hs
  | ok a => exact IsTrans.trans s t _ hs (hf a t)

theorem Advances.bind_of {P : α → Prop} {m : ExceptT ε (StateM σ) α}
    {f : α → ExceptT ε (StateM σ) β} (hm : Advances R m)
    (hP : ∀ ⦃s t a⦄, perform m s = (.ok a, t) → P a) (hf : ∀ a, P a → Advances R (f a)) :
    Advances R (m >>= f) := by
  intro s
  have hs := hm s
  rw [perform_bind]
  rcases hr : perform m s with ⟨r, t⟩
  rw [hr] at hs
  cases r with
  | error e => exact hs
  | ok a => exact IsTrans.trans s t _ hs (hf a (hP hr) t)

omit [IsPreorder σ R] in
theorem advances_get_bind {f : σ → ExceptT ε (StateM σ) β}
    (hf : ∀ s, R s (perform (f s) s).2) : Advances R (get >>= f) := by
  intro s
  rw [perform_get_bind]
  exact hf s

theorem Advances.tryCatch {m : ExceptT ε (StateM σ) α} {f : ε → ExceptT ε (StateM σ) α}
    (hm : Advances R m) (hf : ∀ e, Advances R (f e)) : Advances R (tryCatch m f) := by
  intro s
  have hs := hm s
  rw [perform_tryCatch]
  generalize perform m s = x at hs ⊢
  obtain ⟨r, t⟩ := x
  cases r with
  | error e => exact IsTrans.trans s t _ hs (hf e t)
  | ok a => exact hs

theorem Advances.mapM_of {f : α → ExceptT ε (StateM σ) β} {as : List α}
    (hf : ∀ a ∈ as, Advances R (f a)) : Advances R (as.mapM f) := by
  induction as with
  | nil => exact advances_pure []
  | cons a as ih =>
    obtain ⟨ha, has⟩ := List.forall_mem_cons.mp hf
    rw [List.mapM_cons]
    exact ha.bind fun b => (ih has).bind fun bs => advances_pure (b :: bs)

theorem Advances.mapM {f : α → ExceptT ε (StateM σ) β} (hf : ∀ a, Advances R (f a))
    (as : List α) : Advances R (as.mapM f) := .mapM_of fun a _ => hf a

theorem Advances.forM_of {f : α → ExceptT ε (StateM σ) PUnit} {as : List α}
    (hf : ∀ a ∈ as, Advances R (f a)) : Advances R (as.forM f) := by
  induction as with
  | nil => exact advances_pure PUnit.unit
  | cons a as ih =>
    obtain ⟨ha, has⟩ := List.forall_mem_cons.mp hf
    exact ha.bind fun _ => ih has

end Advances

end FlutterInstaller
