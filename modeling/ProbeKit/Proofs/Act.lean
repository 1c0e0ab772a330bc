import ProbeKit.Desk

/-!
# Running actions

What `Act.on` makes of each way to put actions together.  An action `Relates` two states by a
relation if each of its runs leads from one to the other, however it ends; for a relation that is
reflexive and transitive it is enough to look at the parts of the action.  It `Preserves` a property
of states if each of its runs does.
-/

namespace ProbeKit.Act

variable {σ τ α β : Type}

/-! ### Runs -/

@[simp] theorem on_pure (x : α) (s : σ) : (pure x : Act σ α).on s = (.ok x, s) := rfl

@[simp] theorem on_throw (f : Fault) (s : σ) : (throw f : Act σ α).on s = (.error f, s) := rfl

@[simp] theorem on_get (s : σ) : (get : Act σ σ).on s = (.ok s, s) := rfl

@[simp] theorem on_set (t s : σ) : (set t : Act σ PUnit).on s = (.ok ⟨⟩, t) := rfl

@[simp] theorem on_modify (f : σ → σ) (s : σ) : (modify f : Act σ PUnit).on s = (.ok ⟨⟩, f s) := rfl

@[simp] theorem on_ofExcept_ok {ε : Type} (wrap : ε → Fault) (x : α) (s : σ) :
    (Act.ofExcept wrap (.ok x) : Act σ α).on s = (.ok x, s) := rfl

@[simp] theorem on_ofExcept_error {ε : Type} (wrap : ε → Fault) (e : ε) (s : σ) :
    (Act.ofExcept wrap (.error e) : Act σ α).on s = (.error (wrap e), s) := rfl

theorem on_ofExcept_eq_ok {ε : Type} {wrap : ε → Fault} {r : Except ε α} {x : α} {s t : σ} :
    (Act.ofExcept wrap r : Act σ α).on s = (.ok x, t) ↔ r = .ok x ∧ t = s := by
  cases r with
  | error e => simp
  | ok y => simp [eq_comm]

/-- The first action runs, and then the second unless the first ended in a fault. -/
theorem on_bind (a : Act σ α) (f : α → Act σ β) (s : σ) :
    (a >>= f).on s =
      match a.on s with
      | (.ok x, t) => (f x).on t
      | (.error e, t) => (.error e, t) := by
  have h : (a >>= f).on s = ExceptT.bindCont f (a.on s).1 (a.on s).2 := rfl
  rw [h]
  rcases a.on s with ⟨_ | _, t⟩ <;> rfl

theorem on_bind_of_ok {a : Act σ α} {s t : σ} {x : α} (h : a.on s = (.ok x, t))
    (f : α → Act σ β) : (a >>= f).on s = (f x).on t := by
  rw [on_bind, h]

theorem on_bind_of_error {a : Act σ α} {s t : σ} {e : Fault} (h : a.on s = (.error e, t))
    (f : α → Act σ β) : (a >>= f).on s = (.error e, t) := by
  rw [on_bind, h]

@[simp] theorem on_get_bind (f : σ → Act σ β) (s : σ) : (get >>= f).on s = (f s).on s := rfl

@[simp] theorem on_set_bind (t : σ) (f : PUnit → Act σ β) (s : σ) :
    (set t >>= f).on s = (f ⟨⟩).on t := rfl

@[simp] theorem on_modify_bind (g : σ → σ) (f : PUnit → Act σ β) (s : σ) :
    (modify g >>= f).on s = (f ⟨⟩).on (g s) := rfl

@[simp] theorem on_pure_bind (x : α) (f : α → Act σ β) (s : σ) :
    ((pure x : Act σ α) >>= f).on s = (f x).on s := rfl

/-- What ended well ended well in both its parts. -/
theorem on_bind_eq_ok {a : Act σ α} {f : α → Act σ β} {s u : σ} {y : β} :
    (a >>= f).on s = (.ok y, u) ↔ ∃ x t, a.on s = (.ok x, t) ∧ (f x).on t = (.ok y, u) := by
  rw [on_bind]
  rcases a.on s with ⟨e | x, t⟩
  · simp
  · constructor
    · intro h
      exact ⟨x, t, rfl, h⟩
    · rintro ⟨x', t', hx, h⟩
      cases hx
      exact h

/-- On a part of a state an action runs as it does on its own. -/
theorem on_within (get : σ → τ) (set : τ → σ → σ) (a : Act τ α) (s : σ) :
    (a.within get set).on s = ((a.on (get s)).1, set (a.on (get s)).2 s) := by
  unfold Act.within
  rw [on_get_bind]
  rcases a.on (get s) with ⟨_ | _, t⟩ <;> rfl

/-! ### What all runs have in common -/

/-- Each run leads from a state to a related one. -/
def Relates (R : σ → σ → Prop) (a : Act σ α) : Prop := ∀ s, R s (a.on s).2

section
variable {R : σ → σ → Prop} [Std.Refl R]

theorem relates_pure (x : α) : Relates R (pure x : Act σ α) := Std.Refl.refl

theorem relates_get : Relates R (get : Act σ σ) := Std.Refl.refl

theorem relates_throw (f : Fault) : Relates R (throw f : Act σ α) := Std.Refl.refl

theorem relates_ofExcept {ε : Type} (wrap : ε → Fault) (x : Except ε α) :
    Relates R (Act.ofExcept wrap x : Act σ α) := by
  intro s
  cases x <;> exact Std.Refl.refl s

end

theorem relates_bind {R : σ → σ → Prop} [Trans R R R] {a : Act σ α} {f : α → Act σ β}
    (ha : Relates R a) (hf : ∀ x, Relates R (f x)) : Relates R (a >>= f) := by
  intro s
  have h := ha s
  rw [on_bind]
  rcases hr : a.on s with ⟨e | x, t⟩
  · rwa [hr] at h
  · rw [hr] at h
    exact Trans.trans h (hf x t)

/-- Each run leads from a state with a property to one that has it too. -/
def Preserves (P : σ → Prop) (a : Act σ α) : Prop := ∀ s, P s → P (a.on s).2

/-- A state has a property if another one had it. -/
def Keeping (P : σ → Prop) (s t : σ) : Prop := P s → P t

section
variable {P : σ → Prop}

instance : Std.Refl (Keeping P) := ⟨fun _ h => h⟩

instance : Trans (Keeping P) (Keeping P) (Keeping P) := ⟨fun h h' hs => h' (h hs)⟩

/-- To preserve a property is to relate states by keeping it. -/
theorem preserves_iff_relates {a : Act σ α} : Preserves P a ↔ Relates (Keeping P) a := Iff.rfl

theorem preserves_pure (x : α) : Preserves P (pure x : Act σ α) :=
  preserves_iff_relates.2 (relates_pure x)

theorem preserves_ofExcept {ε : Type} (wrap : ε → Fault) (x : Except ε α) :
    Preserves P (Act.ofExcept wrap x : Act σ α) :=
  preserves_iff_relates.2 (relates_ofExcept wrap x)

theorem preserves_bind {a : Act σ α} {f : α → Act σ β} (ha : Preserves P a)
    (hf : ∀ x, Preserves P (f x)) : Preserves P (a >>= f) :=
  preserves_iff_relates.2 (relates_bind (preserves_iff_relates.1 ha) fun x =>
    preserves_iff_relates.1 (hf x))

end

end ProbeKit.Act
