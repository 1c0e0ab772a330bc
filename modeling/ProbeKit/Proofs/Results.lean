/-!
# Results

When a result that is put together from others is good, and when it is an error.  The results of
many items are good together exactly if each of them is (`exists_mapM_iff`).  Where there is but one
error, a result is known by the condition for it (`FailsIf`).
-/

namespace ProbeKit

variable {α β ε ε' : Type}

theorem bind_eq_ok {x : Except ε α} {f : α → Except ε β} {y : β} :
    (x >>= f) = .ok y ↔ ∃ a, x = .ok a ∧ f a = .ok y := by
  cases x <;> simp [bind, Except.bind]

theorem bind_eq_error {x : Except ε α} {f : α → Except ε β} {e : ε} :
    (x >>= f) = .error e ↔ x = .error e ∨ ∃ a, x = .ok a ∧ f a = .error e := by
  cases x <;> simp [bind, Except.bind]

/-- Of two steps the first fails, or else the second after the first. -/
theorem bind_eq_error_iff_of {x : Except ε α} {f : α → Except ε β} {e : ε} {p ok q : Prop}
    (hx : x = .error e ↔ p) (hok : (∃ a, x = .ok a) ↔ ok)
    (hf : ∀ a, x = .ok a → (f a = .error e ↔ q)) : (x >>= f) = .error e ↔ p ∨ ok ∧ q := by
  rw [bind_eq_error, hx, ← hok]
  refine or_congr Iff.rfl ⟨fun ⟨a, ha, h⟩ => ⟨⟨a, ha⟩, (hf a ha).1 h⟩, ?_⟩
  rintro ⟨⟨a, ha⟩, h⟩
  exact ⟨a, ha, (hf a ha).2 h⟩

theorem map_eq_ok_iff {f : α → β} {x : Except ε α} {y : β} :
    x.map f = .ok y ↔ ∃ a, x = .ok a ∧ f a = y := by
  cases x <;> simp [Except.map]

theorem map_eq_error_iff {f : α → β} {x : Except ε α} {e : ε} : x.map f = .error e ↔ x = .error e := by
  cases x <;> simp [Except.map]

theorem mapError_eq_ok {g : ε → ε'} {x : Except ε α} {y : α} :
    x.mapError g = .ok y ↔ x = .ok y := by
  cases x with
  | error e => exact iff_of_false nofun nofun
  | ok z =>
    show Except.ok z = .ok y ↔ _
    rw [Except.ok.injEq, Except.ok.injEq]

theorem mapError_eq_error {g : ε → ε'} {x : Except ε α} {e' : ε'} :
    x.mapError g = .error e' ↔ ∃ e, x = .error e ∧ e' = g e := by
  cases x with
  | error e =>
    show Except.error (g e) = .error e' ↔ _
    simp [eq_comm]
  | ok z => exact iff_of_false nofun nofun

theorem eq_ok_of_toOption {x : Except ε α} {y : α} (h : x.toOption = some y) : x = .ok y := by
  cases x with
  | error e => cases h
  | ok z => exact congrArg Except.ok (Option.some.inj h)

/-! ### Items one by one -/

/-- What all items together give is what each of them gives. -/
theorem mem_iff_of_mapM {f : α → Except ε β} {items : List α} {results : List β}
    (h : items.mapM f = .ok results) {y : β} : y ∈ results ↔ ∃ x ∈ items, f x = .ok y := by
  induction items generalizing results with
  | nil =>
    cases h
    simp
  | cons x rest ih =>
    rw [List.mapM_cons] at h
    obtain ⟨first, hfirst, h⟩ := bind_eq_ok.1 h
    obtain ⟨others, hothers, h⟩ := bind_eq_ok.1 h
    cases h
    simp [hfirst, ih hothers, eq_comm]

theorem mem_flatten_of_mapM {f : α → Except ε (List β)} {items : List α}
    {results : List (List β)} (h : items.mapM f = .ok results) {y : β} :
    y ∈ results.flatten ↔ ∃ x ∈ items, ∃ ys, f x = .ok ys ∧ y ∈ ys := by
  rw [List.mem_flatten]
  constructor
  · rintro ⟨ys, hys, hy⟩
    obtain ⟨x, hx, hf⟩ := (mem_iff_of_mapM h).1 hys
    exact ⟨x, hx, ys, hf, hy⟩
  · rintro ⟨x, hx, ys, hf, hy⟩
    exact ⟨ys, (mem_iff_of_mapM h).2 ⟨x, hx, hf⟩, hy⟩

/-- What fails for one item fails for all together. -/
theorem exists_error_of_mapM {f : α → Except ε β} {items : List α} {x : α} {e : ε}
    (hx : x ∈ items) (h : f x = .error e) : ∃ e, items.mapM f = .error e := by
  induction items with
  | nil => cases hx
  | cons y rest ih =>
    rw [List.mapM_cons]
    cases hy : f y with
    | error e => exact ⟨e, rfl⟩
    | ok value =>
      rcases List.mem_cons.1 hx with rfl | hx
      · rw [h] at hy
        cases hy
      · obtain ⟨e, he⟩ := ih hx
        rw [he]
        exact ⟨e, rfl⟩

theorem exists_mapM_iff {f : α → Except ε β} {items : List α} :
    (∃ results, items.mapM f = .ok results) ↔ ∀ x ∈ items, ∃ y, f x = .ok y := by
  constructor
  · rintro ⟨results, h⟩ x hx
    cases hy : f x with
    | ok y => exact ⟨y, rfl⟩
    | error e =>
      obtain ⟨e', he⟩ := exists_error_of_mapM hx hy
      cases he.symm.trans h
  · intro h
    induction items with
    | nil => exact ⟨[], rfl⟩
    | cons x rest ih =>
      obtain ⟨y, hy⟩ := h x List.mem_cons_self
      obtain ⟨ys, hys⟩ := ih fun z hz => h z (List.mem_cons_of_mem _ hz)
      exact ⟨y :: ys, by rw [List.mapM_cons, hy, hys]; rfl⟩

/-- Items are chosen one by one. -/
theorem filterM_eq {f : α → Except ε Bool} {g : α → Bool} {items : List α}
    (h : ∀ x ∈ items, f x = .ok (g x)) : items.filterM f = .ok (items.filter g) := by
  have haux (kept : List α) : List.filterAuxM f items kept = .ok ((items.filter g).reverse ++ kept) := by
    induction items generalizing kept with
    | nil => rfl
    | cons x rest ih =>
      rw [List.filterAuxM, h x List.mem_cons_self]
      show List.filterAuxM f rest _ = _
      rw [ih fun y hy => h y (List.mem_cons_of_mem _ hy), List.filter_cons]
      cases g x <;> simp
  rw [List.filterM, haux]
  simp [pure, Except.pure, bind, Except.bind]

/-! ### One error -/

/-- A result is an error exactly under a condition, and always the same error. -/
def FailsIf (p : Prop) (e : ε) (x : Except ε α) : Prop := ∀ e', x = .error e' ↔ p ∧ e' = e

section
variable {p q : Prop} {e : ε} {x : Except ε α}

theorem failsIf_ok (a : α) : FailsIf False e (.ok a : Except ε α) := fun e' => by simp

theorem FailsIf.congr (h : FailsIf p e x) (hpq : p ↔ q) : FailsIf q e x :=
  fun e' => (h e').trans (and_congr hpq Iff.rfl)

theorem FailsIf.exists_ok_iff (h : FailsIf p e x) : (∃ a, x = .ok a) ↔ ¬p := by
  cases x with
  | ok a => exact iff_of_true ⟨a, rfl⟩ fun hp => nomatch (h e).2 ⟨hp, rfl⟩
  | error e' => exact iff_of_false (fun ⟨a, ha⟩ => nomatch ha) (fun hp => hp ((h e').1 rfl).1)

theorem FailsIf.map (h : FailsIf p e x) (g : α → β) : FailsIf p e (x.map g) := fun e' =>
  map_eq_error_iff.trans (h e')

/-- Of two steps with the same error the first or the second fails. -/
theorem FailsIf.bind {g : α → Except ε β} (h : FailsIf p e x) (hg : ∀ a, FailsIf q e (g a)) :
    FailsIf (p ∨ q) e (x >>= g) := by
  intro e'
  rw [bind_eq_error, h e']
  constructor
  · rintro (⟨hp, rfl⟩ | ⟨a, -, ha⟩)
    · exact ⟨.inl hp, rfl⟩
    · exact ⟨.inr ((hg a e').1 ha).1, ((hg a e').1 ha).2⟩
  · rintro ⟨hpq, rfl⟩
    by_cases hp : p
    · exact .inl ⟨hp, rfl⟩
    · obtain ⟨a, ha⟩ := h.exists_ok_iff.2 hp
      exact .inr ⟨a, ha, (hg a e').2 ⟨hpq.resolve_left hp, rfl⟩⟩

theorem failsIf_mapM {f : α → Except ε β} {p : α → Prop} (h : ∀ a, FailsIf (p a) e (f a))
    (items : List α) : FailsIf (∃ a ∈ items, p a) e (items.mapM f) := by
  induction items with
  | nil => exact (failsIf_ok []).congr (by simp)
  | cons a rest ih =>
    rw [List.mapM_cons]
    refine ((h a).bind fun b => ih.bind fun bs => failsIf_ok (b :: bs)).congr ?_
    simp

end

end ProbeKit
