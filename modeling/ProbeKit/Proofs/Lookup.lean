/-!
# Looking up keys

A list of pairs gives a key the value of the first pair with that key.
-/

namespace ProbeKit

variable {β : Type} {entries : List (String × β)}

theorem mem_of_lookup {α : Type} [DecidableEq α] {entries : List (α × β)} {key : α} {value : β}
    (h : entries.lookup key = some value) : (key, value) ∈ entries := by
  induction entries with
  | nil => cases h
  | cons e rest ih =>
    obtain ⟨k, v⟩ := e
    rw [List.lookup_cons] at h
    split at h
    · rename_i hk
      obtain rfl := beq_iff_eq.1 hk
      obtain rfl := Option.some.inj h
      exact List.mem_cons_self
    · exact List.mem_cons_of_mem _ (ih h)

theorem lookup_cons_ite {α : Type} [DecidableEq α] (key wanted : α) (value : β)
    (rest : List (α × β)) : ((key, value) :: rest).lookup wanted =
      if wanted = key then some value else rest.lookup wanted := by
  rw [List.lookup_cons]
  by_cases h : wanted = key
  · rw [beq_iff_eq.2 h, if_pos h]
  · rw [beq_false_of_ne h, if_neg h]

/-- What stands under a key still stands under what the key becomes, if no other key becomes
that. -/
theorem lookup_map_keys {α α' β' : Type} [DecidableEq α] [DecidableEq α'] {f : α → α'} {g : β → β'}
    {key : α} {key' : α'} (h : ∀ k, f k = key' ↔ k = key) (entries : List (α × β)) :
    (entries.map fun e => (f e.1, g e.2)).lookup key' = (entries.lookup key).map g := by
  induction entries with
  | nil => rfl
  | cons e rest ih =>
    obtain ⟨k, v⟩ := e
    rw [List.map_cons, List.lookup_cons, List.lookup_cons, ih]
    by_cases hk : k = key
    · rw [beq_iff_eq.2 hk.symm, beq_iff_eq.2 ((h k).2 hk).symm]
      rfl
    · rw [beq_false_of_ne (Ne.symm hk), beq_false_of_ne fun heq => hk ((h k).1 heq.symm)]

/-- In a list without repeated keys each pair is found under its key. -/
theorem lookup_of_mem (h : (entries.map (·.1)).Nodup)
    {e : String × β} (he : e ∈ entries) : entries.lookup e.1 = some e.2 := by
  induction entries with
  | nil => cases he
  | cons first rest ih =>
    rw [List.map_cons, List.nodup_cons] at h
    rw [List.lookup_cons]
    rcases List.mem_cons.1 he with rfl | he
    · simp
    · have hne : (e.1 == first.1) = false := by
        rw [beq_eq_false_iff_ne]
        exact fun heq => h.1 (heq ▸ List.mem_map_of_mem he)
      rw [hne]
      exact ih h.2 he

/-- In a list without repeated keys the order of the pairs does not count. -/
theorem lookup_eq_of_perm {entries' : List (String × β)} (h : (entries.map (·.1)).Nodup)
    (hperm : entries.Perm entries') (key : String) : entries.lookup key = entries'.lookup key := by
  have h' : (entries'.map (·.1)).Nodup := (hperm.map _).nodup_iff.1 h
  cases hfound : entries'.lookup key with
  | some value => exact lookup_of_mem h (hperm.mem_iff.2 (mem_of_lookup hfound))
  | none =>
    cases hfound' : entries.lookup key with
    | none => rfl
    | some value =>
      rw [lookup_of_mem h' (hperm.mem_iff.1 (mem_of_lookup hfound'))] at hfound
      cases hfound

/-- Without the pairs of one key the others are found as before. -/
theorem lookup_filter_ne (key : String) (entries : List (String × β)) (k : String) :
    (entries.filter (·.1 != key)).lookup k = if k = key then none else entries.lookup k := by
  induction entries with
  | nil => simp
  | cons e rest ih =>
    obtain ⟨name, old⟩ := e
    by_cases hname : name = key
    · subst hname
      rw [List.filter_cons_of_neg (by simp), ih, List.lookup_cons]
      by_cases hk : k = name
      · simp [hk]
      · simp [hk, beq_eq_false_iff_ne.2 hk]
    · rw [List.filter_cons_of_pos (by simpa using hname), List.lookup_cons, List.lookup_cons, ih]
      by_cases hk : k = name
      · have hkey : k ≠ key := fun h => hname (hk.symm.trans h)
        simp [hk, hk ▸ hkey]
      · simp [beq_eq_false_iff_ne.2 hk]

end ProbeKit
