import ProbeKit.Probe.Catalog
import ProbeKit.Proofs.Lookup

/-!
# What a catalog knows

A catalog is determined by what it says of each file (`Catalog.ext_find?`), and setting or forgetting
one file leaves the others alone.
-/

namespace ProbeKit

namespace Catalog

theorem lookup_insertInto {β : Type} (key : String) (value : β) {entries : List (String × β)}
    (h : entries.Pairwise (·.1 < ·.1)) (k : String) :
    (insertInto key value entries).lookup k = if k = key then some value else entries.lookup k := by
  induction entries with
  | nil =>
    by_cases hk : k = key
    · simp [insertInto, hk]
    · simp [insertInto, List.lookup_cons, hk, beq_eq_false_iff_ne.2 hk]
  | cons e rest ih =>
    obtain ⟨name, old⟩ := e
    obtain ⟨-, hrest⟩ := List.pairwise_cons.1 h
    simp only [insertInto]
    split
    · by_cases hk : k = key
      · simp [hk]
      · simp [List.lookup_cons, hk, beq_eq_false_iff_ne.2 hk]
    · split
      · rename_i heq
        subst heq
        by_cases hk : k = key
        · simp [hk]
        · simp [List.lookup_cons, hk, beq_eq_false_iff_ne.2 hk]
      · rename_i hne
        rw [List.lookup_cons, List.lookup_cons, ih hrest]
        by_cases hk : k = name
        · have hkey : k ≠ key := fun h => hne (h.symm.trans hk)
          simp [hk, hk ▸ hkey]
        · simp [beq_eq_false_iff_ne.2 hk]

@[simp] theorem find?_insert (c : Catalog) (file : String) (probes : List Probe) (k : String) :
    (c.insert file probes).find? k = if k = file then some probes else c.find? k :=
  lookup_insertInto file probes c.inOrder k

@[simp] theorem find?_empty (k : String) : (∅ : Catalog).find? k = none := rfl

@[simp] theorem find?_erase (c : Catalog) (file : String) (k : String) :
    (c.erase file).find? k = if k = file then none else c.find? k :=
  lookup_filter_ne file c.entries k

/-! ### Equal catalogs -/

theorem lookup_eq_some_iff {β : Type} {entries : List (String × β)}
    (h : entries.Pairwise (·.1 < ·.1)) {k : String} {v : β} :
    entries.lookup k = some v ↔ (k, v) ∈ entries := by
  induction entries with
  | nil => simp
  | cons e rest ih =>
    obtain ⟨name, old⟩ := e
    obtain ⟨hname, hrest⟩ := List.pairwise_cons.1 h
    rw [List.lookup_cons, List.mem_cons]
    by_cases hk : k = name
    · subst hk
      have hnot : (k, v) ∉ rest := fun hmem => String.lt_irrefl k (hname _ hmem)
      simp [hnot, eq_comm]
    · simp [beq_eq_false_iff_ne.2 hk, hk, ih hrest]

theorem eq_of_mem_iff {β : Type} {xs ys : List (String × β)} (hx : xs.Pairwise (·.1 < ·.1))
    (hy : ys.Pairwise (·.1 < ·.1)) (h : ∀ e, e ∈ xs ↔ e ∈ ys) : xs = ys := by
  have hnodup {zs : List (String × β)} (hz : zs.Pairwise (·.1 < ·.1)) : zs.Nodup := by
    refine List.Pairwise.imp (fun {a b} hlt heq => ?_) hz
    rw [heq] at hlt
    exact String.lt_irrefl _ hlt
  have hperm : xs.Perm ys := (List.perm_ext_iff_of_nodup (hnodup hx) (hnodup hy)).2 h
  refine hperm.eq_of_pairwise (fun a b _ _ hab hba => ?_) hx hy
  exact absurd (String.lt_trans hab hba) (String.lt_irrefl _)

/-- **Catalogs that say the same of every file are equal.** -/
theorem ext_find? {c c' : Catalog} (h : ∀ k v, c.find? k = some v ↔ c'.find? k = some v) :
    c = c' := by
  obtain ⟨entries, horder⟩ := c
  obtain ⟨entries', horder'⟩ := c'
  have hentries : entries = entries' := by
    refine eq_of_mem_iff horder horder' fun e => ?_
    obtain ⟨k, v⟩ := e
    rw [← lookup_eq_some_iff horder, ← lookup_eq_some_iff horder']
    exact h k v
  subst hentries
  rfl

end Catalog

end ProbeKit
