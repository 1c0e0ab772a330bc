import ProbeKit.Proofs.Manifest.Reading
import ProbeKit.Proofs.Manifest.Scanned

/-!
# Valid manifests

`Manifest.Valid` says in so many words what a manifest has to be like to be kept: version one, a named
provider, a module that is a text or absent, and probes with different identifiers for names and with
allowed types only.  That is exactly what it means to have no flaw (`Manifest.flaw?_eq_none_iff`), and
what is read for a valid manifest that was written is valid too (`Manifest.Valid.reread`).
-/

namespace ProbeKit.Manifest

open Json

/-- What a manifest has to be like to be kept. -/
structure Valid (m : Manifest) : Prop where
  /-- The version counts as one. -/
  schemaVersion : m.schemaVersion.isOne = true
  /-- The provider is a text that is not empty. -/
  provider : ∃ name : String, name ≠ "" ∧ m.provider = .str name
  /-- The module is a text or absent. -/
  moduleName : m.moduleName = .null ∨ ∃ name : String, m.moduleName = .str name
  /-- No two probes have the same name. -/
  names : (m.probes.map (·.name)).Nodup
  /-- Each name is an identifier and each type an allowed one. -/
  probes : ∀ p ∈ m.probes, p.Sound

/-! ### Fields -/

theorem isNamed_iff {j : Json} :
    isNamed j = true ↔ ∃ name : String, name ≠ "" ∧ j = .str name := by
  cases j with
  | str s => simp [isNamed]
  | _ => simp [isNamed]

theorem isNamedOrNull_iff {j : Json} :
    isNamedOrNull j = true ↔ j = .null ∨ ∃ name : String, j = .str name := by
  cases j with
  | null => simp [isNamedOrNull]
  | str s => simp [isNamedOrNull]
  | _ => simp [isNamedOrNull]

/-! ### Probes -/

/-- The names of probes without a flaw are new, different from each other and identifiers. -/
theorem names_of_probesFlaw? {place : Nat} {names : List String} {probes : List Probe}
    (h : probesFlaw? place names probes = none) :
    (probes.map (·.name)).Nodup ∧
      ∀ p ∈ probes, p.name ∉ names ∧ isIdentifier p.name = true := by
  induction probes generalizing place names with
  | nil => simp
  | cons p rest ih =>
    rw [probesFlaw?] at h
    split at h
    · cases h
    rename_i hidentifier
    split at h
    · cases h
    rename_i hnew
    split at h
    · cases h
    obtain ⟨hnodup, hrest⟩ := ih h
    refine ⟨?_, fun q hq => ?_⟩
    · rw [List.map_cons, List.nodup_cons]
      refine ⟨fun hmem => ?_, hnodup⟩
      obtain ⟨q, hq, hname⟩ := List.mem_map.1 hmem
      exact (hrest q hq).1 (hname ▸ List.mem_cons_self)
    · rcases List.mem_cons.1 hq with rfl | hq
      · exact ⟨by simpa using hnew, by simpa using hidentifier⟩
      · exact ⟨fun hmem => (hrest q hq).1 (List.mem_cons_of_mem _ hmem), (hrest q hq).2⟩

/-! ### The main result -/

/-- **A manifest has no flaw exactly if it is valid.** -/
theorem flaw?_eq_none_iff {m : Manifest} : m.flaw? = none ↔ m.Valid := by
  constructor
  · intro h
    obtain ⟨hversion, hprovider, hmodule, htypes⟩ := of_flaw?_eq_none h
    rw [flaw?, hversion, hprovider, hmodule] at h
    obtain ⟨hnames, hprobes⟩ := names_of_probesFlaw? h
    exact ⟨hversion, isNamed_iff.1 hprovider, isNamedOrNull_iff.1 hmodule, hnames,
      fun p hp => ⟨(hprobes p hp).2, htypes p hp⟩⟩
  · intro h
    have hnew : ∀ p ∈ m.probes, p.name ∉ ([] : List String) := fun _ _ => List.not_mem_nil
    have hprobes := probesFlaw?_eq_none h.probes 0 hnew h.names
    rw [flaw?, h.schemaVersion, isNamed_iff.2 h.provider, isNamedOrNull_iff.2 h.moduleName, hprobes]
    rfl

variable {m : Manifest}

theorem Valid.properTypes (h : m.Valid) : ∀ p ∈ m.probes, ∀ t ∈ p.types, properType t = t :=
  fun p hp t ht => properType_of_mem ((h.probes p hp).types t ht)

/-- Of a valid manifest only the order of the probes and an empty module are lost when it is
read. -/
theorem Valid.probes_reread (h : m.Valid) : m.reread.probes = m.sortedProbes :=
  Manifest.probes_reread h.properTypes

/-- **What is read for a valid manifest is valid.** -/
theorem Valid.reread (h : m.Valid) : m.reread.Valid := by
  have hperm : m.reread.probes.Perm m.probes := by
    rw [h.probes_reread]
    exact List.mergeSort_perm _ _
  refine ⟨h.schemaVersion, h.provider, ?_, (hperm.map _).nodup_iff.2 h.names,
    fun p hp => h.probes p (hperm.mem_iff.1 hp)⟩
  have hmodule : m.reread.moduleName = if m.moduleName.isVacant then .null else m.moduleName := rfl
  rw [hmodule]
  split
  · exact .inl rfl
  · exact h.moduleName

end ProbeKit.Manifest
