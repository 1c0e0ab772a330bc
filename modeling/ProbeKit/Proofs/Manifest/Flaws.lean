import ProbeKit.Manifest.Basic

/-!
# Manifests without a flaw

What it means for a manifest that `flaw?` finds nothing: its version counts as one, its provider has
a name, its module is a text or absent, and its probes take allowed types only.
-/

namespace ProbeKit.Manifest

theorem mem_allowedTypes_of_badType? {types : List String} (h : badType? types = none) :
    ∀ type ∈ types, type ∈ allowedTypes := by
  induction types with
  | nil => simp
  | cons type rest ih =>
    rw [badType?] at h
    split at h
    · rename_i hallowed
      intro t ht
      rcases List.mem_cons.1 ht with rfl | ht
      · simpa using hallowed
      · exact ih (by simpa using h) t ht
    · cases h

theorem mem_allowedTypes_of_probesFlaw? {place : Nat} {names : List String} {probes : List Probe}
    (h : probesFlaw? place names probes = none) :
    ∀ p ∈ probes, ∀ type ∈ p.types, type ∈ allowedTypes := by
  induction probes generalizing place names with
  | nil => simp
  | cons p rest ih =>
    rw [probesFlaw?] at h
    split at h
    · cases h
    split at h
    · cases h
    split at h
    · cases h
    · rename_i hbad
      intro q hq
      rcases List.mem_cons.1 hq with rfl | hq
      · exact mem_allowedTypes_of_badType? hbad
      · exact ih h q hq

/-- What is not wrong with a manifest without a flaw. -/
theorem of_flaw?_eq_none {m : Manifest} (h : m.flaw? = none) :
    m.schemaVersion.isOne = true ∧ isNamed m.provider = true ∧ isNamedOrNull m.moduleName = true ∧
      ∀ p ∈ m.probes, ∀ type ∈ p.types, type ∈ allowedTypes := by
  rw [flaw?] at h
  split at h
  · cases h
  split at h
  · cases h
  split at h
  · cases h
  rename_i hversion hprovider hmodule
  exact ⟨by simpa using hversion, by simpa using hprovider, by simpa using hmodule,
    mem_allowedTypes_of_probesFlaw? h⟩

end ProbeKit.Manifest
