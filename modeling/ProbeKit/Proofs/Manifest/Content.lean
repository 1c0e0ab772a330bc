import Mathlib.Data.List.Nodup
import ProbeKit.Proofs.Manifest.Canonical
import ProbeKit.Proofs.Manifest.Valid

/-!
# What the one text of a manifest tells

Two manifests say the same if they agree in version, provider, module and in the set of their probes
(`Manifest.SaysSame`); neither the order of the probes nor an empty module counts.  Manifests without a
flaw have the same text exactly if they say the same (`Manifest.canonicalText_eq_iff`).  One half is
that sorting takes the order away (`sortedProbes_eq_of_perm`), the other that the text can be read.
-/

namespace ProbeKit

open Text

/-- Two different texts with the same digest. -/
def Digest.Collide (s t : String) : Prop := s ≠ t ∧ hexDigest s = hexDigest t

namespace Manifest

variable {m n : Manifest}

/-! ### Saying the same -/

/-- The name of the module, unless there is none or an empty one. -/
def moduleText? (m : Manifest) : Option String := m.moduleName.str?.filter (!·.isEmpty)

/-- Two manifests say the same, whatever the order of their probes. -/
structure SaysSame (m n : Manifest) : Prop where
  /-- The versions are the same value. -/
  schemaVersion : m.schemaVersion = n.schemaVersion
  /-- The providers are the same. -/
  provider : m.provider = n.provider
  /-- The modules are the same, an empty one being none. -/
  moduleText : m.moduleText? = n.moduleText?
  /-- The same probes with the same types are listed. -/
  probes : ∀ p, p ∈ m.probes ↔ p ∈ n.probes

/-! ### Modules -/

/-- The module as it is written: null if there is none or an empty one. -/
def writtenModule (m : Manifest) : Json := if m.moduleName.isVacant then .null else m.moduleName

theorem Valid.writtenModule (h : m.Valid) :
    m.writtenModule = (m.moduleText?.map Json.str).getD .null := by
  unfold Manifest.writtenModule moduleText?
  rcases h.moduleName with hnull | ⟨name, hname⟩
  · rw [hnull]
    rfl
  · rw [hname]
    by_cases hempty : name.isEmpty = true <;>
      simp [Json.isVacant, Json.str?, Option.filter, hempty]

theorem Valid.moduleText_eq_iff (hm : m.Valid) (hn : n.Valid) :
    m.moduleText? = n.moduleText? ↔ m.writtenModule = n.writtenModule := by
  rw [hm.writtenModule, hn.writtenModule]
  constructor
  · intro h
    rw [h]
  · intro h
    cases hmt : m.moduleText? <;> cases hnt : n.moduleText? <;> simp_all

theorem documentWith_eq (m : Manifest) (probes : List Json) :
    m.documentWith probes = .obj ([("schemaVersion", m.schemaVersion), ("provider", m.provider)] ++
      (if m.writtenModule.isVacant then [] else [("module", m.writtenModule)]) ++
        [("probes", .arr probes)]) := by
  unfold documentWith writtenModule
  by_cases hvacant : m.moduleName.isVacant = true
  · rw [if_pos hvacant, if_pos hvacant]
    rfl
  · rw [if_neg hvacant, if_neg hvacant, if_neg hvacant]

/-! ### The order of the probes -/

/-- Probes of different names are sorted in one way only. -/
theorem sortedProbes_eq_of_perm (hnames : (m.probes.map (·.name)).Nodup)
    (h : m.probes.Perm n.probes) : m.sortedProbes = n.sortedProbes := by
  have hperm : m.sortedProbes.Perm n.sortedProbes :=
    m.perm_sortedProbes.trans (h.trans n.perm_sortedProbes.symm)
  refine hperm.eq_of_pairwise (fun p q hp hq hle hge => ?_) m.pairwise_sortedProbes
    n.pairwise_sortedProbes
  have hp' : p ∈ m.probes := m.perm_sortedProbes.mem_iff.1 hp
  have hq' : q ∈ m.probes := h.mem_iff.2 (n.perm_sortedProbes.mem_iff.1 hq)
  exact List.inj_on_of_nodup_map hnames hp' hq' (String.le_antisymm hle hge)

theorem Valid.perm_of_mem_iff (hm : m.Valid) (hn : n.Valid)
    (h : ∀ p, p ∈ m.probes ↔ p ∈ n.probes) : m.probes.Perm n.probes :=
  (List.perm_ext_iff_of_nodup (List.Nodup.of_map _ hm.names) (List.Nodup.of_map _ hn.names)).2 h

/-! ### The main result -/

/-- Manifests that say the same have the same text. -/
theorem SaysSame.canonicalText_eq (h : m.SaysSame n) (hm : m.Valid) (hn : n.Valid) :
    m.canonicalText = n.canonicalText := by
  have hsorted := sortedProbes_eq_of_perm hm.names (hm.perm_of_mem_iff hn h.probes)
  have hmodule := (hm.moduleText_eq_iff hn).1 h.moduleText
  have hdocument : m.document = n.document := by
    rw [document, documentWith_eq, hsorted, h.schemaVersion, h.provider, hmodule,
      ← documentWith_eq, ← document]
  rw [canonicalText, hdocument, ← canonicalText]

/-- The text tells what the manifest says: it can be read. -/
theorem saysSame_of_canonicalText_eq (hm : m.flaw? = none) (hn : n.flaw? = none)
    (h : m.canonicalText = n.canonicalText) : m.SaysSame n := by
  have hmv := flaw?_eq_none_iff.1 hm
  have hnv := flaw?_eq_none_iff.1 hn
  have hparsed := parse_canonicalText_of_flaw?_eq_none .usual hm
  rw [h] at hparsed
  have hreread : m.reread = n.reread :=
    Except.ok.inj (hparsed.symm.trans (parse_canonicalText_of_flaw?_eq_none .usual hn))
  have hprobes : m.sortedProbes = n.sortedProbes := by
    rw [← hmv.probes_reread, ← hnv.probes_reread, hreread]
  have hversion : m.reread.schemaVersion = n.reread.schemaVersion := congrArg _ hreread
  have hprovider : m.reread.provider = n.reread.provider := congrArg _ hreread
  have hmodule : m.reread.moduleName = n.reread.moduleName := congrArg _ hreread
  refine ⟨hversion, hprovider, (hmv.moduleText_eq_iff hnv).2 hmodule, fun p => ?_⟩
  rw [← m.perm_sortedProbes.mem_iff, ← n.perm_sortedProbes.mem_iff, hprobes]

/-- **The one text of a manifest tells exactly what it says.**  Manifests without a flaw have the same
text if and only if they agree in version, provider, module and the set of their probes with their
types, in whatever order these are listed.  Hence they have the same digest if they say the same; and if
they do not, their digests differ too, or else two different texts with one digest are at hand. -/
theorem canonicalText_eq_iff (hm : m.flaw? = none) (hn : n.flaw? = none) :
    (m.canonicalText = n.canonicalText ↔ m.SaysSame n) ∧
      (m.SaysSame n → m.digest = n.digest) ∧
      (m.digest = n.digest → m.SaysSame n ∨ Digest.Collide m.canonicalText n.canonicalText) := by
  have hiff : m.canonicalText = n.canonicalText ↔ m.SaysSame n :=
    ⟨saysSame_of_canonicalText_eq hm hn, fun h =>
      h.canonicalText_eq (flaw?_eq_none_iff.1 hm) (flaw?_eq_none_iff.1 hn)⟩
  refine ⟨hiff, fun h => congrArg Digest.hexDigest (hiff.2 h), fun h => ?_⟩
  by_cases htext : m.canonicalText = n.canonicalText
  · exact .inl (hiff.1 htext)
  · exact .inr ⟨htext, h⟩

/-- A manifest with an empty module and its probes in some order. -/
def twoProbes (probes : List Probe) : Manifest :=
  { provider := .str "é\n\"", moduleName := .str "", probes }

/-- The order of probes and an empty module do not count, but the order of types does. -/
theorem canonicalText_twoProbes :
    (twoProbes [⟨"b", ["int", "json"]⟩, ⟨"a", []⟩]).canonicalText =
        { twoProbes [⟨"a", []⟩, ⟨"b", ["int", "json"]⟩] with moduleName := .null }.canonicalText ∧
      (twoProbes [⟨"b", ["int", "json"]⟩, ⟨"a", []⟩]).canonicalText ≠
        (twoProbes [⟨"b", ["json", "int"]⟩, ⟨"a", []⟩]).canonicalText := by
  constructor
  · refine (canonicalText_eq_iff (by decide) (by decide)).1.2 ⟨rfl, rfl, rfl, fun p => ?_⟩
    simp [twoProbes, or_comm]
  · intro h
    have hsame := (canonicalText_eq_iff (by decide) (by decide)).1.1 h
    have hmem := (hsame.probes ⟨"b", ["int", "json"]⟩).1 (by simp [twoProbes])
    simp [twoProbes] at hmem

end Manifest

end ProbeKit
