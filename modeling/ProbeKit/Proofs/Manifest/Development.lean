import ProbeKit.Proofs.Manifest.Reading
import ProbeKit.Proofs.Manifest.Scanned

/-!
# What development adds to a manifest

In development the file of a manifest lists the argument lists that were seen for each name.  For a
manifest of scanned probes it therefore differs from the one text of the manifest as soon as there
is a probe (`Manifest.developmentText_ofAggregates_eq_iff`).
-/

namespace ProbeKit

open Json

/-! ### Argument lists that were seen -/

namespace Aggregate

theorem variants_ne_nil {a : Aggregate} (h : a.seen ≠ []) : a.variants ≠ [] := by
  obtain ⟨types, htypes⟩ := List.exists_mem_of_ne_nil _ h
  refine List.ne_nil_of_mem (a := types) ?_
  rw [variants, List.mem_mergeSort, List.mem_eraseDups]
  exact htypes

theorem ofProbes_eq_nil_iff {probes : List Probe} : ofProbes probes = [] ↔ probes = [] := by
  unfold ofProbes
  rw [List.map_eq_nil_iff]
  constructor
  · intro h
    refine List.eq_nil_iff_forall_not_mem.2 fun p hp => ?_
    have hname : p.name ∈ Text.sorted (probes.map (·.name)).eraseDups :=
      (Text.sorted_perm _).mem_iff.2 (List.mem_eraseDups.2 (List.mem_map_of_mem hp))
    rw [h] at hname
    cases hname
  · rintro rfl
    simp [Text.sorted]

end Aggregate

namespace Manifest

/-- Something was seen for every name. -/
theorem variantsOf_ne_nil {probes : List Probe} {a : Aggregate}
    (h : a ∈ Aggregate.ofProbes probes) : variantsOf (Aggregate.ofProbes probes) a.name ≠ [] := by
  unfold variantsOf
  cases hfound : (Aggregate.ofProbes probes).reverse.find? (·.name == a.name) with
  | none =>
    have hnone := List.find?_eq_none.1 hfound a (List.mem_reverse.2 h)
    exact absurd (beq_self_eq_true _) hnone
  | some b =>
    have hb : b ∈ Aggregate.ofProbes probes := List.mem_reverse.1 (List.mem_of_find?_eq_some hfound)
    exact Aggregate.variants_ne_nil (Aggregate.seen_ne_nil hb)

/-! ### The texts -/

variable {m : Manifest}

theorem variantMembers_eq_nil_iff {aggregates : List Aggregate} {name : String} :
    variantMembers aggregates name = [] ↔ variantsOf aggregates name = [] := by
  unfold variantMembers
  split
  · rename_i hnil
    exact iff_of_true rfl hnil
  · rename_i hne
    exact iff_of_false (List.cons_ne_nil _ _) hne

/-- **In development the text is the one text of a manifest exactly if nothing was seen for its
names.** -/
theorem developmentText_eq_iff (h : m.Plain) {levels : Nat} (hlevels : 8 ≤ levels)
    (hfits : m.document.Fits levels) {aggregates : List Aggregate} :
    m.developmentText aggregates = m.canonicalText ↔
      ∀ p ∈ m.probes, variantsOf aggregates p.name = [] := by
  have hdevelopment : m.developmentText aggregates = Json.document .unicode
      (m.documentWith (m.sortedProbes.map (probeDocument aggregates))) :=
    m.fileText_eq aggregates true
  have hcanonical : m.canonicalText = Json.document .unicode
      (m.documentWith (m.sortedProbes.map (probeDocument []))) := m.fileText_eq [] false
  let room : Room := ⟨levels, levels, hlevels, hlevels⟩
  have hread (aggregates : List Aggregate) := @read?_document room .unicode _
    (legible_probes h aggregates) (fits_probes hlevels hfits aggregates)
  have hprobe (p : Probe) : probeDocument aggregates p = probeDocument [] p ↔
      variantsOf aggregates p.name = [] := by
    unfold probeDocument
    rw [Json.obj.injEq, List.append_cancel_left_eq, variantMembers_nil, variantMembers_eq_nil_iff]
  rw [hdevelopment, hcanonical]
  constructor
  · intro htext p hp
    -- Both texts can be read, so that they tell the documents apart.
    have hsame := hread aggregates
    rw [htext, hread []] at hsame
    have hmember := (m.members_documentWith (m.sortedProbes.map (probeDocument aggregates))).2.2.2
    rw [← Option.some.inj hsame, (m.members_documentWith _).2.2.2, Json.arr.injEq] at hmember
    exact (hprobe p).1 (List.map_inj_left.1 hmember.symm p (List.mem_mergeSort.2 hp))
  · intro hnone
    have hmap : m.sortedProbes.map (probeDocument aggregates) =
        m.sortedProbes.map (probeDocument []) :=
      List.map_congr_left fun p hp => (hprobe p).2 (hnone p (List.mem_mergeSort.1 hp))
    rw [hmap]

/-- The file of scanned probes is that of their manifest alone only if there are none, or out of
development. -/
theorem developmentText_ofAggregates_eq_iff {provider moduleName : Json} {probes : List Probe}
    (h : (ofAggregates provider moduleName (Aggregate.ofProbes probes)).Plain) {levels : Nat}
    (hlevels : 8 ≤ levels)
    (hfits : (ofAggregates provider moduleName (Aggregate.ofProbes probes)).document.Fits levels) :
    (ofAggregates provider moduleName (Aggregate.ofProbes probes)).developmentText
        (Aggregate.ofProbes probes) =
      (ofAggregates provider moduleName (Aggregate.ofProbes probes)).canonicalText ↔
        probes = [] := by
  rw [developmentText_eq_iff h hlevels hfits, ← Aggregate.ofProbes_eq_nil_iff]
  constructor
  · intro hnone
    refine List.eq_nil_iff_forall_not_mem.2 fun a ha => variantsOf_ne_nil ha ?_
    exact hnone a.probe (List.mem_map_of_mem ha)
  · intro hnil p hp
    obtain ⟨a, ha, rfl⟩ := List.mem_map.1 hp
    rw [hnil] at ha
    cases ha

end Manifest

end ProbeKit
