import ProbeKit.Proofs.Json.Decimals
import ProbeKit.Proofs.Json.Proper
import ProbeKit.Proofs.Manifest.Reading

/-!
# The one text of a manifest is read back

What is read from the one text of a manifest that fits is the manifest itself with its probes in
order, its types in their proper spelling, and nothing for an empty module; and what was read once
has the same one text for ever (`parse_canonicalText`).  Whatever was read holds each name of an
object once and can be read again, so that nothing is assumed of it but that it can be written.
-/

namespace ProbeKit.Manifest

open Json Number Text

/-- The objects in the fields of a manifest hold each name once. -/
structure Proper (m : Manifest) : Prop where
  /-- The version is proper. -/
  schemaVersion : m.schemaVersion.Proper
  /-- The provider is proper. -/
  provider : m.provider.Proper
  /-- The module is proper. -/
  moduleName : m.moduleName.Proper

theorem Proper.plain {m : Manifest} (h : m.Proper) : m.Plain where
  schemaVersion := h.schemaVersion.legible fun x _ => (exact_float x).rereads
  provider := h.provider.legible fun x _ => (exact_float x).rereads
  moduleName := h.moduleName.legible fun x _ => (exact_float x).rereads

/-! ### Manifests that were read -/

theorem properType_properType (type : String) : properType (properType type) = properType type := by
  by_cases h : type = "char*"
  · subst h
    decide
  · have hself : properType type = type := by simp [properType, h]
    rw [hself, hself]

theorem types_of_probeOfJson {place : Nat} {j : Json} {p : Probe} (h : probeOfJson place j = .ok p) :
    ∀ t ∈ p.types, properType t = t := by
  unfold probeOfJson at h
  split at h
  · split at h
    · split at h
      · cases h
        intro t ht
        obtain ⟨raw, -, rfl⟩ := List.mem_map.1 ht
        exact properType_properType raw
      · cases h
    · cases h
  · cases h

theorem types_of_probesOfJson {place : Nat} {items : List Json} {probes : List Probe}
    (h : probesOfJson place items = .ok probes) : ∀ p ∈ probes, ∀ t ∈ p.types, properType t = t := by
  induction items generalizing place probes with
  | nil =>
    cases h
    intro p hp
    cases hp
  | cons j rest ih =>
    rw [probesOfJson] at h
    obtain ⟨first, hfirst, h⟩ := bind_eq_ok.1 h
    obtain ⟨others, hrest, h⟩ := bind_eq_ok.1 h
    cases h
    exact List.forall_mem_cons.2 ⟨types_of_probeOfJson hfirst, ih hrest⟩

/-- The fields of a manifest stand in its document; an empty module counts as absent. -/
theorem fields_of_ofJson {j : Json} {m : Manifest} (h : ofJson j = .ok m) :
    (∃ members, j = .obj members) ∧ m.schemaVersion = j.member "schemaVersion" ∧
      m.provider = j.member "provider" ∧
      (m.moduleName = .null ∨ m.moduleName = j.member "module") ∧
      ∀ p ∈ m.probes, ∀ t ∈ p.types, properType t = t := by
  unfold ofJson at h
  split at h
  · rename_i members
    split at h
    · obtain ⟨probes, hprobes, h⟩ := bind_eq_ok.1 h
      cases h
      refine ⟨⟨members, rfl⟩, rfl, rfl, ?_, types_of_probesOfJson hprobes⟩
      dsimp only
      split
      · exact .inl rfl
      · exact .inr rfl
    · cases h
  · cases h

theorem ofRaw_eq_ok {j : Raw} {m : Manifest} (h : ofRaw j = .ok m) :
    ofJson (j.map shown) = .ok m ∧ (kept j).all (·.allTexts isWhole) = true := by
  unfold ofRaw at h
  split at h
  · cases h
  · rename_i hm
    split at h
    · rename_i hkept
      cases h
      exact ⟨hm, hkept⟩
    · cases h

theorem parse_eq_ok {room : Room} {text : String} {m : Manifest} (h : parse room text = .ok m) :
    ∃ j, read room text = .ok j ∧ ofRaw j = .ok m := by
  unfold parse at h
  split at h
  · exact ⟨_, ‹_›, h⟩
  all_goals cases h

section
variable {room : Room} {text : String} {m : Manifest}

/-- What is read for a manifest is proper, and its types are in their proper spelling. -/
theorem proper_of_parse (h : parse room text = .ok m) :
    m.Proper ∧ ∀ p ∈ m.probes, ∀ t ∈ p.types, properType t = t := by
  obtain ⟨j, hread, h⟩ := parse_eq_ok h
  obtain ⟨h, hkept⟩ := ofRaw_eq_ok h
  obtain ⟨hproper, -⟩ := taken_of_read hread
  obtain ⟨-, hversion, hprovider, hmodule, htypes⟩ := fields_of_ofJson h
  simp only [kept, List.all_cons, Bool.and_eq_true] at hkept
  have hfield {name : String} (hname : replacement ∉ name.toList)
      (hwhole : (j.member (letters name)).allTexts isWhole = true) :
      Json.Proper ((j.map shown).member name) := by
    rw [member_map_shown hname]
    exact (hproper.member _).map_shown hwhole
  refine ⟨⟨?_, ?_, ?_⟩, htypes⟩
  · rw [hversion]
    exact hfield (by decide) hkept.1
  · rw [hprovider]
    exact hfield (by decide) hkept.2.1
  · rcases hmodule with heq | heq
    · rw [heq]
      exact .null
    · rw [heq]
      exact hfield (by decide) hkept.2.2.1

/-- What was read can be read again. -/
theorem fits_of_parse (h : parse room text = .ok m) : m.document.Fits room.reading := by
  obtain ⟨j, hread, h⟩ := parse_eq_ok h
  obtain ⟨-, hfits⟩ := taken_of_read hread
  obtain ⟨⟨members, hobj⟩, hversion, hprovider, hmodule, -⟩ := fields_of_ofJson (ofRaw_eq_ok h).1
  obtain ⟨levels, hlevels⟩ := exists_reading room
  rw [hlevels] at hfits ⊢
  have hmember (name : String) : ((j.map shown).member name).Fits (levels + 4) :=
    Fits.member hfits name
  rw [document_eq, fits_documentWith_probes, hversion, hprovider]
  refine ⟨hmember _, hmember _, fun _ => ?_⟩
  rcases hmodule with heq | heq
  · rw [heq]
    exact fits_null
  · rw [heq]
    exact hmember _

end

/-! ### The order of the probes -/

theorem perm_sortedProbes (m : Manifest) : m.sortedProbes.Perm m.probes := List.mergeSort_perm _ _

theorem pairwise_sortedProbes (m : Manifest) :
    m.sortedProbes.Pairwise fun p q => p.name ≤ q.name := by
  have hsorted := List.pairwise_mergeSort (fun p q r : Probe => atMost_trans p.name q.name r.name)
    (fun p q => atMost_total p.name q.name) m.probes
  refine hsorted.imp fun h => ?_
  simpa [atMost] using h

/-- The probes of one name stay in their order. -/
theorem filter_sortedProbes (m : Manifest) (name : String) :
    m.sortedProbes.filter (·.name == name) = m.probes.filter (·.name == name) := by
  -- Probes of one name are in order already, so that sorting keeps them in a row.
  have hordered : (m.probes.filter (·.name == name)).Pairwise fun p q => atMost p.name q.name := by
    refine List.pairwise_of_forall_mem_list fun p hp q hq => ?_
    rw [beq_iff_eq.1 (List.mem_filter.1 hp).2, beq_iff_eq.1 (List.mem_filter.1 hq).2]
    simpa using atMost_total name name
  have hsub := List.sublist_mergeSort (fun p q r => atMost_trans p.name q.name r.name)
    (fun p q => atMost_total p.name q.name) hordered List.filter_sublist
  have hfilter := hsub.filter (·.name == name)
  rw [List.filter_filter] at hfilter
  simp only [Bool.and_self] at hfilter
  exact (hfilter.eq_of_length ((m.perm_sortedProbes.filter _).length_eq.symm)).symm

/-! ### The main result -/

theorem canonicalize_of_fits {room : Room} {m : Manifest} (h : m.document.Fits room.writing) :
    m.canonicalize room = .ok m.canonicalText := write_of_fits h

/-- **Reading undoes writing.**  A manifest can be written exactly if no integer in its fields has
too many digits and nothing in them lies too deep, and then it has the one text.  What is read from
that text, if there is as much room for reading, has the same version and provider, the same module
unless that one is empty, and the same probes sorted by name, those of one name in their order, with
each type in its proper spelling.  And what was read from any text and can be written has one text
that no further reading and writing changes. -/
theorem parse_canonicalText (room : Room) :
    (∀ m : Manifest, m.canonicalize room = .ok m.canonicalText ↔ m.document.Fits room.writing) ∧
    (∀ m : Manifest, m.Proper → m.document.Fits room.reading → ∃ probes : List Probe,
      parse room m.canonicalText = .ok
        { schemaVersion := m.schemaVersion
          provider := m.provider
          moduleName := if m.moduleName.isVacant then .null else m.moduleName
          probes := probes.map fun p =>
            ⟨p.name, p.types.map fun type => if type = "char*" then "char *" else type⟩ } ∧
      probes.Perm m.probes ∧ probes.Pairwise (fun p q => p.name ≤ q.name) ∧
      ∀ name, probes.filter (·.name == name) = m.probes.filter (·.name == name)) ∧
    ∀ text m, parse room text = .ok m → m.document.Fits room.writing →
      ∃ m', parse room m.canonicalText = .ok m' ∧
        m'.canonicalize room = .ok m.canonicalText := by
  refine ⟨fun m => ⟨fun h => write_eq_ok_iff.1 ⟨_, h⟩, canonicalize_of_fits⟩, ?_, ?_⟩
  · intro m hproper hfits
    refine ⟨m.sortedProbes, ?_, m.perm_sortedProbes, m.pairwise_sortedProbes, m.filter_sortedProbes⟩
    have hread := parse_fileText hproper.plain hfits [] false
    have htypes : (fun type => if type = "char*" then "char *" else type) = properType := by
      funext type
      simp [properType]
    rw [htypes]
    exact hread
  · intro text m hparse hwriting
    obtain ⟨hproper, htypes⟩ := proper_of_parse hparse
    refine ⟨m.reread, parse_fileText hproper.plain (fits_of_parse hparse) [] false, ?_⟩
    have hdocument := document_reread htypes
    rw [canonicalize, hdocument]
    exact canonicalize_of_fits hwriting

/-- A manifest with little order in it. -/
def untidy : Manifest where
  schemaVersion := .float (Binary64.ofInt 1)
  provider := .obj [("names", .arr [.str "é\n", .float (Binary64.ofInt 1)])]
  moduleName := .str ""
  probes := [⟨"b", ["char*", "int"]⟩, ⟨"a", []⟩, ⟨"b", ["any"]⟩]

theorem proper_untidy : untidy.Proper := by
  refine ⟨.float _, .obj (by decide) fun m hm => ?_, .str _⟩
  rw [List.mem_singleton.1 hm]
  refine .arr fun j hj => ?_
  rcases List.mem_cons.1 hj with rfl | hj
  · exact .str _
  · rw [List.mem_singleton.1 hj]
    exact .float _

theorem fits_untidy : untidy.document.Fits 980 :=
  fits_of_fields 975 rfl rfl fun _ => rfl

/-- Such a manifest is read back, with its two probes of one name in their order. -/
theorem parse_canonicalText_untidy : ∃ (m : Manifest) (probes : List Probe),
    untidy.canonicalize .usual = .ok untidy.canonicalText ∧
    parse .usual untidy.canonicalText = .ok m ∧ m.provider = untidy.provider ∧ m.moduleName = .null ∧
    m.probes = probes.map (fun p =>
      ⟨p.name, p.types.map fun type => if type = "char*" then "char *" else type⟩) ∧
    probes.filter (·.name == "b") = [⟨"b", ["char*", "int"]⟩, ⟨"b", ["any"]⟩] ∧
    ∃ m', parse .usual m.canonicalText = .ok m' ∧ m'.canonicalize .usual = .ok m.canonicalText := by
  obtain ⟨hwritten, hfirst, hlater⟩ := parse_canonicalText .usual
  obtain ⟨probes, hparse, -, -, hstable⟩ := hfirst untidy proper_untidy fits_untidy
  refine ⟨_, probes, (hwritten untidy).2 fits_untidy, hparse, rfl, rfl, rfl, hstable "b",
    hlater _ _ hparse (fits_of_fields 975 rfl rfl fun _ => rfl)⟩

/-- A manifest whose provider is an integer with one digit too many. -/
def overlongProvider : Manifest := { provider := .int (10 ^ digitLimit : Nat) }

theorem proper_overlongProvider : overlongProvider.Proper := ⟨.int _, .int _, .null⟩

theorem not_fits_overlongProvider (aggregates : List Aggregate)
    (levels : Nat) :
    ¬(overlongProvider.documentWith (overlongProvider.sortedProbes.map
      (probeDocument aggregates))).Fits (levels + 5) := by
  intro h
  have hprovider := ((fits_documentWith_probes aggregates _).1 h).2.1
  have hlong := overlong_iff.2 (Nat.le_of_eq (Int.natAbs_natCast (10 ^ digitLimit)).symm)
  rw [fits_int_iff.1 hprovider] at hlong
  cases hlong

/-- **Not every manifest can be written.** -/
theorem not_canonicalize_of_overlong :
    ¬∀ (room : Room) (m : Manifest), m.Proper → ∃ text, m.canonicalize room = .ok text := by
  intro h
  have hfits := write_eq_ok_iff.1 (h .usual overlongProvider proper_overlongProvider)
  rw [document_eq] at hfits
  exact not_fits_overlongProvider [] 975 hfits

end ProbeKit.Manifest
