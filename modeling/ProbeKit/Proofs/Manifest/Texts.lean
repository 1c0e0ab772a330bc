import ProbeKit.Proofs.Manifest.Scanned
import ProbeKit.Proofs.Probe.Catalog
import ProbeKit.Proofs.Probe.Closest
import ProbeKit.Proofs.Results

/-!
# Manifests of source texts

Whatever the source texts are, the manifest of the probes that they declare can be kept as it is
(`Manifest.valid_ofTexts`); there is none only if a loop in some text has too long a numeral.  Each
name comes up once and in order because aggregates stand for the different names, sorted
(`Aggregate.pairwise_name_ofProbes`); and since the aggregate of a numbered name that is declared
bare has taken its one integer already, nothing is left to be filled in
(`Aggregate.withDefault_probe`).
-/

namespace ProbeKit

/-! ### Defaults -/

theorem Probe.isBareNumbered_withDefault (p : Probe) : p.withDefault.isBareNumbered = false := by
  unfold Probe.withDefault
  by_cases h : p.isBareNumbered = true
  · rw [if_pos h]
    rfl
  · rw [if_neg h]
    simpa using h

@[simp] theorem Probe.withDefault_withDefault (p : Probe) :
    p.withDefault.withDefault = p.withDefault := by
  rw [Probe.withDefault, if_neg (by simp [p.isBareNumbered_withDefault])]

@[simp] theorem Probe.name_withDefault (p : Probe) : p.withDefault.name = p.name := by
  unfold Probe.withDefault
  split <;> rfl

namespace Aggregate

/-- The aggregate of a name has its default already. -/
theorem withDefault_probe_ofSeen (name : String) (seen : List (List String)) :
    (ofSeen name seen).probe.withDefault = (ofSeen name seen).probe := by
  have hprobe : (ofSeen name seen).probe = Probe.withDefault ⟨name, firstLongest seen⟩ := by
    show (⟨name, (Probe.withDefault ⟨name, firstLongest seen⟩).types⟩ : Probe) = _
    generalize hp : Probe.withDefault ⟨name, firstLongest seen⟩ = p
    have hname : p.name = name := by rw [← hp, Probe.name_withDefault]
    rw [← hname]
  rw [hprobe, Probe.withDefault_withDefault]

theorem withDefault_probe {probes : List Probe} {a : Aggregate} (h : a ∈ ofProbes probes) :
    a.probe.withDefault = a.probe := by
  obtain ⟨name, -, rfl⟩ := List.mem_map.1 h
  exact withDefault_probe_ofSeen name _

/-- The names of aggregates stand in order, each once. -/
theorem pairwise_name_ofProbes (probes : List Probe) :
    (ofProbes probes).Pairwise fun a b => a.name < b.name := by
  have hnodup := (Text.sorted_perm _).nodup_iff.2 (nodup_eraseDups (probes.map (·.name)))
  have hsorted := Text.pairwise_sorted (probes.map (·.name)).eraseDups
  refine List.pairwise_map.2 ((hsorted.and hnodup).imp fun {s t} h => ?_)
  exact Classical.byContradiction fun hn => h.2 (String.le_antisymm h.1 (String.not_lt.1 hn))

end Aggregate

namespace Manifest

@[simp] theorem withDefaults_withDefaults (m : Manifest) :
    m.withDefaults.withDefaults = m.withDefaults := by
  simp [withDefaults, Function.comp_def]

/-- A manifest whose probes have their defaults has them. -/
theorem withDefaults_eq_self {m : Manifest} (h : ∀ p ∈ m.probes, p.withDefault = p) :
    m.withDefaults = m := by
  rw [withDefaults, List.map_congr_left h, List.map_id']

/-- In the manifest of scanned probes no default is left to be filled in. -/
theorem withDefaults_ofAggregates (provider moduleName : Json) (probes : List Probe) :
    (ofAggregates provider moduleName (Aggregate.ofProbes probes)).withDefaults =
      ofAggregates provider moduleName (Aggregate.ofProbes probes) := by
  refine withDefaults_eq_self fun p hp => ?_
  obtain ⟨a, ha, rfl⟩ := List.mem_map.1 hp
  exact Aggregate.withDefault_probe ha

end Manifest

/-! ### Source texts -/

namespace Catalog

/-- A known file is one of those that the catalog was made from. -/
theorem mem_entries_ofList {files : List (String × List Probe)} {e : String × List Probe}
    (h : e ∈ (ofList files).entries) : e ∈ files := by
  have hfold : ∀ (rest : List (String × List Probe)) (c : Catalog),
      e ∈ (rest.foldl (fun c f => c.insert f.1 f.2) c).entries → e ∈ c.entries ∨ e ∈ rest := by
    intro rest
    induction rest with
    | nil => exact fun c h => .inl h
    | cons f rest ih =>
      intro c h
      rcases ih (c.insert f.1 f.2) h with hinserted | hrest
      · rcases mem_insertInto hinserted with rfl | hc
        · exact .inr List.mem_cons_self
        · exact .inl hc
      · exact .inr (List.mem_cons_of_mem _ hrest)
  exact (hfold files ∅ h).resolve_left (nomatch ·)

/-- The catalog of files with their texts, if all of them can be read; of a file given twice the
last counts. -/
def ofTexts (files : List (String × String)) : Except Text.TooManyDigits Catalog :=
  (files.mapM fun f => (declaredProbes f.2).map fun probes => (f.1, probes)).map ofList

theorem sound_of_ofTexts {files : List (String × String)} {c : Catalog} (h : ofTexts files = .ok c) :
    ∀ p ∈ c.probes, p.Sound := by
  obtain ⟨declared, hdeclared, rfl⟩ := map_eq_ok_iff.1 h
  intro p hp
  obtain ⟨e, he, hp⟩ := List.mem_flatMap.1 hp
  obtain ⟨f, -, hread⟩ := (mem_iff_of_mapM hdeclared).1 (mem_entries_ofList he)
  obtain ⟨probes, hprobes, rfl⟩ := map_eq_ok_iff.1 hread
  exact sound_of_declaredProbes hprobes p hp

theorem exists_ofTexts_iff {files : List (String × String)} :
    (∃ c, ofTexts files = .ok c) ↔ ∀ f ∈ files, ¬ Declaration.Overlong f.2.toList := by
  have hfile (f : String × String) :
      (∃ y, (declaredProbes f.2).map (fun probes => (f.1, probes)) = .ok y) ↔
        ¬ Declaration.Overlong f.2.toList := by
    rw [← Declaration.exists_error_iff]
    cases declaredProbes f.2 <;> simp [Except.map]
  rw [← forall₂_congr fun f _ => hfile f, ← exists_mapM_iff]
  unfold ofTexts
  cases files.mapM fun f => (declaredProbes f.2).map fun probes => (f.1, probes) <;> simp [Except.map]

end Catalog

/-! ### The main result -/

namespace Manifest

/-- The manifest of files with their texts, if all of them can be read. -/
def ofTexts (provider : String) (moduleName : Option String) (files : List (String × String)) :
    Except Text.TooManyDigits Manifest :=
  (Catalog.ofTexts files).map fun c =>
    ofAggregates (.str provider) ((moduleName.map Json.str).getD .null) c.aggregates

/-- A manifest that can be kept as it is: it has no flaw, its probes stand in strictly increasing
order of their names, and no default is left to be filled in. -/
structure Settled (m : Manifest) : Prop where
  /-- It has no flaw. -/
  valid : m.flaw? = none
  /-- Each name comes up once and in order. -/
  ordered : m.probes.Pairwise fun p q => p.name < q.name
  /-- No default is left to be filled in. -/
  complete : m.withDefaults = m

/-- **A scan yields a valid manifest**, whatever the texts of the files are, unless a counting loop
in some of them has a numeral of too many digits; then there is no manifest. -/
theorem valid_ofTexts {provider : String} (h : provider ≠ "") (moduleName : Option String)
    (files : List (String × String)) :
    (∀ m, ofTexts provider moduleName files = .ok m → m.Settled) ∧
      ((∃ m, ofTexts provider moduleName files = .ok m) ↔
        ∀ f ∈ files, ¬ Declaration.Overlong f.2.toList) := by
  have hmodule : isNamedOrNull ((moduleName.map Json.str).getD .null) = true := by
    cases moduleName <;> rfl
  constructor
  · intro m hm
    obtain ⟨c, hc, rfl⟩ := map_eq_ok_iff.1 hm
    refine ⟨?_, ?_, withDefaults_ofAggregates _ _ _⟩
    · exact flaw?_ofAggregates (by simpa [isNamed] using h) hmodule (Catalog.sound_of_ofTexts hc)
    · exact List.pairwise_map.2 (Aggregate.pairwise_name_ofProbes _)
  · rw [← Catalog.exists_ofTexts_iff, ofTexts]
    cases Catalog.ofTexts files <;> simp [Except.map]

/-- Sources that repeat a name, leave a numbered one bare and pass a type that is none. -/
def untidyTexts : List (String × String) :=
  [("b.js", "p.addProbe('probe1') .addProbe('b1', [])"),
    ("a.js", "for (i = 0; i < 2; i++) p.addProbe('b' + i, 'json', 'no')")]

theorem valid_ofTexts_untidy :
    "p" ≠ "" ∧ ∃ m, ofTexts "p" (some "") untidyTexts = .ok m ∧ m.Settled := by
  have hread : (ofTexts "p" (some "") untidyTexts).isOk = true := by decide +kernel
  cases hm : ofTexts "p" (some "") untidyTexts with
  | error e =>
    rw [hm] at hread
    cases hread
  | ok m => exact ⟨by decide, m, rfl, (valid_ofTexts (by decide) (some "") untidyTexts).1 m hm⟩

/-- **A scan need not yield a manifest**: a zero with one digit too many keeps a text from being
read. -/
theorem not_valid_ofTexts :
    ¬ ∀ (provider : String) (moduleName : Option String) (files : List (String × String)),
      provider ≠ "" → ∃ m, ofTexts provider moduleName files = .ok m ∧ m.Settled := by
  intro hall
  obtain ⟨m, hm, -⟩ :=
    hall "p" none [("a.js", String.ofList (Rendering.rowText Rendering.longZero))] (by decide)
  rw [ofTexts, Catalog.ofTexts, List.mapM_cons, declaredProbes_longZero] at hm
  cases hm

end Manifest

end ProbeKit
