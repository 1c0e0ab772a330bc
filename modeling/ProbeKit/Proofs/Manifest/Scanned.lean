import ProbeKit.Manifest.Basic
import ProbeKit.Probe.Declaration

/-!
# Manifests of scanned sources

Every probe that a source declares has an identifier for a name and takes allowed types
(`sound_of_declaredProbes`), and aggregates bring each name together.  So the manifest of scanned
sources has no flaw unless the provider or the module gives it one
(`Manifest.flaw?_ofAggregates`).
-/

namespace ProbeKit

/-- A probe that a manifest may list. -/
structure Probe.Sound (p : Probe) : Prop where
  /-- The name is an identifier. -/
  name : isIdentifier p.name = true
  /-- The types are allowed ones. -/
  types : ∀ type ∈ p.types, type ∈ allowedTypes

namespace Declaration

/-! ### Names -/

theorem isIdentifier_ofList {name rest cs : List Char} (h : identifier? cs = some (name, rest)) :
    isIdentifier (String.ofList name) = true := by
  unfold identifier? at h
  split at h
  · split at h
    · rename_i c cs hstarts
      obtain ⟨rfl, -⟩ := Prod.mk.inj (Option.some.inj h)
      rw [isIdentifier, String.toList_ofList]
      simp [hstarts]
    · cases h
  · cases h

theorem isIdentifier_of_quoted {name rest cs : List Char}
    (h : quotedIdentifier? cs = some (name, rest)) : isIdentifier (String.ofList name) = true := by
  unfold quotedIdentifier? at h
  split at h
  · split at h
    · obtain ⟨⟨name', rest'⟩, hname, h⟩ := Option.bind_eq_some_iff.1 h
      obtain ⟨rest'', -, h⟩ := Option.bind_eq_some_iff.1 h
      obtain ⟨rfl, -⟩ := Prod.mk.inj (Option.some.inj h)
      exact isIdentifier_ofList hname
    · cases h
  · cases h

/-- A number behind an identifier makes an identifier. -/
theorem isIdentifier_append_toString {stem : String} (h : isIdentifier stem = true) (n : Nat) :
    isIdentifier (stem ++ toString n) = true := by
  have hdigits : ∀ c ∈ (toString n).toList, continuesIdentifier c = true := by
    intro c hc
    rw [Nat.toString_eq_repr, Nat.toList_repr] at hc
    have hdigit := Nat.isDigit_of_mem_toDigits (by decide) (by decide) hc
    simp [continuesIdentifier, Char.isAlphanum, hdigit]
  unfold isIdentifier at h ⊢
  rw [String.toList_append]
  cases hs : stem.toList with
  | nil => simp [hs] at h
  | cons c cs =>
    rw [hs, Bool.and_eq_true] at h
    show (startsIdentifier c && (cs ++ (toString n).toList).all continuesIdentifier) = true
    rw [List.all_append, h.1, h.2]
    simpa using hdigits

/-! ### Calls -/

theorem mem_allowedTypes_of_types? {types : List String} {cs rest : List Char}
    (h : types? cs = some (types, rest)) : ∀ type ∈ types, type ∈ allowedTypes := by
  unfold types? at h
  obtain ⟨rest', -, h⟩ := Option.bind_eq_some_iff.1 h
  obtain ⟨rfl, -⟩ := Prod.mk.inj (Option.some.inj h)
  intro type htype
  obtain ⟨text, -, htext⟩ := List.mem_filterMap.1 htype
  exact mem_of_allowedType? htext

theorem sound_of_plainCall? {p : Probe} {cs rest : List Char}
    (h : plainCall? cs = some (p, rest)) : p.Sound := by
  unfold plainCall? at h
  obtain ⟨start, -, h⟩ := Option.bind_eq_some_iff.1 h
  obtain ⟨⟨name, rest₁⟩, hname, h⟩ := Option.bind_eq_some_iff.1 h
  obtain ⟨⟨types, rest₂⟩, htypes, h⟩ := Option.bind_eq_some_iff.1 h
  obtain ⟨rfl, -⟩ := Prod.mk.inj (Option.some.inj h)
  exact ⟨isIdentifier_of_quoted hname, mem_allowedTypes_of_types? htypes⟩

theorem sound_of_countedCall? {call : CountedCall} {cs rest : List Char}
    (h : countedCall? cs = some (call, rest)) (loop : Loop) : ∀ p ∈ call.probes loop, p.Sound := by
  unfold countedCall? at h
  obtain ⟨start, -, h⟩ := Option.bind_eq_some_iff.1 h
  obtain ⟨⟨stem, rest₁⟩, hstem, h⟩ := Option.bind_eq_some_iff.1 h
  obtain ⟨rest₂, -, h⟩ := Option.bind_eq_some_iff.1 h
  obtain ⟨⟨counter, rest₃⟩, -, h⟩ := Option.bind_eq_some_iff.1 h
  obtain ⟨⟨types, rest₄⟩, htypes, h⟩ := Option.bind_eq_some_iff.1 h
  obtain ⟨rfl, -⟩ := Prod.mk.inj (Option.some.inj h)
  intro p hp
  obtain ⟨n, -, rfl⟩ := List.mem_map.1 hp
  exact ⟨isIdentifier_append_toString (isIdentifier_of_quoted hstem) n,
    mem_allowedTypes_of_types? htypes⟩

/-- Whatever occurs was recognised. -/
theorem exists_of_mem_occurrencesFrom {α : Type} {recognise : List Char → Option (α × List Char)}
    {passed place : Nat} {cs : List Char} {found : Nat × α}
    (h : found ∈ occurrencesFrom recognise passed place cs) :
    ∃ cs' rest, recognise cs' = some (found.2, rest) := by
  fun_induction occurrencesFrom recognise passed place cs with
  | case1 => cases h
  | case2 _ _ _ _ ih => exact ih h
  | case3 place c cs found' rest hrecognised ih =>
    rcases List.mem_cons.1 h with rfl | h
    · exact ⟨_, rest, hrecognised⟩
    · exact ih h
  | case4 _ _ _ _ ih => exact ih h

end Declaration

open Declaration

/-- **Whatever a source declares may be listed in a manifest.** -/
theorem sound_of_declaredProbes {text : String} {probes : List Probe}
    (h : declaredProbes text = .ok probes) : ∀ p ∈ probes, p.Sound := by
  unfold declaredProbes at h
  split at h
  · cases h
  obtain rfl := Except.ok.inj h
  intro p hp
  obtain ⟨group, hgroup, hp⟩ := List.mem_flatMap.1 hp
  unfold groups at hgroup
  rw [List.mem_mergeSort] at hgroup
  rcases List.mem_append.1 hgroup with hplain | hcounted
  · obtain ⟨found, hfound, rfl⟩ := List.mem_map.1 hplain
    obtain ⟨cs, rest, hcall⟩ := exists_of_mem_occurrencesFrom hfound
    obtain rfl := List.mem_singleton.1 hp
    exact sound_of_plainCall? hcall
  · obtain ⟨⟨place, call⟩, hfound, hgroup⟩ := List.mem_filterMap.1 hcounted
    obtain ⟨loop, -, rfl⟩ := Option.map_eq_some_iff.1 hgroup
    obtain ⟨cs, rest, hcall⟩ := exists_of_mem_occurrencesFrom hfound
    exact sound_of_countedCall? hcall loop p hp

/-! ### Aggregates -/

namespace Aggregate

theorem firstLongest_mem {seen : List (List String)} (h : seen ≠ []) :
    firstLongest seen ∈ seen := by
  have hfold : ∀ (rest : List (List String)) (best : List String),
      rest.foldl (fun best t => if best.length < t.length then t else best) best ∈ best :: rest := by
    intro rest
    induction rest with
    | nil => intro best; simp
    | cons t rest ih =>
      intro best
      rw [List.foldl_cons]
      have hmem := ih (if best.length < t.length then t else best)
      rcases List.mem_cons.1 hmem with hbest | hrest
      · rw [hbest]
        split <;> simp
      · exact List.mem_cons_of_mem _ (List.mem_cons_of_mem _ hrest)
  cases seen with
  | nil => exact absurd rfl h
  | cons first rest => exact hfold rest first

theorem sound_withDefault {p : Probe} (h : p.Sound) : p.withDefault.Sound := by
  unfold Probe.withDefault
  split
  · refine ⟨h.name, fun type htype => ?_⟩
    obtain rfl := List.mem_singleton.1 htype
    decide
  · exact h

theorem nodup_eraseDups {α : Type} [BEq α] [LawfulBEq α] (items : List α) :
    items.eraseDups.Nodup := by
  generalize hn : items.length = n
  induction n using Nat.strongRecOn generalizing items with
  | ind n ih =>
    cases items with
    | nil => exact List.nodup_nil
    | cons item rest =>
      rw [List.eraseDups_cons, List.nodup_cons]
      refine ⟨by simp [List.mem_eraseDups], ih _ ?_ _ rfl⟩
      have hlength := List.length_filter_le (fun b => !b == item) rest
      rw [List.length_cons] at hn
      omega

theorem nodup_names_ofProbes (probes : List Probe) :
    ((ofProbes probes).map fun a => a.probe.name).Nodup := by
  unfold ofProbes
  rw [List.map_map]
  have hid : ((fun a : Aggregate => a.probe.name) ∘ fun name =>
      ofSeen name ((probes.filter (·.name == name)).map (·.types))) = id := rfl
  rw [hid, List.map_id]
  exact (Text.sorted_perm _).nodup_iff.2 (nodup_eraseDups _)

theorem seen_ne_nil {probes : List Probe} {a : Aggregate} (h : a ∈ ofProbes probes) :
    a.seen ≠ [] := by
  obtain ⟨name, hname, rfl⟩ := List.mem_map.1 h
  have hmem := (Text.sorted_perm _).mem_iff.1 hname
  rw [List.mem_eraseDups] at hmem
  obtain ⟨p, hp, rfl⟩ := List.mem_map.1 hmem
  have hmine : p.types ∈ (probes.filter (·.name == p.name)).map (·.types) :=
    List.mem_map_of_mem (by simp [hp])
  exact List.ne_nil_of_mem hmine

/-- Aggregates of probes that may be listed may be listed too. -/
theorem sound_of_mem_ofProbes {probes : List Probe} (h : ∀ p ∈ probes, p.Sound) {a : Aggregate}
    (ha : a ∈ ofProbes probes) : a.probe.Sound := by
  have hseen := seen_ne_nil ha
  obtain ⟨name, hname, rfl⟩ := List.mem_map.1 ha
  have hmem := (Text.sorted_perm _).mem_iff.1 hname
  rw [List.mem_eraseDups] at hmem
  obtain ⟨p, hp, rfl⟩ := List.mem_map.1 hmem
  obtain ⟨q, hq, htypes⟩ := List.mem_map.1 (firstLongest_mem hseen)
  have hdefault : (Probe.withDefault ⟨p.name,
      firstLongest ((probes.filter (·.name == p.name)).map (·.types))⟩).Sound := by
    refine sound_withDefault ⟨(h p hp).name, ?_⟩
    rw [← htypes]
    exact (h q (List.mem_filter.1 hq).1).types
  exact ⟨(h p hp).name, hdefault.types⟩

end Aggregate

/-! ### Manifests -/

namespace Manifest

theorem badType?_eq_none {types : List String} (h : ∀ type ∈ types, type ∈ allowedTypes) :
    badType? types = none := by
  induction types with
  | nil => rfl
  | cons type rest ih =>
    have htype := h type List.mem_cons_self
    rw [badType?, if_pos (by simpa using htype), ih fun t ht => h t (List.mem_cons_of_mem _ ht)]
    rfl

theorem probesFlaw?_eq_none {probes : List Probe} (h : ∀ p ∈ probes, p.Sound) (place : Nat)
    {names : List String} (hnames : ∀ p ∈ probes, p.name ∉ names)
    (hnodup : (probes.map (·.name)).Nodup) : probesFlaw? place names probes = none := by
  induction probes generalizing place names with
  | nil => rfl
  | cons p rest ih =>
    have hp := h p List.mem_cons_self
    obtain ⟨hnot, hrest⟩ := List.nodup_cons.1 hnodup
    have hnew := hnames p List.mem_cons_self
    rw [probesFlaw?, hp.name, badType?_eq_none hp.types, if_neg (by simp),
      if_neg (by simpa using hnew)]
    refine ih (fun q hq => h q (List.mem_cons_of_mem _ hq)) _ (fun q hq => ?_) hrest
    rw [List.mem_cons, not_or]
    refine ⟨fun heq => hnot ?_, hnames q (List.mem_cons_of_mem _ hq)⟩
    exact List.mem_map.2 ⟨q, hq, heq⟩

/-- **The manifest of scanned probes has no flaw** if its provider and its module have none. -/
theorem flaw?_ofAggregates {provider moduleName : Json} {probes : List Probe}
    (hprovider : isNamed provider = true) (hmodule : isNamedOrNull moduleName = true)
    (h : ∀ p ∈ probes, p.Sound) :
    (ofAggregates provider moduleName (Aggregate.ofProbes probes)).flaw? = none := by
  have hversion : (ofAggregates provider moduleName
      (Aggregate.ofProbes probes)).schemaVersion.isOne = true := rfl
  rw [flaw?, hversion, if_neg (by simp),
    if_neg (by simpa [ofAggregates] using hprovider),
    if_neg (by simpa [ofAggregates] using hmodule)]
  refine probesFlaw?_eq_none (fun p hp => ?_) 0 (fun _ _ hmem => nomatch hmem) ?_
  · obtain ⟨a, ha, rfl⟩ := List.mem_map.1 hp
    exact Aggregate.sound_of_mem_ofProbes h ha
  · show (((Aggregate.ofProbes probes).map Aggregate.probe).map (·.name)).Nodup
    rw [List.map_map]
    exact Aggregate.nodup_names_ofProbes probes

end Manifest

end ProbeKit
