import ProbeKit.Proofs.Manifest.Texts
import ProbeKit.Proofs.Probe.Catalog

/-!
# What aggregates say of declarations

The aggregates of some declarations list each declared name once and in order, with all argument
lists that were seen for it and with the first of the longest of them as its own
(`Aggregate.merges_ofProbes`).  For files it makes no difference in which order they are given:
their declarations are taken in the order of their paths (`Catalog.merges_aggregates`).
-/

namespace ProbeKit

/-! ### The first of the longest lists -/

/-- A list of types is the first of the longest: those before it are shorter and none behind it is
longer. -/
def IsFirstLongest (seen : List (List String)) (best : List String) : Prop :=
  ∃ before after, seen = before ++ best :: after ∧
    (∀ types ∈ before, types.length < best.length) ∧ ∀ types ∈ after, types.length ≤ best.length

namespace IsFirstLongest

theorem singleton (types : List String) : IsFirstLongest [types] types :=
  ⟨[], [], rfl, by simp, by simp⟩

/-- One list more takes the place of the first of the longest exactly if it is longer. -/
theorem concat {seen : List (List String)} {best : List String} (h : IsFirstLongest seen best)
    (types : List String) :
    IsFirstLongest (seen ++ [types]) (if best.length < types.length then types else best) := by
  obtain ⟨before, after, rfl, hbefore, hafter⟩ := h
  split
  · rename_i hlonger
    refine ⟨before ++ best :: after, [], rfl, fun t ht => ?_, by simp⟩
    rcases List.mem_append.1 ht with ht | ht
    · exact Nat.lt_trans (hbefore t ht) hlonger
    · rcases List.mem_cons.1 ht with rfl | ht
      · exact hlonger
      · exact Nat.lt_of_le_of_lt (hafter t ht) hlonger
  · rename_i hnot
    refine ⟨before, after ++ [types], by simp, hbefore, fun t ht => ?_⟩
    rcases List.mem_append.1 ht with ht | ht
    · exact hafter t ht
    · obtain rfl := List.mem_singleton.1 ht
      exact Nat.not_lt.1 hnot

/-- What was taken from a beginning leads to what is taken from the whole. -/
theorem foldl {seen : List (List String)} {best : List String} (h : IsFirstLongest seen best)
    (rest : List (List String)) :
    IsFirstLongest (seen ++ rest) (rest.foldl
      (fun best types => if best.length < types.length then types else best) best) := by
  induction rest generalizing seen best with
  | nil => simpa using h
  | cons types rest ih =>
    rw [List.append_cons]
    exact ih (h.concat types)

end IsFirstLongest

theorem Aggregate.isFirstLongest_firstLongest {seen : List (List String)} (h : seen ≠ []) :
    IsFirstLongest seen (firstLongest seen) := by
  obtain ⟨first, rest, rfl⟩ := List.exists_cons_of_ne_nil h
  exact (IsFirstLongest.singleton first).foldl rest

/-! ### Aggregates of declarations -/

/-- The lists of types that were seen for a name, in order. -/
def seenFor (probes : List Probe) (name : String) : List (List String) :=
  (probes.filter (·.name == name)).map (·.types)

theorem mem_seenFor {probes : List Probe} {name : String} {types : List String} :
    types ∈ seenFor probes name ↔ (⟨name, types⟩ : Probe) ∈ probes := by
  simp only [seenFor, List.mem_map, List.mem_filter, beq_iff_eq]
  constructor
  · rintro ⟨p, ⟨hp, rfl⟩, rfl⟩
    exact hp
  · exact fun h => ⟨_, ⟨h, rfl⟩, rfl⟩

/-- Aggregates say of some declarations what they are to say. -/
structure Merges (probes : List Probe) (aggregates : List Aggregate) : Prop where
  /-- The names stand in order, each once. -/
  inOrder : aggregates.Pairwise fun a b => a.name < b.name
  /-- They are the names that were declared. -/
  names : ∀ name, (∃ a ∈ aggregates, a.name = name) ↔ ∃ p ∈ probes, p.name = name
  /-- No list of types is listed twice for a name. -/
  nodup : ∀ a ∈ aggregates, a.variants.Nodup
  /-- What is listed for a name is what was seen for it. -/
  variants : ∀ a ∈ aggregates, ∀ types, types ∈ a.variants ↔ (⟨a.name, types⟩ : Probe) ∈ probes
  /-- The types that count are the first of the longest that were seen, but for a numbered name
  that was only declared bare: it takes one integer. -/
  types : ∀ a ∈ aggregates, ∃ best, IsFirstLongest (seenFor probes a.name) best ∧
    a.types = if best.length = 0 ∧ isNumbered a.name = true then ["int"] else best

namespace Aggregate

theorem seen_of_mem_ofProbes {probes : List Probe} {a : Aggregate} (h : a ∈ ofProbes probes) :
    a.seen = seenFor probes a.name := by
  obtain ⟨name, -, rfl⟩ := List.mem_map.1 h
  rfl

theorem types_of_mem_ofProbes {probes : List Probe} {a : Aggregate} (h : a ∈ ofProbes probes) :
    a.types = (ofSeen a.name a.seen).types := by
  obtain ⟨name, -, rfl⟩ := List.mem_map.1 h
  rfl

theorem exists_name_ofProbes_iff {probes : List Probe} {name : String} :
    (∃ a ∈ ofProbes probes, a.name = name) ↔ ∃ p ∈ probes, p.name = name := by
  have hname : name ∈ Text.sorted (probes.map (·.name)).eraseDups ↔ ∃ p ∈ probes, p.name = name := by
    rw [(Text.sorted_perm _).mem_iff, List.mem_eraseDups, List.mem_map]
  rw [← hname]
  constructor
  · rintro ⟨a, ha, rfl⟩
    obtain ⟨name, hmem, rfl⟩ := List.mem_map.1 ha
    exact hmem
  · exact fun hmem => ⟨_, List.mem_map_of_mem hmem, rfl⟩

theorem nodup_variants (a : Aggregate) : a.variants.Nodup := by
  have hperm : a.variants.Perm a.seen.eraseDups := List.mergeSort_perm _ _
  exact hperm.nodup_iff.2 (nodup_eraseDups a.seen)

theorem mem_variants {a : Aggregate} {types : List String} :
    types ∈ a.variants ↔ types ∈ a.seen := by
  rw [variants, List.mem_mergeSort, List.mem_eraseDups]

theorem types_ofSeen (name : String) (seen : List (List String)) :
    (ofSeen name seen).types =
      if (firstLongest seen).length = 0 ∧ isNumbered name = true then ["int"]
      else firstLongest seen := by
  show (Probe.withDefault ⟨name, firstLongest seen⟩).types = _
  unfold Probe.withDefault Probe.isBareNumbered
  by_cases hnone : firstLongest seen = []
  · cases isNumbered name <;> simp [hnone]
  · simp [hnone]

/-- **The aggregates of declarations say of them what they are to say.** -/
theorem merges_ofProbes (probes : List Probe) : Merges probes (ofProbes probes) where
  inOrder := pairwise_name_ofProbes probes
  names := fun _ => exists_name_ofProbes_iff
  nodup := fun a _ => a.nodup_variants
  variants := by
    intro a ha types
    rw [mem_variants, ← mem_seenFor, seen_of_mem_ofProbes ha]
  types := by
    intro a ha
    rw [types_of_mem_ofProbes ha, types_ofSeen, ← seen_of_mem_ofProbes ha]
    exact ⟨_, isFirstLongest_firstLongest (seen_ne_nil ha), rfl⟩

end Aggregate

/-! ### Aggregates of files -/

namespace Catalog

theorem find?_foldl_insert {files : List (String × List Probe)}
    (h : (files.map (·.1)).Nodup) (c : Catalog) (k : String) (v : List Probe) :
    (files.foldl (fun c f => c.insert f.1 f.2) c).find? k = some v ↔
      (k, v) ∈ files ∨ k ∉ files.map (·.1) ∧ c.find? k = some v := by
  induction files generalizing c with
  | nil => simp
  | cons f rest ih =>
    obtain ⟨name, probes⟩ := f
    obtain ⟨hnew, hrest⟩ := List.nodup_cons.1 h
    rw [List.foldl_cons, ih hrest, find?_insert]
    by_cases hk : k = name
    · subst hk
      have hnot : (k, v) ∉ rest := fun hmem => hnew (List.mem_map.2 ⟨_, hmem, rfl⟩)
      have hnew : k ∉ rest.map (·.1) := hnew
      simp [hnot, hnew, eq_comm]
    · simp [hk]

/-- A catalog knows the files that it was made from. -/
theorem find?_ofList {files : List (String × List Probe)} (h : (files.map (·.1)).Nodup)
    (k : String) (v : List Probe) : (ofList files).find? k = some v ↔ (k, v) ∈ files := by
  rw [ofList, find?_foldl_insert h]
  simp

/-- A catalog holds its files in the order of their paths. -/
theorem entries_ofList_perm {files : List (String × List Probe)} (h : (files.map (·.1)).Nodup) :
    (ofList files).entries.Perm files := by
  have hentries : (ofList files).entries.Nodup := by
    refine (ofList files).inOrder.imp fun {a b} hlt heq => ?_
    rw [heq] at hlt
    exact String.lt_irrefl _ hlt
  have hfiles : files.Nodup :=
    List.Pairwise.of_map (·.1) (fun _ _ hne heq => hne (congrArg _ heq)) h
  refine (List.perm_ext_iff_of_nodup hentries hfiles).2 fun e => ?_
  rw [← find?_ofList h]
  exact (lookup_eq_some_iff (ofList files).inOrder).symm

/-- A catalog does not depend on the order in which its files were given. -/
theorem ofList_eq_of_perm {files files' : List (String × List Probe)}
    (h : (files.map (·.1)).Nodup) (hperm : files'.Perm files) : ofList files' = ofList files := by
  refine ext_find? fun k v => ?_
  have h' : (files'.map (·.1)).Nodup := (hperm.map _).nodup_iff.2 h
  rw [find?_ofList h', find?_ofList h]
  exact hperm.mem_iff

/-- **The aggregates of files say of what they declare what they are to say, the files taken in the
order of their paths; the order in which they are given makes no difference.** -/
theorem merges_aggregates {files : List (String × List Probe)} (h : (files.map (·.1)).Nodup) :
    (∃ ordered : List (String × List Probe), ordered.Perm files ∧
        ordered.Pairwise (fun f g => f.1 < g.1) ∧
          Merges (ordered.flatMap (·.2)) (ofList files).aggregates) ∧
      ∀ files', files'.Perm files → (ofList files').aggregates = (ofList files).aggregates :=
  ⟨⟨(ofList files).entries, entries_ofList_perm h, (ofList files).inOrder,
      Aggregate.merges_ofProbes _⟩,
    fun _ hperm => congrArg aggregates (ofList_eq_of_perm h hperm)⟩

/-- Two files that declare one name, and a numbered probe that is declared bare. -/
def crossedFiles : List (String × List Probe) :=
  [("b.js", [⟨"probe1", []⟩, ⟨"x", ["int", "int"]⟩]), ("a.js", [⟨"x", []⟩, ⟨"x", ["json", "int"]⟩])]

theorem merges_aggregates_crossed :
    (crossedFiles.map (·.1)).Nodup ∧
      (∃ ordered : List (String × List Probe), ordered.Perm crossedFiles ∧
        ordered.Pairwise (fun f g => f.1 < g.1) ∧
          Merges (ordered.flatMap (·.2)) (ofList crossedFiles).aggregates) ∧
      ∀ files', files'.Perm crossedFiles →
        (ofList files').aggregates = (ofList crossedFiles).aggregates :=
  ⟨by decide, merges_aggregates (by decide)⟩

end Catalog

end ProbeKit
