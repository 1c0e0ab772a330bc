import ProbeKit.Proofs.Probe.Closest

/-!
# Call sites

One pass finds the plain calls of a text and another one the counted calls; their groups of probes
are put one list behind the other and a sort brings them into source order.  No place begins both
kinds of call, since behind the quoted name a plain call goes on with a comma or with its closing
parenthesis and a counted one with a plus sign.  So each place is taken once, the sort has one
result whether it is stable or not (`groups_eq_iff`), and the declared probes are those of one call
after the other (`declaredProbes_eq_flatMap`), unless a loop has a numeral that is too long to be
read.
-/

namespace ProbeKit.Declaration

/-! ### Calls of both kinds -/

/-- A call of either kind. -/
inductive Call
  /-- A call that names its probe in full. -/
  | plain (probe : Probe)
  /-- A call whose probes are numbered by a variable. -/
  | counted (call : CountedCall)

namespace Call

/-- Whether a pass over a text finds a call at a place. -/
def StandsAt (text : List Char) (place : Nat) : Call → Prop
  | plain probe => (place, probe) ∈ occurrences plainCall? text
  | counted call => (place, call) ∈ occurrences countedCall? text

/-- The probes of a call: the one that it names, or one for each value that its loop gives.  A
counted call has no group where no loop for its variable begins before it. -/
def group? (loops : List (Nat × Loop)) (place : Nat) : Call → Option (List Probe)
  | plain probe => some [probe]
  | counted call => (closestLoop? loops call.counter place).map call.probes

end Call

/-- Whether a list holds the calls of a text, each once and in source order. -/
structure Listing (text : List Char) (calls : List (Nat × Call)) : Prop where
  /-- Their places go up. -/
  ordered : calls.Pairwise fun x y => x.1 < y.1
  /-- They are the calls that the passes find. -/
  complete : ∀ place call, (place, call) ∈ calls ↔ call.StandsAt text place

variable {text : List Char}

/-- No place begins both kinds of call. -/
theorem plainCall?_or_countedCall? (cs : List Char) :
    plainCall? cs = none ∨ countedCall? cs = none := by
  cases h : countedCall? cs with
  | none => exact Or.inr rfl
  | some found =>
    obtain ⟨call, rest⟩ := found
    exact Or.inl (plainCall?_of_countedCall? h)

/-! ### Both passes -/

/-- What the two passes find, the plain calls in front. -/
def bothPasses (text : List Char) : List (Nat × Call) :=
  (occurrences plainCall? text).map (fun x => (x.1, .plain x.2)) ++
    (occurrences countedCall? text).map fun x => (x.1, .counted x.2)

/-- The group of a call of a text, with the place of the call. -/
def groupAt? (text : List Char) (x : Nat × Call) : Option (Nat × List Probe) :=
  (x.2.group? (occurrences loop? text) x.1).map fun probes => (x.1, probes)

theorem mem_bothPasses {place : Nat} {call : Call} :
    (place, call) ∈ bothPasses text ↔ call.StandsAt text place := by
  cases call <;> simp [bothPasses, Call.StandsAt]

/-- The two passes never meet at a place. -/
theorem pairwise_bothPasses (text : List Char) :
    (bothPasses text).Pairwise fun x y => x.1 ≠ y.1 := by
  refine List.pairwise_append.2 ⟨?_, ?_, ?_⟩
  · exact List.pairwise_map.2 ((pairwise_occurrences plainCall? text).imp Nat.ne_of_lt)
  · exact List.pairwise_map.2 ((pairwise_occurrences countedCall? text).imp Nat.ne_of_lt)
  · -- At a common place one text would be recognised as both kinds of call.
    intro x hx y hy hplace
    obtain ⟨⟨place, probe⟩, hplain, rfl⟩ := List.mem_map.1 hx
    obtain ⟨⟨place', call⟩, hcounted, rfl⟩ := List.mem_map.1 hy
    obtain rfl : place = place' := hplace
    obtain ⟨-, ⟨rest, hfound⟩, -⟩ := mem_occurrences_iff.1 hplain
    obtain ⟨-, ⟨rest', hfound'⟩, -⟩ := mem_occurrences_iff.1 hcounted
    rw [plainCall?_of_countedCall? hfound'] at hfound
    cases hfound

/-- Groups stand where their calls stand. -/
theorem pairwise_filterMap_groupAt? {rel : Nat → Nat → Prop} {calls : List (Nat × Call)}
    (h : calls.Pairwise fun x y => rel x.1 y.1) :
    (calls.filterMap (groupAt? text)).Pairwise fun x y => rel x.1 y.1 := by
  apply h.filterMap
  intro x y hxy group hgroup group' hgroup'
  obtain ⟨probes, -, rfl⟩ := Option.map_eq_some_iff.1 hgroup
  obtain ⟨probes', -, rfl⟩ := Option.map_eq_some_iff.1 hgroup'
  exact hxy

/-- The groups before the sort are those of the calls that the passes find. -/
theorem plainGroups_append_countedGroups (text : List Char) :
    plainGroups text ++ countedGroups text = (bothPasses text).filterMap (groupAt? text) := by
  have hplain : plainGroups text = (occurrences plainCall? text).filterMap
      fun x => groupAt? text (x.1, .plain x.2) := by
    rw [plainGroups, ← List.filterMap_eq_map]
    rfl
  have hcounted : countedGroups text = (occurrences countedCall? text).filterMap
      fun x => groupAt? text (x.1, .counted x.2) := by
    apply List.filterMap_congr
    intro x _
    exact (Option.map_map _ _ _).symm
  rw [bothPasses, List.filterMap_append, List.filterMap_map, List.filterMap_map, hplain, hcounted]
  rfl

/-- The places of the groups are pairwise distinct. -/
theorem pairwise_plainGroups_append (text : List Char) :
    (plainGroups text ++ countedGroups text).Pairwise fun x y => x.1 ≠ y.1 := by
  rw [plainGroups_append_countedGroups]
  exact pairwise_filterMap_groupAt? (pairwise_bothPasses text)

-- A counted call inside a literal of a plain call has a place of its own.
example : ([plainGroups, countedGroups].flatMap fun pass =>
    pass "for (i = 0; i < 2; i++) t.addProbe('a', '.addProbe(`p` + i)');".toList) =
    [(25, [⟨"a", []⟩]), (41, [⟨"p0", []⟩, ⟨"p1", []⟩])] := by
  decide +kernel

/-! ### The sort -/

/-- **The sort never has to choose**: the groups can be put in the order of their places in one way
only. -/
theorem groups_eq_iff {arranged : List (Nat × List Probe)} :
    arranged.Perm (plainGroups text ++ countedGroups text) ∧
      (arranged.Pairwise fun x y => x.1 ≤ y.1) ↔ arranged = groups text := by
  constructor
  · rintro ⟨hperm, hle⟩
    have hlt := pairwise_lt_of_perm hperm (pairwise_plainGroups_append text) hle
    exact (mergeSort_eq_of_perm hperm.symm hlt).symm
  · rintro rfl
    exact ⟨List.mergeSort_perm _ _, pairwise_mergeSort _⟩

/-- The calls in the order of their places are a listing. -/
theorem listing_mergeSort (text : List Char) :
    Listing text ((bothPasses text).mergeSort fun a b => decide (a.1 ≤ b.1)) := by
  have hperm := List.mergeSort_perm (bothPasses text) fun a b => decide (a.1 ≤ b.1)
  refine ⟨pairwise_lt_of_perm hperm (pairwise_bothPasses text) (pairwise_mergeSort _), ?_⟩
  intro place call
  rw [hperm.mem_iff, mem_bothPasses]

namespace Listing

variable {calls : List (Nat × Call)}

theorem perm (h : Listing text calls) : (bothPasses text).Perm calls := by
  refine (List.perm_ext_iff_of_nodup ?_ ?_).2 ?_
  · exact (pairwise_bothPasses text).imp fun hne heq => hne (congrArg Prod.fst heq)
  · exact h.ordered.imp fun hlt heq => Nat.ne_of_lt hlt (congrArg Prod.fst heq)
  · rintro ⟨place, call⟩
    rw [mem_bothPasses, h.complete]

/-- There is one listing. -/
theorem eq_mergeSort (h : Listing text calls) :
    calls = (bothPasses text).mergeSort fun a b => decide (a.1 ≤ b.1) :=
  (mergeSort_eq_of_perm h.perm h.ordered).symm

/-- The sorted groups are those of the listed calls. -/
theorem groups_eq (h : Listing text calls) :
    groups text = calls.filterMap (groupAt? text) := by
  unfold groups
  rw [plainGroups_append_countedGroups]
  exact mergeSort_eq_of_perm (h.perm.filterMap _) (pairwise_filterMap_groupAt? h.ordered)

/-- Their probes are those of one call after the other. -/
theorem flatMap_groups (h : Listing text calls) :
    (groups text).flatMap (·.2) =
      calls.flatMap fun x => (x.2.group? (occurrences loop? text) x.1).getD [] := by
  rw [h.groups_eq, List.filterMap_eq_flatMap_toList, List.flatMap_assoc]
  -- What is left is one call: without a group it adds no probe.
  congr 1
  funext x
  unfold groupAt?
  cases x.2.group? (occurrences loop? text) x.1 with
  | none => rfl
  | some probes => exact List.flatMap_singleton (·.2) (x.1, probes)

end Listing

/-- **The declared probes are those of one call after the other, in source order.**  No place begins
both kinds of call, the groups stand at distinct places, and the sort has one result.  The calls
that the passes find make one list in strict order of their places, and the group of each is one
part of the declared probes.  The text is not read exactly if a counting loop has too long a
numeral. -/
theorem declaredProbes_eq_flatMap (text : String) :
    (∀ place, plainCall? (text.toList.drop place) = none ∨
      countedCall? (text.toList.drop place) = none) ∧
    ((plainGroups text.toList ++ countedGroups text.toList).map (·.1)).Nodup ∧
    (∀ arranged, (arranged.Perm (plainGroups text.toList ++ countedGroups text.toList) ∧
      arranged.Pairwise fun x y => x.1 ≤ y.1) ↔ arranged = groups text.toList) ∧
    ((∃ e, declaredProbes text = .error e) ↔ Overlong text.toList) ∧
    ∃ calls, (∀ other, Listing text.toList other ↔ other = calls) ∧
      (¬ Overlong text.toList → declaredProbes text = .ok
        (calls.flatMap fun x => (x.2.group? (occurrences loop? text.toList) x.1).getD [])) := by
  refine ⟨fun place => plainCall?_or_countedCall? _, ?_, fun arranged => groups_eq_iff,
    exists_error_iff, ?_⟩
  · exact List.pairwise_map.2 (pairwise_plainGroups_append text.toList)
  · have hlisting := listing_mergeSort text.toList
    refine ⟨_, fun other => ⟨Listing.eq_mergeSort, ?_⟩, fun hshort => ?_⟩
    · rintro rfl
      exact hlisting
    · rw [declaredProbes_eq_ok hshort, hlisting.flatMap_groups]

/-- **A text need not be read**: where a loop begins at a zero with one digit too many the probes of
its call are lost. -/
theorem not_declaredProbes_eq_flatMap :
    ¬ ∀ text : String, ∃ calls, Listing text.toList calls ∧ declaredProbes text = .ok
      (calls.flatMap fun x => (x.2.group? (occurrences loop? text.toList) x.1).getD []) := by
  intro hall
  obtain ⟨calls, -, hread⟩ := hall (String.ofList (Rendering.rowText Rendering.longZero))
  rw [declaredProbes_longZero] at hread
  cases hread

end ProbeKit.Declaration
