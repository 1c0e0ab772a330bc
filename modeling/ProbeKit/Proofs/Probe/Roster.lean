import Mathlib.Data.List.Induction
import ProbeKit.Proofs.Manifest.Valid
import ProbeKit.Source.Plugin

/-!
# Rosters after any calls

Calls on a roster go on whatever becomes of each.  A call adds its probe if its name and types are
proper and leaves the roster as it was otherwise (`Roster.run_enter`), so after any calls a roster
lists the names of those that were let in, in the order in which they first came up, each with the
types of the last of them (`Roster.collects_attempts`).  Such a list has no flaw.
-/

namespace ProbeKit

open Manifest

/-- Whether the name of a call is an identifier and its types are allowed ones, in any spelling. -/
def RosterCall.isSound (call : RosterCall) : Bool :=
  isIdentifier call.name && call.types.all fun type => allowedTypes.contains (properType type)

namespace Roster

/-- Makes calls on the roster at hand one after the other, whatever becomes of each, and gives what
became of them. -/
def attempts (calls : List RosterCall) : StateM Roster (List (Except RosterError PUnit)) :=
  calls.mapM fun call => (enter call.name call.types).run

/-- A roster lists what some calls were to add. -/
structure Collects (r : Roster) (calls : List RosterCall) : Prop where
  /-- The names are those of the sound calls, in the order in which they first came up. -/
  names : r.probes.map (·.name) = ((calls.filter (·.isSound)).map (·.name)).eraseDups
  /-- Each probe has the types of the last sound call with its name, in their proper spelling. -/
  types : ∀ p ∈ r.probes, ∃ before call after, calls = before ++ call :: after ∧
    call.isSound = true ∧ call.name = p.name ∧ call.types.map properType = p.types ∧
    ∀ later ∈ after, later.isSound = true → later.name ≠ p.name

/-! ### One call -/

theorem properTypes_eq (types : List String) :
    properTypes types =
      match types.find? fun type => !allowedTypes.contains (properType type) with
      | none => .ok (types.map properType)
      | some type => .error (.badType type) := by
  induction types with
  | nil => rfl
  | cons type rest ih =>
    rw [properTypes, allowedType?]
    by_cases h : allowedTypes.contains (properType type)
    · rw [if_pos h, List.find?_cons_of_neg (by simpa using h), ih]
      cases rest.find? fun type => !allowedTypes.contains (properType type) <;> rfl
    · rw [if_neg h, List.find?_cons_of_pos (by simpa using h)]

theorem isOk_properTypes (types : List String) :
    (properTypes types).isOk = types.all fun type => allowedTypes.contains (properType type) := by
  rw [properTypes_eq]
  cases h : types.find? fun type => !allowedTypes.contains (properType type) with
  | none =>
    have hall : ∀ type ∈ types, allowedTypes.contains (properType type) = true := by
      simpa using h
    exact (List.all_eq_true.2 hall).symm
  | some type =>
    have hbad := List.find?_some h
    exact (List.all_eq_false.2 ⟨type, List.mem_of_find?_eq_some h, by simpa using hbad⟩).symm

theorem eq_of_properTypes {types proper : List String} (h : properTypes types = .ok proper) :
    proper = types.map properType := by
  rw [properTypes_eq] at h
  split at h
  · exact (Except.ok.inj h).symm
  · cases h

/-- **A call adds its probe or leaves the roster as it was.** -/
theorem run_enter (r : Roster) (call : RosterCall) :
    ∃ outcome, (enter call.name call.types).run.run r =
        (outcome, if call.isSound then ⟨put ⟨call.name, call.types.map properType⟩ r.probes⟩ else r) ∧
      outcome.isOk = call.isSound := by
  unfold RosterCall.isSound
  by_cases hname : isIdentifier call.name = true
  · have hrun : (enter call.name call.types).run.run r =
        match properTypes call.types with
        | .error e => (.error e, r)
        | .ok types => (.ok ⟨⟩, ⟨put ⟨call.name, types⟩ r.probes⟩) := by
      unfold enter
      rw [hname]
      cases h : properTypes call.types <;> rfl
    have hok := isOk_properTypes call.types
    rw [hrun, hname, Bool.true_and, ← hok]
    cases h : properTypes call.types with
    | error e => exact ⟨.error e, rfl, rfl⟩
    | ok types =>
      obtain rfl := eq_of_properTypes h
      exact ⟨.ok ⟨⟩, rfl, rfl⟩
  · rw [Bool.not_eq_true] at hname
    rw [hname, Bool.false_and]
    refine ⟨.error (.badName call.name), ?_, rfl⟩
    unfold enter
    rw [hname]
    rfl

/-! ### What is put where -/

theorem names_put (p : Probe) (probes : List Probe) :
    (put p probes).map (·.name) =
      if p.name ∈ probes.map (·.name) then probes.map (·.name)
      else probes.map (·.name) ++ [p.name] := by
  induction probes with
  | nil => rfl
  | cons q rest ih =>
    rw [put]
    by_cases h : q.name = p.name
    · simp [h]
    · have hne : p.name ≠ q.name := fun heq => h heq.symm
      rw [if_neg (by simpa using h), List.map_cons, ih, List.map_cons]
      by_cases hmem : p.name ∈ rest.map (·.name)
      · rw [if_pos hmem, if_pos (List.mem_cons_of_mem _ hmem)]
      · rw [if_neg hmem, if_neg (by simpa [hne] using hmem), List.cons_append]

/-- Where no name is listed twice, a probe takes the place of the one with its name. -/
theorem of_mem_put {p q : Probe} {probes : List Probe} (hnames : (probes.map (·.name)).Nodup)
    (h : q ∈ put p probes) : q = p ∨ q ∈ probes ∧ q.name ≠ p.name := by
  induction probes with
  | nil => exact .inl (List.mem_singleton.1 h)
  | cons first rest ih =>
    rw [List.map_cons, List.nodup_cons] at hnames
    rw [put] at h
    split at h
    · rename_i heq
      rcases List.mem_cons.1 h with rfl | hrest
      · exact .inl rfl
      · refine .inr ⟨List.mem_cons_of_mem _ hrest, fun hname => hnames.1 ?_⟩
        rw [beq_iff_eq.1 heq, ← hname]
        exact List.mem_map_of_mem hrest
    · rename_i hne
      rcases List.mem_cons.1 h with rfl | hrest
      · exact .inr ⟨List.mem_cons_self, by simpa using hne⟩
      · rcases ih hnames.2 hrest with rfl | ⟨hmem, hname⟩
        · exact .inl rfl
        · exact .inr ⟨List.mem_cons_of_mem _ hmem, hname⟩

/-- One more item comes at the end unless it is there. -/
theorem eraseDups_concat (names : List String) (name : String) :
    (names ++ [name]).eraseDups =
      if name ∈ names then names.eraseDups else names.eraseDups ++ [name] := by
  rw [List.eraseDups_append, List.removeAll]
  split <;> rename_i h <;> simp [h, List.eraseDups_cons]

/-! ### All calls -/

variable {r : Roster} {calls : List RosterCall}

theorem Collects.nodup (h : r.Collects calls) : (r.probes.map (·.name)).Nodup := by
  rw [h.names]
  exact Aggregate.nodup_eraseDups _

theorem collects_nil : ({} : Roster).Collects [] := ⟨rfl, nofun⟩

/-- A call that is refused counts for nothing. -/
theorem Collects.concat_refused (h : r.Collects calls) {call : RosterCall}
    (hcall : call.isSound = false) : r.Collects (calls ++ [call]) := by
  refine ⟨?_, fun p hp => ?_⟩
  · rw [List.filter_append, List.filter_cons_of_neg (by simp [hcall]), List.filter_nil,
      List.append_nil]
    exact h.names
  · obtain ⟨before, last, after, rfl, hsound, hname, htypes, hlater⟩ := h.types p hp
    refine ⟨before, last, after ++ [call], by simp, hsound, hname, htypes, fun later hmem => ?_⟩
    rcases List.mem_append.1 hmem with hmem | hmem
    · exact hlater later hmem
    · obtain rfl := List.mem_singleton.1 hmem
      intro hlate
      rw [hcall] at hlate
      cases hlate

/-- A call that is let in comes at the end or takes the place of its name. -/
theorem Collects.concat_sound (h : r.Collects calls) {call : RosterCall}
    (hcall : call.isSound = true) :
    Collects ⟨put ⟨call.name, call.types.map properType⟩ r.probes⟩ (calls ++ [call]) := by
  refine ⟨?_, fun p hp => ?_⟩
  · rw [List.filter_append, List.filter_cons_of_pos hcall, List.filter_nil, List.map_append,
      List.map_cons, List.map_nil, eraseDups_concat, ← h.names]
    show (put _ r.probes).map _ = _
    rw [names_put, h.names]
    simp only [List.mem_eraseDups]
  · rcases of_mem_put h.nodup hp with rfl | ⟨hmem, hother⟩
    · exact ⟨calls, call, [], rfl, hcall, rfl, rfl, nofun⟩
    · obtain ⟨before, last, after, rfl, hsound, hname, htypes, hlater⟩ := h.types p hmem
      refine ⟨before, last, after ++ [call], by simp, hsound, hname, htypes, fun later hmem => ?_⟩
      rcases List.mem_append.1 hmem with hmem | hmem
      · exact hlater later hmem
      · obtain rfl := List.mem_singleton.1 hmem
        exact fun _ => hother.symm

theorem run_attempts_concat (calls : List RosterCall) (call : RosterCall) (r : Roster) :
    (attempts (calls ++ [call])).run r =
      (((attempts calls).run r).1 ++
          [((enter call.name call.types).run.run ((attempts calls).run r).2).1],
        ((enter call.name call.types).run.run ((attempts calls).run r).2).2) := by
  unfold attempts
  rw [List.mapM_append]
  rfl

/-- After any calls a roster lists what those that were let in were to add. -/
theorem collects_run (calls : List RosterCall) :
    ((attempts calls).run {}).1.map Except.isOk = calls.map (·.isSound) ∧
      ((attempts calls).run {}).2.Collects calls := by
  induction calls using List.reverseRecOn with
  | nil => exact ⟨rfl, collects_nil⟩
  | append_singleton calls call ih =>
    obtain ⟨houtcomes, hcollects⟩ := ih
    obtain ⟨outcome, hrun, hok⟩ := run_enter ((attempts calls).run {}).2 call
    rw [run_attempts_concat, hrun]
    refine ⟨by simp [houtcomes, hok], ?_⟩
    cases hcall : call.isSound with
    | true => exact hcollects.concat_sound hcall
    | false => exact hcollects.concat_refused hcall

/-- What was let in may be listed in a manifest. -/
theorem Collects.sound (h : r.Collects calls) : ∀ p ∈ r.probes, p.Sound := by
  intro p hp
  obtain ⟨before, call, after, -, hsound, hname, htypes, -⟩ := h.types p hp
  rw [RosterCall.isSound, Bool.and_eq_true, List.all_eq_true] at hsound
  refine ⟨hname ▸ hsound.1, fun type htype => ?_⟩
  rw [← htypes] at htype
  obtain ⟨raw, hraw, rfl⟩ := List.mem_map.1 htype
  simpa using hsound.2 raw hraw

/-- **A roster only ever holds a valid set of probes**: a call that is refused leaves it as it was,
and after any calls it lists what those that were let in were to add, which makes a manifest without
a flaw for any provider with a name. -/
theorem holds_valid (calls : List RosterCall) :
    (∀ (r r' : Roster) (name : String) (types : List String) (e : RosterError),
      (enter name types).run.run r = (.error e, r') → r' = r) ∧
    ∃ outcomes r, (attempts calls).run {} = (outcomes, r) ∧
      outcomes.map Except.isOk = calls.map (·.isSound) ∧ r.Collects calls ∧
      ∀ (provider : String) (moduleName : Json), provider ≠ "" →
        (moduleName = .null ∨ ∃ name : String, moduleName = .str name) →
        (r.manifest (.str provider) moduleName).flaw? = none := by
  refine ⟨fun r r' name types e hrun => ?_, _, _, rfl, (collects_run calls).1,
    (collects_run calls).2, fun provider moduleName hprovider hmodule => ?_⟩
  · obtain ⟨outcome, hcall, hok⟩ := run_enter r ⟨name, types⟩
    rw [hcall] at hrun
    obtain ⟨rfl, hr⟩ := Prod.mk.inj hrun
    rw [← hr, if_neg (by rw [← hok]; exact Bool.false_ne_true)]
  · have hcollects := (collects_run calls).2
    exact flaw?_eq_none_iff.2 ⟨rfl, ⟨provider, hprovider, rfl⟩, hmodule, hcollects.nodup,
      hcollects.sound⟩

/-- Calls of all kinds: two names that are added, one of them again, and two that are refused. -/
def mixedCalls : List RosterCall :=
  [⟨"a", ["int"]⟩, ⟨"1x", []⟩, ⟨"b", ["char*"]⟩, ⟨"a", ["uint", "float"]⟩, ⟨"a", ["json"]⟩]

theorem holds_valid_mixed :
    ((attempts mixedCalls).run {}).2.probes = [⟨"a", ["json"]⟩, ⟨"b", ["char *"]⟩] ∧
      ((attempts mixedCalls).run {}).1.map Except.isOk = [true, false, true, false, true] ∧
      (((attempts mixedCalls).run {}).2.manifest (.str "nodeapp") .null).flaw? = none := by
  obtain ⟨-, outcomes, r, hrun, houtcomes, -, hvalid⟩ := holds_valid mixedCalls
  obtain rfl : outcomes = ((attempts mixedCalls).run {}).1 := by rw [hrun]
  obtain rfl : r = ((attempts mixedCalls).run {}).2 := by rw [hrun]
  exact ⟨by decide, houtcomes.trans (by decide), hvalid "nodeapp" .null (by decide) (.inl rfl)⟩

end Roster

end ProbeKit
