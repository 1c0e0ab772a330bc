import ProbeKit.Detector
import ProbeKit.Proofs.Manifest.Content

/-!
# What a snapshot tells

The lines of a snapshot tell all of the probes that they stand for: the line of a sound probe is taken
apart into the probe again (`Probe.Sound.ofEntry_entry`), and the text of a snapshot is read as its lines
(`Snapshot.read_text`).  So the manifest that a comparison makes of the lines says the same as the
current one exactly if both list the same probes (`Detector.saysSame_rebuilt_iff`), and the change that
is reported leads from the lines of the one to those of the other (`Snapshot.between_exact`).
-/

namespace ProbeKit

open Text

/-! ### Lines -/

namespace Probe

theorem not_mem_of_isIdentifier {name : String} (h : isIdentifier name = true) :
    '|' ∉ name.toList := by
  unfold isIdentifier at h
  split at h
  · cases h
  rename_i c cs hname
  rw [Bool.and_eq_true, List.all_eq_true] at h
  rw [hname, List.mem_cons, not_or]
  constructor
  · rintro rfl
    exact absurd h.1 (by decide)
  · exact fun hmem => absurd (h.2 _ hmem) (by decide)

theorem toList_of_mem_allowedTypes :
    ∀ type ∈ allowedTypes, type.toList ≠ [] ∧ ',' ∉ type.toList := by decide

theorem toList_entry (p : Probe) :
    p.entry.toList = p.name.toList ++ '|' :: [','].intercalate (p.types.map String.toList) := by
  simp [entry, String.toList_intercalate]

theorem mem_entry (p : Probe) : '|' ∈ p.entry.toList := by
  rw [toList_entry]
  exact List.mem_append_right _ List.mem_cons_self

/-- Allowed types with commas between them are taken apart again. -/
theorem filter_splitOn_intercalate {types : List String} (h : ∀ type ∈ types, type ∈ allowedTypes) :
    (([','].intercalate (types.map String.toList)).splitOn ',').filter (!·.isEmpty) =
      types.map String.toList := by
  cases htypes : types with
  | nil => rfl
  | cons type rest =>
    rw [← htypes]
    have hmem : ∀ cs ∈ types.map String.toList, cs ≠ [] ∧ ',' ∉ cs := by
      intro cs hcs
      obtain ⟨t, ht, rfl⟩ := List.mem_map.1 hcs
      exact toList_of_mem_allowedTypes t (h t ht)
    rw [List.splitOn_intercalate ',' (fun cs hcs => (hmem cs hcs).2) (by simp [htypes])]
    exact List.filter_eq_self.2 fun cs hcs => by simpa using (hmem cs hcs).1

/-- **The line of a sound probe stands for that probe.** -/
theorem Sound.ofEntry_entry {p : Probe} (h : p.Sound) : ofEntry p.entry = p := by
  have hname : p.entry.toList.takeWhile (· != '|') = p.name.toList := by
    have hbar := not_mem_of_isIdentifier h.name
    rw [toList_entry, List.takeWhile_append_of_pos, List.takeWhile_cons_of_neg, List.append_nil]
    · simp
    · intro c hc
      simpa using fun heq : c = '|' => hbar (heq ▸ hc)
  have htypes : p.entry.toList.drop (p.name.toList.length + 1) =
      [','].intercalate (p.types.map String.toList) := by
    rw [toList_entry, ← List.drop_drop, List.drop_left, List.drop_one, List.tail_cons]
  unfold ofEntry
  rw [hname]
  dsimp only
  rw [htypes, filter_splitOn_intercalate h.types, List.map_map]
  simp [Function.comp_def]

end Probe

namespace Manifest

variable {m : Manifest}

theorem mem_entries {line : String} : line ∈ m.entries ↔ ∃ p ∈ m.probes, p.entry = line := by
  rw [entries, Probe.entries, (sorted_perm _).mem_iff, List.mem_map]

/-- The lines of a valid manifest stand for its probes. -/
theorem Valid.perm_probes_entries (h : m.Valid) : (Snapshot.probes m.entries).Perm m.probes := by
  have hback : (m.probes.map Probe.entry).map Probe.ofEntry = m.probes := by
    rw [List.map_map]
    exact (List.map_congr_left fun p hp => (h.probes p hp).ofEntry_entry).trans (List.map_id _)
  have hperm := (sorted_perm (m.probes.map Probe.entry)).map Probe.ofEntry
  rwa [hback] at hperm

theorem Valid.nodup_entries (h : m.Valid) : m.entries.Nodup := by
  have hprobes := h.perm_probes_entries.nodup_iff.2 (List.Nodup.of_map _ h.names)
  exact List.Nodup.of_map _ hprobes

theorem pairwise_entries (m : Manifest) : m.entries.Pairwise (· ≤ ·) := pairwise_sorted _

end Manifest

/-! ### Changes -/

namespace Snapshot

theorem strings?_map_letters (texts : List String) :
    ((Manifest.textArray texts).map letters).strings? = some (texts.map letters) := by
  show (Json.mapItems letters (texts.map Json.str)).mapM Json.str? = _
  rw [Json.mapItems_eq]
  induction texts with
  | nil => rfl
  | cons s rest ih =>
    rw [List.map_cons, List.map_cons, List.mapM_cons, ih]
    rfl

/-- **The text of a snapshot is read as its lines**, however little room there is. -/
theorem read_text (room : Json.Room) (m : Manifest) :
    read room (encode (text m)) = .ok (some m.entries) := by
  have hfits : (Manifest.textArray m.entries).Fits room.reading :=
    (Manifest.fits_textArray 0 m.entries).mono (Nat.le_trans (by decide) room.le_reading)
  have hbars : ((m.entries.map letters).all fun line => line.contains (.char '|')) = true := by
    rw [List.all_map]
    refine List.all_eq_true.2 fun line hline => ?_
    obtain ⟨p, -, rfl⟩ := Manifest.mem_entries.1 hline
    simpa [letters] using p.mem_entry
  have hwhole : (m.entries.map letters).all isWhole = true := by
    rw [List.all_map]
    exact List.all_eq_true.2 fun line _ => isWhole_letters line
  have hshown : (m.entries.map letters).map shown = m.entries := by
    rw [List.map_map]
    exact (List.map_congr_left fun line _ => shown_letters line).trans (List.map_id _)
  have htext : text m = Json.document .ascii (Manifest.textArray m.entries) := rfl
  rw [read, htext, Json.read_encode_document .ascii (Manifest.legible_textArray m.entries) hfits]
  show ofRaw ((Manifest.textArray m.entries).map letters) = _
  rw [ofRaw, strings?_map_letters]
  dsimp only
  rw [hbars, hwhole, hshown]
  rfl

/-- A change leads from some lines to others. -/
structure Change.Leads (c : Change) (before after : List String) : Prop where
  /-- The lines that came are different and in order. -/
  added : c.added.Pairwise (· < ·)
  /-- The lines that went are different and in order. -/
  removed : c.removed.Pairwise (· < ·)
  /-- No line came and went. -/
  apart : ∀ line ∈ c.added, line ∉ c.removed
  /-- What went was there. -/
  there : ∀ line ∈ c.removed, line ∈ before
  /-- What came was not there. -/
  new : ∀ line ∈ c.added, line ∉ before
  /-- Without the lines that went and with those that came, the first lines are the second. -/
  leads : sorted ((before.filter fun line => !c.removed.contains line) ++ c.added) = after

variable {before after : List String} {line : String}

theorem mem_missing : line ∈ missing before after ↔ line ∈ before ∧ line ∉ after := by
  rw [missing, (sorted_perm _).mem_iff, List.mem_eraseDups, List.mem_filter]
  simp

theorem pairwise_missing (before after : List String) : (missing before after).Pairwise (· < ·) := by
  have hnodup := (sorted_perm _).nodup_iff.2
    (Aggregate.nodup_eraseDups (before.filter fun line => !after.contains line))
  refine ((pairwise_sorted _).and hnodup).imp fun {s t} h => ?_
  exact Classical.byContradiction fun hn => h.2 (String.le_antisymm h.1 (String.not_lt.1 hn))

/-- **What changed from some lines to others leads from the ones to the others.** -/
theorem between_leads (hbefore : before.Nodup) (hafter : after.Nodup)
    (hsorted : after.Pairwise (· ≤ ·)) : (Change.between before after).Leads before after := by
  refine ⟨pairwise_missing _ _, pairwise_missing _ _, fun line h h' => ?_, fun line h => ?_,
    fun line h => ?_, ?_⟩
  · exact (mem_missing.1 h).2 (mem_missing.1 h').1
  · exact (mem_missing.1 h).1
  · exact (mem_missing.1 h).2
  have hnodup : ((before.filter fun line => !(missing before after).contains line) ++
      missing after before).Nodup := by
    refine List.nodup_append.2 ⟨hbefore.filter _, ?_, ?_⟩
    · exact (pairwise_missing after before).imp fun h => String.ne_of_lt h
    · rintro s hs t ht rfl
      exact (mem_missing.1 ht).2 (List.mem_filter.1 hs).1
  have hperm : ((before.filter fun line => !(missing before after).contains line) ++
      missing after before).Perm after := by
    refine (List.perm_ext_iff_of_nodup hnodup hafter).2 fun line => ?_
    rw [List.mem_append, List.mem_filter, mem_missing, Bool.not_eq_true', List.contains_eq_mem,
      decide_eq_false_iff_not, mem_missing]
    tauto
  exact (eq_sorted_of_perm hperm.symm hsorted).symm

theorem isEmpty_between_iff :
    (Change.between before after).isEmpty = true ↔ ∀ line, line ∈ before ↔ line ∈ after := by
  have hnil (s t : List String) : missing s t = [] ↔ ∀ line ∈ s, line ∈ t := by
    simp only [List.eq_nil_iff_forall_not_mem, mem_missing, not_and, not_not]
  rw [Change.isEmpty, Bool.and_eq_true, List.isEmpty_iff, List.isEmpty_iff]
  show missing after before = [] ∧ missing before after = [] ↔ _
  rw [hnil, hnil]
  exact ⟨fun h line => ⟨h.2 line, h.1 line⟩, fun h => ⟨fun line => (h line).2, fun line => (h line).1⟩⟩

end Snapshot

/-! ### Comparisons -/

namespace Detector

/-- The manifest that a comparison makes of the lines of a snapshot. -/
def rebuilt (m : Manifest) (previous : List String) : Manifest :=
  { provider := m.provider, moduleName := m.moduleName, probes := Snapshot.probes previous }

theorem change?_eq (m : Manifest) (previous : List String) :
    change? m previous = if (rebuilt m previous).digest == m.digest then none
      else some (Snapshot.Change.between previous m.entries) := rfl

variable {p q : Manifest}

theorem valid_rebuilt (hp : p.Valid) (hq : q.Valid) : (rebuilt q p.entries).Valid where
  schemaVersion := rfl
  provider := hq.provider
  moduleName := hq.moduleName
  names := (hp.perm_probes_entries.map _).nodup_iff.2 hp.names
  probes x hx := hp.probes x (hp.perm_probes_entries.mem_iff.1 hx)

/-- The manifest made of the lines of another says the same as the current one exactly if both list the
same probes. -/
theorem saysSame_rebuilt_iff (hp : p.Valid) (hone : q.schemaVersion = .int 1) :
    (rebuilt q p.entries).SaysSame q ↔ ∀ x, x ∈ p.probes ↔ x ∈ q.probes := by
  have hmem (x : Probe) : x ∈ (rebuilt q p.entries).probes ↔ x ∈ p.probes :=
    hp.perm_probes_entries.mem_iff
  constructor
  · exact fun h x => (hmem x).symm.trans (h.probes x)
  · exact fun h => ⟨hone.symm, rfl, rfl, fun x => (hmem x).trans (h x)⟩

/-- **A comparison with the snapshot of another manifest is exact.**  Nothing is reported if both list
the same probes; nothing is reported otherwise only if two different texts with one digest are at
hand; and what is reported is never empty and leads from the lines of the one to those of the other. -/
theorem change?_entries (hp : p.flaw? = none) (hq : q.flaw? = none)
    (hone : q.schemaVersion = .int 1) :
    ((∀ x, x ∈ p.probes ↔ x ∈ q.probes) → change? q p.entries = none) ∧
      (change? q p.entries = none → (∀ x, x ∈ p.probes ↔ x ∈ q.probes) ∨
        Digest.Collide (rebuilt q p.entries).canonicalText q.canonicalText) ∧
      ∀ change, change? q p.entries = some change →
        change.isEmpty = false ∧ change.Leads p.entries q.entries := by
  have hpv := Manifest.flaw?_eq_none_iff.1 hp
  have hqv := Manifest.flaw?_eq_none_iff.1 hq
  obtain ⟨-, hdigest, hsame⟩ := Manifest.canonicalText_eq_iff
    (Manifest.flaw?_eq_none_iff.2 (valid_rebuilt hpv hqv)) hq
  rw [saysSame_rebuilt_iff hpv hone] at hdigest hsame
  rw [change?_eq]
  refine ⟨fun h => by simp [hdigest h], fun h => ?_, fun change h => ?_⟩
  · split at h
    · rename_i heq
      exact hsame (by simpa using heq)
    · cases h
  · split at h
    · cases h
    rename_i hne
    obtain rfl := Option.some.inj h
    refine ⟨?_, Snapshot.between_leads hpv.nodup_entries hqv.nodup_entries q.pairwise_entries⟩
    -- Were it empty, both would have the same lines, and these stand for the same probes.
    rw [← Bool.not_eq_true, Snapshot.isEmpty_between_iff]
    intro hlines
    have hperm := (List.perm_ext_iff_of_nodup hpv.nodup_entries hqv.nodup_entries).2 hlines
    have hprobes := hpv.perm_probes_entries.symm.trans
      ((hperm.map Probe.ofEntry).trans hqv.perm_probes_entries)
    exact hne (by simp [hdigest fun x => hprobes.mem_iff])

end Detector

end ProbeKit
