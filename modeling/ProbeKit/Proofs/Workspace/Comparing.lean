import ProbeKit.Proofs.Manifest.Snapshot
import ProbeKit.Proofs.Workspace.Built
import ProbeKit.Proofs.Workspace.Events

/-!
# Comparing with the snapshot

A comparison reads the snapshot of the last build and reports which probes came and went since.
Once a build has been remembered the report is exact (`Workspace.reports_exactly`).  What is decided
on does not depend on the snapshot: whatever the disk holds, a comparison ends well with the same
decision, unless the path of the snapshot is one that no file can have, or the snapshot is one that
no program can use (`Workspace.decides_iff`).
-/

namespace ProbeKit

open Act

namespace Workspace

/-! ### The report -/

/-- A build that is remembered keeps its snapshot. -/
theorem read?_of_recordBuild {w w' : Workspace} {c : Cycle} (htop : w.desk.disk.top.isDir = true)
    (h : (recordBuild c).on w = (.ok (), w')) :
    w'.desk.disk.read? w.settings.snapshotPath = some (Text.encode (Snapshot.text c.manifest)) := by
  unfold recordBuild at h
  rw [on_modify_bind, on_get_bind] at h
  obtain ⟨d, hd, rfl⟩ := on_onDisk_eq.1 h
  exact Sidecar.read?_of_keepSnapshot htop hd

/-- What a comparison reports if the snapshot is that of some manifest. -/
theorem on_compareAll_of_read? {w : Workspace} {p q : Manifest}
    (h : w.desk.disk.read? w.settings.snapshotPath = some (Text.encode (Snapshot.text p))) :
    ∃ report w', (compareAll q).on w = (.ok report, w') ∧
      report.change = Detector.change? q p.entries := by
  refine ⟨_, _, on_compareAll (Sidecar.snapshot_of_read? w.desk.room h), ?_⟩
  rw [Detector.compare, Option.bind_some]

/-- **The report of a comparison is exact.**  Let a build of the manifest `p` be remembered, and let
any workspace with the same snapshot file then compare the manifest `q`, both without a flaw and `q`
with the integer one for its version.  No change is reported if both list the same probes; none is
reported otherwise only if two different texts with one digest are at hand; and a change that is
reported is not empty, lists what came and what went in order, nothing twice and nothing in both, and
leads from the lines of `p` to exactly the lines of `q`. -/
theorem reports_exactly {w w' v : Workspace} {c : Cycle} {q : Manifest}
    (hp : c.manifest.flaw? = none) (hq : q.flaw? = none) (hone : q.schemaVersion = .int 1)
    (htop : w.desk.disk.top.isDir = true) (hrecord : (recordBuild c).on w = (.ok (), w'))
    (hpath : v.settings.snapshotPath = w.settings.snapshotPath)
    (hfile : v.desk.disk.read? w.settings.snapshotPath =
      w'.desk.disk.read? w.settings.snapshotPath) :
    ∃ report v', (compareAll q).on v = (.ok report, v') ∧
      ((∀ x, x ∈ c.manifest.probes ↔ x ∈ q.probes) → report.change = none) ∧
      (report.change = none → (∀ x, x ∈ c.manifest.probes ↔ x ∈ q.probes) ∨
        Digest.Collide (Detector.rebuilt q c.manifest.entries).canonicalText q.canonicalText) ∧
      ∀ change, report.change = some change →
        change.isEmpty = false ∧ change.Leads c.manifest.entries q.entries := by
  have hread := read?_of_recordBuild htop hrecord
  rw [← hfile, ← hpath] at hread
  obtain ⟨report, v', hcompare, hchange⟩ := on_compareAll_of_read? (q := q) hread
  refine ⟨report, v', hcompare, ?_⟩
  rw [hchange]
  exact Detector.change?_entries hp hq hone

end Workspace

namespace Small

/-- The small project once its sources were read, with some detector. -/
def opened (detector : Detector) : Workspace :=
  { settings, source := .scan, scanner := scanner ∅, detector, desk := desk none }

theorem open_opened (detector : Detector) : Open none [] "" (opened detector) :=
  ⟨rfl, rfl, rfl, ⟨_, rfl⟩, rfl, rfl, [], kept_nil, rfl⟩

theorem on_recordBuild_opened (m : Manifest) :
    ∃ w', (Workspace.recordBuild ⟨m, m.digest⟩).on (opened {}) = (.ok (), w') ∧
      w'.settings = settings := by
  have hopen := (open_opened {}).withDetector (Detector.record {} m.digest)
  obtain ⟨w', hkept, hopen', -⟩ := hopen.on_onDisk fun outputs _ =>
    ⟨_, kept_snapshot m outputs, on_keepSnapshot_disk "" m outputs⟩
  exact ⟨w', hkept, hopen'.settings⟩

/-- After a build without probes a new detector reports that a probe came, and after that of the one
probe it reports nothing. -/
theorem reports_exactly_small : ∃ w₁ w₂ report₁ report₂,
    (Workspace.recordBuild ⟨manifest "", (manifest "").digest⟩).on (opened {}) = (.ok (), w₁) ∧
    ((Workspace.compareAll (manifest other)).on { w₁ with detector := {} }).1 = .ok report₁ ∧
    (∃ change, report₁.change = some change ∧
      change.Leads (manifest "").entries (manifest other).entries) ∧
    (Workspace.recordBuild ⟨manifest other, (manifest other).digest⟩).on (opened {}) =
      (.ok (), w₂) ∧
    ((Workspace.compareAll (manifest other)).on w₂).1 = .ok report₂ ∧ report₂.change = none := by
  obtain ⟨w₁, hw₁, hset₁⟩ := on_recordBuild_opened (manifest "")
  obtain ⟨w₂, hw₂, hset₂⟩ := on_recordBuild_opened (manifest other)
  have hone : (manifest other).schemaVersion = .int 1 := rfl
  have hpath₁ : w₁.settings.snapshotPath = (opened {}).settings.snapshotPath := by rw [hset₁]; rfl
  have hpath₂ : w₂.settings.snapshotPath = (opened {}).settings.snapshotPath := by rw [hset₂]; rfl
  obtain ⟨report₁, v₁, hcompare₁, -, hnone, hsome⟩ := Workspace.reports_exactly
    (v := { w₁ with detector := {} }) flaw?_empty flaw?_other hone rfl hw₁ hpath₁ rfl
  obtain ⟨report₂, v₂, hcompare₂, hsame, -⟩ :=
    Workspace.reports_exactly flaw?_other flaw?_other hone rfl hw₂ hpath₂ rfl
  refine ⟨w₁, w₂, report₁, report₂, hw₁, by rw [hcompare₁], ?_, hw₂, by rw [hcompare₂],
    hsame fun _ => Iff.rfl⟩
  cases hchange : report₁.change with
  | some change => exact ⟨change, rfl, (hsome change hchange).2⟩
  | none =>
    rcases hnone hchange with hprobes | ⟨-, hdigest⟩
    · have hmem := (hprobes ⟨"p", ["int"]⟩).2 (by simp [manifest_other])
      simp [manifest_empty] at hmem
    · have hrebuilt : Detector.rebuilt (manifest other) (manifest "").entries = manifest "" := by
        simp [manifest_empty, manifest_other, Detector.rebuilt, Snapshot.probes, Manifest.entries,
          Probe.entries, Text.sorted]
      rw [hrebuilt] at hdigest
      exact absurd hdigest digest_ne

end Small

/-! ### The decision -/

namespace Workspace

/-- What a comparison decides on, and that it leaves all else as it was but for the journal.  Neither
the disk nor the change that is reported plays a part. -/
structure Decides (w : Workspace) (m : Manifest) (report : Detector.Report) (w' : Workspace) :
    Prop where
  /-- The digest is that of the manifest. -/
  digest : report.digest = m.digest
  /-- A build is due if one is forced or the digest is not that of the last build. -/
  due : report.due = (w.force || w.detector.lastBuilt != some m.digest)
  /-- The last build stays, and the digest is remembered as computed. -/
  detector : w'.detector = ⟨w.detector.lastBuilt, some m.digest⟩
  /-- Only the detector and the journal change. -/
  rest : ∃ records : List Record, (∀ r ∈ records, r.speaker = "detector") ∧
    w' = { w with detector := w'.detector, desk := w.desk.noteAll records }

variable {w : Workspace} {m : Manifest}

theorem speaker_of_mem_snapshotRecords {snapshot : Option (List String)} {r : Record}
    (h : r ∈ Detector.snapshotRecords m snapshot) : r.speaker = "detector" := by
  unfold Detector.snapshotRecords at h
  split at h
  · obtain rfl := List.mem_singleton.1 h
    rfl
  · rename_i previous
    cases hchange : Detector.change? m previous with
    | none =>
      rw [hchange] at h
      cases h
    | some change =>
      rw [hchange] at h
      change r ∈ Detector.changeRecords change at h
      rw [Detector.changeRecords, List.mem_append, List.mem_map, List.mem_map] at h
      rcases h with ⟨_, -, rfl⟩ | ⟨_, -, rfl⟩ <;> rfl

/-- The snapshot on a disk can be used, if one is there: it is not too large to be read, and no line
holds a lone half of a surrogate pair. -/
def CanUse (w : Workspace) (d : Disk) : Prop :=
  ∀ bytes u, d.read? w.settings.snapshotPath = some bytes →
    Snapshot.read w.desk.room bytes ≠ .error u

/-- A path that a file can have lets every comparison end well, if the snapshot can be used. -/
theorem exists_decides (h : ¬w.settings.snapshotPath.names.any Disk.hasNull)
    (huse : w.CanUse w.desk.disk) :
    ∃ report w', (compareAll m).on w = (.ok report, w') ∧ w.Decides m report w' := by
  obtain ⟨snapshot, hsnapshot⟩ : ∃ snapshot,
      Sidecar.snapshot w.desk.room w.desk.disk (some w.settings.snapshotPath) = .ok snapshot := by
    rw [Sidecar.snapshot_some, if_neg h]
    cases hread : w.desk.disk.read? w.settings.snapshotPath with
    | none => exact ⟨none, rfl⟩
    | some bytes =>
      cases hlines : Snapshot.read w.desk.room bytes with
      | error u => exact absurd hlines (huse bytes u hread)
      | ok snapshot => exact ⟨snapshot, by dsimp only; rw [hlines]; rfl⟩
  exact ⟨_, _, on_compareAll hsnapshot, rfl, rfl, rfl, _,
    fun r hr => speaker_of_mem_snapshotRecords hr, rfl⟩

/-- A path that no file can have lets no comparison end well. -/
theorem on_compareAll_of_hasNull (h : w.settings.snapshotPath.names.any Disk.hasNull = true) :
    (compareAll m).on w =
      (.error (.disk (.refused .nullCharacter w.settings.snapshotPath)), w) := by
  unfold compareAll
  rw [on_get_bind, Sidecar.snapshot_some, if_pos h]
  rfl

/-- A snapshot that cannot be used lets no comparison end well. -/
theorem on_compareAll_of_unusable {bytes : ByteArray} {u : Snapshot.Unusable}
    (hread : w.desk.disk.read? w.settings.snapshotPath = some bytes)
    (hlines : Snapshot.read w.desk.room bytes = .error u) :
    (compareAll m).on w = (.error (Sidecar.unusable u), w) := by
  have hnull : ¬w.settings.snapshotPath.names.any Disk.hasNull := by
    simpa using Disk.noNull_of_read? hread
  have hsnapshot : Sidecar.snapshot w.desk.room w.desk.disk (some w.settings.snapshotPath) =
      .error (Sidecar.unusable u) := by
    rw [Sidecar.snapshot_some, if_neg hnull, hread]
    dsimp only
    rw [hlines]
    rfl
  unfold compareAll
  rw [on_get_bind, hsnapshot]
  rfl

/-- **The snapshot never decides, provided that its path has no null character.**  Exactly then a
comparison ends well on any two disks whose snapshots can be used, with the same digest and the same
answer to whether a build is due, and remembers the same; what this is does not depend on the disk,
and only the change that is reported and the journal do.  If there is a null character, a comparison
fails on every disk; and it fails on a disk whose snapshot cannot be used. -/
theorem decides_iff (w : Workspace) (m : Manifest) :
    ((∀ d d' : Disk, w.CanUse d → w.CanUse d' → ∃ report report' v v',
        (compareAll m).on (w.withDisk d) = (.ok report, v) ∧
        (compareAll m).on (w.withDisk d') = (.ok report', v') ∧
        report.digest = report'.digest ∧ report.due = report'.due ∧ v.detector = v'.detector ∧
        (w.withDisk d).Decides m report v ∧ (w.withDisk d').Decides m report' v') ↔
      ∀ name ∈ w.settings.snapshotPath.names, Disk.hasNull name = false) ∧
    ((∃ name ∈ w.settings.snapshotPath.names, Disk.hasNull name = true) →
      ∀ d, (compareAll m).on (w.withDisk d) =
        (.error (.disk (.refused .nullCharacter w.settings.snapshotPath)), w.withDisk d)) ∧
    ∀ d bytes u, d.read? w.settings.snapshotPath = some bytes →
      Snapshot.read w.desk.room bytes = .error u →
      (compareAll m).on (w.withDisk d) = (.error (Sidecar.unusable u), w.withDisk d) := by
  have hfails (hnull : ∃ name ∈ w.settings.snapshotPath.names, Disk.hasNull name = true) (d : Disk) :
      (compareAll m).on (w.withDisk d) =
        (.error (.disk (.refused .nullCharacter w.settings.snapshotPath)), w.withDisk d) :=
    on_compareAll_of_hasNull (w := w.withDisk d) (List.any_eq_true.2 hnull)
  refine ⟨⟨fun h name hname => ?_, fun h d d' huse huse' => ?_⟩, hfails, fun d bytes u hread hlines =>
    on_compareAll_of_unusable (w := w.withDisk d) hread hlines⟩
  · rw [← Bool.not_eq_true]
    intro hnull
    -- Nothing is there under such a path, so nothing is there that cannot be used.
    have huse : w.CanUse w.desk.disk := by
      intro bytes u hread
      rw [Disk.noNull_of_read? hread name hname] at hnull
      cases hnull
    obtain ⟨report, -, v, -, hcompare, -⟩ := h w.desk.disk w.desk.disk huse huse
    rw [hfails ⟨name, hname, hnull⟩] at hcompare
    cases hcompare
  · have hnull : ¬w.settings.snapshotPath.names.any Disk.hasNull := by simpa using h
    obtain ⟨report, v, hcompare, hdecides⟩ :=
      exists_decides (w := w.withDisk d) (m := m) hnull huse
    obtain ⟨report', v', hcompare', hdecides'⟩ :=
      exists_decides (w := w.withDisk d') (m := m) hnull huse'
    exact ⟨report, report', v, v', hcompare, hcompare',
      hdecides.digest.trans hdecides'.digest.symm, hdecides.due.trans hdecides'.due.symm,
      hdecides.detector.trans hdecides'.detector.symm, hdecides, hdecides'⟩

/-- The settings of a project with a null character in the path of its snapshot. -/
def nullSettings : Settings :=
  { Small.settings with snapshotPath := ⟨.root, ["p", "a\x00b"]⟩ }

/-- **The path of the snapshot can stop a comparison.**  With a null character in it a manifest that was
built last cannot even be compared, though no build is due and there is no snapshot. -/
theorem exists_compareAll_refused : ∃ (w : Workspace) (m : Manifest),
    w.settings = nullSettings ∧ w.force = false ∧ w.detector.lastBuilt = some m.digest ∧
    (compareAll m).on w = (.error (.disk (.refused .nullCharacter nullSettings.snapshotPath)), w) := by
  refine ⟨{ Small.opened ⟨some (Small.manifest "").digest, none⟩ with settings := nullSettings },
    Small.manifest "", rfl, rfl, rfl, ?_⟩
  exact on_compareAll_of_hasNull
    (by decide : nullSettings.snapshotPath.names.any Disk.hasNull = true)

end Workspace

end ProbeKit
