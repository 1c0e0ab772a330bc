import ProbeKit.Proofs.Manifest.Snapshot
import ProbeKit.Proofs.Workspace.Written

/-!
# What a build leaves behind

`Settings.Built s d digest` says that a disk holds all that a build of the manifest with a digest
leaves behind.  A cycle that ends well makes it so (`Workspace.endCycle_ok`), and it stays so while no
output is written.
-/

namespace ProbeKit

open Act

namespace Settings

/-- A file that only the program should write. -/
def IsOutput (s : Settings) (q : Path) : Prop := q = s.manifestPath ∨ s.IsRecord q

/-- A disk holds what a build of the manifest with a digest leaves behind: the manifest, the line of
its sidecar and the snapshot. -/
structure Built (s : Settings) (d : Disk) (digest : String) : Prop where
  /-- The manifest file holds a manifest with the digest. -/
  file : s.FileHas d digest
  /-- The sidecar tells of the digest. -/
  sidecar : s.Tells d (some digest)
  /-- The snapshot is that of a manifest with the digest. -/
  snapshot : ∃ m : Manifest, m.digest = digest ∧
    d.read? s.snapshotPath = some (Text.encode (Snapshot.text m))

variable {s : Settings} {d d' : Disk} {paths : Path → Prop} {digest : String}

/-- What a build leaves behind stays while other files are written. -/
theorem Built.of_writes (h : s.Built d digest) (hw : d.Writes paths d')
    (houtputs : s.OutputsApart d)
    (hpaths : ∀ q, paths q → ∀ output, s.IsOutput output → d.Apart output q) :
    s.Built d' digest := by
  refine ⟨h.file.of_writes hw houtputs fun q hq => hpaths q hq _ (.inl rfl),
    h.sidecar.of_writes hw fun own hown q hq => hpaths q hq own (.inr (.inl (.inl hown))), ?_⟩
  obtain ⟨m, hm, hread⟩ := h.snapshot
  refine ⟨m, hm, hw.read?_eq_some houtputs.isDir hread (houtputs.logs _ (.inr rfl)) ?_⟩
  exact fun q hq => hpaths q hq _ (.inr (.inr rfl))

end Settings

namespace Sidecar

/-- A path that a file can have is looked into, whatever is there. -/
theorem snapshot_some (room : Json.Room) (d : Disk) (file : Path) :
    snapshot room d (some file) =
      if file.names.any Disk.hasNull then .error (.disk (.refused .nullCharacter file))
      else match d.read? file with
        | none => .ok none
        | some bytes => (Snapshot.read room bytes).mapError unusable := by
  rw [snapshot, Disk.readIfAny_eq]
  by_cases hnull : file.names.any Disk.hasNull = true
  · rw [if_pos hnull, if_pos hnull]
  · rw [if_neg hnull, if_neg hnull]
    cases d.read? file <;> rfl

/-- The snapshot of a manifest tells its lines. -/
theorem snapshot_of_read? (room : Json.Room) {d : Disk} {file : Path} {m : Manifest}
    (h : d.read? file = some (Text.encode (Snapshot.text m))) :
    snapshot room d (some file) = .ok (some m.entries) := by
  have hnull : ¬file.names.any Disk.hasNull := by simpa using Disk.noNull_of_read? h
  rw [snapshot_some, if_neg hnull, h]
  dsimp only
  rw [Snapshot.read_text]
  rfl

/-- A snapshot that was kept can be read. -/
theorem read?_of_keepSnapshot {file : Path} {m : Manifest} {d d' : Disk}
    (htop : d.top.isDir = true) (h : (keepSnapshot (some file) m).on d = (.ok (), d')) :
    d'.read? file = some (Text.encode (Snapshot.text m)) := by
  obtain ⟨⟨⟩, d₁, hroom, h⟩ := on_bind_eq_ok.1 h
  have hmade := Disk.relates_makeRoom file d htop
  rw [hroom] at hmade
  exact (Disk.writeText_ok (hmade.isDir_top htop) h).2

end Sidecar

namespace Workspace

variable {w w' : Workspace} {c : Cycle}

/-- A cycle that ends well changes the desk and the digest that was built last. -/
theorem exists_desk_of_endCycle (h : (endCycle c 0).on w = (.ok (), w')) :
    w' = { w with detector := w.detector.record c.digest, desk := w'.desk } := by
  rw [endCycle_zero] at h
  obtain ⟨written, w₁, hw, h⟩ := on_bind_eq_ok.1 h
  obtain ⟨d₁, -, rfl⟩ := on_onDisk_eq.1 hw
  obtain ⟨⟨⟩, w₂, hr, h⟩ := on_bind_eq_ok.1 h
  unfold recordBuild at hr
  rw [on_modify_bind, on_get_bind] at hr
  obtain ⟨d₂, -, rfl⟩ := on_onDisk_eq.1 hr
  rw [on_say] at h
  cases h
  rfl

theorem snapshot_of_endCycle (h : (endCycle c 0).on w = (.ok (), w'))
    (houtputs : w.settings.OutputsApart w.desk.disk) :
    w'.desk.disk.read? w.settings.snapshotPath =
      some (Text.encode (Snapshot.text c.manifest)) := by
  rw [endCycle_zero] at h
  obtain ⟨written, w₁, hw, h⟩ := on_bind_eq_ok.1 h
  obtain ⟨d₁, hd₁, rfl⟩ := on_onDisk_eq.1 hw
  have hwrites := Sidecar.relates_write w.settings.manifestPath c.digest w.settings.root
    w.settings.artifacts w.desk.disk houtputs.isDir
  rw [hd₁] at hwrites
  have houtputs₁ := houtputs.of_writes hwrites
  obtain ⟨⟨⟩, w₂, hr, h⟩ := on_bind_eq_ok.1 h
  unfold recordBuild at hr
  rw [on_modify_bind, on_get_bind] at hr
  obtain ⟨d₂, hd₂, rfl⟩ := on_onDisk_eq.1 hr
  have hkept : (Sidecar.keepSnapshot (some w.settings.snapshotPath) c.manifest).on d₁ =
      (.ok (), d₂) := hd₂
  have hread := Sidecar.read?_of_keepSnapshot houtputs₁.isDir hkept
  have hkeeps := Sidecar.relates_keepSnapshot w.settings.snapshotPath c.manifest d₁ houtputs₁.isDir
  rw [hkept] at hkeeps
  have houtputs₂ := houtputs₁.of_writes hkeeps
  rw [on_say] at h
  cases h
  exact (Desk.mayWrite_note _ { w.desk with disk := d₂ } houtputs₂.isDir).read?_eq_some
    houtputs₂.isDir hread (houtputs₂.logs _ (.inr rfl)) fun _ hq => hq.elim

/-- **A cycle that ends well leaves everything behind that belongs to its manifest.** -/
theorem endCycle_ok (h : (endCycle c 0).on w = (.ok (), w'))
    (houtputs : w.settings.OutputsApart w.desk.disk)
    (hfile : w.settings.FileHas w.desk.disk c.digest) (hc : c.digest = c.manifest.digest) :
    w' = { w with detector := w.detector.record c.digest, desk := w'.desk } ∧
      w.settings.Built w'.desk.disk c.digest := by
  have hshape := exists_desk_of_endCycle h
  refine ⟨hshape, ?_, ?_, c.manifest, hc.symm, snapshot_of_endCycle h houtputs⟩
  · have hwrites := (writes_endCycle c 0 w).disk houtputs.isDir
    rw [h] at hwrites
    exact hfile.of_writes hwrites houtputs fun q hq => (houtputs.manifests q hq).symm
  · have htells := tells_endCycle hc houtputs.toSidecarApart fun own hown =>
      Classical.byContradiction fun hcan => by
        obtain ⟨f, hf⟩ := endCycle_of_not_canWrite (c := c) (w := w) fun own' hown' => by
          obtain rfl : own = own' := Except.ok.inj (hown.symm.trans hown')
          exact hcan
        rw [h] at hf
        cases hf
    rw [h] at htells
    have hsettings : w'.settings = w.settings := by rw [hshape]
    exact hsettings ▸ htells

end Workspace

end ProbeKit
