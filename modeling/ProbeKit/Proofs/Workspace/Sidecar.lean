import ProbeKit.Proofs.Workspace.Outputs

/-!
# What the sidecar tells

Nothing but a build command that ended well changes the sidecar of the manifest.
`Settings.Tells s d built` says that the sidecar on a disk holds the line of a digest that was built,
or is not there if nothing was; it stays true while other files are written, and after a command that
has ended well it tells of the digest of that cycle (`Workspace.tells_endCycle`).
-/

namespace ProbeKit

open Act

namespace Settings

/-- Someone else changes the disk and leaves the sidecar alone. -/
structure LeavesSidecar (s : Settings) (d d' : Disk) : Prop where
  /-- The sidecar still keeps out of the way of the other outputs. -/
  apart : s.SidecarApart d'
  /-- It reads as before. -/
  read : ∀ own, Sidecar.path s.manifestPath = .ok own → d'.read? own = d.read? own
  /-- It holds what it held. -/
  file : ∀ own, Sidecar.path s.manifestPath = .ok own → d'.file? own = d.file? own

/-- The sidecar tells of the build of a digest, or is not there if there was none. -/
structure Tells (s : Settings) (d : Disk) (built : Option String) : Prop where
  /-- The sidecar keeps out of the way of the other outputs. -/
  apart : s.SidecarApart d
  /-- It reads as the line of the digest. -/
  read : ∀ own, Sidecar.path s.manifestPath = .ok own →
    d.read? own = built.map fun digest => Text.encode (digest ++ "\n")
  /-- It holds that line. -/
  file : ∀ own, Sidecar.path s.manifestPath = .ok own →
    d.file? own = built.map fun digest => Text.encode (digest ++ "\n")
  /-- The digest is one of a manifest. -/
  digest : ∀ digest, built = some digest → ∃ m : Manifest, digest = m.digest

theorem Tells.of_leaves {s : Settings} {d d' : Disk} {built : Option String}
    (h : s.Tells d built) (hd : s.LeavesSidecar d d') : s.Tells d' built :=
  ⟨hd.apart, fun own hown => (hd.read own hown).trans (h.read own hown),
    fun own hown => (hd.file own hown).trans (h.file own hown), h.digest⟩

theorem Tells.of_writes {s : Settings} {d d' : Disk} {built : Option String} {paths : Path → Prop}
    (h : s.Tells d built) (hw : d.Writes paths d')
    (hpaths : ∀ own, Sidecar.path s.manifestPath = .ok own → ∀ q, paths q → d.Apart own q) :
    s.Tells d' built := by
  refine ⟨h.apart.of_writes hw, fun own hown => ?_, fun own hown => ?_, h.digest⟩
  · rw [← h.read own hown]
    exact hw.read?_eq h.apart.isDir ((h.read own hown).trans (h.file own hown).symm)
      (h.apart.log own hown) (hpaths own hown)
  · rw [← h.file own hown]
    exact hw.file?_eq (h.apart.log own hown) (hpaths own hown)

/-- Whoever opens the project takes what the sidecar tells for the last build. -/
theorem Tells.recorded {s : Settings} {d : Disk} {built : Option String} (h : s.Tells d built)
    {own : Path} (hown : Sidecar.path s.manifestPath = .ok own) :
    (Detector.ofSidecar (d.read? own)).lastBuilt = built := by
  rw [h.read own hown]
  cases hb : built with
  | none => rfl
  | some digest =>
    obtain ⟨m, rfl⟩ := h.digest digest hb
    exact Detector.lastBuilt_ofSidecar_line m

end Settings

/-- A build tool that leaves the sidecar alone. -/
def Tool.LeavesSidecar (t : Tool) (s : Settings) : Prop :=
  ∀ d d' status, t.start s.command s.root d = .ok (d', status) → s.SidecarApart d →
    s.LeavesSidecar d d'

namespace Workspace

theorem tells_of_writes {w w' : Workspace} {paths : Path → Prop} {built : Option String}
    (h : w.settings.Tells w.desk.disk built) (hw : Writes paths w w')
    (hpaths : ∀ own, Sidecar.path w.settings.manifestPath = .ok own →
      ∀ q, paths q → w.desk.disk.Apart own q) : w'.settings.Tells w'.desk.disk built := by
  rw [hw.settings]
  exact h.of_writes (hw.disk h.apart.isDir) hpaths

/-- To end a cycle after a command that has ended well makes the sidecar tell of it. -/
theorem tells_endCycle {w : Workspace} {c : Cycle} {m : Manifest}
    (hc : c.digest = m.digest) (h : w.settings.SidecarApart w.desk.disk)
    (hcan : ∀ own, Sidecar.path w.settings.manifestPath = .ok own → w.desk.disk.CanWrite own) :
    ((endCycle c 0).on w).2.settings.Tells ((endCycle c 0).on w).2.desk.disk
      (some c.digest) := by
  have hwrites := writes_endCycle c 0 w
  have hset : ((endCycle c 0).on w).2.settings = w.settings := hwrites.settings
  have hline : ∀ own, Sidecar.path w.settings.manifestPath = .ok own →
      HasLine own (c.digest ++ "\n") ((endCycle c 0).on w).2 := by
    intro own hown
    obtain ⟨d', hd'⟩ := hcan own hown (Text.encode (c.digest ++ "\n"))
    exact hasLine_of_endCycle hown hd' h.isDir (h.log own hown)
      (h.snapshot own hown)
  rw [hset]
  refine ⟨h.of_writes (hwrites.disk h.isDir), fun own hown => ?_,
    fun own hown => ?_, fun digest hdigest => ⟨m, ?_⟩⟩
  · exact (hline own hown).read
  · exact Disk.file?_of_read? (hline own hown).isDir (hline own hown).read
  · rw [← hc]
    exact (Option.some.inj hdigest).symm

end Workspace

end ProbeKit
