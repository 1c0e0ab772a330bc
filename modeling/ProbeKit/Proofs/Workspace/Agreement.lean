import ProbeKit.Proofs.Workspace.Built

/-!
# Outputs that agree

All that a build leaves behind belongs to the one manifest in the manifest file: the lines of all
sidecars that were written hold its digest, and the snapshot its lines (`Settings.Agrees`).  A cycle
that ends well brings this about, whatever has become of the workspace since the cycle began, provided
that the manifest file still holds what was written then (`Workspace.agrees_of_endCycle`).
-/

namespace ProbeKit

open Act Text

namespace Settings

/-- All outputs keep out of each other's way: the sidecars of artifacts are not the snapshot
either. -/
structure AllApart (s : Settings) (d : Disk) : Prop extends OutputsApart s d where
  /-- No sidecar of an artifact is the snapshot. -/
  artifacts : ∀ q, Sidecar.OfArtifact q → d.Apart q s.snapshotPath

/-- Someone else changes the disk and leaves the manifest alone. -/
structure Spares (s : Settings) (d d' : Disk) : Prop where
  /-- The outputs keep out of each other's way. -/
  apart : s.AllApart d'
  /-- The manifest reads as before. -/
  manifest : d'.read? s.manifestPath = d.read? s.manifestPath

/-- All outputs of a build belong to one manifest, given the sidecars that were written. -/
structure Agrees (s : Settings) (d : Disk) (m : Manifest) (sidecars : List Path) : Prop where
  /-- The manifest file holds the manifest. -/
  file : s.Stores d m
  /-- The sidecar of the manifest is among those that were written. -/
  own : ∃ own, Sidecar.path s.manifestPath = .ok own ∧ own ∈ sidecars
  /-- Every sidecar that was written holds the digest of the manifest. -/
  sidecars : ∀ q ∈ sidecars, d.read? q = some (Text.encode (m.digest ++ "\n"))
  /-- The snapshot holds the lines of the manifest. -/
  snapshot : d.read? s.snapshotPath = some (Text.encode (Snapshot.text m))

variable {s : Settings} {d d' : Disk} {paths : Path → Prop} {m : Manifest}

theorem AllApart.of_writes (h : s.AllApart d) (hw : d.Writes paths d') : s.AllApart d' :=
  ⟨h.toOutputsApart.of_writes hw, fun q hq => hw.apart (h.artifacts q hq)⟩

theorem AllApart.snapshot_of_mine (h : s.AllApart d) {q : Path}
    (hq : Sidecar.Mine s.manifestPath q) : d.Apart q s.snapshotPath := by
  rcases hq with hown | hartifact
  · exact h.snapshot q hown
  · exact h.artifacts q hartifact

end Settings

/-! ### The lines of the sidecars -/

namespace Sidecar

variable {manifest snapshot : Path} {digest : String} {d d' : Disk}

/-- A sidecar that is written first holds its line in the end if all that is written behind it are
lines of the same digest. -/
theorem lines_of_first {target : Path} {rest others : List Path} {d₁ : Disk}
    (htop : d.top.isDir = true) (hheld : d.NotHeld target) (hapart : d.Apart target snapshot)
    (hfirst : (Disk.writeText target (digest ++ "\n")).on d = (.ok (), d₁))
    (hrest : (writeBeside digest rest).on d₁ = (.ok others, d'))
    (hothers : ∀ q ∈ others, Disk.Line q snapshot (digest ++ "\n") d') :
    ∀ q ∈ target :: others, Disk.Line q snapshot (digest ++ "\n") d' := by
  obtain ⟨hwrites, hread⟩ := Disk.writeText_ok htop hfirst
  have hline : Disk.Line target snapshot (digest ++ "\n") d₁ :=
    ⟨hwrites.isDir_top htop, hwrites.notHeld hheld, hwrites.apart hapart, hread⟩
  have hkept := Disk.Line.preserves_writeBeside digest rest d₁ hline
  rw [hrest] at hkept
  exact List.forall_mem_cons.2 ⟨hkept, hothers⟩

/-- Whatever is written beside artifacts holds the line of the digest in the end. -/
theorem lines_of_writeBeside {found written : List Path} (htop : d.top.isDir = true)
    (hheld : ∀ q, OfArtifact q → d.NotHeld q) (hapart : ∀ q, OfArtifact q → d.Apart q snapshot)
    (h : (writeBeside digest found).on d = (.ok written, d')) :
    ∀ q ∈ written, Disk.Line q snapshot (digest ++ "\n") d' := by
  induction found generalizing d written with
  | nil =>
    cases h
    intro q hq
    cases hq
  | cons p rest ih =>
    unfold writeBeside at h
    obtain ⟨target, d₀, hbeside, hbehind⟩ := on_bind_eq_ok.1 h
    obtain ⟨htarget, rfl⟩ := on_ofExcept_eq_ok.1 hbeside
    obtain ⟨⟨⟩, d₁, hfirst, hothers⟩ := on_bind_eq_ok.1 hbehind
    obtain ⟨others, d₂, hrest, hlist⟩ := on_bind_eq_ok.1 hothers
    cases hlist
    have hwrites := (Disk.writeText_ok htop hfirst).1
    exact lines_of_first htop (hheld target ⟨p, htarget⟩) (hapart target ⟨p, htarget⟩) hfirst hrest
      (ih (hwrites.isDir_top htop) (fun q hq => hwrites.notHeld (hheld q hq))
        (fun q hq => hwrites.apart (hapart q hq)) hrest)

/-- Every sidecar that is written holds the line of the digest in the end. -/
theorem lines_of_write {root : Path} {patterns : List String} {written : List Path}
    (htop : d.top.isDir = true) (hheld : ∀ q, Mine manifest q → d.NotHeld q)
    (hapart : ∀ q, Mine manifest q → d.Apart q snapshot)
    (h : (write manifest digest root patterns).on d = (.ok written, d')) :
    (∃ own, path manifest = .ok own ∧ own ∈ written) ∧
      ∀ q ∈ written, Disk.Line q snapshot (digest ++ "\n") d' := by
  unfold write at h
  obtain ⟨own, d₀, hpath, hbehind⟩ := on_bind_eq_ok.1 h
  obtain ⟨hown, rfl⟩ := on_ofExcept_eq_ok.1 hpath
  obtain ⟨⟨⟩, d₁, hfirst, hothers⟩ := on_bind_eq_ok.1 hbehind
  rw [on_get_bind] at hothers
  obtain ⟨found, d₂, hfound, hfollowing⟩ := on_bind_eq_ok.1 hothers
  obtain ⟨-, rfl⟩ := on_ofExcept_eq_ok.1 hfound
  obtain ⟨others, d₃, hrest, hlist⟩ := on_bind_eq_ok.1 hfollowing
  cases hlist
  have hwrites := (Disk.writeText_ok htop hfirst).1
  refine ⟨⟨own, hown, List.mem_cons_self⟩, ?_⟩
  exact lines_of_first htop (hheld own (.inl hown)) (hapart own (.inl hown)) hfirst hrest
    (lines_of_writeBeside (hwrites.isDir_top htop)
      (fun q hq => hwrites.notHeld (hheld q (.inr hq)))
      (fun q hq => hwrites.apart (hapart q (.inr hq))) hrest)

end Sidecar

/-- A build tool that leaves the manifest alone. -/
def Tool.Spares (t : Tool) (s : Settings) : Prop :=
  ∀ d d' status, t.start s.command s.root d = .ok (d', status) → s.AllApart d → s.Spares d d'

namespace Workspace

variable {w w' : Workspace} {c : Cycle}

/-- The build command of a cycle runs, and the manifest of the cycle stands in its file. -/
structure Underway (w : Workspace) (c : Cycle) : Prop where
  /-- The outputs keep out of each other's way. -/
  apart : w.settings.AllApart w.desk.disk
  /-- The manifest stands in its file. -/
  stores : w.settings.Stores w.desk.disk c.manifest.reread
  /-- It has no flaw. -/
  flawless : c.manifest.flaw? = none
  /-- The digest of the cycle is that of the manifest. -/
  digest : c.digest = c.manifest.digest

theorem Underway.of_writes_nothing (h : w.Underway c) (hw : Writes (fun _ => False) w w') :
    w'.Underway c := by
  have hdisk := hw.disk h.apart.isDir
  have hsettings := hw.settings
  refine ⟨?_, ?_, h.flawless, h.digest⟩
  · rw [hsettings]
    exact h.apart.of_writes hdisk
  · rw [hsettings]
    exact h.stores.of_writes hdisk h.apart.toOutputsApart fun _ hq => hq.elim

theorem Underway.of_spares (h : w.Underway c) (hsettings : w'.settings = w.settings)
    (hspares : w.settings.Spares w.desk.disk w'.desk.disk) : w'.Underway c := by
  refine ⟨hsettings ▸ hspares.apart, ?_, h.flawless, h.digest⟩
  rw [hsettings, Settings.Stores, hspares.manifest]
  exact h.stores

/-- Up to its build command a cycle stores its manifest. -/
theorem underway_prepare {m : Manifest} (hapart : w.settings.AllApart w.desk.disk)
    (h : prepare.on w = (.ok m, w')) : w'.Underway ⟨m, m.digest⟩ := by
  unfold prepare at h
  obtain ⟨m', w₁, hmade, hbehind⟩ := on_bind_eq_ok.1 h
  obtain ⟨digest, w₂, hwritten, hlast⟩ := on_bind_eq_ok.1 hbehind
  have hmade := on_currentManifest_of_manifestToWrite hmade
  have hflaw := flaw?_of_currentManifest hmade
  have hmakes := relates_currentManifest true w
  rw [hmade] at hmakes
  have hwrites := writes_writeManifest m' w₁
  rw [hwritten] at hwrites
  -- The manifest is stored, and the record of the command that follows leaves it there.
  have hapart₁ : w₁.settings.AllApart w₁.desk.disk := by
    rw [hmakes.settings]
    exact hapart.of_writes (hmakes.disk hapart.isDir)
  have hstored : w₂.Underway ⟨m', m'.digest⟩ := by
    refine ⟨?_, ?_, hflaw, rfl⟩
    · rw [hwrites.settings]
      exact hapart₁.of_writes (hwrites.disk hapart₁.isDir)
    · rw [hwrites.settings]
      exact stores_writeManifest hflaw hapart₁.isDir hwritten
  have hobserved : Writes (fun _ => False) w₂
      { w₂ with detector := w₂.detector.observe digest } := ⟨rfl, rfl, rfl, rfl, .refl _ _⟩
  rw [on_modify_bind, on_get_bind, on_bind_of_ok (on_say _ _ _ _), on_pure] at hlast
  cases hlast
  exact hstored.of_writes_nothing
    (hobserved.trans ⟨rfl, rfl, rfl, rfl, Desk.mayWrite_note _ w₂.desk⟩)

/-- **Once its build command has been started the manifest of a cycle stands in its file.** -/
theorem underway_of_beginCycle {started : Option Int}
    (hapart : w.settings.AllApart w.desk.disk) (htool : w.desk.tool.Spares w.settings)
    (h : beginCycle.on w = (.ok (c, started), w')) : w'.Underway c := by
  have hprepared := writes_prepare w
  rw [on_beginCycle] at h
  rcases hp : prepare.on w with ⟨f | m, w₁⟩
  · rw [hp] at h
    cases h
  have hunderway := underway_prepare hapart hp
  rw [hp] at h hprepared
  dsimp only at h hprepared
  rw [hprepared.tool, hprepared.settings] at h
  rcases hs : w.desk.tool.start w.settings.command w.settings.root w₁.desk.disk with
    e | ⟨disk, status⟩
  · rw [hs] at h
    cases h
  rw [hs] at h
  cases h
  have hspares : w₁.settings.Spares w₁.desk.disk disk := by
    rw [hprepared.settings]
    exact htool _ _ _ hs (hprepared.settings ▸ hunderway.apart)
  exact hunderway.of_spares rfl hspares

/-- What is read for a manifest without a flaw has the same snapshot. -/
theorem snapshotText_reread {m : Manifest} (hflaw : m.flaw? = none) :
    Snapshot.text m.reread = Snapshot.text m := by
  obtain ⟨-, -, -, htypes⟩ := Manifest.of_flaw?_eq_none hflaw
  have hprobes := Manifest.probes_reread fun p hp t ht =>
    Manifest.properType_of_mem (htypes p hp t ht)
  have hentries : m.reread.entries = m.entries := by
    unfold Manifest.entries Probe.entries
    rw [hprobes]
    exact sorted_eq_of_perm ((List.mergeSort_perm _ _).map _)
  rw [Snapshot.text, hentries, Snapshot.text]

/-- **A cycle that ends well makes all outputs agree** with the manifest that was written when it
began. -/
theorem agrees_of_endCycle (hunderway : w.Underway c) (h : (endCycle c 0).on w = (.ok (), w')) :
    ∃ written d, (Sidecar.write w.settings.manifestPath c.digest w.settings.root
        w.settings.artifacts).on w.desk.disk = (.ok written, d) ∧
      w.settings.Agrees w'.desk.disk c.manifest.reread written := by
  obtain ⟨hapart, hstores, hflaw, hdigest⟩ := hunderway
  have hsnapshot := snapshot_of_endCycle h hapart.toOutputsApart
  have hwrites := (writes_endCycle c 0 w).disk hapart.isDir
  rw [h] at hwrites
  -- The end of a cycle writes no manifest, so the file is the one that the cycle began with.
  have hfile := hstores.of_writes hwrites hapart.toOutputsApart fun q hq =>
    (hapart.manifests q hq).symm
  rw [endCycle_zero] at h
  obtain ⟨written, w₁, hwritten, hbehind⟩ := on_bind_eq_ok.1 h
  obtain ⟨d, hd, rfl⟩ := on_onDisk_eq.1 hwritten
  obtain ⟨hown, hlines⟩ := Sidecar.lines_of_write hapart.isDir
    (fun q hq => hapart.logs q (.inl hq)) (fun q hq => hapart.snapshot_of_mine hq) hd
  refine ⟨written, d, hd, hfile, hown, fun q hq => ?_, ?_⟩
  · -- Neither the snapshot nor the last record of the journal touches a sidecar.
    have hline : HasLine q (c.digest ++ "\n") (w.withDisk d) := hlines q hq
    obtain ⟨⟨⟩, w₂, hrecorded, hsaid⟩ := on_bind_eq_ok.1 hbehind
    have hline₂ := preserves_recordBuild c _ hline
    rw [hrecorded] at hline₂
    have hline₃ := hline₂.of_writes (relates_say .info "orchestrator"
      ("Probes built with manifest hash " ++ c.digest ++ s!" ({written.length} sidecar files)") w₂)
      fun _ hq => hq.elim
    rw [hsaid] at hline₃
    rw [Manifest.digest_reread hflaw, ← hdigest]
    exact hline₃.read
  · rw [snapshotText_reread hflaw]
    exact hsnapshot

end Workspace

end ProbeKit
