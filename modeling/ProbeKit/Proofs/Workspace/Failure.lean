import ProbeKit.Proofs.Workspace.Outputs

/-!
# What a failed cycle leaves behind

A cycle that fails behind the writing of the manifest should leave the records of the last build as
they were: the sidecars, the snapshot and the digest that was built last, so that the build is found
due again.  `keeps_records_of_error_iff` says exactly when it does: the build command did not end
well, or the sidecar of the manifest could not be written.  A cycle that fails later, at a pattern of
artifacts that is refused or at a sidecar or a snapshot that cannot be written, has recorded its
digest already (`records_of_refused_pattern`).
-/

namespace ProbeKit

open Act

/-! ### Records of a build -/

/-- A build tool that does not touch the records of a build. -/
def Tool.LeavesRecords (t : Tool) (s : Settings) : Prop :=
  ∀ d d' status, t.start s.command s.root d = .ok (d', status) → s.RecordsApart d →
    s.RecordsApart d' ∧ ∀ q, s.IsRecord q → d'.file? q = d.file? q ∧ d'.read? q = d.read? q

namespace Workspace

/-- The records of the last build are the same in two workspaces. -/
structure RecordsKept (w w' : Workspace) : Prop where
  /-- The digest that was built last. -/
  lastBuilt : w'.detector.lastBuilt = w.detector.lastBuilt
  /-- The files. -/
  files : ∀ q, w.settings.IsRecord q → w'.desk.disk.file? q = w.desk.disk.file? q

/-- Whether whoever opens the project now finds a build due for a digest. -/
def FindsDue (w : Workspace) (digest : String) : Prop :=
  ∃ own recorded, Sidecar.path w.settings.manifestPath = .ok own ∧
    w.desk.disk.readIfAny own = .ok recorded ∧
    (Detector.ofSidecar recorded).isDue digest false = true

/-- The build command ends well and the sidecar of the manifest can be written after it. -/
def Passes (status : Int) (w : Workspace) : Prop :=
  ∃ c ended w₁ own, beginCycle.on w = (.ok (c, ended), w₁) ∧ ended.getD status = 0 ∧
    Sidecar.path w.settings.manifestPath = .ok own ∧ w₁.desk.disk.CanWrite own

/-! ### Workspaces with the same records -/

/-- The records of the last build are the same, and so is what the sidecar of the manifest reads. -/
structure Untouched (w w' : Workspace) : Prop extends RecordsKept w w' where
  /-- The settings are the same. -/
  settings : w'.settings = w.settings
  /-- The sidecar reads the same. -/
  sidecar : ∀ own, Sidecar.path w.settings.manifestPath = .ok own →
    w'.desk.disk.read? own = w.desk.disk.read? own

theorem Untouched.findsDue_iff {w w' : Workspace} (h : Untouched w w') (digest : String) :
    w'.FindsDue digest ↔ w.FindsDue digest := by
  unfold FindsDue
  rw [h.settings]
  refine exists_congr fun own => exists_congr fun recorded => ?_
  refine and_congr_right fun hown => ?_
  rw [Disk.readIfAny_eq, Disk.readIfAny_eq, h.sidecar own hown]

/-- Up to its build command a cycle leaves the records alone. -/
theorem untouched_prepare {w : Workspace} (hapart : w.settings.RecordsApart w.desk.disk)
    (hplain : ∀ own, Sidecar.path w.settings.manifestPath = .ok own →
      w.desk.disk.read? own = w.desk.disk.file? own) :
    Untouched w (prepare.on w).2 ∧ w.settings.RecordsApart (prepare.on w).2.desk.disk := by
  have hw := writes_prepare w
  have hdisk := hw.disk hapart.isDir
  refine ⟨⟨⟨hw.lastBuilt, fun q hq => ?_⟩, hw.settings, fun own hown => ?_⟩,
    hapart.of_writes hdisk⟩
  · exact hdisk.file?_eq (hapart.logs q hq) fun _ h => h ▸ hapart.manifests q hq
  · have hq : w.settings.IsRecord own := .inl (.inl hown)
    exact hdisk.read?_eq hapart.isDir (hplain own hown) (hapart.logs own hq)
      fun _ h => h ▸ hapart.manifests own hq

/-- The build command leaves the records alone. -/
theorem Untouched.ran {w w₁ : Workspace} {disk : Disk} {ended : Option Int}
    (h : Untouched w w₁) (htool : w.desk.tool.LeavesRecords w.settings)
    (hapart : w.settings.RecordsApart w₁.desk.disk)
    (hstart : w.desk.tool.start w.settings.command w.settings.root w₁.desk.disk =
      .ok (disk, ended)) :
    Untouched w (w₁.ran disk) ∧ w.settings.RecordsApart disk := by
  obtain ⟨hdisk, hfiles⟩ := htool _ _ _ hstart hapart
  refine ⟨⟨⟨h.lastBuilt, fun q hq => ?_⟩, h.settings, fun own hown => ?_⟩, hdisk⟩
  · exact (hfiles q hq).1.trans (h.files q hq)
  · exact (hfiles own (.inl (.inl hown))).2.trans (h.sidecar own hown)

/-- Where the line of a digest stands no build is due for that digest. -/
theorem not_findsDue_of_hasLine {w : Workspace} {own : Path} {m : Manifest}
    (hown : Sidecar.path w.settings.manifestPath = .ok own)
    (h : HasLine own (m.digest ++ "\n") w) : ¬w.FindsDue m.digest := by
  rintro ⟨own', recorded, hown', hread, hdue⟩
  obtain rfl : own = own' := Except.ok.inj (hown.symm.trans hown')
  rw [Disk.readIfAny_eq, h.read] at hread
  split at hread
  · cases hread
  · cases hread
    rw [Detector.isDue_ofSidecar_line] at hdue
    cases hdue

/-! ### Failures -/

/-- Where the command of a prepared cycle leads: to a fault if it cannot be started, and else to the
end of the cycle on a disk where the records are still apart. -/
theorem runCycle_of_prepare {w : Workspace} {m : Manifest} (status : Int)
    (hapart : w.settings.RecordsApart w.desk.disk)
    (hplain : ∀ own, Sidecar.path w.settings.manifestPath = .ok own →
      w.desk.disk.read? own = w.desk.disk.file? own)
    (htool : w.desk.tool.LeavesRecords w.settings) (hwritten : (prepare.on w).1 = .ok m) :
    (∃ e w₁, beginCycle.on w = (.error e, w₁) ∧ Untouched w w₁ ∧
      (runCycle status).on w = (.error e, w₁)) ∨
    ∃ ended w₁, beginCycle.on w = (.ok (⟨m, m.digest⟩, ended), w₁) ∧ Untouched w w₁ ∧
      w.settings.RecordsApart w₁.desk.disk ∧
      (runCycle status).on w = (endCycle ⟨m, m.digest⟩ (ended.getD status)).on w₁ := by
  obtain ⟨hsame, hapart₁⟩ := untouched_prepare hapart hplain
  have htool₁ := (writes_prepare w).tool
  have hbegin := on_beginCycle w
  rcases hp : prepare.on w with ⟨r, w₁⟩
  rw [hp] at hsame hapart₁ htool₁ hwritten hbegin
  obtain rfl : r = .ok m := hwritten
  dsimp only at hbegin hsame hapart₁ htool₁
  rw [hsame.settings, htool₁] at hbegin
  rcases hstart : w.desk.tool.start w.settings.command w.settings.root w₁.desk.disk with
    e | ⟨disk, ended⟩
  · rw [hstart] at hbegin
    exact .inl ⟨_, w₁, hbegin, hsame, by rw [runCycle, on_bind_of_error hbegin]⟩
  · rw [hstart] at hbegin
    obtain ⟨hsame₂, hapart₂⟩ := hsame.ran htool hapart₁ hstart
    exact .inr ⟨ended, _, hbegin, hsame₂, hapart₂, by rw [runCycle, on_bind_of_ok hbegin]⟩

/-- The digest of a cycle that passes is recorded, whatever fails behind that. -/
theorem not_findsDue_of_endCycle {w : Workspace} {m : Manifest} {own : Path}
    (hapart : w.settings.SidecarApart w.desk.disk)
    (hown : Sidecar.path w.settings.manifestPath = .ok own) (hcan : w.desk.disk.CanWrite own) :
    ¬((endCycle ⟨m, m.digest⟩ 0).on w).2.FindsDue m.digest := by
  obtain ⟨d', hd'⟩ := hcan (Text.encode (m.digest ++ "\n"))
  have hline := hasLine_of_endCycle (c := ⟨m, m.digest⟩) hown hd' hapart.isDir
    (hapart.log own hown) (hapart.snapshot own hown)
  have hset := (writes_endCycle ⟨m, m.digest⟩ 0 w).settings
  refine not_findsDue_of_hasLine ?_ hline
  rw [show ((endCycle ⟨m, m.digest⟩ 0).on w).2.settings = w.settings from hset]
  exact hown

/-- Whether a cycle passes is decided where its command ends. -/
theorem passes_iff_of_begun {w w₁ : Workspace} {c : Cycle} {ended : Option Int} {status : Int}
    (hbegin : beginCycle.on w = (.ok (c, ended), w₁)) : w.Passes status ↔ ended.getD status = 0 ∧
      ∃ own, Sidecar.path w.settings.manifestPath = .ok own ∧ w₁.desk.disk.CanWrite own := by
  constructor
  · rintro ⟨c', ended', w₂, own, hb, hzero, hown, hcan⟩
    rw [hbegin] at hb
    cases hb
    exact ⟨hzero, own, hown, hcan⟩
  · rintro ⟨hzero, own, hown, hcan⟩
    exact ⟨_, _, _, own, hbegin, hzero, hown, hcan⟩

/-- **A failed cycle leaves the records of the last build alone, and the build due, exactly if its
command did not end well or the sidecar of the manifest could not be written after it.**  Here `m` is
the manifest that the cycle has written; a build that was not due before is not due afterwards
either. -/
theorem keeps_records_of_error_iff {w w' : Workspace} {f : Fault} {m : Manifest} {status : Int}
    (hapart : w.settings.RecordsApart w.desk.disk)
    (hplain : ∀ own, Sidecar.path w.settings.manifestPath = .ok own →
      w.desk.disk.read? own = w.desk.disk.file? own)
    (htool : w.desk.tool.LeavesRecords w.settings) (hwritten : (prepare.on w).1 = .ok m)
    (hfail : (runCycle status).on w = (.error f, w')) :
    (RecordsKept w w' ∧ w'.FindsDue m.digest) ↔ (¬w.Passes status ∧ w.FindsDue m.digest) := by
  -- A state with the same records and a cycle that does not pass give both sides alike.
  have hsides {v : Workspace} (hv : Untouched w v) (hpass : ¬w.Passes status) :
      (RecordsKept w v ∧ v.FindsDue m.digest) ↔ (¬w.Passes status ∧ w.FindsDue m.digest) := by
    rw [hv.findsDue_iff]
    exact ⟨fun h => ⟨hpass, h.2⟩, fun h => ⟨hv.toRecordsKept, h.2⟩⟩
  rcases runCycle_of_prepare status hapart hplain htool hwritten with
    ⟨e, w₁, hbegin, hsame, hrun⟩ | ⟨ended, w₁, hbegin, hsame, hapart₁, hrun⟩
  · rw [hrun] at hfail
    cases hfail
    refine hsides hsame ?_
    rintro ⟨c, ended, w₂, own, hb, -⟩
    rw [hbegin] at hb
    cases hb
  rw [hrun] at hfail
  have hpasses : w.Passes status ↔ _ := passes_iff_of_begun hbegin
  rw [← hsame.settings] at hapart₁
  by_cases hstatus : ended.getD status = 0
  · rw [hstatus] at hfail
    by_cases hcan : ∃ own, Sidecar.path w.settings.manifestPath = .ok own ∧
        w₁.desk.disk.CanWrite own
    · -- The sidecar is written, so the build is due no longer.
      have hpass := hpasses.2 ⟨hstatus, hcan⟩
      obtain ⟨own, hown, hcan⟩ := hcan
      rw [← hsame.settings] at hown
      have hrecorded := not_findsDue_of_endCycle (m := m) hapart₁.toSidecarApart hown hcan
      rw [hfail] at hrecorded
      exact iff_of_false (fun h => hrecorded h.2) fun h => h.1 hpass
    · obtain ⟨f', hf'⟩ := endCycle_of_not_canWrite (c := ⟨m, m.digest⟩) (w := w₁) (by
        rw [hsame.settings]
        exact fun own hown hc => hcan ⟨own, hown, hc⟩)
      rw [hf'] at hfail
      cases hfail
      exact hsides hsame fun h => hcan (hpasses.1 h).2
  · rw [endCycle_of_ne hstatus] at hfail
    cases hfail
    exact hsides hsame fun h => hstatus (hpasses.1 h).1

/-! ### A project whose pattern is refused -/

/-- The manifest of a provider without probes. -/
def bareManifest : Manifest := { provider := .str "nodeapp" }

/-- The settings of a project whose artifacts are given by the empty pattern. -/
def refusedSettings : Settings :=
  { Settings.ofRoot ⟨.root, ["p"]⟩ with artifacts := [""] }

/-- The sidecar of its manifest. -/
def refusedSidecar : Path := ⟨.root, ["p", "probes.manifest.json.sha256"]⟩

theorem path_refusedSettings : Sidecar.path refusedSettings.manifestPath = .ok refusedSidecar := rfl

/-- The disk of the project, with some bytes in the manifest and nothing built. -/
def refusedDisk (bytes : ByteArray) : Disk :=
  { top := .dir [("p", .dir [("probes.manifest.json", .file bytes)])], here := [] }

/-- The project as it is opened, with a build command that ends with a status. -/
def refusedProject (status : Int) : Workspace :=
  { settings := refusedSettings
    source := .file refusedSettings.manifestPath bareManifest
    scanner := default
    detector := {}
    desk :=
      { disk := refusedDisk (Text.encode bareManifest.canonicalText)
        tool := ⟨fun _ _ d => .ok (d, some status)⟩ } }

theorem linkFree_refusedDisk (bytes : ByteArray) : (refusedDisk bytes).top.LinkFree :=
  Node.linkFree_of_linkCount_eq_zero rfl

theorem recordsApart_refusedDisk (bytes : ByteArray) :
    refusedSettings.RecordsApart (refusedDisk bytes) := by
  refine Settings.recordsApart_of_linkFree (linkFree_refusedDisk bytes) rfl rfl ?_ ?_ ?_ ?_ ?_
  · show ∀ n ∈ refusedSettings.manifestPath.names, Disk.IsName n
    decide
  · show ∀ n ∈ refusedSettings.snapshotPath.names, Disk.IsName n
    decide
  · show refusedSettings.snapshotPath.names ≠ refusedSettings.manifestPath.names
    decide
  · show refusedSettings.snapshotPath.names.getLast? ≠ _
    decide
  · intro name hname
    obtain rfl : "probes.manifest.json" = name := Option.some.inj hname
    decide

/-- Each name on the way to a file of the project is found. -/
theorem locateFor_refusedDisk (bytes : ByteArray) (aim : Disk.Aim) :
    (refusedDisk bytes).locateFor aim ⟨.root, ["p"]⟩ =
        .ok (.found ["p"] (.dir [("probes.manifest.json", .file bytes)])) ∧
      (refusedDisk bytes).locateFor aim refusedSettings.manifestPath =
        .ok (.found ["p", "probes.manifest.json"] (.file bytes)) ∧
      (refusedDisk bytes).locateFor aim refusedSidecar =
        .ok (.free ["p", "probes.manifest.json.sha256"]) := by
  refine ⟨Disk.locateFor_found ?_ (linkFree_refusedDisk bytes) rfl rfl,
    Disk.locateFor_found ?_ (linkFree_refusedDisk bytes) rfl rfl,
    Disk.locateFor_free ?_ rfl ["p"] rfl rfl rfl⟩
  · show ∀ n ∈ ["p"], Disk.IsName n
    decide
  · show ∀ n ∈ ["p", "probes.manifest.json"], Disk.IsName n
    decide
  · show ∀ n ∈ ["p", "probes.manifest.json.sha256"], Disk.IsName n
    decide

theorem on_prepare_refusedProject (status : Int) :
    ∃ w₁, prepare.on (refusedProject status) = (.ok bareManifest, w₁) ∧
      w₁.desk.disk = refusedDisk (Text.encode bareManifest.canonicalText) := by
  have hmade : manifestToWrite.on (refusedProject status) =
      (.ok bareManifest, refusedProject status) := by
    have hwhole : (refusedProject status).Whole := nofun
    rw [on_manifestToWrite_of_whole hwhole, on_currentManifest_of_not_scan (by simp [refusedProject])]
    rfl
  have hroom : (refusedProject status).desk.disk.ensureDirectories
      (refusedProject status).settings.manifestPath.parent =
      .ok (refusedDisk (Text.encode bareManifest.canonicalText)) := by
    show (refusedDisk _).ensureDirectories ⟨.root, ["p"]⟩ = _
    unfold Disk.ensureDirectories Disk.ensureDirectory Disk.makeDirectory
    simp [(locateFor_refusedDisk _ _).1, Disk.hasDirectory, Disk.node?, Disk.locate, Node.isDir]
  have hwrite : (refusedDisk (Text.encode bareManifest.canonicalText)).write
      (refusedProject status).settings.manifestPath (Text.encode bareManifest.canonicalText) =
      .ok (refusedDisk (Text.encode bareManifest.canonicalText)) := by
    show (refusedDisk _).write refusedSettings.manifestPath _ = _
    rw [Disk.write, (locateFor_refusedDisk _ _).2.1]
    rfl
  unfold prepare
  rw [on_bind_of_ok hmade, on_bind_of_ok (on_writeManifest hroom hwrite)]
  exact ⟨_, rfl, rfl⟩

theorem leavesRecords_refusedProject (status : Int) :
    (refusedProject status).desk.tool.LeavesRecords refusedSettings := by
  intro d d' ended h hapart
  cases h
  exact ⟨hapart, fun _ _ => ⟨rfl, rfl⟩⟩

/-- The sidecar of the project is not there. -/
theorem no_sidecar_refusedDisk (bytes : ByteArray) :
    (refusedDisk bytes).read? refusedSidecar = none ∧
      (refusedDisk bytes).file? refusedSidecar = none := by
  have hl := (locateFor_refusedDisk bytes .target).2.2
  obtain ⟨hh, hfree⟩ := Disk.home?_of_locate (by decide) rfl hl
  have hfile : (refusedDisk bytes).file? refusedSidecar = none := by
    rw [Disk.file?, hh]
    rfl
  refine ⟨?_, hfile⟩
  cases hr : (refusedDisk bytes).read? refusedSidecar with
  | none => rfl
  | some old =>
    rw [Disk.file?_of_read? rfl hr] at hfile
    cases hfile

theorem findsDue_refusedProject (status : Int) (digest : String) :
    (refusedProject status).FindsDue digest := by
  refine ⟨refusedSidecar, none, rfl, ?_, rfl⟩
  show (refusedDisk _).readIfAny refusedSidecar = _
  rw [Disk.readIfAny_eq, if_neg (by decide), (no_sidecar_refusedDisk _).1]

theorem on_beginCycle_refusedProject (status : Int) :
    ∃ w₁, beginCycle.on (refusedProject status) =
        (.ok (⟨bareManifest, bareManifest.digest⟩, some status), w₁) ∧
      w₁.settings = refusedSettings ∧
      w₁.desk.disk = refusedDisk (Text.encode bareManifest.canonicalText) := by
  obtain ⟨w₁, hprepare, hdisk⟩ := on_prepare_refusedProject status
  have hsame := writes_prepare (refusedProject status)
  have hbegin := on_beginCycle (refusedProject status)
  rw [hprepare] at hsame hbegin
  dsimp only at hsame hbegin
  rw [hsame.tool] at hbegin
  exact ⟨w₁.ran w₁.desk.disk, hbegin, hsame.settings, hdisk⟩

/-- The build command of a project ends with status one, and the cycle leaves the records as they
were. -/
theorem keeps_records_of_failed_command :
    ∃ f w', (runCycle 0).on (refusedProject 1) = (.error f, w') ∧
      RecordsKept (refusedProject 1) w' ∧ w'.FindsDue bareManifest.digest := by
  obtain ⟨w₁, hbegin, -⟩ := on_beginCycle_refusedProject 1
  obtain ⟨w₂, hprepare, -⟩ := on_prepare_refusedProject 1
  have hrun : (runCycle 0).on (refusedProject 1) = (.error (.build w₁.settings.command 1), w₁) := by
    rw [runCycle, on_bind_of_ok hbegin]
    exact endCycle_of_ne (by decide) w₁
  refine ⟨_, w₁, hrun, (keeps_records_of_error_iff (recordsApart_refusedDisk _) (fun own hown => ?_)
    (leavesRecords_refusedProject 1) (by rw [hprepare]) hrun).2 ⟨?_, findsDue_refusedProject 1 _⟩⟩
  · obtain rfl := Except.ok.inj (path_refusedSettings.symm.trans hown)
    have h := no_sidecar_refusedDisk (Text.encode bareManifest.canonicalText)
    exact h.1.trans h.2.symm
  · rintro ⟨c, ended, w₃, own, hb, hzero, -⟩
    rw [hbegin] at hb
    cases hb
    cases hzero

/-- A build command ends well, the pattern of the artifacts is refused, and the cycle that fails so
has recorded its digest: no build is due any more. -/
theorem records_of_refused_pattern :
    refusedSettings.RecordsApart (refusedProject 0).desk.disk ∧
      (refusedProject 0).desk.tool.LeavesRecords refusedSettings ∧
      (prepare.on (refusedProject 0)).1 = .ok bareManifest ∧
      (refusedProject 0).FindsDue bareManifest.digest ∧
      ∃ w', (runCycle 0).on (refusedProject 0) = (.error (.pattern .empty), w') ∧
        ¬RecordsKept (refusedProject 0) w' ∧ ¬w'.FindsDue bareManifest.digest := by
  obtain ⟨w₁, hbegin, hset, hdisk⟩ := on_beginCycle_refusedProject 0
  obtain ⟨w₂, hprepare, -⟩ := on_prepare_refusedProject 0
  refine ⟨recordsApart_refusedDisk _, leavesRecords_refusedProject 0, by rw [hprepare],
    findsDue_refusedProject 0 _, ?_⟩
  have hpath : Sidecar.path w₁.settings.manifestPath = .ok refusedSidecar := by rw [hset]; rfl
  have hcan : w₁.desk.disk.CanWrite refusedSidecar := by
    intro bytes
    rw [hdisk, Disk.write, (locateFor_refusedDisk _ _).2.2]
    exact ⟨_, rfl⟩
  obtain ⟨d', hwrite⟩ := hcan (Text.encode (bareManifest.digest ++ "\n"))
  have hend : (endCycle ⟨bareManifest, bareManifest.digest⟩ 0).on w₁ =
      (.error (.pattern .empty), w₁.withDisk d') := by
    refine endCycle_of_artifacts_error hpath hwrite ?_
    rw [hset]
    rfl
  have hapart : w₁.settings.RecordsApart w₁.desk.disk := by
    rw [hset, hdisk]
    exact recordsApart_refusedDisk _
  refine ⟨w₁.withDisk d', ?_, fun hkept => ?_, ?_⟩
  · rw [runCycle, on_bind_of_ok hbegin]
    exact hend
  · have hread := (Disk.writes_write hapart.isDir hwrite).2
    have hfile : d'.file? refusedSidecar = none :=
      (hkept.files refusedSidecar (.inl (.inl rfl))).trans (no_sidecar_refusedDisk _).2
    rw [Disk.file?_of_read? ((Disk.writes_write hapart.isDir hwrite).1.isDir_top hapart.isDir)
      hread] at hfile
    cases hfile
  · have hrecorded := not_findsDue_of_endCycle (m := bareManifest) hapart.toSidecarApart hpath hcan
    rwa [hend] at hrecorded

end Workspace

end ProbeKit
