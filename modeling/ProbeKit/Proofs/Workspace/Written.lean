import ProbeKit.Proofs.Manifest.Reading
import ProbeKit.Proofs.Workspace.Calls
import ProbeKit.Proofs.Workspace.Opening
import ProbeKit.Proofs.Workspace.Sidecar

/-!
# The manifest that was written last

The manifest file is written by each emit and by each cycle, whether or not its build ends well, and
it always holds a manifest with the digest that was written last, unless a manifest that no file can
hold has spoiled it; the sidecar holds the digest of one that was written at some time.
`Settings.Consistent s d written` says both of a disk after manifests with some digests were
written, and every run keeps it (`Workspace.consistent_runOnce`, `Workspace.consistent_emit`).
-/

namespace ProbeKit

open Act

namespace Settings

/-- The manifest and all records of a build keep out of each other's way and of the log. -/
structure OutputsApart (s : Settings) (d : Disk) : Prop extends RecordsApart s d where
  /-- The manifest is not the log. -/
  manifestLog : d.NotHeld s.manifestPath

theorem OutputsApart.of_writes {s : Settings} {d d' : Disk} {paths : Path → Prop}
    (h : s.OutputsApart d) (hw : d.Writes paths d') : s.OutputsApart d' :=
  ⟨h.toRecordsApart.of_writes hw, hw.notHeld h.manifestLog⟩

/-- Someone else changes the disk and leaves the manifest and its sidecar alone. -/
structure LeavesOutputs (s : Settings) (d d' : Disk) : Prop extends LeavesSidecar s d d' where
  /-- The outputs keep out of each other's way. -/
  outputs : s.OutputsApart d'
  /-- The manifest reads as before. -/
  manifest : d'.read? s.manifestPath = d.read? s.manifestPath
  /-- Its file holds what it held. -/
  manifestFile : d'.file? s.manifestPath = d.file? s.manifestPath

/-- The manifest file holds a manifest, whatever room there is to read it. -/
def Stores (s : Settings) (d : Disk) (m : Manifest) : Prop :=
  ∀ room, (d.read? s.manifestPath).bind (Manifest.ofBytes? room) = some m

/-- The manifest file holds a manifest with a digest. -/
def FileHas (s : Settings) (d : Disk) (digest : String) : Prop :=
  ∃ m, s.Stores d m ∧ m.digest = digest

section
variable {s : Settings} {d d' : Disk} {m : Manifest} {digest : String} {paths : Path → Prop}

/-- What is stored stands in some bytes that can be read in any room. -/
theorem Stores.exists_bytes (h : s.Stores d m) :
    ∃ bytes, d.read? s.manifestPath = some bytes ∧ ∀ room, Manifest.ofBytes? room bytes = some m := by
  obtain ⟨bytes, hread, -⟩ := Option.bind_eq_some_iff.1 (h default)
  refine ⟨bytes, hread, fun room => ?_⟩
  have hroom := h room
  rwa [hread] at hroom

theorem Stores.of_read? {bytes : ByteArray} (hread : d.read? s.manifestPath = some bytes)
    (hbytes : ∀ room, Manifest.ofBytes? room bytes = some m) : s.Stores d m := by
  intro room
  rw [hread]
  exact hbytes room

theorem Stores.of_writes (h : s.Stores d m) (hw : d.Writes paths d') (houtputs : s.OutputsApart d)
    (hpaths : ∀ q, paths q → d.Apart s.manifestPath q) : s.Stores d' m := by
  obtain ⟨bytes, hread, hbytes⟩ := h.exists_bytes
  exact .of_read? (hw.read?_eq_some houtputs.isDir hread houtputs.manifestLog hpaths) hbytes

theorem FileHas.of_writes (h : s.FileHas d digest) (hw : d.Writes paths d')
    (houtputs : s.OutputsApart d) (hpaths : ∀ q, paths q → d.Apart s.manifestPath q) :
    s.FileHas d' digest := by
  obtain ⟨m, hstores, hdigest⟩ := h
  exact ⟨m, hstores.of_writes hw houtputs hpaths, hdigest⟩

theorem FileHas.whole (h : s.FileHas d digest) (htop : d.top.isDir = true) : s.FileWhole d := by
  obtain ⟨m, hstores, -⟩ := h
  obtain ⟨bytes, hread, hbytes⟩ := hstores.exists_bytes
  intro bytes' hfile room hbroken
  obtain rfl : bytes = bytes' :=
    Option.some.inj ((Disk.file?_of_read? htop hread).symm.trans hfile)
  have hread := hbytes room
  rw [Manifest.ofBytes?, hbroken] at hread
  cases hread

end

/-- What a disk holds after manifests with some digests were written, the last one at the end. -/
structure Consistent (s : Settings) (d : Disk) (written : List String) : Prop where
  /-- The outputs keep out of each other's way. -/
  outputs : s.OutputsApart d
  /-- The manifest file holds the manifest that was written last. -/
  file : ∀ digest, written.getLast? = some digest → s.FileHas d digest
  /-- Nor does it spell a manifest that no file can hold if none was written. -/
  whole : s.FileWhole d
  /-- The sidecar tells of a manifest that was written. -/
  sidecar : ∃ built, s.Tells d built ∧ ∀ digest, built = some digest → digest ∈ written

namespace Consistent

variable {s : Settings} {d d' : Disk} {written : List String}

theorem of_leaves (h : s.Consistent d written) (hd : s.LeavesOutputs d d') :
    s.Consistent d' written := by
  refine ⟨hd.outputs, fun digest hdigest => ?_, fun bytes hbytes => ?_, ?_⟩
  · obtain ⟨m, hstores, hm⟩ := h.file digest hdigest
    exact ⟨m, fun room => hd.manifest ▸ hstores room, hm⟩
  · exact h.whole bytes (hd.manifestFile.symm.trans hbytes)
  · obtain ⟨built, htells, hmem⟩ := h.sidecar
    exact ⟨built, htells.of_leaves hd.toLeavesSidecar, hmem⟩

/-- Neither the manifest nor its sidecar is written. -/
theorem of_writes {paths : Path → Prop} (h : s.Consistent d written) (hw : d.Writes paths d')
    (hmanifest : ∀ q, paths q → d.Apart s.manifestPath q)
    (hsidecar : ∀ own, Sidecar.path s.manifestPath = .ok own → ∀ q, paths q → d.Apart own q) :
    s.Consistent d' written := by
  refine ⟨h.outputs.of_writes hw, fun digest hdigest => ?_, fun bytes hbytes => ?_, ?_⟩
  · exact (h.file digest hdigest).of_writes hw h.outputs hmanifest
  · exact h.whole bytes ((hw.file?_eq h.outputs.manifestLog hmanifest).symm.trans hbytes)
  · obtain ⟨built, htells, hmem⟩ := h.sidecar
    exact ⟨built, htells.of_writes hw hsidecar, hmem⟩

theorem of_writes_nothing (h : s.Consistent d written) (hw : d.Writes (fun _ => False) d') :
    s.Consistent d' written :=
  h.of_writes hw (fun _ hq => hq.elim) fun _ _ _ hq => hq.elim

end Consistent

end Settings

/-- A build tool that leaves the manifest and its sidecar alone. -/
def Tool.LeavesOutputs (t : Tool) (s : Settings) : Prop :=
  ∀ d d' status, t.start s.command s.root d = .ok (d', status) → s.OutputsApart d →
    s.LeavesOutputs d d'

namespace Workspace

/-! ### Writing the manifest -/

/-- Only a manifest without a flaw is ever made. -/
theorem flaw?_of_currentManifest {w w' : Workspace} {m : Manifest} {again : Bool}
    (h : (currentManifest again).on w = (.ok m, w')) : m.flaw? = none := by
  have hsound {m m' : Manifest} {w w' : Workspace} (h : (sound m).on w = (.ok m', w')) :
      m'.flaw? = none := by
    unfold sound at h
    split at h
    · rename_i hflaw
      cases h
      exact hflaw
    · cases h
  by_cases hs : w.source = .scan
  · rw [on_currentManifest_of_scan hs] at h
    obtain ⟨_, _, -, h⟩ := on_bind_eq_ok.1 h
    obtain ⟨_, _, -, h⟩ := on_bind_eq_ok.1 h
    exact hsound h
  · rw [on_currentManifest_of_not_scan hs] at h
    obtain ⟨made, w₁, -, h⟩ := on_bind_eq_ok.1 h
    cases made with
    | none =>
      obtain ⟨_, _, -, h⟩ := on_bind_eq_ok.1 h
      exact hsound h
    | some m => exact hsound h

/-- What is written can be read. -/
theorem writeManifest_ok {m : Manifest} {w w' : Workspace} {digest : String}
    (htop : w.desk.disk.top.isDir = true) (h : (writeManifest m).on w = (.ok digest, w')) :
    w'.desk.disk.read? w.settings.manifestPath =
      some (Text.encode (m.fileText w.aggregates w.settings.development)) := by
  unfold writeManifest at h
  rw [on_get_bind] at h
  obtain ⟨_, w₁, h₁, h⟩ := on_bind_eq_ok.1 h
  obtain ⟨_, w₂, h₂, h⟩ := on_bind_eq_ok.1 h
  rw [on_pure] at h
  obtain rfl : w₂ = w' := congrArg Prod.snd h
  obtain ⟨d₁, hd₁, rfl⟩ := on_onDisk_eq.1 h₁
  obtain ⟨d₂, hd₂, rfl⟩ := on_onDisk_eq.1 h₂
  have hroom := Disk.relates_makeRoom w.settings.manifestPath w.desk.disk htop
  rw [hd₁] at hroom
  exact (Disk.writeText_ok (hroom.isDir_top htop) hd₂).2

/-- A manifest that cannot be written leaves all files alone. -/
theorem writeManifest_error {m : Manifest} {w w' : Workspace} {f : Fault}
    (h : (writeManifest m).on w = (.error f, w')) : Writes (fun _ => False) w w' := by
  unfold writeManifest at h
  rw [on_get_bind] at h
  have hroom := relates_onDisk (Disk.relates_makeRoom w.settings.manifestPath) w
  rcases h₁ : (onDisk (Disk.makeRoom w.settings.manifestPath)).on w with ⟨f₁ | ⟨⟩, w₁⟩
  all_goals rw [h₁] at hroom
  · rw [on_bind_of_error h₁] at h
    cases h
    exact hroom
  rw [on_bind_of_ok h₁] at h
  rcases h₂ : (onDisk (Disk.writeText w.settings.manifestPath
      (m.fileText w.aggregates w.settings.development))).on w₁ with ⟨f₂ | ⟨⟩, w₂⟩
  · rw [on_bind_of_error h₂] at h
    cases h
    obtain ⟨d₂, hd₂, rfl⟩ := on_onDisk_eq.1 h₂
    rw [Disk.writeText_error hd₂]
    exact hroom
  · rw [on_bind_of_ok h₂] at h
    cases h

variable {w w' : Workspace} {written : List String}

/-- A manifest that was written without a flaw is stored as it is read. -/
theorem stores_writeManifest {m : Manifest} {digest : String} (hflaw : m.flaw? = none)
    (htop : w.desk.disk.top.isDir = true) (hw : (writeManifest m).on w = (.ok digest, w')) :
    w.settings.Stores w'.desk.disk m.reread :=
  .of_read? (writeManifest_ok htop hw) fun room =>
    Manifest.ofBytes?_fileText_of_flaw?_eq_none room hflaw _ _

/-- The file of a manifest that was written holds a manifest with its digest. -/
theorem fileHas_writeManifest {m : Manifest} {digest : String} (hflaw : m.flaw? = none)
    (htop : w.desk.disk.top.isDir = true) (hw : (writeManifest m).on w = (.ok digest, w')) :
    w.settings.FileHas w'.desk.disk m.digest :=
  ⟨m.reread, stores_writeManifest hflaw htop hw, Manifest.digest_reread hflaw⟩

/-- Writing a manifest makes it the one that was written last. -/
theorem consistent_writeManifest {m : Manifest} {digest : String} (hflaw : m.flaw? = none)
    (h : w.settings.Consistent w.desk.disk written)
    (hw : (writeManifest m).on w = (.ok digest, w')) :
    w.settings.Consistent w'.desk.disk (written ++ [m.digest]) := by
  have hwrites := writes_writeManifest m w
  rw [hw] at hwrites
  have hdisk := hwrites.disk h.outputs.isDir
  have hfile := fileHas_writeManifest hflaw h.outputs.isDir hw
  refine ⟨h.outputs.of_writes hdisk, fun last hlast => ?_,
    hfile.whole (hdisk.isDir_top h.outputs.isDir), ?_⟩
  · obtain rfl : m.digest = last := by simpa using hlast
    exact hfile
  · obtain ⟨built, htells, hmem⟩ := h.sidecar
    refine ⟨built, ?_, fun digest hb => List.mem_append_left _ (hmem digest hb)⟩
    exact htells.of_writes hdisk fun own hown q hq => hq ▸ h.outputs.manifest own hown

theorem consistent_of_writes_nothing (h : w.settings.Consistent w.desk.disk written)
    (hw : Writes (fun _ => False) w w') : w.settings.Consistent w'.desk.disk written :=
  h.of_writes_nothing (hw.disk h.outputs.isDir)

/-- What an emit or the beginning of a cycle has written. -/
def writtenBy (made : Except Fault Manifest) : List String :=
  match made with
  | .ok m => [m.digest]
  | .error _ => []

/-- Making a manifest that a file can hold writes nothing. -/
theorem writes_manifestToWrite_of_whole (h : w.Whole) :
    Writes (fun _ => False) w (manifestToWrite.on w).2 := by
  rw [on_manifestToWrite_of_whole h]
  exact relates_currentManifest true w

theorem consistent_prepare (hwhole : w.Whole) (h : w.settings.Consistent w.desk.disk written) :
    w.settings.Consistent (prepare.on w).2.desk.disk (written ++ writtenBy (prepare.on w).1) := by
  have hmade := writes_manifestToWrite_of_whole hwhole
  unfold prepare
  rcases hm : manifestToWrite.on w with ⟨f | m, w₁⟩
  all_goals
    rw [hm] at hmade
    have h₁ := consistent_of_writes_nothing h hmade
  · rw [on_bind_of_error hm, writtenBy, List.append_nil]
    exact h₁
  rw [on_bind_of_ok hm]
  rw [← hmade.settings] at h₁ ⊢
  rcases hd : (writeManifest m).on w₁ with ⟨f | digest, w₂⟩
  · rw [on_bind_of_error hd, writtenBy, List.append_nil]
    exact consistent_of_writes_nothing h₁ (writeManifest_error hd)
  have hwritten := writes_writeManifest m w₁
  rw [hd] at hwritten
  have h₂ := consistent_writeManifest
    (flaw?_of_currentManifest (on_currentManifest_of_manifestToWrite hm)) h₁ hd
  rw [on_bind_of_ok hd, on_modify_bind, on_get_bind, on_bind_of_ok (on_say _ _ _ _), on_pure]
  exact h₂.of_writes_nothing (Desk.mayWrite_note _ w₂.desk h₂.outputs.isDir)

/-- What an emit has written. -/
def emitWrites (w : Workspace) : List String :=
  match (emit.on w).1 with
  | .ok made => [made.digest]
  | .error _ => []

/-- **After an emit the disk is consistent again.** -/
theorem consistent_emit (hwhole : w.Whole) (h : w.settings.Consistent w.desk.disk written) :
    w.settings.Consistent (emit.on w).2.desk.disk (written ++ w.emitWrites) := by
  have hmade := writes_manifestToWrite_of_whole hwhole
  unfold emitWrites emit
  rcases hm : manifestToWrite.on w with ⟨f | m, w₁⟩
  all_goals
    rw [hm] at hmade
    have h₁ := consistent_of_writes_nothing h hmade
  · rw [on_bind_of_error hm, List.append_nil]
    exact h₁
  rw [on_bind_of_ok hm]
  rw [← hmade.settings] at h₁ ⊢
  rcases hd : (writeManifest m).on w₁ with ⟨f | digest, w₂⟩
  · rw [on_bind_of_error hd, List.append_nil]
    exact consistent_of_writes_nothing h₁ (writeManifest_error hd)
  have h₂ := consistent_writeManifest
    (flaw?_of_currentManifest (on_currentManifest_of_manifestToWrite hm)) h₁ hd
  rw [on_bind_of_ok hd, on_get_bind, on_bind_of_ok (on_say _ _ _ _), on_pure,
    digest_of_writeManifest hd]
  exact h₂.of_writes_nothing (Desk.mayWrite_note _ w₂.desk h₂.outputs.isDir)

/-! ### Cycles -/

/-- Behind its build command a cycle writes the line of its own digest into the sidecar, or leaves
it. -/
theorem consistent_endCycle {c : Cycle} {m : Manifest} {status : Int} (hc : c.digest = m.digest)
    (hmem : c.digest ∈ written) (h : w.settings.Consistent w.desk.disk written) :
    w.settings.Consistent ((endCycle c status).on w).2.desk.disk written := by
  by_cases hstatus : status = 0
  · subst hstatus
    have hwrites := (writes_endCycle c 0 w).disk h.outputs.isDir
    have hmanifest := fun q hq => (h.outputs.manifests q hq).symm
    refine ⟨h.outputs.of_writes hwrites, fun digest hdigest => ?_, fun bytes hbytes => ?_, ?_⟩
    · exact (h.file digest hdigest).of_writes hwrites h.outputs hmanifest
    · exact h.whole bytes
        ((hwrites.file?_eq h.outputs.manifestLog hmanifest).symm.trans hbytes)
    · obtain ⟨built, htells, hbuilt⟩ := h.sidecar
      by_cases hcan : ∃ own, Sidecar.path w.settings.manifestPath = .ok own ∧
          w.desk.disk.CanWrite own
      · obtain ⟨own, hown, hcan⟩ := hcan
        refine ⟨some c.digest, ?_, fun digest hdigest => Option.some.inj hdigest ▸ hmem⟩
        have htold := tells_endCycle hc htells.apart fun own' hown' => by
          obtain rfl : own = own' := Except.ok.inj (hown.symm.trans hown')
          exact hcan
        rwa [show ((endCycle c 0).on w).2.settings = w.settings from
          (writes_endCycle c 0 w).settings] at htold
      · obtain ⟨f, hf⟩ := endCycle_of_not_canWrite (c := c) (w := w)
          fun own hown hc => hcan ⟨own, hown, hc⟩
        rw [hf]
        exact ⟨built, htells, hbuilt⟩
  · rw [endCycle_of_ne hstatus]
    exact h

/-- **After a cycle, however it ends, the disk is consistent again.** -/
theorem consistent_runCycle (status : Int) (hwhole : w.Whole)
    (h : w.settings.Consistent w.desk.disk written) (htool : w.desk.tool.LeavesOutputs w.settings) :
    w.settings.Consistent ((runCycle status).on w).2.desk.disk
      (written ++ writtenBy (prepare.on w).1) := by
  have hbegin := on_beginCycle w
  have hprepared := writes_prepare w
  have h₁ := consistent_prepare hwhole h
  rcases hp : prepare.on w with ⟨f | m, w₁⟩
  all_goals
    rw [hp] at hbegin hprepared h₁
    dsimp only at hbegin h₁
  · rw [runCycle, on_bind_of_error hbegin]
    exact h₁
  rw [hprepared.tool, hprepared.settings] at hbegin
  rcases hs : w.desk.tool.start w.settings.command w.settings.root w₁.desk.disk with
    e | ⟨disk, ended⟩
  · rw [hs] at hbegin
    rw [runCycle, on_bind_of_error hbegin]
    exact h₁
  rw [hs] at hbegin
  have h₂ := h₁.of_leaves (htool _ _ _ hs h₁.outputs)
  rw [runCycle, on_bind_of_ok hbegin]
  have hsettings : (w₁.ran disk).settings = w.settings := hprepared.settings
  rw [← hsettings] at h₂ ⊢
  exact consistent_endCycle (w := w₁.ran disk) (m := m) rfl (by simp [writtenBy]) h₂

/-- The end of a cycle remembers the build of its digest, or fails and remembers none. -/
theorem lastBuilt_endCycle (c : Cycle) (status : Int) (w : Workspace) :
    (((endCycle c status).on w).2.detector.lastBuilt = w.detector.lastBuilt ∧
        ∃ f, ((endCycle c status).on w).1 = .error f) ∨
      ((endCycle c status).on w).2.detector.lastBuilt = some c.digest := by
  by_cases hstatus : status = 0
  · subst hstatus
    rw [endCycle_zero]
    rcases hw : (onDisk (Sidecar.write w.settings.manifestPath c.digest w.settings.root
        w.settings.artifacts)).on w with ⟨f | found, w₁⟩
    · rw [on_bind_of_error hw]
      obtain ⟨d₁, -, rfl⟩ := on_onDisk_eq.1 hw
      exact .inl ⟨rfl, f, rfl⟩
    rw [on_bind_of_ok hw]
    refine .inr ?_
    have hrecord : ((recordBuild c).on w₁).2.detector.lastBuilt = some c.digest :=
      (writes_recordBuild c w₁).lastBuilt
    rcases hr : (recordBuild c).on w₁ with ⟨f | ⟨⟩, w₂⟩
    all_goals rw [hr] at hrecord
    · rw [on_bind_of_error hr]
      exact hrecord
    · rw [on_bind_of_ok hr]
      exact (relates_say .info "orchestrator" _ w₂).lastBuilt.trans hrecord
  · rw [endCycle_of_ne hstatus]
    exact .inl ⟨rfl, _, rfl⟩

/-- A cycle remembers the build of the manifest that it has written, or fails and remembers none. -/
theorem lastBuilt_runCycle (status : Int) (w : Workspace) :
    (((runCycle status).on w).2.detector.lastBuilt = w.detector.lastBuilt ∧
        ∃ f, ((runCycle status).on w).1 = .error f) ∨
      ∃ digest, writtenBy (prepare.on w).1 = [digest] ∧
        ((runCycle status).on w).2.detector.lastBuilt = some digest := by
  have hbegin := on_beginCycle w
  have hprepared := writes_prepare w
  rcases hp : prepare.on w with ⟨f | m, w₁⟩
  all_goals
    rw [hp] at hbegin hprepared
    dsimp only at hbegin
  · rw [runCycle, on_bind_of_error hbegin]
    exact .inl ⟨hprepared.lastBuilt, f, rfl⟩
  rcases hs : w₁.desk.tool.start w₁.settings.command w₁.settings.root w₁.desk.disk with
    e | ⟨disk, ended⟩
  all_goals rw [hs] at hbegin
  · rw [runCycle, on_bind_of_error hbegin]
    exact .inl ⟨hprepared.lastBuilt, _, rfl⟩
  rw [runCycle, on_bind_of_ok hbegin]
  rcases lastBuilt_endCycle ⟨m, m.digest⟩ (ended.getD status) (w₁.ran disk) with
    ⟨hsame, hfail⟩ | hbuilt
  · exact .inl ⟨hsame.trans hprepared.lastBuilt, hfail⟩
  · exact .inr ⟨m.digest, rfl, hbuilt⟩

/-! ### One-shot runs -/

/-- What a one-shot run has written. -/
def onceWrites (w : Workspace) : List String :=
  match check.on w with
  | (.ok report, w) => if report.due then writtenBy (prepare.on w).1 else []
  | (.error _, _) => []

/-- What could be checked can be written. -/
theorem whole_of_check {w' : Workspace} {report : Detector.Report}
    (h : check.on w = (.ok report, w')) : w'.Whole := by
  have hkept := ignores_whole.relates_check w
  rw [h] at hkept
  obtain ⟨m, w₁, hm, -⟩ := check_ok h
  exact hkept (whole_of_currentManifest hm)

/-- **After a one-shot run, however it ends, the disk is consistent again.** -/
theorem consistent_runOnce (status : Int) (h : w.settings.Consistent w.desk.disk written)
    (htool : w.desk.tool.LeavesOutputs w.settings) :
    w.settings.Consistent ((runOnce status).on w).2.desk.disk (written ++ w.onceWrites) := by
  have hchecked := relates_check w
  unfold onceWrites
  rcases hc : check.on w with ⟨f | report, w₁⟩
  all_goals
    rw [hc] at hchecked
    have h₁ := consistent_of_writes_nothing h hchecked
  · rw [runOnce, on_bind_of_error hc, List.append_nil]
    exact h₁
  rw [runOnce, on_bind_of_ok hc]
  dsimp only
  split
  · rw [← hchecked.settings] at h₁ ⊢
    have hcycle := consistent_runCycle status (whole_of_check hc) h₁ (by
      rw [hchecked.tool, hchecked.settings]
      exact htool)
    rw [on_bind]
    rcases hr : (runCycle status).on w₁ with ⟨f | ⟨⟩, w₂⟩
    all_goals
      rw [hr] at hcycle
      exact hcycle
  · rw [List.append_nil]
    exact h₁

/-- What a one-shot run reports: the digest that it has written last if it has built, and else the
digest that was built last. -/
theorem digest_of_runOnce {w' : Workspace} {status : Int} {digest : String} {built : Bool}
    (h : (runOnce status).on w = (.ok ⟨digest, built⟩, w')) :
    (built = true ∧ w.onceWrites = [digest]) ∨
      (built = false ∧ w.onceWrites = [] ∧ w.detector.lastBuilt = some digest) := by
  rw [runOnce] at h
  obtain ⟨report, w₁, hc, h⟩ := on_bind_eq_ok.1 h
  rw [onceWrites, hc]
  dsimp only
  cases hdue : report.due with
  | true =>
    rw [hdue, if_pos rfl] at h
    rw [if_pos rfl]
    obtain ⟨_, w₂, hcycle, h⟩ := on_bind_eq_ok.1 h
    rw [on_get_bind] at h
    cases h
    -- A cycle that went well has recorded the digest that it wrote.
    rcases lastBuilt_runCycle status w₁ with ⟨-, f, hf⟩ | ⟨digest, hwrites, hbuilt⟩
    · rw [hcycle] at hf
      cases hf
    · rw [hcycle] at hbuilt
      refine .inl ⟨rfl, ?_⟩
      rw [hwrites, hbuilt]
      rfl
  | false =>
    rw [hdue] at h
    cases h
    refine .inr ⟨rfl, if_neg Bool.false_ne_true, ?_⟩
    obtain ⟨m, w₂, -, hdigest, hreport⟩ := check_ok hc
    rw [hdue, Detector.isDue] at hreport
    rw [hdigest]
    simpa using (Bool.or_eq_false_iff.1 hreport.symm).2

/-- Whoever runs once remembers no other build than before but for one that it has written. -/
theorem lastBuilt_runOnce {status : Int} {digest : String}
    (h : ((runOnce status).on w).2.detector.lastBuilt = some digest) :
    w.detector.lastBuilt = some digest ∨ digest ∈ w.onceWrites := by
  have hchecked := relates_check w
  unfold onceWrites
  rw [runOnce] at h
  rcases hc : check.on w with ⟨f | report, w₁⟩
  all_goals rw [hc] at hchecked
  · rw [on_bind_of_error hc] at h
    exact .inl (hchecked.lastBuilt.symm.trans h)
  rw [on_bind_of_ok hc] at h
  dsimp only
  cases hdue : report.due with
  | true =>
    rw [hdue, if_pos rfl, on_bind] at h
    rw [if_pos rfl]
    -- Behind its cycle the run changes nothing of what is remembered.
    have hlast : ((runCycle status).on w₁).2.detector.lastBuilt = some digest := by
      rcases hr : (runCycle status).on w₁ with ⟨f | ⟨⟩, w₂⟩
      all_goals
        rw [hr] at h
        exact h
    rcases lastBuilt_runCycle status w₁ with ⟨hsame, -⟩ | ⟨digest', hwrites, hbuilt⟩
    · exact .inl (hchecked.lastBuilt.symm.trans (hsame.symm.trans hlast))
    · rw [hbuilt] at hlast
      obtain rfl := Option.some.inj hlast
      exact .inr (by simp [hwrites])
  | false =>
    rw [hdue] at h
    exact .inl (hchecked.lastBuilt.symm.trans h)

/-- A one-shot run keeps the settings and the build tool. -/
theorem same_runOnce (status : Int) (w : Workspace) :
    ((runOnce status).on w).2.settings = w.settings ∧
      ((runOnce status).on w).2.desk.tool = w.desk.tool := by
  have hchecked := relates_check w
  rw [runOnce]
  rcases hc : check.on w with ⟨f | report, w₁⟩
  all_goals rw [hc] at hchecked
  · rw [on_bind_of_error hc]
    exact ⟨hchecked.settings, hchecked.tool⟩
  rw [on_bind_of_ok hc]
  split
  · obtain ⟨hset, htool⟩ := same_runCycle status w₁
    rw [on_bind]
    rcases hr : (runCycle status).on w₁ with ⟨f | ⟨⟩, w₂⟩
    all_goals
      rw [hr] at hset htool
      exact ⟨hset.trans hchecked.settings, htool.trans hchecked.tool⟩
  · exact ⟨hchecked.settings, hchecked.tool⟩

end Workspace

end ProbeKit
