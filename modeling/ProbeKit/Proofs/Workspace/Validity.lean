import ProbeKit.Proofs.Manifest.Valid
import ProbeKit.Proofs.Workspace.Agreement

/-!
# Only valid manifests are written

While the manifest file is written by the program only, whatever writes it leaves a valid manifest there
with a digest that was computed: `Workspace.Vouches digests w w'` says so of a change of a workspace,
and it holds of an emit (`Workspace.vouches_emit`), of each part of a cycle (`Workspace.Accounted`) and
of a one-shot run (`Workspace.vouches_runOnce`).  Whether or not a manifest can be made, making it leaves
all files alone but for the log (`Workspace.still_currentManifest`).
-/

namespace ProbeKit

open Act

namespace Settings

/-- The manifest keeps out of the way of the records of a build and of the log. -/
structure ManifestApart (s : Settings) (d : Disk) : Prop where
  /-- The top is a directory. -/
  isDir : d.top.isDir = true
  /-- The manifest is no record of a build. -/
  records : ∀ q, s.IsRecord q → d.Apart s.manifestPath q
  /-- The manifest is not the log. -/
  log : d.NotHeld s.manifestPath

/-- The disk changes, and the manifest file stays as it is. -/
structure SparesManifest (s : Settings) (d d' : Disk) : Prop where
  /-- The manifest still keeps out of the way. -/
  apart : s.ManifestApart d'
  /-- The file holds what it held. -/
  file : d'.file? s.manifestPath = d.file? s.manifestPath
  /-- What could be read can be read. -/
  read : ∀ bytes, d.read? s.manifestPath = some bytes → d'.read? s.manifestPath = some bytes

/-- The manifest file holds a valid manifest with a digest. -/
def HasValid (s : Settings) (d : Disk) (digest : String) : Prop :=
  ∃ m, s.Stores d m ∧ m.Valid ∧ m.digest = digest

variable {s : Settings} {d d' d'' : Disk} {paths : Path → Prop} {digest : String}

theorem OutputsApart.manifestApart (h : s.OutputsApart d) : s.ManifestApart d :=
  ⟨h.isDir, fun q hq => (h.manifests q hq).symm, h.manifestLog⟩

theorem ManifestApart.of_writes (h : s.ManifestApart d) (hw : d.Writes paths d') :
    s.ManifestApart d' :=
  ⟨hw.isDir_top h.isDir, fun q hq => hw.apart (h.records q hq), hw.notHeld h.log⟩

theorem SparesManifest.refl (h : s.ManifestApart d) : s.SparesManifest d d :=
  ⟨h, rfl, fun _ hread => hread⟩

theorem SparesManifest.trans (h : s.SparesManifest d d') (h' : s.SparesManifest d' d'') :
    s.SparesManifest d d'' :=
  ⟨h'.apart, h'.file.trans h.file, fun bytes hread => h'.read bytes (h.read bytes hread)⟩

theorem SparesManifest.of_writes (h : s.ManifestApart d) (hw : d.Writes paths d')
    (hpaths : ∀ q, paths q → d.Apart s.manifestPath q) : s.SparesManifest d d' :=
  ⟨h.of_writes hw, hw.file?_eq h.log hpaths,
    fun _ hread => hw.read?_eq_some h.isDir hread h.log hpaths⟩

/-- A record in the journal leaves the manifest alone. -/
theorem SparesManifest.of_note (desk : Desk) (h : s.ManifestApart desk.disk) (r : Record) :
    s.SparesManifest desk.disk (desk.note r).disk :=
  .of_writes h (desk.mayWrite_note r h.isDir) fun _ hq => hq.elim

theorem HasValid.of_spares (h : s.HasValid d digest) (hd : s.SparesManifest d d') :
    s.HasValid d' digest := by
  obtain ⟨m, hstores, hvalid⟩ := h
  obtain ⟨bytes, hread, hbytes⟩ := hstores.exists_bytes
  exact ⟨m, .of_read? (hd.read bytes hread) hbytes, hvalid⟩

end Settings

/-- A build tool that leaves the manifest file alone. -/
def Tool.SparesManifest (t : Tool) (s : Settings) : Prop :=
  ∀ d d' status, t.start s.command s.root d = .ok (d', status) → s.ManifestApart d →
    s.SparesManifest d d'

namespace Workspace

variable {w w' w'' : Workspace}

/-! ### Making the manifest -/

/-- A workspace comes from another without a file written but the log, and without a digest
computed. -/
structure Still (w w' : Workspace) : Prop extends Unwritten w w' where
  /-- The digests stay. -/
  detector : w'.detector = w.detector

theorem Still.refl (w : Workspace) : Still w w := ⟨.refl w, rfl⟩

theorem Still.trans (h : Still w w') (h' : Still w' w'') : Still w w'' :=
  ⟨h.toUnwritten.trans h'.toUnwritten, h'.detector.trans h.detector⟩

instance : Std.Refl Still := ⟨Still.refl⟩

instance : Trans Still Still Still := ⟨Still.trans⟩

theorem overlooks_still : Overlooks Still :=
  ⟨fun w catalog => ⟨overlooks_unwritten.catalog w catalog, rfl⟩,
    fun w aggregates => ⟨overlooks_unwritten.aggregates w aggregates, rfl⟩,
    fun w hs => ⟨overlooks_unwritten.source w hs, rfl⟩,
    fun w records => ⟨overlooks_unwritten.records w records, rfl⟩⟩

/-- **Making the manifest changes no file but the log and computes no digest**, whether or not it can
be made. -/
theorem still_currentManifest (again : Bool) : Relates Still (currentManifest again) :=
  overlooks_still.relates_currentManifest again

theorem still_applyEvent (e : Event) : Relates Still (applyEvent e) :=
  overlooks_still.relates_applyEvent e

/-! ### Writing the manifest -/

theorem Writes.spares {paths : Path → Prop} (h : Writes paths w w')
    (hapart : w.settings.ManifestApart w.desk.disk)
    (hpaths : ∀ q, paths q → w.desk.disk.Apart w.settings.manifestPath q) :
    w.settings.SparesManifest w.desk.disk w'.desk.disk :=
  .of_writes hapart (h.disk hapart.isDir) hpaths

/-- What writes no file leaves the manifest alone. -/
theorem Writes.spares_of_nothing (h : Writes (fun _ => False) w w')
    (hapart : w.settings.ManifestApart w.desk.disk) :
    w.settings.SparesManifest w.desk.disk w'.desk.disk :=
  h.spares hapart fun _ hq => hq.elim

/-- A manifest without a flaw that was written is valid and stands in its file. -/
theorem hasValid_writeManifest {m : Manifest} {digest : String} (hflaw : m.flaw? = none)
    (hapart : w.settings.ManifestApart w.desk.disk)
    (h : (writeManifest m).on w = (.ok digest, w')) :
    w.settings.ManifestApart w'.desk.disk ∧ w.settings.HasValid w'.desk.disk digest := by
  have hwrites := writes_writeManifest m w
  rw [h] at hwrites
  rw [digest_of_writeManifest h]
  exact ⟨hapart.of_writes (hwrites.disk hapart.isDir), m.reread,
    stores_writeManifest hflaw hapart.isDir h, (Manifest.flaw?_eq_none_iff.1 hflaw).reread,
    Manifest.digest_reread hflaw⟩

/-- What may become of the manifest file: it stays, or it holds a valid manifest with one of some
digests. -/
structure Vouches (digests : List String) (w w' : Workspace) : Prop where
  /-- The settings stay. -/
  settings : w'.settings = w.settings
  /-- The build tool stays. -/
  tool : w'.desk.tool = w.desk.tool
  /-- What can be written still can. -/
  whole : w.Whole → w'.Whole
  /-- The manifest file stays or is valid. -/
  manifest : w.settings.SparesManifest w.desk.disk w'.desk.disk ∨
    (w.settings.ManifestApart w'.desk.disk ∧
      ∃ digest ∈ digests, w.settings.HasValid w'.desk.disk digest)

section
variable {digests digests' : List String}

theorem Vouches.apart (h : Vouches digests w w') : w'.settings.ManifestApart w'.desk.disk := by
  rw [h.settings]
  exact h.manifest.elim (·.apart) (·.1)

theorem Vouches.sparesTool (h : Vouches digests w w')
    (htool : w.desk.tool.SparesManifest w.settings) :
    w'.desk.tool.SparesManifest w'.settings := by
  rwa [h.tool, h.settings]

theorem Vouches.trans (h : Vouches digests w w') (h' : Vouches digests' w' w'') :
    Vouches (digests ++ digests') w w'' := by
  refine ⟨h'.settings.trans h.settings, h'.tool.trans h.tool, fun hw => h'.whole (h.whole hw), ?_⟩
  have hsecond := h'.manifest
  rw [h.settings] at hsecond
  rcases hsecond with hspares | ⟨hapart, digest, hmem, hvalid⟩
  · rcases h.manifest with hspares₁ | ⟨-, digest, hmem, hvalid⟩
    · exact .inl (hspares₁.trans hspares)
    · exact .inr ⟨hspares.apart, digest, List.mem_append_left _ hmem, hvalid.of_spares hspares⟩
  · exact .inr ⟨hapart, digest, List.mem_append_right _ hmem, hvalid⟩

/-- What writes no file leaves the manifest alone, whatever was computed. -/
theorem Unwritten.vouches (h : Unwritten w w')
    (hapart : w.settings.ManifestApart w.desk.disk) (digests : List String) :
    Vouches digests w w' :=
  ⟨h.settings, h.tool, h.whole, .inl (h.spares_of_nothing hapart)⟩

end

/-- An emit leaves the manifest file alone, or a valid manifest with the digest that it gives,
unless it spoils the file. -/
theorem vouches_emit (hwhole : w.Whole) (hapart : w.settings.ManifestApart w.desk.disk) :
    Vouches w.emitWrites w (emit.on w).2 := by
  have hstill := still_currentManifest true w
  unfold emitWrites emit
  rcases hm : (currentManifest true).on w with ⟨f | m, w₁⟩
  all_goals
    rw [hm] at hstill
    have h₁ := hstill.vouches hapart []
    have hmade := (on_manifestToWrite_of_whole hwhole).trans hm
  · rw [on_bind_of_error hmade]
    exact h₁
  rw [on_bind_of_ok hmade]
  have hstayed := ignores_whole.relates_writeManifest m w₁
  rcases hd : (writeManifest m).on w₁ with ⟨f | digest, w₂⟩
  all_goals rw [hd] at hstayed
  · rw [on_bind_of_error hd]
    have hunwritten : Unwritten w₁ w₂ := ⟨writeManifest_error hd, hstayed⟩
    exact h₁.trans (hunwritten.vouches h₁.apart [])
  have hwrites := writes_writeManifest m w₁
  rw [hd] at hwrites
  obtain ⟨hapart₂, hvalid⟩ := hasValid_writeManifest (flaw?_of_currentManifest hm) h₁.apart hd
  rw [on_bind_of_ok hd, on_get_bind, on_bind_of_ok (on_say _ _ _ _), on_pure]
  have hspares := Settings.SparesManifest.of_note w₂.desk hapart₂
    ⟨.info, "orchestrator", s!"Wrote {m.probes.length} probes to " ++ w₂.settings.manifestPath.text⟩
  refine h₁.trans ⟨hwrites.settings, hwrites.tool, hstayed, .inr ⟨hspares.apart, digest, ?_, ?_⟩⟩
  · exact List.mem_singleton_self digest
  · exact hvalid.of_spares hspares

/-! ### Cycles -/

/-- What may become of the manifest file in a part of a cycle: it stays, and no digest is computed, or
it holds a valid manifest with the digest that was computed last. -/
structure Accounted (w w' : Workspace) : Prop where
  /-- The settings stay. -/
  settings : w'.settings = w.settings
  /-- The build tool stays. -/
  tool : w'.desk.tool = w.desk.tool
  /-- What can be written still can. -/
  whole : w.Whole → w'.Whole
  /-- The manifest file is accounted for. -/
  manifest :
    (w.settings.SparesManifest w.desk.disk w'.desk.disk ∧
        w'.detector.lastComputed = w.detector.lastComputed) ∨
      (w.settings.ManifestApart w'.desk.disk ∧ ∃ digest,
        w'.detector.lastComputed = some digest ∧ w.settings.HasValid w'.desk.disk digest)

theorem Accounted.trans (h : Accounted w w') (h' : Accounted w' w'') : Accounted w w'' := by
  refine ⟨h'.settings.trans h.settings, h'.tool.trans h.tool, fun hw => h'.whole (h.whole hw), ?_⟩
  have hsecond := h'.manifest
  rw [h.settings] at hsecond
  rcases hsecond with ⟨hspares, hsame⟩ | hvalid
  · rcases h.manifest with ⟨hspares₁, hsame₁⟩ | ⟨-, digest, hdigest, hvalid⟩
    · exact .inl ⟨hspares₁.trans hspares, hsame.trans hsame₁⟩
    · exact .inr ⟨hspares.apart, digest, hsame.trans hdigest, hvalid.of_spares hspares⟩
  · exact .inr hvalid

theorem Accounted.apart (h : Accounted w w') : w'.settings.ManifestApart w'.desk.disk := by
  rw [h.settings]
  rcases h.manifest with ⟨hspares, -⟩ | ⟨hapart, -⟩
  · exact hspares.apart
  · exact hapart

/-- The digest that a part of a cycle computed last is vouched for. -/
theorem Accounted.vouches (h : Accounted w w') :
    Vouches w'.detector.lastComputed.toList w w' := by
  refine ⟨h.settings, h.tool, h.whole, h.manifest.imp (·.1) ?_⟩
  rintro ⟨hapart, digest, hdigest, hvalid⟩
  exact ⟨hapart, digest, by simp [hdigest], hvalid⟩

/-- What comes next finds a project that is as whole and apart as it was. -/
theorem Accounted.next (h : Accounted w w') (hwhole : w.Whole)
    (htool : w.desk.tool.SparesManifest w.settings)
    (hnext : w'.Whole → w'.settings.ManifestApart w'.desk.disk →
      w'.desk.tool.SparesManifest w'.settings → Accounted w' w'') : Accounted w w'' :=
  h.trans (hnext (h.whole hwhole) h.apart (h.vouches.sparesTool htool))

/-- What writes no file and computes no digest is accounted for. -/
theorem Still.accounted (h : Still w w') (hapart : w.settings.ManifestApart w.desk.disk) :
    Accounted w w' :=
  ⟨h.settings, h.tool, h.whole, .inl ⟨h.spares_of_nothing hapart, congrArg _ h.detector⟩⟩

theorem detector_writeManifest (m : Manifest) (w : Workspace) :
    ((writeManifest m).on w).2.detector = w.detector := by
  have hdisk {α : Type} (a : Act Disk α) :
      Preserves (fun v => v.detector = w.detector) (onDisk a) := by
    intro v hv
    rw [on_onDisk]
    exact hv
  unfold writeManifest
  rw [on_get_bind]
  exact preserves_bind (hdisk _) (fun _ => preserves_bind (hdisk _) fun _ => preserves_pure _) w rfl

/-- Up to its build command a cycle accounts for the manifest file. -/
theorem accounted_prepare (hwhole : w.Whole)
    (hapart : w.settings.ManifestApart w.desk.disk) : Accounted w (prepare.on w).2 := by
  have hstill := still_currentManifest true w
  unfold prepare
  rcases hm : (currentManifest true).on w with ⟨f | m, w₁⟩
  all_goals
    rw [hm] at hstill
    have h₁ := hstill.accounted hapart
    have hmade := (on_manifestToWrite_of_whole hwhole).trans hm
  · rwa [on_bind_of_error hmade]
  rw [on_bind_of_ok hmade]
  refine h₁.trans ?_
  have hstayed := ignores_whole.relates_writeManifest m w₁
  rcases hd : (writeManifest m).on w₁ with ⟨f | digest, w₂⟩
  all_goals rw [hd] at hstayed
  · rw [on_bind_of_error hd]
    have hsame := detector_writeManifest m w₁
    rw [hd] at hsame
    exact Still.accounted ⟨⟨writeManifest_error hd, hstayed⟩, hsame⟩ h₁.apart
  have hwrites := writes_writeManifest m w₁
  rw [hd] at hwrites
  obtain ⟨hapart₂, hvalid⟩ := hasValid_writeManifest (flaw?_of_currentManifest hm) h₁.apart hd
  rw [on_bind_of_ok hd, on_modify_bind, on_get_bind, on_bind_of_ok (on_say _ _ _ _), on_pure]
  have hspares := Settings.SparesManifest.of_note w₂.desk hapart₂
    ⟨.info, "build", "Running native build: " ++ " ".intercalate w₂.settings.command⟩
  exact ⟨hwrites.settings, hwrites.tool, hstayed,
    .inr ⟨hspares.apart, digest, rfl, hvalid.of_spares hspares⟩⟩

/-- So does its beginning, with a build tool that leaves the manifest alone. -/
theorem accounted_beginCycle (hwhole : w.Whole)
    (hapart : w.settings.ManifestApart w.desk.disk)
    (htool : w.desk.tool.SparesManifest w.settings) : Accounted w (beginCycle.on w).2 := by
  have hprepared := accounted_prepare hwhole hapart
  rw [on_beginCycle]
  rcases hp : prepare.on w with ⟨f | m, w₁⟩
  all_goals rw [hp] at hprepared
  · exact hprepared
  dsimp only
  rcases hs : w₁.desk.tool.start w₁.settings.command w₁.settings.root w₁.desk.disk with
    e | ⟨disk, status⟩
  · exact hprepared
  rw [← hprepared.tool, ← hprepared.settings] at htool
  exact hprepared.trans ⟨rfl, rfl, id, .inl ⟨htool _ _ _ hs hprepared.apart, rfl⟩⟩

/-- The end of a cycle computes no digest. -/
theorem lastComputed_endCycle (c : Cycle) (status : Int) (w : Workspace) :
    ((endCycle c status).on w).2.detector.lastComputed = w.detector.lastComputed := by
  by_cases hstatus : status = 0
  · subst hstatus
    let Same (v : Workspace) : Prop := v.detector.lastComputed = w.detector.lastComputed
    have hdisk {α : Type} (a : Act Disk α) : Preserves Same (onDisk a) := by
      intro v hv
      rw [on_onDisk]
      exact hv
    have hsay (message : String) : Preserves Same (say .info "orchestrator" message) := by
      intro v hv
      rw [on_say]
      exact hv
    have hrecord : Preserves Same (recordBuild c) := by
      intro v hv
      unfold recordBuild
      rw [on_modify_bind, on_get_bind]
      exact hdisk _ _ hv
    rw [endCycle_zero]
    exact preserves_bind (hdisk _) (fun _ => preserves_bind hrecord fun _ => hsay _) w rfl
  · rw [endCycle_of_ne hstatus]

/-- The end of a cycle leaves the manifest file alone. -/
theorem accounted_endCycle (c : Cycle) (status : Int)
    (hapart : w.settings.ManifestApart w.desk.disk) :
    Accounted w ((endCycle c status).on w).2 := by
  have hwrites := writes_endCycle c status w
  exact ⟨hwrites.settings, hwrites.tool, ignores_whole.relates_endCycle c status w,
    .inl ⟨hwrites.spares hapart hapart.records, lastComputed_endCycle c status w⟩⟩

theorem accounted_runCycle (status : Int) (hwhole : w.Whole)
    (hapart : w.settings.ManifestApart w.desk.disk)
    (htool : w.desk.tool.SparesManifest w.settings) :
    Accounted w ((runCycle status).on w).2 := by
  have hbegun := accounted_beginCycle hwhole hapart htool
  unfold runCycle
  rcases hb : beginCycle.on w with ⟨f | ⟨c, ended⟩, w₁⟩
  all_goals rw [hb] at hbegun
  · rwa [on_bind_of_error hb]
  · rw [on_bind_of_ok hb]
    exact hbegun.trans (accounted_endCycle c (ended.getD status) hbegun.apart)

/-! ### One-shot runs -/

/-- A one-shot run leaves the manifest file alone, or a valid manifest with the digest that was computed
last. -/
theorem vouches_runOnce (status : Int) (hapart : w.settings.ManifestApart w.desk.disk)
    (htool : w.desk.tool.SparesManifest w.settings) :
    Vouches ((runOnce status).on w).2.detector.lastComputed.toList w ((runOnce status).on w).2 := by
  have hchecked : Unwritten w (check.on w).2 := ⟨relates_check w, ignores_whole.relates_check w⟩
  rw [runOnce]
  rcases hc : check.on w with ⟨f | report, w₁⟩
  all_goals rw [hc] at hchecked
  · rw [on_bind_of_error hc]
    exact hchecked.vouches hapart _
  rw [on_bind_of_ok hc]
  split
  · have h₁ := hchecked.vouches hapart []
    have hcycle := h₁.trans
      (accounted_runCycle status (whole_of_check hc) h₁.apart (h₁.sparesTool htool)).vouches
    rw [on_bind]
    rcases hr : (runCycle status).on w₁ with ⟨f | ⟨⟩, w₂⟩
    all_goals
      rw [hr] at hcycle
      exact hcycle
  · exact hchecked.vouches hapart _

end Workspace

end ProbeKit
