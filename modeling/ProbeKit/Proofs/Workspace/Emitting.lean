import ProbeKit.Proofs.Disk.Again
import ProbeKit.Proofs.Manifest.Development
import ProbeKit.Proofs.Workspace.Events
import ProbeKit.Proofs.Workspace.Reopening

/-!
# Emitting again

An emit writes the text of the manifest that it has made (`Workspace.emit_ok`).  Whoever opens the
project anew takes that file for the source, and another emit gives the same digest and writes the
one text of the manifest (`Workspace.on_emit_of_file`).  The file stays as it is with one exception:
what a scan with probes has written in development is written without the argument lists that were
seen (`Workspace.rewrites_alike_iff`).
-/

namespace ProbeKit

open Act

/-- The file of a manifest that was read again is the one text of the manifest, in development
too. -/
theorem Manifest.Valid.fileText_reread {m : Manifest} (h : m.Valid) (development : Bool) :
    m.reread.fileText [] development = m.canonicalText := by
  have hsame : m.reread.fileText [] development = m.reread.fileText [] false := by
    rw [Manifest.fileText_eq, Manifest.fileText_eq, ite_self, ite_self]
  rw [hsame]
  exact Manifest.canonicalText_reread h.properTypes

theorem Text.encode_injective {s t : String} (h : encode s = encode t) : s = t := by
  have hdecode := decode?_encode s
  rw [h, decode?_encode] at hdecode
  exact (Option.some.inj hdecode).symm

theorem Source.load_ne_none {source : Source} (h : source ≠ .scan) : source.load.1 ≠ .ok none := by
  cases source with
  | scan => exact absurd rfl h
  | file path m => simp [Source.load]
  | broken path flaw => simp [Source.load]
  | plugin path recipe =>
    show (recipe.make path).1.map (fun m => some m.withDefaults) ≠ _
    cases (recipe.make path).1 <;> simp [Except.map]

namespace Workspace

variable {w w₁ : Workspace} {made : Emitted}

/-! ### What is emitted -/

/-- The argument lists that are listed with a manifest were seen in the scan that it comes from. -/
theorem aggregates_of_currentManifest {m : Manifest}
    (h : (currentManifest true).on w = (.ok m, w₁)) :
    (w.source = .scan → w₁.aggregates = w₁.scanner.catalog.aggregates ∧
      m = Manifest.ofAggregates w.settings.providerValue w.settings.moduleValue
        w₁.scanner.catalog.aggregates) ∧
      (w.source ≠ .scan → w₁.aggregates = []) := by
  constructor
  · intro hscan
    rw [on_currentManifest_of_scan hscan] at h
    obtain ⟨_, w₂, hrescan, hscanned⟩ := on_bind_eq_ok.1 h
    have hsettings := (overlooks_writes.relates_rescan w).settings
    rw [if_pos rfl] at hrescan
    rw [hrescan] at hsettings
    rw [on_bind_of_ok (on_scanned w₂), hsettings] at hscanned
    obtain ⟨-, rfl, rfl⟩ := on_sound_eq_ok.1 hscanned
    exact ⟨rfl, rfl⟩
  · intro hother
    rw [on_currentManifest_of_not_scan hother] at h
    obtain ⟨loaded, w₂, hload, hsound⟩ := on_bind_eq_ok.1 h
    obtain ⟨hloaded, rfl⟩ := on_ofExcept_eq_ok.1 hload
    cases loaded with
    | none => exact absurd hloaded (Source.load_ne_none hother)
    | some m' =>
      obtain ⟨-, -, rfl⟩ := on_sound_eq_ok.1 hsound
      rfl

theorem exists_withDisk_of_writeManifest {m : Manifest} {digest : String}
    (h : (writeManifest m).on w = (.ok digest, w₁)) : ∃ d, w₁ = w.withDisk d := by
  unfold writeManifest at h
  rw [on_get_bind] at h
  obtain ⟨_, w₂, hroom, h⟩ := on_bind_eq_ok.1 h
  obtain ⟨_, w₃, hwrite, h⟩ := on_bind_eq_ok.1 h
  obtain ⟨d₂, -, rfl⟩ := on_onDisk_eq.1 hroom
  obtain ⟨d₃, -, rfl⟩ := on_onDisk_eq.1 hwrite
  cases h
  exact ⟨d₃, rfl⟩

/-- What an emit leaves behind: the manifest that it has made, in its file. -/
structure Emits (w w₁ : Workspace) (made : Emitted) (m : Manifest) : Prop where
  /-- The manifest has no flaw. -/
  valid : m.Valid
  /-- It has its defaults. -/
  withDefaults : m.withDefaults = m
  /-- The outcome names the file and the digest. -/
  made : made = ⟨w.settings.manifestPath, m.digest⟩
  /-- The file holds the text of the manifest. -/
  file : w₁.desk.disk.read? w.settings.manifestPath =
    some (Text.encode (m.fileText w₁.aggregates w.settings.development))
  /-- The manifest and the argument lists come from the scan, if the source is one. -/
  scanned : w.source = .scan → w₁.aggregates = w₁.scanner.catalog.aggregates ∧
    m = Manifest.ofAggregates w.settings.providerValue w.settings.moduleValue
      w₁.scanner.catalog.aggregates
  /-- There are no argument lists otherwise. -/
  other : w.source ≠ .scan → w₁.aggregates = []

theorem emit_ok (htop : w.desk.disk.top.isDir = true)
    (hlog : w.desk.disk.NotHeld w.settings.manifestPath) (h : emit.on w = (.ok made, w₁)) :
    ∃ m, Emits w w₁ made m := by
  obtain ⟨m, w₂, hm, hbehind⟩ := on_bind_eq_ok.1 h
  obtain ⟨digest, w₃, hwritten, hlast⟩ := on_bind_eq_ok.1 hbehind
  have hm := on_currentManifest_of_manifestToWrite hm
  have hmakes := relates_currentManifest true w
  rw [hm] at hmakes
  have htop₂ := (hmakes.disk htop).isDir_top htop
  have hlog₂ := (hmakes.disk htop).notHeld hlog
  have hread := writeManifest_ok htop₂ hwritten
  have hwrites := writes_writeManifest m w₂
  rw [hwritten] at hwrites
  obtain ⟨d, rfl⟩ := exists_withDisk_of_writeManifest hwritten
  obtain rfl := digest_of_writeManifest hwritten
  have hsettings : (w₂.withDisk d).settings = w.settings := hmakes.settings
  have htop₃ := (hwrites.disk htop₂).isDir_top htop₂
  have hlog₃ := (hwrites.disk htop₂).notHeld hlog₂
  rw [on_get_bind, on_bind_of_ok (on_say _ _ _ _), on_pure, hsettings] at hlast
  cases hlast
  obtain ⟨hscan, hother⟩ := aggregates_of_currentManifest hm
  rw [hmakes.settings] at hread
  -- The journal does not disturb the manifest.
  have hkept := (Desk.mayWrite_note
    ⟨.info, "orchestrator", s!"Wrote {m.probes.length} probes to " ++ w.settings.manifestPath.text⟩
    (w₂.withDisk d).desk htop₃).read?_eq_some htop₃ hread hlog₃ fun _ hq => hq.elim
  exact ⟨m, Manifest.flaw?_eq_none_iff.1 (flaw?_of_currentManifest hm),
    withDefaults_of_currentManifest hm, rfl, hkept, hscan, hother⟩

/-- The file holds the one text of the manifest, unless it lists what a scan with probes has
seen. -/
theorem Emits.fileText_eq_iff {m : Manifest} (h : Emits w w₁ made m) :
    m.fileText w₁.aggregates w.settings.development = m.canonicalText ↔
      ¬(w.settings.development = true ∧ w.source = .scan ∧ w₁.scanner.catalog.probes ≠ []) := by
  have hflaw := Manifest.flaw?_eq_none_iff.2 h.valid
  have hplain := Manifest.plain_of_flaw?_eq_none hflaw
  have hfits := Manifest.fits_of_flaw?_eq_none hflaw (Nat.le_refl 8)
  cases hdevelopment : w.settings.development with
  | false => exact iff_of_true rfl fun hbad => Bool.false_ne_true hbad.1
  | true =>
    show m.developmentText w₁.aggregates = m.canonicalText ↔ _
    by_cases hscan : w.source = .scan
    · obtain ⟨haggregates, hm⟩ := h.scanned hscan
      rw [haggregates]
      rw [hm] at hplain hfits ⊢
      rw [Catalog.aggregates,
        Manifest.developmentText_ofAggregates_eq_iff hplain (Nat.le_refl 8) hfits]
      simp [hscan]
    · rw [h.other hscan, Manifest.developmentText_eq_iff hplain (Nat.le_refl 8) hfits]
      exact iff_of_true (fun _ _ => rfl) fun hbad => hscan hbad.2.1

/-! ### From the file -/

/-- A manifest that comes from its file is written as its one text. -/
theorem on_emit_of_file {m : Manifest} {bytes : ByteArray} (hvalid : m.Valid)
    (hdefaults : m.withDefaults = m) (hsource : w.source = .file w.settings.manifestPath m.reread)
    (haggregates : w.aggregates = []) (htop : w.desk.disk.top.isDir = true)
    (hlog : w.desk.disk.NotHeld w.settings.manifestPath)
    (hname : w.settings.manifestPath.names ≠ [])
    (hread : w.desk.disk.read? w.settings.manifestPath = some bytes) :
    ∃ w₁, emit.on w = (.ok ⟨w.settings.manifestPath, m.digest⟩, w₁) ∧
      w₁.desk.disk.read? w.settings.manifestPath = some (Text.encode m.canonicalText) := by
  have hmade := on_currentManifest_of_file hvalid.reread (hvalid.withDefaults_reread hdefaults)
    hsource haggregates true
  rw [← on_manifestToWrite_of_whole (whole_of_currentManifest hmade)] at hmade
  obtain ⟨d, hwrite⟩ := Disk.exists_write htop hread
    (Text.encode (m.reread.fileText w.aggregates w.settings.development))
  have hwritten := on_writeManifest (m := m.reread)
    (Disk.ensureDirectories_eq_self (Disk.hasDirectory_parent htop hname hread)) hwrite
  obtain ⟨hwrites, hkept⟩ := Disk.writes_write htop hwrite
  rw [haggregates, hvalid.fileText_reread] at hkept
  rw [emit, on_bind_of_ok hmade, on_bind_of_ok hwritten, on_get_bind,
    on_bind_of_ok (on_say _ _ _ _), on_pure,
    Manifest.digest_reread (Manifest.flaw?_eq_none_iff.2 hvalid)]
  exact ⟨_, rfl, (Desk.mayWrite_note _ (w.withDisk d).desk (hwrites.isDir_top htop)).read?_eq_some
    (hwrites.isDir_top htop) hkept (hwrites.notHeld hlog) fun _ hq => hq.elim⟩

section
variable {m : Manifest} (h : Emits w w₁ made m) {d : Desk}
  (hsame : d.disk.read? w.settings.manifestPath = w₁.desk.disk.read? w.settings.manifestPath)
include h hsame

theorem Emits.stores : w.settings.Stores d.disk m.reread :=
  .of_read? (hsame.trans h.file) fun room =>
    Manifest.ofBytes?_fileText_of_flaw?_eq_none room (Manifest.flaw?_eq_none_iff.2 h.valid) _ _

/-- Whoever opens the project anew has the same outcome, and writes the one text of the manifest. -/
theorem Emits.on_emit_again (htop : d.disk.top.isDir = true)
    (hlog : d.disk.NotHeld w.settings.manifestPath) {force : Bool} {v : Workspace} {d' : Desk}
    (hopen : (openUp w.settings false force).on d = (.ok v, d')) :
    ∃ v₁, emit.on v = (.ok made, v₁) ∧
      v₁.desk.disk.read? w.settings.manifestPath = some (Text.encode m.canonicalText) := by
  obtain ⟨-, scanner, own, hown, hv⟩ := Settings.openUp_ok_of_stores (h.stores hsame) hopen
  have hsettings : v.settings = w.settings := by rw [hv]
  have hdesk : v.desk = w.settings.reusing d := by rw [hv]
  have hname : w.settings.manifestPath.names ≠ [] := by
    intro hnil
    simp [Sidecar.path, Sidecar.beside, hnil] at hown
  -- To open a project writes nothing but the journal.
  have hwrites : d.disk.Writes (fun _ => False) v.desk.disk := by
    rw [hdesk]
    exact d.mayWrite_note _ htop
  have hread := hwrites.read?_eq_some htop (hsame.trans h.file) hlog fun _ hq => hq.elim
  have hheld := hwrites.notHeld hlog
  rw [← hsettings] at hname hread hheld
  obtain ⟨v₁, hagain, hfile⟩ := on_emit_of_file h.valid h.withDefaults (by rw [hv])
    (by rw [hv]) (hwrites.isDir_top htop) hheld hname hread
  rw [hsettings] at hagain hfile
  exact ⟨v₁, h.made ▸ hagain, hfile⟩

end

/-- **Whoever opens a project anew emits the same manifest again.**  The outcome is the same, and
the file stays as it is unless a scan with probes has written it in development.  Nothing is assumed
of the time in between but that the file reads as it was written. -/
theorem rewrites_alike_iff (htop : w.desk.disk.top.isDir = true)
    (hlog : w.desk.disk.NotHeld w.settings.manifestPath) (hemit : emit.on w = (.ok made, w₁))
    {d : Desk} (htop' : d.disk.top.isDir = true)
    (hlog' : d.disk.NotHeld w.settings.manifestPath)
    (hsame : d.disk.read? w.settings.manifestPath = w₁.desk.disk.read? w.settings.manifestPath)
    (force : Bool) :
    (∀ f d', (openUp w.settings false force).on d = (.error f, d') →
      (∃ e, f = .disk e ∧ Scanner.ofSettings d'.disk w.settings = .error e) ∨
        Sidecar.path w.settings.manifestPath = .error f) ∧
      ∀ v d', (openUp w.settings false force).on d = (.ok v, d') →
        ∃ v₁, emit.on v = (.ok made, v₁) ∧
          (v₁.desk.disk.read? w.settings.manifestPath = d.disk.read? w.settings.manifestPath ↔
            ¬(w.settings.development = true ∧ w.source = .scan ∧
              w₁.scanner.catalog.probes ≠ [])) := by
  obtain ⟨m, hemits⟩ := emit_ok htop hlog hemit
  have hreuses := Settings.reuses_of_stores hemits.valid.reread
    (hemits.valid.withDefaults_reread hemits.withDefaults) (hemits.stores hsame)
  refine ⟨hreuses.fault force, fun v d' hopen => ?_⟩
  obtain ⟨v₁, hagain, hfile⟩ := hemits.on_emit_again hsame htop' hlog' hopen
  refine ⟨v₁, hagain, ?_⟩
  rw [hfile, hsame.trans hemits.file, ← hemits.fileText_eq_iff]
  exact ⟨fun h => (Text.encode_injective (Option.some.inj h)).symm, fun h => by rw [h]⟩

end Workspace

/-! ### A project with one probe -/

namespace Small

/-- The project with one probe, in development or not. -/
def emitting (development : Bool) : Workspace :=
  { settings := { settings with development }, source := .scan, scanner := scanner ∅, detector := {}
    desk := { disk := disk other [], tool := tool none } }

theorem on_emit_emitting (development : Bool) : ∃ made w₁ outputs,
    Workspace.emit.on (emitting development) = (.ok made, w₁) ∧ w₁.desk.sink = none ∧
      w₁.desk.disk = disk other outputs ∧ w₁.scanner.catalog.probes ≠ [] := by
  obtain ⟨records, hrescan⟩ := rescan_disk ∅ good_other []
  have hrescan : (emitting development).scanner.rescan (emitting development).desk.disk =
      (.ok (scanner (catalog other)), records) := hrescan
  obtain ⟨hdisk, hsink, -⟩ := noteAll_desk (d := (emitting development).desk) rfl records
  obtain ⟨w₂, hmade, hsettings₂, hsink₂, hdisk₂, hscanner₂⟩ : ∃ w₂,
      (Workspace.currentManifest true).on (emitting development) = (.ok (manifest other), w₂) ∧
        w₂.settings = { settings with development } ∧ w₂.desk.sink = none ∧
          w₂.desk.disk = disk other [] ∧
            w₂.scanner = scanner (catalog other) := by
    rw [Workspace.on_currentManifest_of_scan rfl, if_pos rfl,
      on_bind_of_ok (Workspace.on_rescan hrescan), on_bind_of_ok (Workspace.on_scanned _)]
    change ∃ w₂, (Workspace.sound (manifest other)).on _ = _ ∧ _
    rw [Workspace.sound, flaw?_other]
    exact ⟨_, rfl, rfl, hsink, hdisk, rfl⟩
  -- What is left of the emit is to write the file and to say so.
  have hpath : w₂.settings.manifestPath = settings.manifestPath := by rw [hsettings₂]
  let bytes := Text.encode ((manifest other).fileText w₂.aggregates w₂.settings.development)
  let outputs := output "probes.manifest.json" bytes []
  have hwrite : (disk other []).write settings.manifestPath bytes = .ok (disk other outputs) :=
    write_output other [] (by decide) (by decide) bytes
  have hwritten : (Workspace.writeManifest (manifest other)).on w₂ =
      (.ok (manifest other).digest, w₂.withDisk (disk other outputs)) := by
    have hroom : w₂.desk.disk.ensureDirectories w₂.settings.manifestPath.parent =
        .ok (disk other []) := by
      rw [hdisk₂, hpath]
      exact ensureDirectories_disk other []
    refine Workspace.on_writeManifest hroom ?_
    rw [hpath]
    exact hwrite
  have hnoted := noteAll_desk (d := (w₂.withDisk (disk other outputs)).desk) hsink₂
    [⟨.info, "orchestrator",
      s!"Wrote {(manifest other).probes.length} probes to " ++ w₂.settings.manifestPath.text⟩]
  have hwhole : (emitting development).Whole := by
    intro path h
    cases h
  have hsame := Workspace.on_manifestToWrite_of_whole hwhole
  rw [Workspace.emit, on_bind_of_ok (hsame.trans hmade), on_bind_of_ok hwritten, on_get_bind,
    on_bind_of_ok (Workspace.on_say _ _ _ _), on_pure]
  refine ⟨_, _, outputs, rfl, hnoted.2.1, hnoted.1, ?_⟩
  show w₂.scanner.catalog.probes ≠ []
  rw [hscanner₂]
  show (catalog other).probes ≠ []
  rw [catalog, declaredProbes_other]
  exact List.cons_ne_nil _ _

theorem notHeld_disk (text : String) (outputs : List (String × ByteArray)) (p : Path) :
    (disk text outputs).NotHeld p := fun _ _ h => by cases h

/-- The project is opened again. -/
theorem exists_on_openUp_emitting {development : Bool} {d : Desk} {m : Manifest}
    {outputs : List (String × ByteArray)} (hsink : d.sink = none)
    (hdisk : d.disk = disk other outputs)
    (hstores : (emitting development).settings.Stores d.disk m) :
    ∃ v d', (Workspace.openUp (emitting development).settings false false).on d = (.ok v, d') := by
  have hscanner : Scanner.ofSettings ((emitting development).settings.reusing d).disk
      (emitting development).settings = .ok (scanner ∅) := by
    have hsame : ((emitting development).settings.reusing d).disk = d.disk :=
      (noteAll_desk hsink [_]).1
    rw [hsame, hdisk]
    exact ofSettings_disk other outputs
  rw [Settings.on_openUp_of_stores hstores, hscanner]
  exact ⟨_, _, rfl⟩

end Small

namespace Workspace

/-- Out of development the file stays as it is. -/
theorem rewrites_alike_emitting : ∃ made w₁ v d' v₁,
    (Small.emitting false).desk.disk.top.isDir = true ∧
      (Small.emitting false).desk.disk.NotHeld (Small.emitting false).settings.manifestPath ∧
      emit.on (Small.emitting false) = (.ok made, w₁) ∧ w₁.desk.disk.top.isDir = true ∧
      w₁.desk.disk.NotHeld (Small.emitting false).settings.manifestPath ∧
      (openUp (Small.emitting false).settings false false).on w₁.desk = (.ok v, d') ∧
      emit.on v = (.ok made, v₁) ∧
      v₁.desk.disk.read? (Small.emitting false).settings.manifestPath =
        w₁.desk.disk.read? (Small.emitting false).settings.manifestPath := by
  obtain ⟨made, w₁, outputs, hemit, hsink, hdisk, -⟩ := Small.on_emit_emitting false
  have htop : w₁.desk.disk.top.isDir = true := by rw [hdisk]; rfl
  have hlog : w₁.desk.disk.NotHeld (Small.emitting false).settings.manifestPath := by
    rw [hdisk]
    exact Small.notHeld_disk Small.other outputs _
  obtain ⟨m, hemits⟩ := emit_ok rfl (Small.notHeld_disk Small.other [] _) hemit
  obtain ⟨v, d', hopen⟩ := Small.exists_on_openUp_emitting hsink hdisk (hemits.stores rfl)
  obtain ⟨v₁, hagain, hiff⟩ := (rewrites_alike_iff rfl (Small.notHeld_disk Small.other [] _)
    hemit htop hlog rfl false).2 v d' hopen
  exact ⟨made, w₁, v, d', v₁, rfl, Small.notHeld_disk Small.other [] _, hemit, htop, hlog, hopen,
    hagain, hiff.2 fun hdevelopment => Bool.false_ne_true hdevelopment.1⟩

/-- **In development another emit changes the file.** -/
theorem rewrites_in_development : ∃ made w₁ v d' v₁,
    emit.on (Small.emitting true) = (.ok made, w₁) ∧
      (openUp (Small.emitting true).settings false false).on w₁.desk = (.ok v, d') ∧
      emit.on v = (.ok made, v₁) ∧
      v₁.desk.disk.read? (Small.emitting true).settings.manifestPath ≠
        w₁.desk.disk.read? (Small.emitting true).settings.manifestPath := by
  obtain ⟨made, w₁, outputs, hemit, hsink, hdisk, hprobes⟩ := Small.on_emit_emitting true
  obtain ⟨m, hemits⟩ := emit_ok rfl (Small.notHeld_disk Small.other [] _) hemit
  obtain ⟨v, d', hopen⟩ := Small.exists_on_openUp_emitting hsink hdisk (hemits.stores rfl)
  obtain ⟨v₁, hagain, hfile⟩ := hemits.on_emit_again rfl (by rw [hdisk]; rfl)
    (by rw [hdisk]; exact Small.notHeld_disk Small.other outputs _) hopen
  refine ⟨made, w₁, v, d', v₁, hemit, hopen, hagain, fun hsame => ?_⟩
  rw [hfile, hemits.file, Option.some.injEq] at hsame
  exact hemits.fileText_eq_iff.1 (Text.encode_injective hsame).symm ⟨rfl, rfl, hprobes⟩

end Workspace

end ProbeKit
