import ProbeKit.Proofs.Manifest.Texts
import ProbeKit.Proofs.Manifest.Valid
import ProbeKit.Proofs.Workspace.Agreement
import ProbeKit.Proofs.Workspace.Events
import ProbeKit.Proofs.Workspace.Opening

/-!
# Projects that are opened again

A manifest that was written is taken up again when its project is opened the next time.  It comes
through the file as it was made: it was made with all defaults filled in
(`Workspace.withDefaults_of_currentManifest`), so that nothing is filled in when it is read.  Whoever
opens the project then makes the manifest that is in the file (`Settings.reuses_of_stores`), and finds
nothing to build if a build of it was recorded (`Workspace.on_runOnce_of_agrees`).
-/

namespace ProbeKit

open Act

/-! ### Manifests with their defaults -/

/-- A manifest that is read has its defaults if it had them when it was written. -/
theorem Manifest.Valid.withDefaults_reread {m : Manifest} (hvalid : m.Valid)
    (h : m.withDefaults = m) : m.reread.withDefaults = m.reread := by
  have hprobes : m.probes.map Probe.withDefault = m.probes.map id :=
    (congrArg Manifest.probes h).trans (List.map_id _).symm
  refine Manifest.withDefaults_eq_self fun p hp => ?_
  rw [hvalid.probes_reread] at hp
  exact List.map_inj_left.1 hprobes p (List.mem_mergeSort.1 hp)

/-- Files and plugins give manifests with their defaults. -/
theorem Source.withDefaults_of_load {source : Source} {m : Manifest}
    (h : source.load.1 = .ok (some m)) : m.withDefaults = m := by
  cases source with
  | scan => cases h
  | file path m' =>
    cases h
    exact m'.withDefaults_withDefaults
  | broken path flaw => cases h
  | plugin path recipe =>
    change (recipe.make path).1.map (fun m => some m.withDefaults) = _ at h
    cases hmade : (recipe.make path).1 with
    | error f =>
      rw [hmade] at h
      cases h
    | ok m' =>
      rw [hmade] at h
      cases h
      exact m'.withDefaults_withDefaults

namespace Workspace

variable {w w' : Workspace} {m : Manifest}

theorem withDefaults_of_scanned (h : (scanned >>= sound).on w = (.ok m, w')) :
    m.withDefaults = m := by
  rw [on_bind_of_ok (on_scanned w)] at h
  obtain ⟨-, rfl, -⟩ := on_sound_eq_ok.1 h
  exact Manifest.withDefaults_ofAggregates _ _ w.scanner.catalog.probes

/-- **A manifest that could be made has its defaults**, wherever it comes from. -/
theorem withDefaults_of_currentManifest {again : Bool}
    (h : (currentManifest again).on w = (.ok m, w')) : m.withDefaults = m := by
  by_cases hs : w.source = .scan
  · rw [on_currentManifest_of_scan hs] at h
    obtain ⟨-, w₁, -, hscanned⟩ := on_bind_eq_ok.1 h
    exact withDefaults_of_scanned hscanned
  · rw [on_currentManifest_of_not_scan hs] at h
    obtain ⟨made, w₁, hmade, hsound⟩ := on_bind_eq_ok.1 h
    obtain ⟨hload, -⟩ := on_ofExcept_eq_ok.1 hmade
    cases made with
    | none => exact withDefaults_of_scanned hsound
    | some m' =>
      obtain ⟨-, rfl, -⟩ := on_sound_eq_ok.1 hsound
      exact Source.withDefaults_of_load hload

theorem withDefaults_of_beginCycle {c : Cycle} {started : Option Int}
    (h : beginCycle.on w = (.ok (c, started), w')) : c.manifest.withDefaults = c.manifest := by
  obtain ⟨m, w₁, hm, hbehind⟩ := on_bind_eq_ok.1 h
  obtain ⟨digest, w₂, -, hlast⟩ := on_bind_eq_ok.1 hbehind
  rw [on_modify_bind] at hlast
  obtain ⟨status, w₃, -, hmade⟩ := on_bind_eq_ok.1 hlast
  cases hmade
  exact withDefaults_of_currentManifest (on_currentManifest_of_manifestToWrite hm)

/-- A manifest that comes from a valid file with all defaults is that of the file. -/
theorem on_currentManifest_of_file {path : Path} (hvalid : m.Valid) (hdefaults : m.withDefaults = m)
    (hsource : w.source = .file path m) (haggregates : w.aggregates = []) (again : Bool) :
    (currentManifest again).on w = (.ok m, w) := by
  have hload : w.source.load = (.ok (some m), .file path m) := by
    rw [hsource, Source.load, hdefaults]
  have hsame : { w with aggregates := [], source := w.source.load.2 } = w := by
    rw [hload, ← hsource, ← haggregates]
  rw [on_currentManifest_of_not_scan (by rw [hsource]; exact nofun), hsame, hload]
  exact on_sound_eq_ok.2 ⟨Manifest.flaw?_eq_none_iff.2 hvalid, rfl, rfl⟩

/-- An emit stores its manifest. -/
theorem stores_emit {made : Emitted} (hapart : w.settings.OutputsApart w.desk.disk)
    (h : emit.on w = (.ok made, w')) :
    ∃ m : Manifest, m.Valid ∧ m.withDefaults = m ∧ m.digest = made.digest ∧
      w.settings.Stores w'.desk.disk m.reread := by
  obtain ⟨m, w₁, hm, hbehind⟩ := on_bind_eq_ok.1 h
  obtain ⟨digest, w₂, hwritten, hlast⟩ := on_bind_eq_ok.1 hbehind
  have hm := on_currentManifest_of_manifestToWrite hm
  have hflaw := flaw?_of_currentManifest hm
  have hmakes := relates_currentManifest true w
  rw [hm] at hmakes
  have hapart₁ := hapart.of_writes (hmakes.disk hapart.isDir)
  have hwrites := writes_writeManifest m w₁
  rw [hwritten] at hwrites
  have hapart₂ := hapart₁.of_writes (hwrites.disk hapart₁.isDir)
  have hstores := stores_writeManifest hflaw hapart₁.isDir hwritten
  rw [hmakes.settings] at hstores
  obtain rfl := digest_of_writeManifest hwritten
  rw [on_get_bind, on_bind_of_ok (on_say _ _ _ _), on_pure] at hlast
  cases hlast
  refine ⟨m, Manifest.flaw?_eq_none_iff.1 hflaw, withDefaults_of_currentManifest hm, rfl, ?_⟩
  exact hstores.of_writes (Desk.mayWrite_note _ w₂.desk hapart₂.isDir) hapart₂ fun _ hq => hq.elim

end Workspace

/-! ### Opening a project again -/

theorem Disk.look_of_read? {d : Disk} {p : Path} {bytes : ByteArray} (h : d.read? p = some bytes) :
    d.look p = .ok (some (.file bytes)) := by
  obtain ⟨place, hl⟩ := Disk.read?_eq_some_iff.1 h
  rw [Disk.look, hl]

theorem Disk.hasNull_append (s t : String) : hasNull (s ++ t) = (hasNull s || hasNull t) := by
  rw [hasNull, String.toList_append, List.contains_append]
  rfl

/-- What stands beside a file that can be read has no null character in its path either. -/
theorem Sidecar.noNull_of_beside {d : Disk} {p q : Path} {suffix : String} {bytes : ByteArray}
    (hread : d.read? p = some bytes) (hsuffix : Disk.hasNull suffix = false)
    (h : beside p suffix = .ok q) : ¬q.names.any Disk.hasNull := by
  have hnull := Disk.noNull_of_read? hread
  have hne : p.names ≠ [] := by
    intro hnil
    simp [beside, hnil] at h
  obtain ⟨names, name, hnames⟩ := List.eq_nil_or_concat p.names |>.resolve_left hne
  rw [List.concat_eq_append] at hnames
  have hq : q.names = names ++ [name ++ suffix] := by
    rw [names_of_beside h, Path.child, Path.parent, Path.name, hnames]
    simp
  rw [hnames] at hnull
  rw [hq, List.any_append, List.any_eq_false.2 fun n hn => by
    simp [hnull n (List.mem_append_left _ hn)]]
  simp [Disk.hasNull_append, hnull name (by simp), hsuffix]

namespace Settings

variable {s : Settings} {d : Desk} {m : Manifest}

/-- The desk of a project once it is found to have a manifest. -/
def reusing (s : Settings) (d : Desk) : Desk :=
  d.note ⟨.debug, "sources", "Reusing existing manifest " ++ s.manifestPath.text⟩

theorem on_resolve_of_stores (h : s.Stores d.disk m) :
    (Source.resolve s false).on d = (.ok (.file s.manifestPath m), s.reusing d) := by
  obtain ⟨bytes, hread, hbytes⟩ := h.exists_bytes
  have hexisting : Source.existing? d.room d.disk s = some (.ok m) := by
    rw [Source.existing?, hread, Option.bind_some]
    exact Manifest.ofBytes?_eq_some_iff.1 (hbytes d.room)
  unfold Source.resolve
  rw [if_neg Bool.false_ne_true, on_get_bind, Disk.look_of_read? hread, hexisting]
  rfl

/-- What comes of opening a project that has a manifest. -/
theorem on_openUp_of_stores (h : s.Stores d.disk m) (force : Bool) :
    (Workspace.openUp s false force).on d =
      match Scanner.ofSettings (s.reusing d).disk s, Sidecar.path s.manifestPath with
      | .error e, _ => (.error (.disk e), s.reusing d)
      | .ok _, .error f => (.error f, s.reusing d)
      | .ok scanner, .ok own =>
        (.ok
          { settings := s, source := .file s.manifestPath m, scanner, force
            detector := Detector.ofSidecar ((s.reusing d).disk.read? own), desk := s.reusing d },
          s.reusing d) := by
  obtain ⟨bytes, hread, -⟩ := h.exists_bytes
  unfold Workspace.openUp openScanner
  rw [on_bind_of_ok (on_resolve_of_stores h), on_bind, on_get_bind]
  cases Scanner.ofSettings (s.reusing d).disk s with
  | error e => rfl
  | ok scanner =>
    cases hown : Sidecar.path s.manifestPath with
    | error f => rfl
    | ok own =>
      have hsidecar : (s.reusing d).disk.readIfAny own = .ok ((s.reusing d).disk.read? own) := by
        rw [Disk.readIfAny_eq, if_neg (Sidecar.noNull_of_beside hread (by decide) hown)]
      dsimp only [on_ofExcept_ok]
      rw [on_bind_of_ok (on_ofExcept_ok _ _ _), on_get_bind, hsidecar]
      rfl

/-- What was opened has its source in the file of the manifest. -/
theorem openUp_ok_of_stores (h : s.Stores d.disk m) {force : Bool} {w : Workspace} {d' : Desk}
    (hopen : (Workspace.openUp s false force).on d = (.ok w, d')) :
    d' = s.reusing d ∧ ∃ scanner own, Sidecar.path s.manifestPath = .ok own ∧
      w =
        { settings := s, source := .file s.manifestPath m, scanner, force
          detector := Detector.ofSidecar ((s.reusing d).disk.read? own), desk := s.reusing d } := by
  rw [on_openUp_of_stores h] at hopen
  split at hopen
  · cases hopen
  · cases hopen
  · rename_i scanner own _ hown
    cases hopen
    exact ⟨rfl, scanner, own, hown, rfl⟩

/-- Whoever opens a project anew takes its manifest file for the source of a manifest and makes that
manifest, however often. -/
structure Reuses (s : Settings) (d : Desk) (m : Manifest) : Prop where
  /-- The source is the file. -/
  source : ((Source.resolve s false).on d).1 = .ok (.file s.manifestPath m)
  /-- The manifest is made, and everything stays as it is. -/
  manifest : ∀ force w d', (Workspace.openUp s false force).on d = (.ok w, d') →
    w.source = .file s.manifestPath m ∧
      ∀ again, (Workspace.currentManifest again).on w = (.ok m, w)
  /-- The project is opened unless its directories cannot be resolved or the manifest has no name. -/
  fault : ∀ force f d', (Workspace.openUp s false force).on d = (.error f, d') →
    (∃ e, f = .disk e ∧ Scanner.ofSettings d'.disk s = .error e) ∨
      Sidecar.path s.manifestPath = .error f

/-- **A manifest that is stored is reused.** -/
theorem reuses_of_stores (hvalid : m.Valid) (hdefaults : m.withDefaults = m)
    (h : s.Stores d.disk m) : s.Reuses d m := by
  refine ⟨by rw [on_resolve_of_stores h], fun force w d' hopen => ?_, fun force f d' hopen => ?_⟩
  · obtain ⟨-, scanner, own, -, rfl⟩ := openUp_ok_of_stores h hopen
    exact ⟨rfl, Workspace.on_currentManifest_of_file hvalid hdefaults rfl rfl⟩
  · rw [on_openUp_of_stores h] at hopen
    split at hopen
    · rename_i e hscanner
      cases hopen
      exact .inl ⟨e, rfl, hscanner⟩
    · rename_i f' _ hpath
      cases hopen
      exact .inr hpath
    · cases hopen

end Settings

/-! ### Running again -/

theorem Desk.noteAll_concat (records : List Record) (r : Record) (d : Desk) :
    d.noteAll (records ++ [r]) = (d.noteAll records).note r := List.foldl_append

namespace Workspace

/-- What the journal says when a build is skipped. -/
def skipRecords (m : Manifest) (snapshot : Option (List String)) : List Record :=
  Detector.snapshotRecords m snapshot ++
    [⟨.info, "orchestrator", "Manifest unchanged (" ++ m.digest ++ "); skipping build"⟩]

/-- A run whose manifest was built last writes in the journal only. -/
theorem on_runOnce_of_not_due {w w₁ : Workspace} {m : Manifest} {snapshot : Option (List String)}
    (hm : (currentManifest true).on w = (.ok m, w₁))
    (hsnapshot :
      Sidecar.snapshot w₁.desk.room w₁.desk.disk (some w₁.settings.snapshotPath) = .ok snapshot)
    (hdue : w₁.detector.isDue m.digest w₁.force = false) (status : Int) :
    (runOnce status).on w = (.ok ⟨m.digest, false⟩,
      { w₁ with
        detector := w₁.detector.observe m.digest
        desk := w₁.desk.noteAll (skipRecords m snapshot) }) := by
  -- The comparison reads the snapshot only to say what has changed; whether to build hangs on the
  -- digest.
  obtain ⟨report, hcompared, hdigest, hnot⟩ : ∃ report, (compareAll m).on w₁ = (.ok report,
      { w₁ with
        desk := w₁.desk.noteAll (Detector.snapshotRecords m snapshot)
        detector := w₁.detector.observe m.digest }) ∧
      report.digest = m.digest ∧ report.due = false := by
    rw [on_compareAll hsnapshot]
    exact ⟨_, rfl, rfl, hdue⟩
  have hchecked : check.on w = (.ok report,
      { w₁ with
        detector := w₁.detector.observe m.digest
        desk := w₁.desk.noteAll (skipRecords m snapshot) }) := by
    rw [check, on_bind_of_ok hm, on_bind_of_ok hcompared, hnot, hdigest, skipRecords,
      Desk.noteAll_concat]
    exact on_bind_of_ok (on_say _ _ _ _) _
  rw [runOnce, on_bind_of_ok hchecked, hnot, hdigest]
  rfl

/-- **Where all outputs belong to a manifest, a run in a project that was opened anew skips the build**
and writes in the journal only. -/
theorem on_runOnce_of_agrees {s : Settings} {d d' : Desk} {m : Manifest} {written : List Path}
    {w : Workspace} (hvalid : m.Valid) (hdefaults : m.withDefaults = m)
    (hagrees : s.Agrees d.disk m written) (htop : d.disk.top.isDir = true)
    (hlog : ∀ own, Sidecar.path s.manifestPath = .ok own → d.disk.NotHeld own)
    (hsnapshot : d.disk.NotHeld s.snapshotPath)
    (hopen : (openUp s false false).on d = (.ok w, d')) (status : Int) :
    (runOnce status).on w = (.ok ⟨m.digest, false⟩,
      { w with
        detector := w.detector.observe m.digest
        desk := d'.noteAll (skipRecords m (some m.entries)) }) := by
  obtain ⟨hdesk, scanner, own, hown, hw⟩ := Settings.openUp_ok_of_stores hagrees.file hopen
  have hmade : (currentManifest true).on w = (.ok m, w) :=
    ((s.reuses_of_stores hvalid hdefaults hagrees.file).manifest _ _ _ hopen).2 true
  -- The journal disturbs neither the snapshot nor the line of the sidecar.
  have hnoted := d.mayWrite_note
    ⟨.debug, "sources", "Reusing existing manifest " ++ s.manifestPath.text⟩ htop
  have hlines := Sidecar.snapshot_of_read? (s.reusing d).room
    (hnoted.read?_eq_some htop hagrees.snapshot hsnapshot fun _ hq => hq.elim)
  have hline : (s.reusing d).disk.read? own = some (Text.encode (m.digest ++ "\n")) := by
    obtain ⟨own', hown', hmem⟩ := hagrees.own
    obtain rfl : own = own' := Except.ok.inj (hown.symm.trans hown')
    exact hnoted.read?_eq_some htop (hagrees.sidecars own hmem) (hlog own hown) fun _ hq => hq.elim
  subst hdesk
  rw [hline] at hw
  subst hw
  exact on_runOnce_of_not_due hmade hlines (Detector.isDue_ofSidecar_line m) status

end Workspace

end ProbeKit
