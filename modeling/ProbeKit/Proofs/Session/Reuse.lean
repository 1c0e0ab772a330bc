import ProbeKit.Proofs.Session.Validity
import ProbeKit.Proofs.Workspace.Reopening

/-!
# Manifests are reused

A manifest that was written, by an emit or by a cycle that ended well, is what a fresh session of the
project starts from: it takes the file for its source, makes the same manifest from it whenever it is
asked to, and after a cycle it finds nothing to build (`Session.reuses_and_skips`).  It may be another
process with another log, and the sources need not be what they were, as long as the manifest, its
sidecar and the snapshot are left alone (`Settings.Undisturbed`).
-/

namespace ProbeKit

open Act

namespace Settings

variable {s : Settings} {d d' : Disk} {m : Manifest} {written : List Path}

/-- A file that a fresh session looks at: the manifest, its sidecar or the snapshot. -/
def Consults (s : Settings) (q : Path) : Prop :=
  q = s.manifestPath ∨ Sidecar.path s.manifestPath = .ok q ∨ q = s.snapshotPath

/-- Someone else may change the disk, but leaves alone what a fresh session looks at. -/
structure Undisturbed (s : Settings) (d d' : Disk) : Prop where
  /-- The top is a directory. -/
  isDir : d'.top.isDir = true
  /-- The log is kept elsewhere. -/
  log : ∀ q, s.Consults q → d'.NotHeld q
  /-- The files read as before. -/
  read : ∀ q, s.Consults q → d'.read? q = d.read? q

theorem Undisturbed.refl (h : s.OutputsApart d) : s.Undisturbed d d := by
  refine ⟨h.isDir, ?_, fun _ _ => rfl⟩
  rintro q (rfl | hown | rfl)
  · exact h.manifestLog
  · exact h.logs q (.inl (.inl hown))
  · exact h.logs _ (.inr rfl)

theorem Stores.of_undisturbed (h : s.Stores d m) (hd : s.Undisturbed d d') : s.Stores d' m := by
  intro room
  rw [hd.read _ (.inl rfl)]
  exact h room

/-- Of the outputs those that a fresh session looks at still agree. -/
theorem Agrees.of_undisturbed (h : s.Agrees d m written) (hd : s.Undisturbed d d') :
    ∃ own, s.Agrees d' m [own] := by
  obtain ⟨own, hown, hmem⟩ := h.own
  refine ⟨own, h.file.of_undisturbed hd, ⟨own, hown, List.mem_singleton_self own⟩,
    fun q hq => ?_, ?_⟩
  · rw [List.mem_singleton.1 hq, hd.read own (.inr (.inl hown))]
    exact h.sidecars own hmem
  · rw [hd.read _ (.inr (.inr rfl))]
    exact h.snapshot

/-- A fresh session starts from a manifest with a digest. -/
def ReusesDigest (s : Settings) (d : Desk) (digest : String) : Prop :=
  ∃ m : Manifest, m.digest = digest ∧ s.Reuses d m

end Settings

namespace Session

/-- In a fresh session a run that is not forced reports that the manifest with a digest was built, and
leaves everything alone but the journal. -/
def Skips (s : Settings) (d : Desk) (digest : String) : Prop :=
  ∀ status session d', (openUp s false false).on d = (.ok session, d') →
    (session.buildOnce status).lastOutcome = some (.ok (some ⟨digest, false⟩)) ∧
      ∃ records, (session.buildOnce status).desk = d'.noteAll records

/-- A cycle of a session begins, anything goes on that leaves the manifest alone, and the cycle ends
well. -/
inductive Builds (s : Session) (c : Cycle) (t : Session) : Prop
  /-- From its beginning to its end. -/
  | cycle {s₁ s₂ : Session} {started : Option Int} {status : Int}
    (hbegin : Workspace.beginCycle.on s.workspace = (.ok (c, started), s₁.workspace))
    (hmeanwhile : s₁.Meanwhile s₂) (hend : s₂.endCycle c status = (.ok (), t))

/-! ### Cycles that ended well -/

/-- Nothing needs to go on while the build command runs. -/
theorem Builds.of_endCycle {s : Session} {c : Cycle} {started : Option Int} {w w' : Workspace}
    (hbegin : Workspace.beginCycle.on s.workspace = (.ok (c, started), w))
    (hend : (Workspace.endCycle c 0).on w = (.ok (), w')) : s.Builds c { workspace := w' } := by
  let t : Session := { workspace := w }
  have hended : t.endCycle c 0 = (.ok (), { workspace := w' }) := by
    unfold endCycle
    rw [hend]
  exact .cycle hbegin .refl hended

theorem endCycle_ok {s t : Session} {c : Cycle} {status : Int}
    (h : s.endCycle c status = (.ok (), t)) :
    (Workspace.endCycle c 0).on s.workspace = (.ok (), t.workspace) := by
  unfold endCycle at h
  rcases he : (Workspace.endCycle c status).on s.workspace with ⟨outcome, w⟩
  rw [he] at h
  cases h
  by_cases hstatus : status = 0
  · rw [← he, hstatus]
  · rw [Workspace.endCycle_of_ne hstatus] at he
    cases he

theorem Meanwhile.settings {s t : Session} (h : s.Meanwhile t) :
    t.workspace.settings = s.workspace.settings := by
  induction h with
  | refl => rfl
  | acts _ hacts ih => exact hacts.unwritten.settings.trans ih
  | edit _ _ ih => exact ih
  | tick _ _ ih => exact ih

theorem settings_of_beginCycle {w w' : Workspace} {c : Cycle} {started : Option Int}
    (h : Workspace.beginCycle.on w = (.ok (c, started), w')) : w'.settings = w.settings := by
  have hprepared := Workspace.writes_prepare w
  rw [Workspace.on_beginCycle] at h
  rcases hp : Workspace.prepare.on w with ⟨f | m, w₁⟩
  · rw [hp] at h
    cases h
  rw [hp] at h hprepared
  dsimp only at h
  split at h
  · cases h
  · cases h
    exact hprepared.settings

/-- A cycle that ended well leaves outputs apart that agree with what is read of its manifest, which is
valid and has its defaults. -/
theorem Builds.agrees {s t : Session} {c : Cycle} (h : s.Builds c t)
    (hapart : s.workspace.settings.AllApart s.desk.disk)
    (htool : s.desk.tool.Spares s.workspace.settings) :
    c.manifest.reread.Valid ∧ c.manifest.reread.withDefaults = c.manifest.reread ∧
      c.manifest.reread.digest = c.digest ∧ s.workspace.settings.OutputsApart t.desk.disk ∧
      ∃ written, s.workspace.settings.Agrees t.desk.disk c.manifest.reread written := by
  obtain ⟨hbegin, hmeanwhile, hend⟩ := h
  have hunderway := hmeanwhile.underway (Workspace.underway_of_beginCycle hapart htool hbegin)
  have hvalid := Manifest.flaw?_eq_none_iff.1 hunderway.flawless
  have hended := endCycle_ok hend
  have hwrites := (Workspace.writes_endCycle c 0 _).disk hunderway.apart.isDir
  rw [hended] at hwrites
  have hafter := hunderway.apart.toOutputsApart.of_writes hwrites
  obtain ⟨written, d, -, hagrees⟩ := Workspace.agrees_of_endCycle hunderway hended
  rw [hmeanwhile.settings, settings_of_beginCycle hbegin] at hagrees hafter
  exact ⟨hvalid.reread, hvalid.withDefaults_reread (Workspace.withDefaults_of_beginCycle hbegin),
    (Manifest.digest_reread hunderway.flawless).trans hunderway.digest.symm, hafter, written, hagrees⟩

/-! ### Fresh sessions -/

/-- A fresh session builds once as its workspace does. -/
theorem buildOnce_fresh (w : Workspace) (status : Int) :
    (buildOnce status { workspace := w }).lastOutcome =
        some (((Workspace.runOnce status).on w).1.map some) ∧
      (buildOnce status { workspace := w }).desk = ((Workspace.runOnce status).on w).2.desk := by
  have hidle : Idle { workspace := w } := ⟨rfl, rfl, rfl, rfl, rfl⟩
  obtain ⟨scheduler, -, -, hbuilt⟩ := buildOnce_eq hidle status
  rw [hbuilt]
  exact ⟨lastOutcome_withOnce _ _, rfl⟩

/-- Where the outputs agree, a fresh session skips the build. -/
theorem skips_of_agrees {s : Settings} {d : Desk} {m : Manifest} {written : List Path}
    (hvalid : m.Valid) (hdefaults : m.withDefaults = m) (hagrees : s.Agrees d.disk m written)
    (htop : d.disk.top.isDir = true) (hlog : ∀ q, s.Consults q → d.disk.NotHeld q) :
    Skips s d m.digest := by
  intro status session d' hopen
  rw [on_openUp] at hopen
  rcases ho : (Workspace.openUp s false false).on d with ⟨f | w, desk⟩
  · rw [ho] at hopen
    cases hopen
  rw [ho] at hopen
  cases hopen
  have hrun := Workspace.on_runOnce_of_agrees hvalid hdefaults hagrees htop
    (fun own hown => hlog own (.inr (.inl hown))) (hlog _ (.inr (.inr rfl))) ho status
  obtain ⟨houtcome, hdesk⟩ := buildOnce_fresh w status
  rw [houtcome, hdesk, hrun]
  exact ⟨rfl, _, rfl⟩

/-- **A manifest that was written is reused.**  All outputs are at different places.  After an emit a
fresh session takes the manifest file for its source and makes a manifest with the digest of the emit.
After a cycle that ended well, with a build command that left the manifest alone, it does so too, and a
run that is not forced skips the build with that digest and changes no file but the log.  Nothing else
needs to have happened since, but it may. -/
theorem reuses_and_skips {s : Session} (hapart : s.workspace.settings.AllApart s.desk.disk) :
    (∀ made w, Workspace.emit.on s.workspace = (.ok made, w) →
      s.workspace.settings.Undisturbed w.desk.disk w.desk.disk ∧
      ∀ d : Desk, s.workspace.settings.Undisturbed w.desk.disk d.disk →
        s.workspace.settings.ReusesDigest d made.digest) ∧
    ∀ c t, s.desk.tool.Spares s.workspace.settings → s.Builds c t →
      s.workspace.settings.Undisturbed t.desk.disk t.desk.disk ∧
      ∀ d : Desk, s.workspace.settings.Undisturbed t.desk.disk d.disk →
        s.workspace.settings.ReusesDigest d c.digest ∧ Skips s.workspace.settings d c.digest := by
  refine ⟨fun made w hemit => ?_, fun c t htool hbuilds => ?_⟩
  · have hwrites := (Workspace.writes_emit s.workspace).disk hapart.isDir
    rw [hemit] at hwrites
    refine ⟨.refl (hapart.toOutputsApart.of_writes hwrites), fun d hd => ?_⟩
    obtain ⟨m, hvalid, hdefaults, hdigest, hstores⟩ :=
      Workspace.stores_emit hapart.toOutputsApart hemit
    have hflaw := Manifest.flaw?_eq_none_iff.2 hvalid
    exact ⟨m.reread, (Manifest.digest_reread hflaw).trans hdigest, Settings.reuses_of_stores
      hvalid.reread (hvalid.withDefaults_reread hdefaults) (hstores.of_undisturbed hd)⟩
  · obtain ⟨hvalid, hdefaults, hdigest, houtputs, written, hagrees⟩ := hbuilds.agrees hapart htool
    refine ⟨.refl houtputs, fun d hd => ?_⟩
    obtain ⟨own, hagrees'⟩ := hagrees.of_undisturbed hd
    refine ⟨⟨_, hdigest, Settings.reuses_of_stores hvalid hdefaults hagrees'.file⟩, ?_⟩
    rw [← hdigest]
    exact skips_of_agrees hvalid hdefaults hagrees' hd.isDir hd.log

end Session

/-! ### A manifest that is reused -/

namespace Small

open Workspace

/-- Where the journal does not touch the disk, a project that has a manifest can be opened. -/
theorem exists_openUp {d : Desk} {m : Manifest}
    (hscanner : Scanner.ofSettings d.disk settings = .ok (scanner ∅))
    (hquiet : (settings.reusing d).disk = d.disk) (h : settings.Stores d.disk m) :
    ∃ w, (openUp settings false false).on d = (.ok w, settings.reusing d) := by
  rw [Settings.on_openUp_of_stores h, hquiet, hscanner]
  exact ⟨_, rfl⟩

/-- The manifest of a source is written by an emit, and by a cycle, and both times a fresh session that
can be opened reuses it. -/
theorem reuses_and_skips_small : ∃ (s t : Session) (made : Emitted) (w : Workspace) (c : Cycle),
    s.workspace.settings.AllApart s.desk.disk ∧ s.desk.tool.Spares s.workspace.settings ∧
    Workspace.emit.on s.workspace = (.ok made, w) ∧ s.Builds c t ∧
    s.workspace.settings.ReusesDigest w.desk made.digest ∧
    s.workspace.settings.ReusesDigest t.desk c.digest ∧
    Session.Skips s.workspace.settings t.desk c.digest ∧
    ∃ session d, (Session.openUp s.workspace.settings false false).on t.desk = (.ok session, d) := by
  let w₀ : Workspace :=
    { settings, source := .scan, scanner := scanner ∅, detector := {}
      desk := { disk := disk "" [], tool := tool none } }
  let s : Session := { workspace := w₀ }
  have hopen : Open none [] "" w₀ := ⟨rfl, rfl, rfl, ⟨∅, rfl⟩, rfl, rfl, [], kept_nil, rfl⟩
  obtain ⟨made, w, hemit, -, -, -⟩ := hopen.on_emit good_empty
  obtain ⟨w₁, hbegin, hopen₁, -⟩ := hopen.on_beginCycle good_empty
  obtain ⟨w₂, hend, hopen₂, -⟩ := hopen₁.on_endCycle (manifest "")
  have hbuilds : s.Builds ⟨manifest "", (manifest "").digest⟩ { workspace := w₂ } :=
    .of_endCycle hbegin hend
  obtain ⟨hemitted, hbuilt⟩ := Session.reuses_and_skips (s := s) (allApart_disk "" [])
  obtain ⟨hsame, hreuses⟩ := hemitted made w hemit
  obtain ⟨hsame₂, hreuses₂⟩ := hbuilt _ _ (spares_tool none) hbuilds
  refine ⟨s, _, made, w, _, allApart_disk "" [], spares_tool none, hemit, hbuilds, hreuses _ hsame,
    (hreuses₂ _ hsame₂).1, (hreuses₂ _ hsame₂).2, ?_⟩
  obtain ⟨outputs, -, hdisk⟩ := hopen₂.disk
  obtain ⟨-, -, -, -, written, hagrees⟩ := hbuilds.agrees (allApart_disk "" []) (spares_tool none)
  have hscanner : Scanner.ofSettings w₂.desk.disk settings = .ok (scanner ∅) := by
    rw [hdisk]
    exact ofSettings_disk "" outputs
  obtain ⟨v, hv⟩ := exists_openUp hscanner (noteAll_desk hopen₂.sink [_]).1 hagrees.file
  refine ⟨{ workspace := v }, settings.reusing w₂.desk, ?_⟩
  show (Session.openUp settings false false).on w₂.desk = _
  rw [Session.on_openUp, hv]

end Small

/-! ### Where it fails otherwise -/

/-- Where the file holds no manifest and there is no plugin, a fresh session scans the sources. -/
theorem Settings.scans_of_unreadable {s : Settings} {d : Desk} {bytes : ByteArray}
    (hread : d.disk.read? s.manifestPath = some bytes) (hbytes : Manifest.Unreadable d.room bytes)
    (hplugin : s.pluginPath = none) : ((Source.resolve s false).on d).1 = .ok .scan := by
  rw [on_resolve_of_unreadable hread hbytes, Source.beside, hplugin]
  rfl

namespace Small

open Workspace

theorem unreadable_empty (room : Json.Room) : Manifest.Unreadable room .empty := by
  have htext : Text.readText? .empty = some "" := by decide +kernel
  rw [Manifest.Unreadable, Manifest.parseBytes?, htext]
  exact .inr ⟨_, rfl⟩

/-- A cycle whose build command empties the manifest file ends well, and a fresh session scans the
sources. -/
theorem scans_after_eraser : ∃ (s t : Session) (c : Cycle),
    s.workspace.settings.AllApart s.desk.disk ∧ s.Builds c t ∧
      ((Source.resolve s.workspace.settings false).on t.desk).1 = .ok .scan := by
  let s : Session := { workspace := plugged settings [.manifest (bare "p")] (eraser (some 0)) }
  let c : Cycle := ⟨bare "p", (bare "p").digest⟩
  obtain ⟨w, outputs, hbegin, hsettings, hsink, hdisk, hread⟩ := on_beginCycle_eraser (some 0)
  obtain ⟨w', outputs', hend, -, -⟩ := on_endCycle_disk (by decide : Disk.IsName "snapshot.json")
    (by decide) hsettings hsink hdisk c
  have hbuilds : s.Builds c { workspace := w' } := .of_endCycle hbegin hend
  -- The end of the cycle leaves the file as it is.
  have hapart := outputsApart_disk "" outputs
  have hwrites := (writes_endCycle c 0 w).disk (by rw [hdisk]; rfl)
  rw [hend, hdisk, hsettings] at hwrites
  have hread' := hwrites.read?_eq_some rfl hread hapart.manifestLog fun q hq =>
    (hapart.manifests q hq).symm
  exact ⟨s, _, c, allApart_disk "" [], hbuilds,
    Settings.scans_of_unreadable hread' (unreadable_empty _) rfl⟩

/-- The desk of a process that keeps a log in a file of its own. -/
def logDesk (outputs : List (String × ByteArray)) (log : ByteArray) : Desk :=
  { disk := { disk "" (("log", log) :: outputs) with held := some ["p", "log"] }
    sink := some ({}, true) }

/-- Such a process leaves alone what was written. -/
theorem undisturbed_logDesk (outputs : List (String × ByteArray)) (log : ByteArray) :
    settings.Undisturbed (disk "" outputs) (logDesk outputs log).disk := by
  -- The log of the other process is none of the three files that are consulted.
  have hconsulted {q : Path} (hq : settings.Consults q) :
      ∃ name, q = ⟨.root, ["p", name]⟩ ∧ Disk.IsName name ∧ name ≠ "t" ∧ name ≠ "log" := by
    rcases hq with rfl | hown | rfl
    · exact ⟨"probes.manifest.json", rfl, by decide, by decide, by decide⟩
    · exact ⟨"probes.manifest.json.sha256", (Except.ok.inj hown).symm, by decide, by decide, by decide⟩
    · exact ⟨"snapshot.json", rfl, by decide, by decide, by decide⟩
  have hnames {name : String} (hname : Disk.IsName name) :
      ∀ n ∈ ["p", name], Disk.IsName n := by
    intro n hn
    obtain rfl | rfl : n = "p" ∨ n = name := by simpa using hn
    · decide
    · exact hname
  refine ⟨rfl, fun q hq place hplace hheld => ?_, fun q hq => ?_⟩
  · obtain ⟨name, rfl, hname, -, hlog⟩ := hconsulted hq
    have hhome := Disk.home?_of_linkFree (d := disk "" (("log", log) :: outputs))
      (p := ⟨.root, ["p", name]⟩) (hnames hname) (linkFree_disk _ _)
    have hplace' : some ["p", name] = some place := hhome.symm.trans hplace
    have hheld' : some ["p", "log"] = some place := hheld
    rw [← hheld'] at hplace'
    simp [hlog] at hplace'
  · obtain ⟨name, rfl, hname, hne, hlog⟩ := hconsulted hq
    have hview : (disk "" (("log", log) :: outputs)).top.view ["p", name] =
        (disk "" outputs).top.view ["p", name] := by
      rw [Node.view, Node.view, at?_output _ _ hne, at?_output _ _ hne, lookup_cons_ite, if_neg hlog]
    have hread (outputs : List (String × ByteArray)) (bytes : ByteArray) :
        (disk "" outputs).read? ⟨.root, ["p", name]⟩ = some bytes ↔
          (disk "" outputs).top.view ["p", name] = some (.file bytes) :=
      Disk.read?_eq_some_of_linkFree (by exact hnames hname) (linkFree_disk _ _) rfl
    refine Option.ext fun bytes => Iff.trans (hread (("log", log) :: outputs) bytes) ?_
    rw [hread]
    exact hview ▸ Iff.rfl

theorem at?_log (outputs : List (String × ByteArray)) (log : ByteArray) :
    (logDesk outputs log).disk.top.at? ["p", "log"] = some (.file log) := by
  show (disk "" (("log", log) :: outputs)).top.at? ["p", "log"] = _
  rw [at?_output _ _ (by decide)]
  rfl

/-- What is said for information stands in the log. -/
theorem view_log_note (outputs : List (String × ByteArray)) (log : ByteArray) {d : Desk}
    {message : String} (hdisk : d.disk = (logDesk outputs log).disk)
    (hsink : d.sinkOf ⟨.info, "orchestrator", message⟩ = some ({}, true)) :
    (d.note ⟨.info, "orchestrator", message⟩).disk.top.view ["p", "log"] ≠ some (.file log) := by
  obtain ⟨line, hline⟩ : ∃ line : String,
      Console.fileLine? {} (d.stamp d.journal.length) ⟨.info, "orchestrator", message⟩ =
        some (line ++ "\n") := ⟨_, rfl⟩
  have hshows : Console.shows {} ⟨.info, "orchestrator", message⟩ = true := rfl
  have hlogged : d.logged ⟨.info, "orchestrator", message⟩ =
      (logDesk outputs (log ++ Text.encode (line ++ "\n"))).disk := by
    rw [Desk.logged, hsink, hdisk]
    dsimp only
    rw [hshows, if_pos rfl, hline]
    show Disk.appendAt (logDesk outputs log).disk ["p", "log"] _ = _
    rw [Disk.appendAt, at?_log]
    simp [logDesk, disk, Node.put, Node.setEntry]
  have hnew : (d.note ⟨.info, "orchestrator", message⟩).disk.top.view ["p", "log"] =
      some (.file (log ++ Text.encode (line ++ "\n"))) := by
    rw [Desk.note, hlogged]
    exact Node.view_eq_file_iff.2 (at?_log outputs _)
  rw [hnew]
  -- The log was shorter before.
  intro hsame
  have hsize := congrArg ByteArray.size (Mark.file.inj (Option.some.inj hsame))
  simp [Text.encode] at hsize

theorem reread_bare (provider : String) : (bare provider).reread = bare provider := by
  simp [Manifest.reread, Manifest.sortedProbes, bare, Json.isVacant]

/-- With its own snapshot a manifest without probes is only said to be unchanged. -/
theorem skipRecords_bare (provider : String) :
    skipRecords (bare provider) (some (bare provider).entries) = [⟨.info, "orchestrator",
      "Manifest unchanged (" ++ (bare provider).digest ++ "); skipping build"⟩] := by
  have hnone : (bare provider).entries = [] := by
    simp [Manifest.entries, Probe.entries, Text.sorted, bare]
  have hsame : Detector.change? (bare provider) [] = none := by
    simp [Detector.change?, Snapshot.probes, bare]
  rw [skipRecords, hnone, Detector.snapshotRecords, hsame]
  rfl

/-- A process that keeps a log and skips the build writes in its log. -/
theorem logs_skip : ∃ (s t : Session) (c : Cycle) (d d' : Desk) (session : Session),
    s.workspace.settings.AllApart s.desk.disk ∧ s.desk.tool.Spares s.workspace.settings ∧
      s.Builds c t ∧ s.workspace.settings.Undisturbed t.desk.disk d.disk ∧
      (Session.openUp s.workspace.settings false false).on d = (.ok session, d') ∧
      (session.buildOnce 0).desk.disk.top.view ["p", "log"] ≠ d'.disk.top.view ["p", "log"] := by
  let s : Session := { workspace := plugged settings [.manifest (bare "p")] (tool (some 0)) }
  let c : Cycle := ⟨bare "p", (bare "p").digest⟩
  obtain ⟨w, -, outputs, hbegin, hsettings, hsink, hdisk, -, -⟩ :=
    on_beginCycle_plugged settings (tool (some 0)) rfl fun outputs => ⟨outputs, rfl⟩
  obtain ⟨w', outputs', hend, hdisk', -⟩ := on_endCycle_disk (by decide : Disk.IsName "snapshot.json")
    (by decide) hsettings hsink hdisk c
  have hbuilds : s.Builds c { workspace := w' } := .of_endCycle hbegin hend
  obtain ⟨hvalid, hdefaults, -, -, written, hagrees⟩ :=
    hbuilds.agrees (allApart_disk "" []) (spares_tool (some 0))
  have hreread : c.manifest.reread = bare "p" := reread_bare "p"
  rw [hreread] at hvalid hdefaults hagrees
  -- Another process is started, with a log.
  let d := logDesk outputs' .empty
  have hd : settings.Undisturbed w'.desk.disk d.disk := by
    rw [hdisk']
    exact undisturbed_logDesk outputs' .empty
  obtain ⟨own, hagrees'⟩ := hagrees.of_undisturbed hd
  have hquiet : (settings.reusing d).disk = d.disk := rfl
  obtain ⟨v, hv⟩ := exists_openUp (d := d) (ofSettings_disk "" (("log", .empty) :: outputs')) hquiet
    hagrees'.file
  have hopened : (Session.openUp settings false false).on d =
      (.ok { workspace := v }, settings.reusing d) := by
    rw [Session.on_openUp, hv]
  refine ⟨s, _, c, d, _, _, allApart_disk "" [], spares_tool (some 0), hbuilds, hd, hopened, ?_⟩
  have hrun : ((runOnce 0).on v).2.desk = (settings.reusing d).note
      ⟨.info, "orchestrator", "Manifest unchanged (" ++ (bare "p").digest ++ "); skipping build"⟩ := by
    rw [on_runOnce_of_agrees (s := settings) hvalid hdefaults hagrees' hd.isDir
      (fun own hown => hd.log own (.inr (.inl hown))) (hd.log _ (.inr (.inr rfl))) hv 0,
      skipRecords_bare]
    rfl
  have hbelongs : Journal.belongs ["sources"] "orchestrator" = true := by decide
  rw [(Session.buildOnce_fresh v 0).2, hrun]
  refine view_log_note outputs' .empty hquiet ?_
  show Option.filter (fun _ => Journal.belongs ["sources"] "orchestrator")
    (some (({}, true) : Console × Bool)) = _
  rw [hbelongs]
  rfl

/-- A build command that spoils the manifest is found out by the next session only, which then scans
the sources; and to skip a build leaves a line in the log. -/
theorem scans_and_logs :
    (∃ (s t : Session) (c : Cycle), s.workspace.settings.AllApart s.desk.disk ∧ s.Builds c t ∧
      ((Source.resolve s.workspace.settings false).on t.desk).1 = .ok .scan ∧
      ¬s.workspace.settings.ReusesDigest t.desk c.digest) ∧
    ∃ (s t : Session) (c : Cycle) (d d' : Desk) (session : Session),
      s.workspace.settings.AllApart s.desk.disk ∧ s.desk.tool.Spares s.workspace.settings ∧
        s.Builds c t ∧ s.workspace.settings.Undisturbed t.desk.disk d.disk ∧
        (Session.openUp s.workspace.settings false false).on d = (.ok session, d') ∧
        (session.buildOnce 0).desk.disk.top.view ["p", "log"] ≠ d'.disk.top.view ["p", "log"] := by
  refine ⟨?_, logs_skip⟩
  obtain ⟨s, t, c, hapart, hbuilds, hscan⟩ := scans_after_eraser
  refine ⟨s, t, c, hapart, hbuilds, hscan, fun ⟨m, _, hreuses⟩ => ?_⟩
  rw [hreuses.source] at hscan
  cases hscan

end Small

end ProbeKit
