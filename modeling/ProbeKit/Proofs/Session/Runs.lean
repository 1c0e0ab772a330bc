import ProbeKit.Proofs.Session.OneShot
import ProbeKit.Proofs.Session.Phases

/-!
# Runs while a project is watched

The beginning of a cycle scans everything, so all sources are known as they are afterwards
(`Watched.begun_of_beginCycle`).  Whenever a run goes on, from its beginning or behind a build command
that has ended well, it fails or comes to one of the phases with nothing left undone
(`Watched.comes_beginRun`, `Watched.comes_buildEnded`).
-/

namespace ProbeKit

open Act Session

/-- The last run of the scheduler has failed. -/
def Session.Failed (s : Session) : Prop := ∃ f, s.scheduler.run = .ended (.error f)

namespace Watched

variable {P : Watched} {w w' : Workspace} {s s' : Session}

/-! ### Cycles of a workspace -/

/-- All sources are known as they are. -/
def AllFresh (P : Watched) (w : Workspace) : Prop :=
  ∀ p, P.scanner.Sees p → p.Clean → P.Fresh w p

/-- A catalog that describes the disk knows all sources as they are. -/
theorem find?_of_describes {d : Disk} {c : Catalog} (ht : P.scanner.Tidy d)
    (h : P.scanner.Describes d c) {p : Path} (hp : P.scanner.Sees p) (hclean : p.Clean) :
    c.find? (P.scanner.keyFor p) = Scanner.declared? d p := by
  refine Option.ext fun v => (h _ v).trans ?_
  constructor
  · rintro ⟨q, hq, hkey, hv⟩
    have hqclean := ht.clean q hq (by rw [Scanner.declared?_eq_some_iff.1 hv]; rfl)
    obtain rfl := (Scanner.keyFor_inj hqclean hclean hq.anchor hp.anchor).1 hkey
    exact hv
  · intro hv
    exact ⟨p, hp, rfl, hv⟩

theorem knows_of_describes {d : Disk} {c : Catalog} (ht : P.scanner.Tidy d)
    (h : P.scanner.Describes d c) : P.Knows c := by
  intro k v hv
  obtain ⟨p, hp, hkey, hdeclared⟩ := (h k v).1 hv
  rw [Scanner.declared?_eq_some_iff] at hdeclared
  have hclean := ht.clean p hp (by rw [hdeclared]; rfl)
  unfold Scanner.reading? at hdeclared
  obtain ⟨text, -, hread⟩ := Option.map_eq_some_iff.1 hdeclared
  exact ⟨p, text, hp, hclean, hkey, hread⟩

/-- A catalog describes the disk, and no numeral of a source is too long. -/
structure Scans (P : Watched) (d : Disk) (c : Catalog) : Prop where
  /-- The catalog describes the disk. -/
  describes : P.scanner.Describes d c
  /-- No numeral is too long. -/
  short : ∀ p, P.scanner.Sees p → Scanner.overlong? d p = none

/-- What a scan knows of a source is what the source declares. -/
theorem Scans.reading?_eq {d : Disk} {c : Catalog} (h : P.Scans d c) (ht : P.scanner.Tidy d)
    {p : Path} (hp : P.scanner.Sees p) (hclean : p.Clean) :
    Scanner.reading? d p = (c.find? (P.scanner.keyFor p)).map .ok := by
  rw [Scanner.reading?_of_overlong? (h.short p hp), find?_of_describes ht h.describes hp hclean]

/-- A scan succeeds, and its catalog describes the disk, unless it finds too long a numeral. -/
theorem Holds.rescan_cases {d : Disk} (h : P.Holds d) (before : Catalog) :
    (∃ e records, ({ P.scanner with catalog := before } : Scanner).rescan d =
        (.error (.numeral e), records) ∧ ∃ p, P.scanner.Sees p ∧ Scanner.overlong? d p = some e) ∨
      ∃ c records, ({ P.scanner with catalog := before } : Scanner).rescan d =
        (.ok { P.scanner with catalog := c }, records) ∧ P.Scans d c := by
  rcases Scanner.rescan_of_tidy (h.tidy_withCatalog before) P.rootsApart with
    ⟨e, records, hrescan, p, hp, hlong⟩ | ⟨c, records, hrescan, hdescribes, hshort⟩
  · exact .inl ⟨e, records, hrescan, p, (P.scanner.sees_withCatalog _ p).1 hp, hlong⟩
  · refine .inr ⟨c, records, hrescan, fun k v => (hdescribes k v).trans ?_, fun p hp => ?_⟩
    · simp only [Scanner.sees_withCatalog]
      rfl
    · exact hshort p ((P.scanner.sees_withCatalog _ p).2 hp)

/-- A scan that succeeds gives a catalog that describes the disk. -/
theorem Holds.scans_of_rescan {d : Disk} (h : P.Holds d) {before : Catalog} {scanner : Scanner}
    {records : List Record}
    (hrescan : ({ P.scanner with catalog := before } : Scanner).rescan d = (.ok scanner, records)) :
    ∃ c, scanner = { P.scanner with catalog := c } ∧ P.Scans d c := by
  rcases h.rescan_cases before with ⟨e, _, hfailed, -⟩ | ⟨c, _, hdone, hscans⟩
  · rw [hfailed] at hrescan
    cases hrescan
  · rw [hdone] at hrescan
    exact ⟨c, (Except.ok.inj (congrArg Prod.fst hrescan)).symm, hscans⟩

/-- The build command of a cycle has been started. -/
structure Begun (P : Watched) (w w' : Workspace) (c : Cycle) : Prop
    extends P.Moved (fun _ => False) w w' where
  /-- All sources were read. -/
  allFresh : P.AllFresh w'
  /-- The digest is that of the manifest. -/
  digest : c.digest = c.manifest.digest
  /-- The manifest was written. -/
  file : P.settings.FileHas w'.desk.disk c.digest
  /-- It was computed last. -/
  computed : w'.detector.lastComputed = some c.digest

/-- A manifest has been prepared for a cycle. -/
structure Prepared (P : Watched) (w w' : Workspace) (m : Manifest) : Prop
    extends P.Moved (fun _ => False) w w' where
  /-- All sources were read. -/
  allFresh : P.AllFresh w'
  /-- The manifest was written. -/
  file : P.settings.FileHas w'.desk.disk m.digest
  /-- It was computed last. -/
  computed : w'.detector.lastComputed = some m.digest

theorem prepared_of_prepare (h : P.Fits w) {m : Manifest}
    (hprepare : Workspace.prepare.on w = (.ok m, w')) : P.Prepared w w' m := by
  have houtputs : w.settings.OutputsApart w.desk.disk := h.settings ▸ h.disk.outputs
  have hprepared := Workspace.writes_prepare w
  rw [hprepare] at hprepared
  dsimp only at hprepared
  obtain ⟨scanner, records, hrescan, rfl, hfile, hshape⟩ :=
    Workspace.prepare_ok hprepare h.source houtputs
  rw [h.scanner] at hrescan
  obtain ⟨catalog, rfl, hscans⟩ := h.disk.scans_of_rescan hrescan
  have hwrites := hprepared.disk h.disk.tidy.isDir
  rw [h.settings] at hfile hwrites
  -- The outputs that are written stand apart from all sources.
  have hdeclared : ∀ p, P.scanner.Sees p →
      Scanner.reading? w'.desk.disk p = Scanner.reading? w.desk.disk p := fun p hp =>
    h.disk.reading?_eq hwrites hp fun q hq => h.disk.sources p hp q (.inl hq)
  have hcatalog : w'.scanner = { P.scanner with catalog } := by rw [hshape]
  have hfresh : P.AllFresh w' := by
    intro p hp hclean
    show _ = (w'.scanner.catalog.find? _).map _
    rw [hcatalog, hdeclared p hp]
    exact hscans.reading?_eq h.disk.tidy hp hclean
  refine ⟨⟨⟨hprepared.settings.trans h.settings, ?_, ?_, hprepared.tool.trans h.tool,
    h.disk.of_writes hwrites fun q hq => .inl (.inl hq), h.provider, h.moduleName, ?_, ?_⟩,
    hdeclared, fun p hp hclean _ _ => hfresh p hp hclean⟩, hfresh, hfile, ?_⟩
  · rw [hshape]
    exact h.source
  · rw [hcatalog]
  · rw [hcatalog]
    exact knows_of_describes h.disk.tidy hscans.describes
  · rw [hshape]
    rfl
  · rw [hshape]
    rfl

/-- **The beginning of a cycle reads all sources** and writes their manifest. -/
theorem begun_of_beginCycle (h : P.Fits w) (htool : P.LeavesAlone) {c : Cycle}
    {status : Option Int} (hbegin : Workspace.beginCycle.on w = (.ok (c, status), w')) :
    P.Begun w w' c := by
  rw [Workspace.on_beginCycle] at hbegin
  rcases hp : Workspace.prepare.on w with ⟨f | m, w₁⟩
  · rw [hp] at hbegin
    cases hbegin
  have hprepared := prepared_of_prepare h hp
  have hfits := hprepared.fits
  rw [hp] at hbegin
  dsimp only at hbegin
  rw [hfits.tool, hfits.settings] at hbegin
  rcases hs : P.tool.start P.settings.command P.settings.root w₁.desk.disk with e | ⟨disk, ended⟩
  · rw [hs] at hbegin
    cases hbegin
  rw [hs] at hbegin
  cases hbegin
  -- The build command leaves the sources and the manifest as they were prepared.
  have hleaves := htool _ _ _ hs hfits.disk
  have hstarted : P.Moved (fun _ => False) w₁ (w₁.ran disk) :=
    .of_desk hfits rfl hleaves.holds hleaves.declared
  refine ⟨(hprepared.toMoved.trans hstarted).mono fun _ hp => hp.elim id id, ?_, rfl, ?_,
    hprepared.computed⟩
  · exact fun p hp hclean => hstarted.fresh p hp hclean id (hprepared.allFresh p hp hclean)
  · obtain ⟨m, hm, hdigest⟩ := hprepared.file
    exact ⟨m, fun room => (congrArg (Option.bind · (Manifest.ofBytes? room)) hleaves.manifest).trans
      (hm room), hdigest⟩

/-- **A cycle that ends well leaves its manifest built.** -/
theorem moved_endCycle (h : P.Fits w) {c : Cycle} (hdigest : c.digest = c.manifest.digest)
    (hfile : P.settings.FileHas w.desk.disk c.digest)
    (hend : (Workspace.endCycle c 0).on w = (.ok (), w')) :
    P.Moved (fun _ => False) w w' ∧ w'.detector.lastBuilt = some c.digest ∧
      w'.detector.lastComputed = w.detector.lastComputed ∧
      P.settings.Built w'.desk.disk c.digest := by
  have houtputs : w.settings.OutputsApart w.desk.disk := h.settings ▸ h.disk.outputs
  have hended := Workspace.writes_endCycle c 0 w
  rw [hend, h.settings] at hended
  have hwrites := hended.disk h.disk.tidy.isDir
  obtain ⟨hshape, hbuilt⟩ := Workspace.endCycle_ok hend houtputs (h.settings.symm ▸ hfile) hdigest
  rw [h.settings] at hbuilt
  have hmoved : P.Moved (fun _ => False) w { w with desk := w'.desk } :=
    .of_desk h hended.tool (h.disk.of_writes hwrites fun q hq => .inl (.inr hq)) fun p hp =>
      h.disk.reading?_eq hwrites hp fun q hq => h.disk.sources p hp q (.inr hq)
  refine ⟨?_, ?_, ?_, hbuilt⟩
  · have hfits := hmoved.fits
    rw [hshape]
    exact ⟨⟨hfits.settings, hfits.source, hfits.scanner, hfits.tool, hfits.disk, hfits.provider,
      hfits.moduleName, hfits.knows, hfits.computed⟩, hmoved.declared, hmoved.fresh⟩
  · rw [hshape]
    rfl
  · rw [hshape]
    rfl

/-! ### Runs of a session -/

theorem failed_goOn (s : Session) (f : Fault) : (s.goOn (.error f)).Failed := by
  rw [goOn_of_over rfl]
  exact ⟨f, rfl⟩

/-- A cycle of a run has ended well, and what follows it has yet to begin. -/
structure Finished (P : Watched) (s : Session) (digest : String) : Prop where
  /-- The workspace fits. -/
  fits : P.Fits s.workspace
  /-- The run goes on. -/
  pending : s.Pending
  /-- Nothing else of the run is ready. -/
  work : s.work = []
  /-- No build command runs. -/
  running : s.running = []
  /-- The manifest of the cycle was built. -/
  lastBuilt : s.workspace.detector.lastBuilt = some digest
  /-- Everything that belongs to it was left behind. -/
  built : P.settings.Built s.desk.disk digest
  /-- It is still the current one, unless one more cycle is asked for. -/
  due : s.scheduler.queued = true ∨ s.workspace.detector.lastComputed = some digest

/-- A run that goes on fails, or comes to a phase with the sources known as they were. -/
def Comes (P : Watched) (s s' : Session) : Prop :=
  s'.Failed ∨ P.Kept (fun _ => False) s s' ∧ P.Phase s'

/-- If no other cycle is asked for the builds come to rest. -/
theorem comes_goOn_of_not_queued {digest : String} (h : P.Finished s digest)
    (hqueued : s.scheduler.queued = false) : P.Comes s (s.goOn (.ok ())) := by
  have hcomputed : s.workspace.detector.lastComputed = some digest := by
    rcases h.due with hdue | hdue
    · rw [hqueued] at hdue
      cases hdue
    · exact hdue
  rw [goOn_of_not_queued hqueued, h.pending.listeners]
  have hfirst : P.Kept (fun _ => False) s
      { s with scheduler := (s.scheduler.finish (.ok ())).2 } :=
    ⟨.refl h.fits, rfl, rfl, rfl, rfl, rfl, fun hjobs => hjobs⟩
  refine .inr ⟨hfirst.pushed (.runEnded .session (.ok ())) rfl ⟨rfl, rfl⟩,
    .rest rfl rfl ?_ h.running h.lastBuilt hcomputed h.built⟩
  exact (work_push s (.runEnded .session (.ok ()))).trans (congrArg (· ++ []) h.work :)

/-- A cycle that is launched fails, goes on with its build command, or ends well at once. -/
theorem comes_launch (hfits : P.Fits s.workspace) (htool : P.LeavesAlone) (hpending : s.Pending)
    (hwork : s.work = []) (hrunning : s.running = [])
    (hgo : ∀ t digest, P.Finished t digest → t.scheduler = s.scheduler →
      P.Comes t (t.goOn (.ok ()))) :
    P.Comes s (afterLaunch (launch .run s)) ∧
      ((afterLaunch (launch .run s)).Failed ∨
        P.AllFresh (afterLaunch (launch .run s)).workspace) := by
  -- A cycle fails to begin, waits for its command, or has an outcome at once.
  rcases hb : Workspace.beginCycle.on s.workspace with ⟨f | ⟨c, status⟩, w⟩
  · rw [launch_of_error hb]
    exact ⟨.inl (failed_goOn _ f), .inl (failed_goOn _ f)⟩
  have hbegun := begun_of_beginCycle hfits htool hb
  cases status with
  | none =>
    rw [launch_of_running hb]
    refine ⟨.inr ⟨⟨hbegun.toMoved, rfl, rfl, rfl, rfl, rfl, fun hjobs => hjobs⟩, ?_⟩,
      .inr hbegun.allFresh⟩
    refine .build (b := ⟨w.desk.builds.length - 1, .run, c⟩)
      ⟨hpending.building, hpending.run, hpending.listeners⟩ (.inl ⟨hwork, ?_⟩) rfl hbegun.digest
      hbegun.file (.inr hbegun.computed)
    show s.running ++ _ = _
    rw [hrunning]
    rfl
  | some status =>
    rw [launch_of_ended hb]
    rcases he : (Workspace.endCycle c status).on w with ⟨f | ⟨⟩, w'⟩
    · exact ⟨.inl (failed_goOn _ f), .inl (failed_goOn _ f)⟩
    have hzero : status = 0 := Classical.byContradiction fun hne => by
      rw [Workspace.endCycle_of_ne hne] at he
      cases he
    subst hzero
    obtain ⟨hmoved, hlastBuilt, hlastComputed, hbuilt⟩ :=
      moved_endCycle hbegun.fits hbegun.digest hbegun.file he
    have hfinished : P.Finished { s with workspace := w' } c.digest :=
      ⟨hmoved.fits, ⟨hpending.building, hpending.run, hpending.listeners⟩, hwork, hrunning,
        hlastBuilt, hbuilt, .inr (hlastComputed.trans hbegun.computed)⟩
    have hfirst : P.Kept (fun _ => False) s { s with workspace := w' } :=
      ⟨(hbegun.toMoved.trans hmoved).mono fun _ h => h.elim id id, rfl, rfl, rfl, rfl, rfl,
        fun hjobs => hjobs⟩
    rcases hgo _ _ hfinished rfl with hfailed | ⟨hkept, hphase⟩
    · exact ⟨.inl hfailed, .inl hfailed⟩
    · refine ⟨.inr ⟨(hfirst.trans hkept).mono fun _ h => h.elim id id, hphase⟩,
        .inr fun p hp hclean => ?_⟩
      exact hkept.fresh p hp hclean id
        (hmoved.fresh p hp hclean id (hbegun.allFresh p hp hclean))

/-- A cycle that is asked for follows at once. -/
theorem goOn_of_queued (h : s.scheduler.queued = true) :
    s.goOn (.ok ()) = afterLaunch (launch .run
      ({ s with scheduler := { s.scheduler with queued := false }.beginCycle }.noted
        [⟨.info, "scheduler", "Running coalesced rebuild"⟩])) := by
  have hend : s.scheduler.endCycle (.ok ()) =
      (.again, [⟨.info, "scheduler", "Running coalesced rebuild"⟩],
        { s.scheduler with queued := false }.beginCycle) := by
    unfold Scheduler.endCycle
    rw [h]
    rfl
  exact goOn_of_again hend

/-- **Behind a cycle that has ended well a run comes to a phase**, or it fails with one more
cycle. -/
theorem comes_goOn {digest : String} (h : P.Finished s digest) (htool : P.LeavesAlone) :
    P.Comes s (s.goOn (.ok ())) := by
  cases hqueued : s.scheduler.queued with
  | false => exact comes_goOn_of_not_queued h hqueued
  | true =>
    rw [goOn_of_queued hqueued]
    have hnoted : P.Kept (fun _ => False) s
        ({ s with scheduler := { s.scheduler with queued := false }.beginCycle }.noted
          [⟨.info, "scheduler", "Running coalesced rebuild"⟩]) :=
      ⟨.of_noted h.fits (Workspace.noted_noteAll _ s.desk), rfl, rfl, rfl, rfl, rfl,
        fun hjobs => hjobs⟩
    obtain ⟨hcomes, -⟩ := comes_launch hnoted.fits htool
      ⟨h.pending.building, h.pending.run, h.pending.listeners⟩ h.work h.running
      fun t digest ht hscheduler =>
        comes_goOn_of_not_queued ht (congrArg Scheduler.queued hscheduler)
    rcases hcomes with hfailed | ⟨hkept, hphase⟩
    · exact .inl hfailed
    · exact .inr ⟨(hnoted.trans hkept).mono fun _ hp => hp.elim id id, hphase⟩

/-- **A run that begins fails or comes to a phase**, and then all sources are known as they are. -/
theorem comes_beginRun (hfits : P.Fits s.workspace) (htool : P.LeavesAlone)
    (hpending : s.Pending) (hwork : s.work = []) (hrunning : s.running = []) :
    P.Comes s s.beginRun ∧ (s.beginRun.Failed ∨ P.AllFresh s.beginRun.workspace) := by
  have hlaunch := comes_launch (s := { s with scheduler := s.scheduler.beginCycle }) hfits htool
    ⟨hpending.building, hpending.run, hpending.listeners⟩ hwork hrunning
    fun t digest ht _ => comes_goOn ht htool
  obtain ⟨hcomes, hfresh⟩ := hlaunch
  refine ⟨?_, hfresh⟩
  rcases hcomes with hfailed | ⟨hkept, hphase⟩
  · exact .inl hfailed
  · exact .inr ⟨⟨hkept.toMoved, hkept.front, hkept.frontNumber, hkept.connected, hkept.signal,
      hkept.notices, hkept.jobs⟩, hphase⟩

/-- **Behind a build command that has ended well a run fails or comes to a phase.** -/
theorem comes_buildEnded (hfits : P.Fits s.workspace) (htool : P.LeavesAlone)
    (hpending : s.Pending) (hwork : s.work = []) (hrunning : s.running = []) {b : RunningBuild}
    (howner : b.owner = .run) (hdigest : b.cycle.digest = b.cycle.manifest.digest)
    (hfile : P.settings.FileHas s.desk.disk b.cycle.digest)
    (hdue : s.scheduler.queued = true ∨
      s.workspace.detector.lastComputed = some b.cycle.digest) :
    P.Comes s (s.buildEnded b 0) := by
  unfold buildEnded Session.endCycle
  rw [howner]
  rcases he : (Workspace.endCycle b.cycle 0).on s.workspace with ⟨f | ⟨⟩, w⟩
  · exact .inl (failed_goOn _ f)
  obtain ⟨hmoved, hlastBuilt, hlastComputed, hbuilt⟩ := moved_endCycle hfits hdigest hfile he
  have hfinished : P.Finished { s with workspace := w } b.cycle.digest :=
    ⟨hmoved.fits, ⟨hpending.building, hpending.run, hpending.listeners⟩, hwork, hrunning, hlastBuilt,
      hbuilt, hdue.imp_right hlastComputed.trans⟩
  have hfirst : P.Kept (fun _ => False) s { s with workspace := w } :=
    ⟨hmoved, rfl, rfl, rfl, rfl, rfl, fun hjobs => hjobs⟩
  rcases comes_goOn hfinished htool with hfailed | ⟨hkept, hphase⟩
  · exact .inl hfailed
  · exact .inr ⟨(hfirst.trans hkept).mono fun _ hp => hp.elim id id, hphase⟩

end Watched

end ProbeKit
