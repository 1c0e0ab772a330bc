import ProbeKit.Proofs.Session.Steps

/-!
# Sessions that begin to watch

A session is opened on a project and starts to watch it (`Watched.Opened`).  Starting scans all
sources and asks for a build if one is due, so that a session that has started well has lost no
source (`Watched.watches_of_start`).
-/

namespace ProbeKit

open Act Session
open Desk (Noted)

namespace Watched

variable {P : Watched} {w w₁ w₂ : Workspace} {s s' : Session}

/-! ### The first scan -/

/-- A workspace that is open on a project. -/
structure Opens (P : Watched) (w : Workspace) : Prop where
  /-- The settings are those of the project. -/
  settings : w.settings = P.settings
  /-- The manifest comes from a scan. -/
  source : w.source = .scan
  /-- The scanner is that of the project. -/
  scanner : w.scanner = { P.scanner with catalog := w.scanner.catalog }
  /-- The build tool is that of the project. -/
  tool : w.desk.tool = P.tool
  /-- The disk is as it should be. -/
  disk : P.Holds w.desk.disk

theorem Opens.withDesk {desk : Desk} (h : P.Opens w) (hnoted : Noted w.desk desk) :
    P.Opens { w with desk } := by
  have hwrites := hnoted.disk h.disk.tidy.isDir
  exact ⟨h.settings, h.source, h.scanner, hnoted.tool.trans h.tool,
    h.disk.of_writes hwrites fun _ hq => hq.elim⟩

/-- All sources were read and compared with what was built last. -/
structure Compared (P : Watched) (w w' : Workspace) (report : Detector.Report) : Prop where
  /-- The workspace fits. -/
  fits : P.Fits w'
  /-- All sources were read. -/
  allFresh : P.AllFresh w'
  /-- Nothing but the log was written. -/
  noted : Noted w.desk w'.desk
  /-- The build that was made last stays. -/
  lastBuilt : w'.detector.lastBuilt = w.detector.lastBuilt
  /-- The manifest was computed last. -/
  lastComputed : w'.detector.lastComputed = some report.digest
  /-- A build is due if another one was built last. -/
  due : report.due = w.detector.isDue report.digest w.force

/-- Nothing is due only where the manifest of the sources was built last. -/
theorem Compared.lastBuilt_eq {report : Detector.Report} (h : P.Compared w w₁ report)
    (hdue : report.due = false) : w.detector.lastBuilt = some report.digest := by
  have hnot := h.due
  rw [hdue, Detector.isDue] at hnot
  exact bne_eq_false_iff_eq.1 (Bool.or_eq_false_iff.1 hnot.symm).2

/-- **A first scan reads all sources** and compares their manifest with the last build. -/
theorem compared_of_compareAll (h : P.Opens w) {m : Manifest} {report : Detector.Report}
    (hmade : (Workspace.currentManifest true).on w = (.ok m, w₁))
    (hcompared : (Workspace.compareAll m).on w₁ = (.ok report, w₂)) : P.Compared w w₂ report := by
  -- A scan of all sources finds what is declared on the disk, whatever was known before.
  obtain ⟨scanner, records, hrescan, hflaw, rfl, rfl⟩ :=
    Workspace.currentManifest_true_ok hmade h.source
  rw [h.scanner] at hrescan
  obtain ⟨c, rfl, hscans⟩ := h.disk.scans_of_rescan hrescan
  obtain ⟨hdigest, hdue⟩ := Workspace.due_of_compareAll hcompared
  rw [← hdigest] at hdue
  have hnoted₁ := Workspace.noted_noteAll records w.desk
  obtain ⟨snapshot, hsnapshot⟩ : ∃ snapshot, Sidecar.snapshot (w.desk.noteAll records).room
      (w.desk.noteAll records).disk (some w.settings.snapshotPath) = .ok snapshot := by
    cases hsnapshot : Sidecar.snapshot (w.desk.noteAll records).room (w.desk.noteAll records).disk
        (some w.settings.snapshotPath) with
    | error e =>
      unfold Workspace.compareAll at hcompared
      rw [on_get_bind, hsnapshot] at hcompared
      cases hcompared
    | ok snapshot => exact ⟨snapshot, rfl⟩
  have hcomparison := Workspace.on_compareAll (m := w.manifestOf c)
    (w := { w with
      scanner := { P.scanner with catalog := c }, aggregates := c.aggregates
      desk := w.desk.noteAll records }) hsnapshot
  rw [hcomparison] at hcompared
  have hnoted := hnoted₁.trans
    (Workspace.noted_noteAll (Detector.snapshotRecords (w.manifestOf c) snapshot) _)
  -- Neither the scan nor the comparison writes more than log lines, so the sources are as they
  -- were.
  have hwrites := hnoted.disk h.disk.tidy.isDir
  have hdisk := h.disk.of_writes hwrites fun _ hq => hq.elim
  obtain ⟨-, hprovider, hmodule, -⟩ := Manifest.of_flaw?_eq_none hflaw
  have hw₂ := (congrArg Prod.snd hcompared).symm
  dsimp only at hw₂
  subst hw₂
  refine ⟨⟨h.settings, h.source, rfl, hnoted.tool.trans h.tool, hdisk, ?_, ?_,
    knows_of_describes h.disk.tidy hscans.describes, rfl⟩, fun p hp hclean => ?_, hnoted, rfl, ?_,
    hdue⟩
  · rw [← h.settings]
    exact hprovider
  · rw [← h.settings]
    exact hmodule
  · exact (h.disk.reading?_eq hwrites hp fun _ hq => hq.elim).trans
      (hscans.reading?_eq h.disk.tidy hp hclean)
  · rw [hdigest]
    rfl

/-! ### The start -/

theorem mapM_resolve {d : Disk} {roots : List Path}
    (h : ∀ r ∈ roots, d.resolve r = .ok r) : roots.mapM d.resolve = .ok roots := by
  induction roots with
  | nil => rfl
  | cons r rest ih =>
    rw [List.mapM_cons, h r List.mem_cons_self, ih fun q hq => h q (List.mem_cons_of_mem _ hq)]
    rfl

/-- A front end before it observes anything. -/
structure Unused (P : Watched) (f : FrontEnd) : Prop where
  /-- It watches the roots of the project. -/
  roots : f.roots = P.scanner.roots
  /-- There are no timers. -/
  timers : f.timers = []
  /-- No notices wait. -/
  backlog : f.backlog = []

theorem unused_of_makeFront (h : P.Opens s.workspace) {f : FrontEnd}
    (hmade : makeFront.on s = (.ok f, s')) : s' = s ∧ P.Unused f := by
  unfold makeFront at hmade
  rw [on_get_bind] at hmade
  obtain ⟨roots, t, hroots, hfront⟩ := on_bind_eq_ok.1 hmade
  obtain ⟨hresolved, rfl⟩ := on_ofExcept_eq_ok.1 hroots
  have htidy := h.disk.tidy
  rw [h.scanner, mapM_resolve fun r hr => htidy.resolve_eq (htidy.anchor r hr) (htidy.names r hr)]
    at hresolved
  cases hresolved
  cases hfront
  exact ⟨rfl, rfl, rfl, rfl⟩

/-- All roots are there to be watched. -/
theorem directories_eq {d : Disk} (h : P.Holds d) {f : FrontEnd} (hf : P.Unused f) :
    f.directories d = P.scanner.roots := by
  have htidy := h.tidy
  have hlook : ∀ r ∈ P.scanner.roots, (d.look r).isOk = true := by
    intro r hr
    rw [htidy.look_eq (htidy.anchor r hr) (htidy.names r hr)]
    rfl
  have hseen : f.rootsSeen d = P.scanner.roots := by
    have hall : (P.scanner.roots ++ []).takeWhile (fun r => (d.look r).isOk) =
        P.scanner.roots ++ [].takeWhile fun r => (d.look r).isOk :=
      List.takeWhile_append_of_pos hlook
    rw [List.append_nil, List.takeWhile_nil, List.append_nil] at hall
    unfold FrontEnd.rootsSeen
    rw [hf.roots]
    exact hall
  unfold FrontEnd.directories
  rw [hseen]
  refine List.filter_eq_self.2 fun r hr => ?_
  rw [h.hasDirectory_eq (htidy.anchor r hr) (htidy.names r hr)]
  exact htidy.roots r hr

/-- The front end is connected unless there is nothing to watch. -/
theorem connected_of_unused {d : Disk} (h : P.Holds d) {f : FrontEnd} (hf : P.Unused f)
    (number : Nat) :
    (if (f.directories d).isEmpty then none else some number) = some number ∨
      (if (f.directories d).isEmpty then none else some number) = none ∧ P.scanner.roots = [] := by
  rw [directories_eq h hf]
  cases hroots : P.scanner.roots with
  | nil => exact .inr ⟨rfl, rfl⟩
  | cons r rest => exact .inl rfl

/-- The session once a front end observes. -/
theorem on_observe {f : FrontEnd} (hobserve : (observe f []).on s = (.ok (), s')) :
    ∃ calls records, s' =
      { s with
        workspace := { s.workspace with desk := { s.desk with calls }.noteAll records }
        front := some { f with observing := true }
        frontNumber := s.frontNumber + 1
        connected := if (f.directories s.desk.disk).isEmpty then s.connected
          else some (s.frontNumber + 1) } := by
  unfold observe at hobserve
  rw [on_get_bind, on_modify_bind] at hobserve
  split at hobserve
  · cases hobserve
  · cases hobserve
    refine ⟨s.desk.calls ++ f.startCalls s.desk.disk,
      f.missingRecords s.desk.disk ++ [f.watchingRecord s.desk.disk], ?_⟩
    unfold Desk.noteAll
    rw [List.foldl_append]
    rfl

/-- The session once the sources were scanned: a build is asked for if one is due. -/
theorem on_onReady (h : P.Opens s.workspace) (hready : onReady.on s = (.ok (), s')) :
    ∃ report w, P.Compared s.workspace w report ∧
      if report.due then s' = ({ s with workspace := w } : Session).requestBuild.2
      else ∃ desk, Noted w.desk desk ∧ s' = { s with workspace := { w with desk } } := by
  unfold onReady at hready
  obtain ⟨report, t, hscan, hbehind⟩ := on_bind_eq_ok.1 hready
  rw [onWorkspace, on_within] at hscan
  obtain ⟨hreport, rfl⟩ := Prod.mk.inj hscan
  rcases hon : (Workspace.currentManifest true >>= Workspace.compareAll).on s.workspace with ⟨r, w⟩
  rw [hon] at hreport hbehind
  dsimp only at hreport hbehind
  subst hreport
  obtain ⟨m, w₁, hmade, hcompared⟩ := on_bind_eq_ok.1 hon
  refine ⟨report, w, compared_of_compareAll h hmade hcompared, ?_⟩
  split at hbehind
  · rename_i hdue
    rw [if_pos hdue]
    cases hbehind
    rfl
  · rename_i hdue
    rw [if_neg hdue]
    rw [onWorkspace, on_within, Workspace.on_say] at hbehind
    cases hbehind
    exact ⟨_, Workspace.noted_noteAll [_] w.desk, rfl⟩

/-- A session is just open on a project where nothing was built yet, or where everything is as a
build has left it. -/
structure Opened (P : Watched) (s : Session) : Prop where
  /-- The session is a new one. -/
  opened : ∃ (d d' : Desk) (rescan force : Bool),
    (Session.openUp P.settings rescan force).on d = (.ok s, d') ∧ d.tool = P.tool ∧
      P.Holds d.disk ∧
      (P.settings.Tells d.disk none ∨ ∃ digest, P.settings.Built d.disk digest)
  /-- Its manifest comes from a scan. -/
  source : s.workspace.source = .scan
  /-- Its scanner is that of the project. -/
  scanner : s.workspace.scanner = P.scanner

/-- What a session that was just opened takes for the last build was left behind. -/
theorem Opened.spec (h : P.Opened s) : s = { workspace := s.workspace } ∧ P.Opens s.workspace ∧
    ∀ digest, s.workspace.detector.lastBuilt = some digest →
      P.settings.Built s.desk.disk digest := by
  obtain ⟨d, d', rescan, force, hopen, htool, hdisk, hleft⟩ := h.opened
  rw [Session.on_openUp] at hopen
  rcases ho : (Workspace.openUp P.settings rescan force).on d with ⟨f | w, desk⟩
  · rw [ho] at hopen
    cases hopen
  rw [ho] at hopen
  cases hopen
  obtain ⟨hnoted, rfl, hsettings, -, own, hown, hdetector⟩ := Workspace.openUp_ok ho
  have hwrites := hnoted.disk hdisk.tidy.isDir
  have hscanner : w.scanner = P.scanner := h.scanner
  refine ⟨rfl, ⟨hsettings, h.source, by rw [hscanner], hnoted.tool.trans htool,
    hdisk.of_writes hwrites fun _ hq => hq.elim⟩, fun digest hdigest => ?_⟩
  have hrecorded (built : Option String) (htells : P.settings.Tells d.disk built) :
      w.detector.lastBuilt = built := by
    have htells' := htells.of_writes hwrites fun _ _ _ hq => hq.elim
    rw [hdetector]
    exact htells'.recorded hown
  have hdigest : w.detector.lastBuilt = some digest := hdigest
  rcases hleft with hnone | ⟨built, hbuilt⟩
  · rw [hrecorded none hnone] at hdigest
    cases hdigest
  · rw [hrecorded (some built) hbuilt.sidecar] at hdigest
    cases hdigest
    exact hbuilt.of_writes hwrites hdisk.outputs fun _ hq => hq.elim

/-- Events are delivered from now on; none has waited. -/
theorem on_deliver_openUp {f : FrontEnd} (hbacklog : f.backlog = [])
    (hdeliver : (deliver (f.openUp s.sight)).on s = (.ok (), s')) :
    s' = { s with front := some { f with ready := true, backlog := [] } } := by
  unfold FrontEnd.openUp at hdeliver
  rw [hbacklog] at hdeliver
  cases hdeliver
  rfl

/-- What a session that has just started to watch knows and what it has yet to do. -/
theorem watches_of_compared {f : FrontEnd} (hfits : P.Fits s.workspace)
    (hfresh : P.AllFresh s.workspace) (hphase : P.Phase s) (hunused : P.Unused f)
    (hfront : s.front = some { f with observing := true, ready := true, backlog := [] })
    (hconnected : s.connected = some s.frontNumber ∨
      s.connected = none ∧ P.scanner.roots = [])
    (hsignal : s.signal = some {}) (hready : ∀ job ∈ s.ready, job = .beginRun) :
    P.Watches s := by
  -- Nothing but the first run is ready, so no notice is on its way.
  have hnotices : s.notices = [] := by
    refine List.filterMap_eq_nil_iff.2 fun job hjob => ?_
    rw [hready job hjob]
    rfl
  refine ⟨⟨hfits, ⟨_, hfront, rfl, ⟨?_, fun t ht => ?_⟩, fun t ht => ?_⟩, hconnected,
    ⟨none, hsignal⟩, fun job hjob => ?_, fun p hp hclean => ⟨.inl (hfresh p hp hclean),
    fun n hn => ?_⟩⟩, hphase⟩
  · show f.timers.Pairwise _
    rw [hunused.timers]
    exact .nil
  · rw [show _ = f.timers from rfl, hunused.timers] at ht
    cases ht
  · rw [show _ = f.timers from rfl, hunused.timers] at ht
    cases ht
  · rw [hready job hjob]
    trivial
  · rw [hnotices] at hn
    cases hn

/-- **A session that starts to watch has lost no source**, and a build is asked for unless
everything was built. -/
theorem watches_of_start (h : P.Opened s) (hstart : (Session.start []).on s = (.ok (), s')) :
    P.Watches s' := by
  obtain ⟨hnew, hopens, hbuilt⟩ := h.spec
  obtain ⟨w₀, rfl⟩ : ∃ w₀, s = { workspace := w₀ } := ⟨_, hnew⟩
  unfold Session.start at hstart
  simp only [on_get_bind, Option.isSome_none, Bool.false_eq_true, if_false, on_modify_bind] at hstart
  obtain ⟨f, s₁, hmade, hbehind⟩ := on_bind_eq_ok.1 hstart
  obtain ⟨hs₁, hunused⟩ :=
    unused_of_makeFront (s := { workspace := w₀, signal := some {} }) hopens hmade
  subst hs₁
  obtain ⟨⟨⟩, s₂, hobserve, hrest⟩ := on_bind_eq_ok.1 hbehind
  obtain ⟨calls, records, hs₂⟩ := on_observe hobserve
  have hnoted : Noted w₀.desk ({ w₀.desk with calls }.noteAll records) :=
    (⟨rfl, .refl _ _⟩ : Noted w₀.desk { w₀.desk with calls }).trans
      (Workspace.noted_noteAll records _)
  subst hs₂
  obtain ⟨⟨⟩, s₃, hready, hopening⟩ := on_bind_eq_ok.1 hrest
  rw [on_get_bind] at hopening
  obtain ⟨report, w, hcompared, hnext⟩ := on_onReady (hopens.withDesk hnoted) hready
  have hconnected := connected_of_unused hopens.disk hunused 1
  cases hdue : report.due with
  | true =>
    rw [if_pos hdue, requestBuild_of_rest rfl] at hnext
    subst hnext
    have hs' := on_deliver_openUp (f := { f with observing := true }) hunused.backlog hopening
    rw [hs']
    refine watches_of_compared hcompared.fits hcompared.allFresh
      (.start ⟨rfl, rfl, rfl⟩ rfl rfl) hunused rfl hconnected rfl fun job hjob => ?_
    exact List.mem_singleton.1 hjob
  | false =>
    rw [hdue, if_neg Bool.false_ne_true] at hnext
    obtain ⟨desk', hnoted', rfl⟩ := hnext
    have hs' := on_deliver_openUp (f := { f with observing := true }) hunused.backlog hopening
    rw [hs']
    -- Nothing is due, so what the sidecar tells of is the manifest of the sources.
    have hlast : w₀.detector.lastBuilt = some report.digest := hcompared.lastBuilt_eq hdue
    have hall := (hnoted.trans hcompared.noted).trans hnoted'
    have hmoved : P.Moved (fun _ => False) w { w with desk := desk' } :=
      .of_noted hcompared.fits hnoted'
    refine watches_of_compared hmoved.fits (fun p hp hclean =>
      hmoved.fresh p hp hclean id (hcompared.allFresh p hp hclean)) ?_ hunused rfl hconnected rfl
      fun job hjob => absurd hjob List.not_mem_nil
    refine .rest rfl rfl rfl rfl (hcompared.lastBuilt.trans hlast) hcompared.lastComputed ?_
    exact (hbuilt _ hlast).of_writes (hall.disk hopens.disk.tidy.isDir) hopens.disk.outputs
      fun _ hq => hq.elim

end Watched

end ProbeKit
