import ProbeKit.Proofs.Session.OneShot
import ProbeKit.Proofs.Workspace.Events
import ProbeKit.Session.Company

/-!
# The manifest behind a report

Sessions of one project, each opened at some time and used again and again, emit and build once in any
order, and between the runs anything may happen to the project as long as its outputs are left alone.
A run reports the digest that was built last.  The manifest file need not hold that manifest, for an
emit or a cycle that failed may have written another since; `manifest_of_runOnce` says which one it
holds, and `manifest_of_reverted_source` is a run that reports a digest while the file holds another.
-/

namespace ProbeKit

open Act

/-! ### Runs in a company -/

namespace Company

/-- Opens a session. -/
def openUp (s : Settings) (rescan force : Bool) (c : Company) : Company :=
  match (Session.openUp s rescan force).on c.desk with
  | (.error _, desk) => { c with desk }
  | (.ok session, _) => c.add session

/-- A session writes the manifest. -/
def emit (number : Nat) (c : Company) : Option (Except Fault Workspace.Emitted) × Company :=
  c.act number (Session.onWorkspace Workspace.emit).on

/-- A session builds once.  There is no outcome if the task never ends. -/
def runOnce (number : Nat) (status : Int) (c : Company) :
    Option (Option (Except Fault (Option Session.OneBuild))) × Company :=
  c.act number fun s => ((s.buildOnce status).lastOutcome, s.buildOnce status)

/-- The workspace of a session as it is at the shared desk. -/
def workspace? (c : Company) (number : Nat) : Option Workspace :=
  c.sessions[number]?.map fun s => (s.withDesk c.desk).workspace

end Company

/-! ### Histories -/

/-- A company with the digests of the manifests that its sessions have written, the last one at the
end. -/
structure Ledger where
  /-- The company. -/
  company : Company
  /-- The digests. -/
  written : List String

namespace Ledger

/-- What a run of a session writes. -/
def writes (l : Ledger) (number : Nat) (run : Workspace → List String) : List String :=
  ((l.company.workspace? number).map run).getD []

/-- What may happen in a company whose sessions all have the same settings. -/
inductive Step (s : Settings) : Ledger → Ledger → Prop
  /-- Someone else changes anything but the outputs, be it sources, the log or the build tool. -/
  | edit {l : Ledger} {d : Desk} (hdisk : s.LeavesOutputs l.company.desk.disk d.disk)
      (htool : d.tool.LeavesOutputs s) : Step s l ⟨{ l.company with desk := d }, l.written⟩
  /-- A session is opened. -/
  | openUp (l : Ledger) (rescan force : Bool) :
      Step s l ⟨l.company.openUp s rescan force, l.written⟩
  /-- A session writes the manifest. -/
  | emit (l : Ledger) (number : Nat) :
      Step s l ⟨(l.company.emit number).2, l.written ++ l.writes number Workspace.emitWrites⟩
  /-- A session builds once. -/
  | build (l : Ledger) (number : Nat) (status : Int) :
      Step s l ⟨(l.company.runOnce number status).2,
        l.written ++ l.writes number Workspace.onceWrites⟩

/-- A project without a sidecar, and no session yet. -/
structure Start (s : Settings) (l : Ledger) : Prop where
  /-- There is no session. -/
  sessions : l.company.sessions = []
  /-- Nothing was written. -/
  written : l.written = []
  /-- There is no sidecar. -/
  sidecar : ∀ own, Sidecar.path s.manifestPath = .ok own → l.company.desk.disk.file? own = none
  /-- The manifest file, if there is one, does not spell a manifest that no file can hold. -/
  whole : s.FileWhole l.company.desk.disk
  /-- The outputs keep out of each other's way. -/
  outputs : s.OutputsApart l.company.desk.disk
  /-- The build tool leaves them alone. -/
  tool : l.company.desk.tool.LeavesOutputs s

/-- What becomes of a project in some steps. -/
inductive Reached (s : Settings) : Ledger → Prop
  /-- At the start. -/
  | start {l : Ledger} (h : Start s l) : Reached s l
  /-- After one more step. -/
  | step {l l' : Ledger} (h : Reached s l) (hstep : Step s l l') : Reached s l'

/-! ### The invariant -/

/-- A session at rest that remembers no build but that of a manifest that was written. -/
structure Resting (s : Settings) (written : List String) (session : Session) : Prop where
  /-- Nothing goes on. -/
  idle : session.Idle
  /-- The settings are those of the project. -/
  settings : session.workspace.settings = s
  /-- The manifest can be written. -/
  whole : session.workspace.Whole
  /-- A build that is remembered is that of a manifest that was written. -/
  lastBuilt : ∀ digest, session.workspace.detector.lastBuilt = some digest → digest ∈ written

theorem Resting.mono {s : Settings} {written more : List String} {session : Session}
    (h : Resting s written session) : Resting s (written ++ more) session :=
  ⟨h.idle, h.settings, h.whole, fun digest hd => List.mem_append_left _ (h.lastBuilt digest hd)⟩

/-- What is true of a company whatever has happened. -/
structure Sound (s : Settings) (l : Ledger) : Prop where
  /-- The disk is consistent with what was written. -/
  consistent : s.Consistent l.company.desk.disk l.written
  /-- The build tool leaves the outputs alone. -/
  tool : l.company.desk.tool.LeavesOutputs s
  /-- All sessions rest. -/
  sessions : ∀ session ∈ l.company.sessions, Resting s l.written session

variable {s : Settings} {l : Ledger}

theorem Start.sound (h : Start s l) : Sound s l := by
  refine ⟨⟨h.outputs, fun digest hd => ?_, h.whole, none, ⟨h.outputs.toSidecarApart,
    fun own hown => ?_, h.sidecar, fun digest hd => ?_⟩, fun digest hd => ?_⟩, h.tool,
    fun session hs => ?_⟩
  · rw [h.written] at hd
    cases hd
  · cases hr : l.company.desk.disk.read? own with
    | none => rfl
    | some bytes =>
      have hnone := h.sidecar own hown
      rw [Disk.file?_of_read? h.outputs.isDir hr] at hnone
      cases hnone
  · cases hd
  · cases hd
  · rw [h.sessions] at hs
    cases hs

/-- A session at the shared desk, as it acts. -/
theorem Sound.acting (h : Sound s l) {number : Nat} {session : Session}
    (hs : l.company.sessions[number]? = some session) :
    Resting s l.written ({ session with ready := [] }.withDesk l.company.desk) := by
  have hrest := h.sessions session (List.mem_of_getElem? hs)
  exact ⟨⟨rfl, hrest.idle.front, hrest.idle.running, hrest.idle.building, hrest.idle.queued⟩,
    hrest.settings, hrest.whole, hrest.lastBuilt⟩

/-- What a session did is sound if it rests again and the disk is consistent. -/
theorem Sound.act {α : Type} (h : Sound s l) {number : Nat} {session : Session}
    (hs : l.company.sessions[number]? = some session) {t : Session}
    (ht : { session with ready := [] }.withDesk l.company.desk = t) (f : Session → α × Session)
    {more : List String} {after : Session} (hafter : (f t).2 = after)
    (hrest : Resting s (l.written ++ more) after)
    (htool : after.desk.tool = l.company.desk.tool)
    (hconsistent : s.Consistent after.desk.disk (l.written ++ more)) :
    Sound s ⟨(l.company.act number f).2, l.written ++ more⟩ := by
  -- The acting session is put back, and the desk that it leaves is that of the company.
  have hact : (l.company.act number f).2.desk = after.desk ∧ (l.company.act number f).2.sessions =
      l.company.sessions.set number { after with ready := [] } := by
    rw [Company.act, hs]
    dsimp only
    rw [ht, hafter]
    exact ⟨rfl, rfl⟩
  refine ⟨?_, ?_, fun other hother => ?_⟩
  · show s.Consistent (l.company.act number f).2.desk.disk _
    rw [hact.1]
    exact hconsistent
  · show (l.company.act number f).2.desk.tool.LeavesOutputs s
    rw [hact.1, htool]
    exact h.tool
  · change other ∈ (l.company.act number f).2.sessions at hother
    rw [hact.2] at hother
    rcases List.mem_or_eq_of_mem_set hother with hother | rfl
    · exact (h.sessions other hother).mono
    · exact ⟨⟨rfl, hrest.idle.front, hrest.idle.running, hrest.idle.building, hrest.idle.queued⟩,
        hrest.settings, hrest.whole, hrest.lastBuilt⟩

/-! ### Steps -/

theorem act_of_none {α : Type} {c : Company} {number : Nat} (hs : c.sessions[number]? = none)
    (f : Session → α × Session) : c.act number f = (none, c) := by
  rw [Company.act, hs]

theorem writes_of_none {number : Nat} (hs : l.company.sessions[number]? = none)
    (run : Workspace → List String) : l.writes number run = [] := by
  rw [writes, Company.workspace?, hs]
  rfl

theorem writes_of_some {number : Nat} {session : Session}
    (hs : l.company.sessions[number]? = some session) (run : Workspace → List String) :
    l.writes number run = run ({ session with ready := [] }.withDesk l.company.desk).workspace := by
  rw [writes, Company.workspace?, hs]
  rfl

/-- A session that builds once rests again, in its new workspace. -/
theorem resting_buildOnce {t : Session} {written : List String} (h : Resting s written t)
    (status : Int) :
    Resting s (written ++ t.workspace.onceWrites) (t.buildOnce status) ∧
      (t.buildOnce status).workspace = ((Workspace.runOnce status).on t.workspace).2 ∧
      (t.buildOnce status).lastOutcome =
        some (((Workspace.runOnce status).on t.workspace).1.map some) := by
  obtain ⟨scheduler, hbuilding, hqueued, hrun⟩ := Session.buildOnce_eq h.idle status
  rw [hrun]
  refine ⟨⟨⟨h.idle.ready, h.idle.front, h.idle.running, hbuilding, hqueued⟩,
    (Workspace.same_runOnce status t.workspace).1.trans h.settings,
    Workspace.ignores_whole.relates_runOnce status _ h.whole, fun digest hd => ?_⟩, rfl,
    Session.lastOutcome_withOnce _ _⟩
  rcases Workspace.lastBuilt_runOnce hd with hd | hd
  · exact List.mem_append_left _ (h.lastBuilt digest hd)
  · exact List.mem_append_right _ hd

theorem Sound.openUp (h : Sound s l) (rescan force : Bool) :
    Sound s ⟨l.company.openUp s rescan force, l.written⟩ := by
  have hnoted := Workspace.noted_openUp s rescan force l.company.desk
  have hopen := Session.on_openUp s rescan force l.company.desk
  rcases ho : (Workspace.openUp s rescan force).on l.company.desk with ⟨f | w, d⟩
  all_goals
    rw [ho] at hopen hnoted
    have h₁ : s.Consistent d.disk l.written :=
      h.consistent.of_writes_nothing (hnoted.disk h.consistent.outputs.isDir)
    have htool : d.tool.LeavesOutputs s := by
      rw [hnoted.tool]
      exact h.tool
  · have hcompany : l.company.openUp s rescan force = { l.company with desk := d } := by
      rw [Company.openUp, hopen]
    rw [hcompany]
    exact ⟨h₁, htool, h.sessions⟩
  have hcompany : l.company.openUp s rescan force = l.company.add { workspace := w } := by
    rw [Company.openUp, hopen]
  obtain ⟨-, hdesk, hsettings, -, own, hown, hdetector⟩ := Workspace.openUp_ok ho
  have hwhole := Workspace.whole_of_openUp h.consistent.outputs.isDir h.consistent.whole ho
  rw [hcompany]
  refine ⟨?_, ?_, fun session hs => ?_⟩
  · show s.Consistent w.desk.disk l.written
    rw [hdesk]
    exact h₁
  · show w.desk.tool.LeavesOutputs s
    rw [hdesk]
    exact htool
  · rcases List.mem_append.1 hs with hs | hs
    · exact h.sessions session hs
    · obtain rfl := List.mem_singleton.1 hs
      refine ⟨⟨rfl, rfl, rfl, rfl, rfl⟩, hsettings, hwhole, fun digest hd => ?_⟩
      -- What was built last is what the sidecar tells.
      obtain ⟨built, htells, hmem⟩ := h₁.sidecar
      refine hmem digest ?_
      rw [← htells.recorded hown, ← hdetector]
      exact hd

theorem Sound.emit (h : Sound s l) (number : Nat) :
    Sound s ⟨(l.company.emit number).2, l.written ++ l.writes number Workspace.emitWrites⟩ := by
  cases hs : l.company.sessions[number]? with
  | none =>
    rw [Company.emit, act_of_none hs, writes_of_none hs, List.append_nil]
    exact h
  | some session =>
    have hrest := h.acting hs
    rw [writes_of_some hs]
    generalize ht : { session with ready := [] }.withDesk l.company.desk = t at hrest ⊢
    have hwrites := Workspace.writes_emit t.workspace
    have hdesk : t.workspace.desk = l.company.desk := by
      rw [← ht]
      rfl
    have hconsistent : t.workspace.settings.Consistent t.workspace.desk.disk l.written := by
      rw [hrest.settings, hdesk]
      exact h.consistent
    have hafter : ((Session.onWorkspace Workspace.emit).on t).2 =
        { t with workspace := (Workspace.emit.on t.workspace).2 } := by
      rw [Session.onWorkspace, on_within]
    have hemit := Workspace.consistent_emit hrest.whole hconsistent
    rw [hrest.settings] at hemit
    refine h.act hs ht _ hafter ⟨⟨hrest.idle.ready, hrest.idle.front, hrest.idle.running,
      hrest.idle.building, hrest.idle.queued⟩, hwrites.settings.trans hrest.settings,
      Workspace.ignores_whole.relates_emit _ hrest.whole, fun digest hd => ?_⟩
      (hwrites.tool.trans (congrArg Desk.tool hdesk)) hemit
    exact List.mem_append_left _ (hrest.lastBuilt digest (hwrites.lastBuilt.symm.trans hd))

theorem Sound.runOnce (h : Sound s l) (number : Nat) (status : Int) :
    Sound s ⟨(l.company.runOnce number status).2,
      l.written ++ l.writes number Workspace.onceWrites⟩ := by
  cases hs : l.company.sessions[number]? with
  | none =>
    rw [Company.runOnce, act_of_none hs, writes_of_none hs, List.append_nil]
    exact h
  | some session =>
    have hrest := h.acting hs
    rw [writes_of_some hs]
    generalize ht : { session with ready := [] }.withDesk l.company.desk = t at hrest ⊢
    have hdesk : t.workspace.desk = l.company.desk := by
      rw [← ht]
      rfl
    have hconsistent : t.workspace.settings.Consistent t.workspace.desk.disk l.written := by
      rw [hrest.settings, hdesk]
      exact h.consistent
    have htool : t.workspace.desk.tool.LeavesOutputs t.workspace.settings := by
      rw [hrest.settings, hdesk]
      exact h.tool
    obtain ⟨hafter, hworkspace, -⟩ := resting_buildOnce hrest status
    have hrun := Workspace.consistent_runOnce status hconsistent htool
    rw [hrest.settings, ← hworkspace] at hrun
    have hsame := (Workspace.same_runOnce status t.workspace).2
    rw [← hworkspace, hdesk] at hsame
    exact h.act hs ht _ rfl hafter hsame hrun

/-- **Whatever happens in a company, its disk is consistent with what was written.** -/
theorem Reached.sound (h : Reached s l) : Sound s l := by
  induction h with
  | start hstart => exact hstart.sound
  | step _ hstep ih =>
    cases hstep with
    | edit hdisk htool => exact ⟨ih.consistent.of_leaves hdisk, htool, ih.sessions⟩
    | openUp rescan force => exact ih.openUp rescan force
    | emit number => exact ih.emit number
    | build number status => exact ih.runOnce number status

/-! ### What a report means -/

/-- **When a run reports a digest, a manifest of that digest was written, and the manifest file holds
the one that was written last since then.**  A run that has built has written it last itself. -/
theorem manifest_of_runOnce (h : Reached s l) {number : Nat} {status : Int} {digest : String}
    {built : Bool} {c : Company}
    (hrun : l.company.runOnce number status = (some (some (.ok (some ⟨digest, built⟩))), c)) :
    ∃ m before since, s.Stores c.desk.disk m ∧
      l.written ++ l.writes number Workspace.onceWrites = before ++ digest :: since ∧
      m.digest = since.getLast?.getD digest ∧ (built = true → since = []) := by
  have hsound := h.sound
  have hafter := hsound.runOnce number status
  rw [hrun] at hafter
  -- What was written tells what the file holds.
  have hfile (before since : List String)
      (hwritten : l.written ++ l.writes number Workspace.onceWrites = before ++ digest :: since) :
      ∃ m, s.Stores c.desk.disk m ∧ m.digest = since.getLast?.getD digest := by
    refine hafter.consistent.file _ ?_
    show (l.written ++ _).getLast? = _
    rw [hwritten, List.getLast?_append, List.getLast?_cons]
    rfl
  cases hs : l.company.sessions[number]? with
  | none =>
    rw [Company.runOnce, act_of_none hs] at hrun
    cases hrun
  | some session =>
    have hrest := hsound.acting hs
    rw [writes_of_some hs] at hfile ⊢
    obtain ⟨-, -, houtcome⟩ := resting_buildOnce hrest status
    rw [Company.runOnce, Company.act, hs] at hrun
    have hreport := Option.some.inj (congrArg Prod.fst hrun)
    rw [houtcome] at hreport
    generalize { session with ready := [] }.withDesk l.company.desk = t at hrest hfile hreport ⊢
    rcases hr : (Workspace.runOnce status).on t.workspace with ⟨f | report, w⟩
    · rw [hr] at hreport
      cases hreport
    rw [hr] at hreport
    obtain rfl : report = ⟨digest, built⟩ := by simpa [Except.map] using hreport
    rcases Workspace.digest_of_runOnce hr with ⟨rfl, hwrites⟩ | ⟨rfl, hwrites, hbuilt⟩
    · rw [hwrites] at hfile ⊢
      obtain ⟨m, hm, hdigest⟩ := hfile l.written [] rfl
      exact ⟨m, l.written, [], hm, rfl, hdigest, fun _ => rfl⟩
    · rw [hwrites, List.append_nil] at hfile ⊢
      obtain ⟨before, since, hsplit⟩ := List.append_of_mem (hrest.lastBuilt digest hbuilt)
      obtain ⟨m, hm, hdigest⟩ := hfile before since hsplit
      exact ⟨m, before, since, hm, hsplit, hdigest, fun hb => by cases hb⟩

end Ledger

/-! ### A source that is changed and changed back -/

namespace Small

/-! ### Its history -/

open Ledger

/-- A company of one session, after it has been used for some time. -/
structure Stage (text : String) (built : Option String) (l : Ledger) : Prop where
  /-- It was used. -/
  reached : Reached settings l
  /-- There is one session. -/
  session : ∃ session, l.company.sessions = [session] ∧
    Open (some 0) [] text (session.withDesk l.company.desk).workspace ∧
    session.workspace.detector.lastBuilt = built

/-- The source is changed. -/
theorem Stage.edit {text : String} {built : Option String} {l : Ledger} (h : Stage text built l)
    (text' : String) : ∃ l', Stage text' built l' ∧ l'.written = l.written := by
  obtain ⟨session, hsessions, hopen, hbuilt⟩ := h.session
  obtain ⟨outputs, hkept, hdisk⟩ := hopen.disk
  have hdisk : l.company.desk.disk = disk text outputs := hdisk
  have htool : l.company.desk.tool = tool (some 0) := hopen.tool
  have hstep : Step settings l ⟨{ l.company with desk :=
      { l.company.desk with disk := disk text' outputs } }, l.written⟩ := by
    refine .edit ?_ ?_
    · rw [hdisk]
      exact leavesOutputs_disk text text' outputs
    · show l.company.desk.tool.LeavesOutputs settings
      rw [htool]
      exact leavesOutputs_tool _
  refine ⟨_, ⟨.step h.reached hstep, session, hsessions, ?_, hbuilt⟩, rfl⟩
  exact ⟨hopen.settings, hopen.source, hopen.force, hopen.scanner, hopen.sink, hopen.tool,
    outputs, hkept, rfl⟩

/-- The session acts. -/
theorem Stage.act {α : Type} {text : String} {built : Option String} {l : Ledger} {x : α}
    {session after : Session} (hsessions : l.company.sessions = [session])
    {f : Session → α × Session}
    (hf : f ({ session with ready := [] }.withDesk l.company.desk) = (x, after))
    (hopen : Open (some 0) [] text after.workspace) (hbuilt : after.workspace.detector.lastBuilt = built)
    {written : List String} (hreached : Reached settings ⟨(l.company.act 0 f).2, written⟩) :
    (l.company.act 0 f).1 = some x ∧ Stage text built ⟨(l.company.act 0 f).2, written⟩ := by
  have hs : l.company.sessions[0]? = some session := by
    rw [hsessions]
    rfl
  have hact : (l.company.act 0 f).1 = some x ∧
      (l.company.act 0 f).2.sessions = [{ after with ready := [] }] ∧
      (l.company.act 0 f).2.desk = after.desk := by
    rw [Company.act, hs]
    dsimp only
    rw [hf, hsessions]
    exact ⟨rfl, rfl, rfl⟩
  obtain ⟨hresult, hsession, hdesk⟩ := hact
  refine ⟨hresult, hreached, _, hsession, ?_, hbuilt⟩
  show Open (some 0) [] text { after.workspace with desk := (l.company.act 0 f).2.desk }
  rw [hdesk]
  exact hopen

/-- The manifest is written. -/
theorem Stage.emit {text : String} {built : Option String} {l : Ledger} (h : Stage text built l)
    (hgood : Good text) :
    ∃ l', Stage text built l' ∧ l'.written = l.written ++ [(manifest text).digest] := by
  obtain ⟨session, hsessions, hopen, hbuilt⟩ := h.session
  have hs : l.company.sessions[0]? = some session := by
    rw [hsessions]
    rfl
  have hopen : Open (some 0) [] text
      ({ session with ready := [] }.withDesk l.company.desk).workspace := hopen
  obtain ⟨made, w, hemit, hdigest, hopen', hlast⟩ := hopen.on_emit hgood
  have hwritten : l.writes 0 Workspace.emitWrites = [(manifest text).digest] := by
    rw [writes_of_some hs, Workspace.emitWrites, hemit, ← hdigest]
  have hf : (Session.onWorkspace Workspace.emit).on
      ({ session with ready := [] }.withDesk l.company.desk) =
      (.ok made, { session with ready := [], workspace := w }) := by
    rw [Session.onWorkspace, on_within, hemit]
    rfl
  have hstep := Reached.step h.reached (.emit l 0)
  rw [hwritten] at hstep
  exact ⟨_, (Stage.act hsessions hf hopen' (hlast.trans hbuilt) hstep).2, rfl⟩

/-- A build goes well, and is made unless the manifest was built last. -/
theorem Stage.runOnce {text : String} {built : Option String} {l : Ledger} (h : Stage text built l)
    (hgood : Good text) :
    ∃ c written, l.company.runOnce 0 0 = (some (some (.ok (some ⟨(manifest text).digest,
        built != some (manifest text).digest⟩))), c) ∧
      Stage text (some (manifest text).digest) ⟨c, written⟩ ∧
      (built = some (manifest text).digest → written = l.written) := by
  obtain ⟨session, hsessions, hopen, hbuilt⟩ := h.session
  have hs : l.company.sessions[0]? = some session := by
    rw [hsessions]
    rfl
  have hrest := h.reached.sound.acting hs
  obtain ⟨t, ht⟩ : ∃ t, { session with ready := [] }.withDesk l.company.desk = t := ⟨_, rfl⟩
  have hopen : Open (some 0) [] text t.workspace := ht ▸ hopen
  have hbuilt : t.workspace.detector.lastBuilt = built := ht ▸ hbuilt
  rw [ht] at hrest
  obtain ⟨-, hworkspace, houtcome⟩ := resting_buildOnce hrest 0
  obtain ⟨w, hrun, hopen', hlast⟩ := hopen.on_runOnce hgood (rfl : (some (0 : Int)).getD 0 = 0)
  rw [hrun, hbuilt] at houtcome
  rw [hrun] at hworkspace
  obtain rfl : (t.buildOnce 0).workspace = w := hworkspace
  have hact := Stage.act (f := fun s => ((s.buildOnce 0).lastOutcome, s.buildOnce 0)) hsessions
    (by rw [ht]) hopen' hlast (Reached.step h.reached (.build l 0 0))
  refine ⟨_, _, Prod.ext ?_ rfl, hact.2, fun hlast => ?_⟩
  · rw [Company.runOnce, hact.1, houtcome]
    rfl
  · rw [writes_of_some hs, ht]
    -- A run that has nothing to build writes nothing.
    rcases Workspace.digest_of_runOnce hrun with ⟨hdue, -⟩ | ⟨-, hnone, -⟩
    · simp [hbuilt, hlast] at hdue
    · rw [hnone, List.append_nil]

/-- There is no manifest file at first. -/
theorem fileWhole_disk (text : String) : settings.FileWhole (disk text []) := by
  have hnames : ∀ n ∈ (disk text []).absoluteNames ⟨.root, ["p", "probes.manifest.json"]⟩,
      Disk.IsName n := by
    show ∀ n ∈ ["p", "probes.manifest.json"], Disk.IsName n
    decide
  intro bytes hfile
  rw [show settings.manifestPath = ⟨.root, ["p", "probes.manifest.json"]⟩ from rfl, Disk.file?,
    Disk.home?_of_linkFree hnames (linkFree_disk text [])] at hfile
  cases hfile

/-- The project at first, with a session that was just opened. -/
theorem exists_stage : ∃ l, Stage "" none l := by
  obtain ⟨w, hopened, hopen, -, hlast⟩ := on_openUp (some 0) []
  have hsession := Session.on_openUp settings true false (desk (some 0))
  rw [show (Workspace.openUp settings true false).on (desk (some 0)) = _ from hopened] at hsession
  let l : Ledger := ⟨{ desk := desk (some 0) }, []⟩
  have hstart : Start settings l := by
    refine ⟨rfl, rfl, fun own hown => ?_, fileWhole_disk "", outputsApart_disk "" [],
      leavesOutputs_tool _⟩
    obtain rfl : ⟨.root, ["p", "probes.manifest.json.sha256"]⟩ = own := Except.ok.inj hown
    exact read?_sidecar.1
  refine ⟨⟨l.company.openUp settings true false, []⟩, .step (.start hstart) (.openUp l true false),
    { workspace := w }, ?_, ?_, hlast⟩
  · rw [Company.openUp, hsession]
    rfl
  · rw [Company.openUp, hsession]
    exact hopen

/-! ### What the run reports -/

/-- The source is built, changed and written to the manifest, and changed back. -/
theorem exists_reverted :
    ∃ l after : Ledger, Stage "" (some (manifest "").digest) l ∧
      l.company.runOnce 0 0 =
        (some (some (.ok (some ⟨(manifest "").digest, false⟩))), after.company) ∧
      Reached settings after ∧ after.written.getLast? = some (manifest other).digest := by
  obtain ⟨l₁, h₁⟩ := exists_stage
  obtain ⟨c₂, written₂, -, h₂, -⟩ := h₁.runOnce good_empty
  obtain ⟨l₃, h₃, -⟩ := h₂.edit other
  obtain ⟨l₄, h₄, hwritten₄⟩ := h₃.emit good_other
  obtain ⟨l₅, h₅, hwritten₅⟩ := h₄.edit ""
  obtain ⟨c₆, written₆, hrun, h₆, hwritten₆⟩ := h₅.runOnce good_empty
  refine ⟨l₅, ⟨c₆, written₆⟩, h₅, ?_, h₆.reached, ?_⟩
  · rw [hrun]
    simp
  · rw [hwritten₆ rfl, hwritten₅, hwritten₄, List.getLast?_concat]

end Small

namespace Ledger

/-- A run that reports a digest after the sources were changed back to it. -/
theorem manifest_of_unchanged_run :
    ∃ (l : Ledger) (c : Company) (digest : String), Reached Small.settings l ∧
      l.company.runOnce 0 0 = (some (some (.ok (some ⟨digest, false⟩))), c) ∧
      ∃ m before since, Small.settings.Stores c.desk.disk m ∧
        l.written ++ l.writes 0 Workspace.onceWrites = before ++ digest :: since ∧
        m.digest = since.getLast?.getD digest ∧ (false = true → since = []) := by
  obtain ⟨l, after, hstage, hrun, -, -⟩ := Small.exists_reverted
  exact ⟨l, after.company, _, hstage.reached, hrun, manifest_of_runOnce hstage.reached hrun⟩

/-- **A run may report a digest while the manifest file holds another**: a manifest that was emitted
since the last build stays when its sources are changed back. -/
theorem manifest_of_reverted_source :
    ¬∀ {s : Settings} {l : Ledger} {number : Nat} {status : Int} {digest : String} {built : Bool}
      {c : Company}, Reached s l →
      l.company.runOnce number status = (some (some (.ok (some ⟨digest, built⟩))), c) →
      s.FileHas c.desk.disk digest := by
  intro hclaim
  obtain ⟨l, after, hstage, hrun, hreached, hlast⟩ := Small.exists_reverted
  obtain ⟨m, hm, hdigest⟩ := hclaim hstage.reached hrun
  obtain ⟨m', hm', hdigest'⟩ := hreached.sound.consistent.file _ hlast
  obtain rfl : m = m' := Option.some.inj ((hm default).symm.trans (hm' default))
  exact Small.digest_ne (hdigest.symm.trans hdigest')

end Ledger

end ProbeKit
