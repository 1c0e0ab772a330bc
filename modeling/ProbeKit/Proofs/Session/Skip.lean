import ProbeKit.Proofs.Session.OneShot
import ProbeKit.Proofs.Workspace.Events
import ProbeKit.Proofs.Workspace.Sidecar

/-!
# When a run skips the build

One-shot runs of fresh sessions follow one another, and between them anything may happen to the
project as long as its sidecar is left alone.  What the runs keep track of is on disk only: the
sidecar holds the digest of the last build command that ended well, whatever failed before or after
it (`Reached.tells`).  So a run skips the build exactly if it is not forced and its manifest has that
digest (`skips_iff`).
-/

namespace ProbeKit

open Act

/-! ### Build commands -/

/-- A build command that was run to its end. -/
structure Command.Ran where
  /-- The digest of the manifest that its cycle had written. -/
  digest : String
  /-- The status that it ended with. -/
  status : Int

/-- The digest of the last command that ended well. -/
def lastGood (commands : List Command.Ran) : Option String :=
  (commands.filter fun c => c.status = 0).getLast?.map (·.digest)

theorem lastGood_append (cs ds : List Command.Ran) :
    lastGood (cs ++ ds) = (lastGood ds).or (lastGood cs) := by
  unfold lastGood
  rw [List.filter_append, List.getLast?_append]
  cases (ds.filter fun c => c.status = 0).getLast? <;> rfl

theorem lastGood_singleton_zero (digest : String) : lastGood [⟨digest, 0⟩] = some digest := rfl

theorem lastGood_singleton_of_ne {digest : String} {status : Int} (h : status ≠ 0) :
    lastGood [⟨digest, status⟩] = none := by
  simp [lastGood, h]

namespace Workspace

/-- The commands of a cycle, which is one or, where the cycle fails before it, none. -/
def cycleCommands (status : Int) (w : Workspace) : List Command.Ran :=
  match beginCycle.on w with
  | (.ok (c, ended), _) => [⟨c.digest, ended.getD status⟩]
  | (.error _, _) => []

/-- The commands of a one-shot run. -/
def onceCommands (status : Int) (w : Workspace) : List Command.Ran :=
  match check.on w with
  | (.ok report, w) => if report.due then cycleCommands status w else []
  | (.error _, _) => []

/-- The sidecar can be written once the command of the cycle has ended well. -/
def CanRecord (status : Int) (w : Workspace) : Prop :=
  ∀ c ended w₁ own, beginCycle.on w = (.ok (c, ended), w₁) → ended.getD status = 0 →
    Sidecar.path w.settings.manifestPath = .ok own → w₁.desk.disk.CanWrite own

/-! ### Steps of a run -/

/-- What a cycle leaves in the sidecar: the digest of its command if that ended well, and else what
was there. -/
theorem tells_runCycle {w : Workspace} {status : Int} {built : Option String}
    (h : w.settings.Tells w.desk.disk built) (htool : w.desk.tool.LeavesSidecar w.settings)
    (hcan : w.CanRecord status) :
    ((runCycle status).on w).2.settings.Tells ((runCycle status).on w).2.desk.disk
      ((lastGood (w.cycleCommands status)).or built) := by
  have hbegin := on_beginCycle w
  have hprepared := writes_prepare w
  -- Up to its command a cycle writes outputs only, and none of them is the sidecar.
  rcases hp : prepare.on w with ⟨f | m, w₁⟩
  all_goals
    rw [hp] at hbegin hprepared
    have h₁ : w₁.settings.Tells w₁.desk.disk built :=
      tells_of_writes h hprepared fun own hown q hq => hq ▸ h.apart.manifest own hown
    dsimp only at hbegin
  · rw [runCycle, on_bind_of_error hbegin, cycleCommands, hbegin]
    exact h₁
  rw [hprepared.tool] at hbegin
  rcases hs : w.desk.tool.start w₁.settings.command w₁.settings.root w₁.desk.disk with
    e | ⟨disk, ended⟩
  · rw [hs] at hbegin
    rw [runCycle, on_bind_of_error hbegin, cycleCommands, hbegin]
    exact h₁
  rw [hs] at hbegin
  have h₂ : (w₁.ran disk).settings.Tells (w₁.ran disk).desk.disk built := by
    rw [hprepared.settings] at hs
    rw [hprepared.settings] at h₁
    show w₁.settings.Tells disk built
    rw [hprepared.settings]
    exact h₁.of_leaves (htool _ _ _ hs h₁.apart)
  rw [runCycle, on_bind_of_ok hbegin, cycleCommands, hbegin]
  dsimp only
  -- The sidecar is written behind a command that ended well, and is left alone behind any other.
  by_cases hstatus : ended.getD status = 0
  · rw [hstatus, lastGood_singleton_zero]
    refine tells_endCycle rfl h₂.apart fun own hown => ?_
    have hown' : Sidecar.path w.settings.manifestPath = .ok own := by
      rw [← hprepared.settings]
      exact hown
    exact hcan _ _ _ own hbegin hstatus hown'
  · rw [lastGood_singleton_of_ne hstatus, endCycle_of_ne hstatus]
    exact h₂

/-! ### One-shot runs -/

/-- What a one-shot run leaves in the sidecar. -/
theorem tells_runOnce {w : Workspace} {status : Int} {built : Option String}
    (h : w.settings.Tells w.desk.disk built) (htool : w.desk.tool.LeavesSidecar w.settings)
    (hcan : ((check.on w).2).CanRecord status) :
    ((runOnce status).on w).2.settings = w.settings ∧
      ((runOnce status).on w).2.desk.tool = w.desk.tool ∧
      w.settings.Tells ((runOnce status).on w).2.desk.disk
        ((lastGood (w.onceCommands status)).or built) := by
  have hchecked := relates_check w
  rcases hc : check.on w with ⟨f | report, w₁⟩
  all_goals
    rw [hc] at hchecked hcan
    have h₁ : w₁.settings.Tells w₁.desk.disk built :=
      tells_of_writes h hchecked fun _ _ _ hq => hq.elim
  · rw [runOnce, on_bind_of_error hc, onceCommands, hc]
    rw [hchecked.settings] at h₁
    exact ⟨hchecked.settings, hchecked.tool, h₁⟩
  rw [runOnce, on_bind_of_ok hc, onceCommands, hc]
  dsimp only
  split
  · -- What a due run does behind its cycle is only to say what was built.
    have hcycle := tells_runCycle h₁ (by rw [hchecked.settings, hchecked.tool]; exact htool) hcan
    obtain ⟨hset, htool₁⟩ := same_runCycle status w₁
    have hlast : ((runCycle status >>= fun _ => do
        return ⟨(← get).detector.lastBuilt.getD report.digest, true⟩ :
          Act Workspace Session.OneBuild).on w₁).2 = ((runCycle status).on w₁).2 := by
      rw [on_bind]
      rcases (runCycle status).on w₁ with ⟨f | ⟨⟩, w₂⟩ <;> rfl
    rw [hset, hchecked.settings] at hcycle
    rw [hlast]
    exact ⟨hset.trans hchecked.settings, htool₁.trans hchecked.tool, hcycle⟩
  · rw [hchecked.settings] at h₁
    exact ⟨hchecked.settings, hchecked.tool, h₁⟩

end Workspace

/-! ### Projects over time -/

/-- A project as runs leave it, with the build commands that were run, the last one at the end. -/
structure Project where
  /-- The desk. -/
  desk : Desk
  /-- The commands. -/
  commands : List Command.Ran

namespace Project

open Session

/-- The commands that a fresh one-shot run runs. -/
def freshCommands (s : Settings) (rescan force : Bool) (status : Int) (d : Desk) :
    List Command.Ran :=
  match (Workspace.openUp s rescan force).on d with
  | (.ok w, _) => w.onceCommands status
  | (.error _, _) => []

/-- In a fresh one-shot run the sidecar can be written once the build command has ended well. -/
def CanRecord (s : Settings) (rescan force : Bool) (status : Int) (d : Desk) : Prop :=
  ∀ w d', (Workspace.openUp s rescan force).on d = (.ok w, d') →
    ((Workspace.check.on w).2).CanRecord status

/-- What may happen to a project with fixed settings. -/
inductive Step (s : Settings) : Project → Project → Prop
  /-- Someone else changes anything but the sidecar, be it sources, the log or the build tool. -/
  | edit {p : Project} {d : Desk} (hdisk : s.LeavesSidecar p.desk.disk d.disk)
      (htool : d.tool.LeavesSidecar s) : Step s p ⟨d, p.commands⟩
  /-- A fresh session writes the manifest. -/
  | emit (p : Project) (rescan force : Bool) :
      Step s p ⟨(emitFresh s rescan force p.desk).2, p.commands⟩
  /-- A fresh session builds once. -/
  | build {p : Project} {rescan force : Bool} {status : Int}
      (hcan : CanRecord s rescan force status p.desk) :
      Step s p ⟨(buildFresh s rescan force status p.desk).2,
        p.commands ++ freshCommands s rescan force status p.desk⟩

/-- A project to which nothing has been built and where the sidecar is out of the way. -/
structure Start (s : Settings) (p : Project) : Prop where
  /-- No command was run. -/
  commands : p.commands = []
  /-- There is no sidecar. -/
  sidecar : ∀ own, Sidecar.path s.manifestPath = .ok own → p.desk.disk.file? own = none
  /-- The sidecar keeps out of the way of the other outputs. -/
  apart : s.SidecarApart p.desk.disk
  /-- The build tool leaves the sidecar alone. -/
  tool : p.desk.tool.LeavesSidecar s

/-- What becomes of a project in some steps. -/
inductive Reached (s : Settings) : Project → Prop
  /-- At the start. -/
  | start {p : Project} (h : Start s p) : Reached s p
  /-- After one more step. -/
  | step {p q : Project} (h : Reached s p) (hstep : Step s p q) : Reached s q

/-! ### The invariant -/

/-- What a fresh run that builds once leaves in the sidecar. -/
theorem tells_buildFresh {s : Settings} {rescan force : Bool} {status : Int} {d : Desk}
    {built : Option String} (h : s.Tells d.disk built) (htool : d.tool.LeavesSidecar s)
    (hcan : CanRecord s rescan force status d) :
    s.Tells (buildFresh s rescan force status d).2.disk
        ((lastGood (freshCommands s rescan force status d)).or built) ∧
      (buildFresh s rescan force status d).2.tool.LeavesSidecar s := by
  have hopened := Workspace.noted_openUp s rescan force d
  rw [buildFresh_eq, freshCommands]
  rcases ho : (Workspace.openUp s rescan force).on d with ⟨f | w, d'⟩
  all_goals
    rw [ho] at hopened
    have h₁ : s.Tells d'.disk built :=
      h.of_writes (hopened.disk h.apart.isDir) fun _ _ _ hq => hq.elim
    have htool₁ : d'.tool.LeavesSidecar s := by
      rw [hopened.tool]
      exact htool
  · exact ⟨h₁, htool₁⟩
  obtain ⟨-, rfl, rfl, -⟩ := Workspace.openUp_ok ho
  obtain ⟨-, htool₂, h₂⟩ := Workspace.tells_runOnce h₁ htool₁ (hcan w w.desk ho)
  refine ⟨h₂, ?_⟩
  dsimp only
  rw [htool₂]
  exact htool₁

/-- A fresh session that writes the manifest leaves the sidecar alone. -/
theorem tells_emitFresh {s : Settings} {rescan force : Bool} {d : Desk} {built : Option String}
    (h : s.Tells d.disk built) (htool : d.tool.LeavesSidecar s) :
    s.Tells (emitFresh s rescan force d).2.disk built ∧
      (emitFresh s rescan force d).2.tool.LeavesSidecar s := by
  have hopened := Workspace.noted_openUp s rescan force d
  rw [emitFresh_eq]
  rcases ho : (Workspace.openUp s rescan force).on d with ⟨f | w, d'⟩
  all_goals
    rw [ho] at hopened
    have h₁ : s.Tells d'.disk built :=
      h.of_writes (hopened.disk h.apart.isDir) fun _ _ _ hq => hq.elim
    have htool₁ : d'.tool.LeavesSidecar s := by
      rw [hopened.tool]
      exact htool
  · exact ⟨h₁, htool₁⟩
  obtain ⟨-, rfl, rfl, -⟩ := Workspace.openUp_ok ho
  have hemit := Workspace.writes_emit w
  have h₂ := Workspace.tells_of_writes h₁ hemit fun own hown q hq => hq ▸ h₁.apart.manifest own hown
  rw [hemit.settings] at h₂
  refine ⟨h₂, ?_⟩
  dsimp only
  rw [hemit.tool]
  exact htool₁

/-- **Whatever happens to a project, its sidecar tells of the last build command that ended
well.** -/
theorem Reached.tells {s : Settings} {p : Project} (h : Reached s p) :
    s.Tells p.desk.disk (lastGood p.commands) ∧ p.desk.tool.LeavesSidecar s := by
  induction h with
  | @start p hstart =>
    refine ⟨⟨hstart.apart, fun own hown => ?_, fun own hown => ?_, ?_⟩, hstart.tool⟩
    all_goals rw [hstart.commands]
    · cases hr : p.desk.disk.read? own with
      | none => rfl
      | some bytes =>
        have hnone := hstart.sidecar own hown
        rw [Disk.file?_of_read? hstart.apart.isDir hr] at hnone
        cases hnone
    · exact hstart.sidecar own hown
    · intro digest hdigest
      cases hdigest
  | step _ hstep ih =>
    obtain ⟨htells, htool⟩ := ih
    cases hstep with
    | edit hdisk htool' => exact ⟨htells.of_leaves hdisk, htool'⟩
    | emit rescan force => exact tells_emitFresh htells htool
    | build hcan =>
      rw [lastGood_append]
      exact tells_buildFresh htells htool hcan

/-- **A fresh run that can make its manifest and look at the snapshot skips the build exactly if
none is forced and the last build command that ended well, of all that were ever run, was run for a
manifest of the same digest.** -/
theorem skips_iff {s : Settings} {p : Project} (hp : Reached s p) {rescan force : Bool}
    {status : Int} {w w₁ : Workspace} {d : Desk} {m : Manifest}
    (hopen : (Workspace.openUp s rescan force).on p.desk = (.ok w, d))
    (hm : (Workspace.currentManifest true).on w = (.ok m, w₁))
    (hsnapshot : ∃ snapshot,
      Sidecar.snapshot w₁.desk.room w₁.desk.disk (some s.snapshotPath) = .ok snapshot) :
    (∃ digest, (buildFresh s rescan force status p.desk).1 = some (.ok (some ⟨digest, false⟩))) ↔
      force = false ∧ lastGood p.commands = some m.digest := by
  obtain ⟨htells, -⟩ := hp.tells
  obtain ⟨hnoted, rfl, rfl, rfl, own, hown, hdetector⟩ := Workspace.openUp_ok hopen
  have h₁ : w.settings.Tells w.desk.disk (lastGood p.commands) :=
    htells.of_writes (hnoted.disk htells.apart.isDir) fun _ _ _ hq => hq.elim
  have hbuilt : w.detector.lastBuilt = lastGood p.commands := by
    rw [hdetector]
    exact h₁.recorded hown
  have hresult (digest : String) :
      (buildFresh w.settings rescan w.force status p.desk).1 = some (.ok (some ⟨digest, false⟩)) ↔
        ((Workspace.runOnce status).on w).1 = .ok ⟨digest, false⟩ := by
    rw [buildFresh_eq, hopen]
    dsimp only
    rcases ((Workspace.runOnce status).on w).1 with f | result
    · simp [Except.map]
    · simp [Except.map]
  have hmade := Workspace.relates_currentManifest true w
  rw [hm] at hmade
  rw [← hmade.settings] at hsnapshot
  simp only [hresult]
  rw [Workspace.runOnce_skips_iff hm hsnapshot, hbuilt]

end Project

/-! ### A build, an edit, a failed build and another edit -/

namespace Small

open Project

/-- The project after some commands, with a text of its source and a build tool whose commands end
as they are told to. -/
structure Past (text : String) (commands : List Command.Ran) (p : Project) : Prop where
  /-- It was reached. -/
  reached : Reached settings p
  /-- The commands. -/
  commands : p.commands = commands
  /-- Nothing is logged to a file. -/
  sink : p.desk.sink = none
  /-- The build tool. -/
  tool : p.desk.tool = tool none
  /-- The disk. -/
  disk : ∃ outputs, Kept outputs ∧ p.desk.disk = disk text outputs

variable {text : String} {commands : List Command.Ran} {p : Project}

/-- The project at first. -/
theorem past_desk : Past "" [] ⟨desk none, []⟩ := by
  refine ⟨.start ⟨rfl, fun own hown => ?_, (outputsApart_disk "" []).toSidecarApart, ?_⟩, rfl, rfl,
    rfl, [], kept_nil, rfl⟩
  · obtain rfl : ⟨.root, ["p", sidecarName]⟩ = own := Except.ok.inj hown
    exact read?_sidecar.1
  · intro d d' status h hapart
    cases h
    exact ⟨hapart, fun _ _ => rfl, fun _ _ => rfl⟩

/-- Whoever opens the project knows the last build that ended well. -/
theorem Past.exists_opened (h : Past text commands p) :
    ∃ w, (Workspace.openUp settings true false).on p.desk = (.ok w, p.desk) ∧
      Open none [] text w ∧ w.detector.lastBuilt = lastGood commands := by
  obtain ⟨outputs, hkept, hdisk⟩ := h.disk
  obtain ⟨w, hopened, -, hopen, -, hdetector⟩ := on_openUp_of_disk [] h.sink h.tool hkept hdisk
  refine ⟨w, hopened, hopen, ?_⟩
  rw [hdetector, ← h.commands]
  exact h.reached.tells.1.recorded rfl

/-- The source is changed. -/
theorem Past.edit (h : Past text commands p) (text' : String) :
    ∃ q, Past text' commands q := by
  obtain ⟨outputs, hkept, hdisk⟩ := h.disk
  have hstep : Step settings p ⟨{ p.desk with disk := Small.disk text' outputs }, p.commands⟩ := by
    refine .edit ?_ h.reached.tells.2
    rw [hdisk]
    exact (leavesOutputs_disk text text' outputs).toLeavesSidecar
  exact ⟨_, .step h.reached hstep, h.commands, h.sink, h.tool, outputs, hkept, rfl⟩

/-- A build that is due runs its command, however that ends. -/
theorem Past.build (h : Past text commands p) (hgood : Good text)
    (hdue : lastGood commands ≠ some (manifest text).digest) (status : Int) :
    ∃ q, Past text (commands ++ [⟨(manifest text).digest, status⟩]) q := by
  obtain ⟨w, hopened, hopen, hlast⟩ := h.exists_opened
  obtain ⟨report, w₁, hcheck, hopen₁, -, -, hreport⟩ := hopen.on_check hgood
  obtain ⟨w₂, hbegin, hopen₂, -⟩ := hopen₁.on_beginCycle hgood
  have hreport : report.due = true := by
    rw [hreport, hlast]
    simpa using hdue
  have hran : freshCommands settings true false status p.desk =
      [⟨(manifest text).digest, status⟩] := by
    rw [freshCommands, hopened]
    dsimp only
    rw [Workspace.onceCommands, hcheck]
    dsimp only
    rw [if_pos hreport, Workspace.cycleCommands, hbegin]
    rfl
  have hcan : CanRecord settings true false status p.desk := by
    intro w' d' ho
    rw [hopened] at ho
    cases ho
    rw [hcheck]
    intro c ended w₃ own hb _ hown
    rw [hbegin] at hb
    cases hb
    have hown : Sidecar.path w₁.settings.manifestPath = .ok own := hown
    rw [hopen₁.settings] at hown
    obtain rfl : ⟨.root, ["p", sidecarName]⟩ = own := Except.ok.inj hown
    obtain ⟨outputs, -, hdisk⟩ := hopen₂.disk
    rw [hdisk]
    exact fun bytes => ⟨_, write_output text outputs (by decide) (by decide) bytes⟩
  have hreached := Reached.step h.reached (.build hcan)
  have hbuilt : (Session.buildFresh settings true false status p.desk).2 =
      ((Workspace.runOnce status).on w).2.desk := by
    rw [Session.buildFresh_eq, hopened]
  rw [hran, hbuilt] at hreached
  have hopen' := hopen.runOnce hgood status
  exact ⟨_, hreached, congrArg (· ++ _) h.commands, hopen'.sink, hopen'.tool, hopen'.disk⟩

/-- The manifest can be made, and the snapshot can be looked at. -/
theorem Past.exists_looked (h : Past text commands p) (hgood : Good text) :
    ∃ w w₁, (Workspace.openUp settings true false).on p.desk = (.ok w, p.desk) ∧
      (Workspace.currentManifest true).on w = (.ok (manifest text), w₁) ∧
      ∃ snapshot, Sidecar.snapshot w₁.desk.room w₁.desk.disk (some settings.snapshotPath) =
        .ok snapshot := by
  obtain ⟨w, hopened, hopen, -⟩ := h.exists_opened
  obtain ⟨w₁, hm, hopen₁, -⟩ := hopen.on_currentManifest hgood
  refine ⟨w, w₁, hopened, hm, ?_⟩
  rw [← show w₁.settings.snapshotPath = settings.snapshotPath by rw [hopen₁.settings]; rfl]
  exact hopen₁.exists_snapshot

end Small

namespace Project

open Session

/-- A build ends well, the source is edited and the build of the edited source fails.  A run then
does not skip the build; once the edit is undone it does. -/
theorem skips_after_undone_edit :
    ∃ p q : Project, Reached Small.settings p ∧ Reached Small.settings q ∧
      p.commands = [⟨(Small.manifest "").digest, 0⟩, ⟨(Small.manifest Small.other).digest, 1⟩] ∧
      q.commands = p.commands ∧
      (∃ outputs, p.desk.disk = Small.disk Small.other outputs) ∧
      (∃ outputs, q.desk.disk = Small.disk "" outputs) ∧
      (¬∃ digest, (buildFresh Small.settings true false 0 p.desk).1 =
        some (.ok (some ⟨digest, false⟩))) ∧
      ∃ digest, (buildFresh Small.settings true false 0 q.desk).1 =
        some (.ok (some ⟨digest, false⟩)) := by
  obtain ⟨p₁, h₁⟩ := Small.past_desk.build Small.good_empty nofun 0
  obtain ⟨p₂, h₂⟩ := h₁.edit Small.other
  have hdue : lastGood [⟨(Small.manifest "").digest, 0⟩] ≠
      some (Small.manifest Small.other).digest := fun h => Small.digest_ne (Option.some.inj h)
  obtain ⟨p, hp⟩ := h₂.build Small.good_other hdue 1
  obtain ⟨q, hq⟩ := hp.edit ""
  obtain ⟨w, w₁, hopened, hm, hsnapshot⟩ := hp.exists_looked Small.good_other
  obtain ⟨w', w₁', hopened', hm', hsnapshot'⟩ := hq.exists_looked Small.good_empty
  obtain ⟨outputs, -, hdisk⟩ := hp.disk
  obtain ⟨outputs', -, hdisk'⟩ := hq.disk
  refine ⟨p, q, hp.reached, hq.reached, hp.commands, hq.commands.trans hp.commands.symm,
    ⟨outputs, hdisk⟩, ⟨outputs', hdisk'⟩, ?_, ?_⟩
  · rw [skips_iff hp.reached hopened hm hsnapshot, hp.commands]
    exact fun h => hdue h.2
  · rw [skips_iff hq.reached hopened' hm' hsnapshot', hq.commands]
    exact ⟨rfl, rfl⟩

end Project

end ProbeKit
