import ProbeKit.Proofs.Workspace.Cycle
import ProbeKit.Session.Basic

/-!
# One run of a workspace

A run makes the manifest and compares it with the last build (`check`), and goes through a cycle if a
build is due (`runOnce`).  It skips the build exactly if the manifest was built last and no build is
forced (`runOnce_skips_iff`).
-/

namespace ProbeKit

open Act

namespace Workspace

/-- Makes the manifest and compares it with the last build. -/
def check : Act Workspace Detector.Report := do
  let m ← currentManifest true
  let report ← compareAll m
  if !report.due then
    say .info "orchestrator" ("Manifest unchanged (" ++ report.digest ++ "); skipping build")
  return report

/-- Builds if a build is due, with a command that ends with a status unless it ends by itself. -/
def runOnce (status : Int) : Act Workspace Session.OneBuild := do
  let report ← check
  if report.due then
    runCycle status
    return ⟨(← get).detector.lastBuilt.getD report.digest, true⟩
  return ⟨report.digest, false⟩

/-! ### Checks -/

theorem relates_check : Relates (Writes fun _ => False) check := by
  refine relates_bind (relates_currentManifest true) fun m => ?_
  refine relates_bind (relates_compareAll m) fun report => ?_
  split
  · exact relates_bind (relates_say _ _ _) fun _ => relates_pure _
  · exact relates_pure _

/-- What a check says of the current manifest. -/
theorem check_ok {w w' : Workspace} {report : Detector.Report}
    (h : check.on w = (.ok report, w')) :
    ∃ m w₁, (currentManifest true).on w = (.ok m, w₁) ∧ report.digest = m.digest ∧
      report.due = w.detector.isDue m.digest w.force := by
  obtain ⟨m, w₁, hm, h⟩ := on_bind_eq_ok.1 h
  obtain ⟨report', w₂, hr, h⟩ := on_bind_eq_ok.1 h
  have hmade := relates_currentManifest true w
  rw [hm] at hmade
  obtain rfl : report' = report := by
    split at h
    · obtain ⟨_, _, -, h⟩ := on_bind_eq_ok.1 h
      cases h
      rfl
    · cases h
      rfl
  obtain ⟨hdigest, hdue⟩ := due_of_compareAll hr
  refine ⟨m, w₁, hm, hdigest, ?_⟩
  rw [hdue, Detector.isDue, Detector.isDue, hmade.lastBuilt, hmade.force]

/-- A manifest that could be made can be checked if the snapshot can be looked at. -/
theorem exists_check {w w₁ : Workspace} {m : Manifest}
    (hm : (currentManifest true).on w = (.ok m, w₁))
    (hsnapshot : ∃ snapshot,
      Sidecar.snapshot w₁.desk.room w₁.desk.disk (some w₁.settings.snapshotPath) = .ok snapshot) :
    ∃ report w₂, check.on w = (.ok report, w₂) := by
  obtain ⟨snapshot, hread⟩ := hsnapshot
  rw [check, on_bind_of_ok hm, on_bind_of_ok (on_compareAll hread)]
  split
  · rw [on_bind_of_ok (on_say _ _ _ _)]
    exact ⟨_, _, rfl⟩
  · exact ⟨_, _, rfl⟩

/-! ### Runs -/

/-- A run for which a build is due never reports that it skipped one. -/
theorem runOnce_of_due {w w₁ : Workspace} {report : Detector.Report} {status : Int}
    (hcheck : check.on w = (.ok report, w₁)) (hdue : report.due = true) (digest : String) :
    ((runOnce status).on w).1 ≠ .ok ⟨digest, false⟩ := by
  rw [runOnce, on_bind_of_ok hcheck, hdue, if_pos rfl]
  rcases hcycle : (runCycle status).on w₁ with ⟨f | ⟨⟩, w₂⟩
  · rw [on_bind_of_error hcycle]
    simp
  · rw [on_bind_of_ok hcycle, on_get_bind, on_pure]
    simp

/-- A run whose manifest could be made, and which can look at the snapshot, skips the build exactly
if that manifest was built last and no build is forced. -/
theorem runOnce_skips_iff {w w₁ : Workspace} {m : Manifest} {status : Int}
    (hm : (currentManifest true).on w = (.ok m, w₁))
    (hsnapshot : ∃ snapshot,
      Sidecar.snapshot w₁.desk.room w₁.desk.disk (some w₁.settings.snapshotPath) = .ok snapshot) :
    (∃ digest, ((runOnce status).on w).1 = .ok ⟨digest, false⟩) ↔
      w.force = false ∧ w.detector.lastBuilt = some m.digest := by
  obtain ⟨report, w₂, hcheck⟩ := exists_check hm hsnapshot
  obtain ⟨m', w₁', hm', -, hdue⟩ := check_ok hcheck
  rw [hm] at hm'
  cases hm'
  have hnot : w.detector.isDue m.digest w.force = false ↔
      w.force = false ∧ w.detector.lastBuilt = some m.digest := by
    simp [Detector.isDue]
  rw [← hnot, ← hdue]
  cases hd : report.due with
  | true =>
    refine iff_of_false ?_ (by simp)
    rintro ⟨digest, h⟩
    exact runOnce_of_due hcheck hd digest h
  | false =>
    refine iff_of_true ⟨report.digest, ?_⟩ rfl
    rw [runOnce, on_bind_of_ok hcheck, hd]
    rfl

end Workspace

end ProbeKit
