import ProbeKit.Watch.Event
import ProbeKit.Workspace.Basic

/-!
# Build cycles

A cycle makes and writes the manifest and starts the build command; once the command has ended
well, the digest is written beside everything that was built and remembered as built, and last of
all the snapshot is kept.  A cycle ends at the first step that fails, and what was done before it
stays done; in particular a build command that fails leaves the sidecars, the digest that was built
last and the snapshot as they were.

Before a cycle a workspace can tell whether one is due: after a scan of everything by the digest
that was built last, and after a single event by the digest that was computed last.
-/

namespace ProbeKit

/-- A cycle whose build command has been started. -/
structure Cycle where
  /-- The manifest that was written. -/
  manifest : Manifest
  /-- Its digest. -/
  digest : String
  deriving Inhabited

namespace Workspace

/-! ### Cycles -/

/-- Starts the build command.  The result is its status unless it goes on running. -/
def startBuild : Act Workspace (Option Int) := do
  let w ← get
  let command := w.settings.command
  say .info "build" ("Running native build: " ++ " ".intercalate command)
  let desk := (← get).desk
  let (disk, status) ← Act.ofExcept Fault.start (desk.tool.start command w.settings.root desk.disk)
  let builds := desk.builds ++ [⟨command, w.settings.root⟩]
  modify fun w => { w with desk := { desk with disk, builds } }
  return status

/-- Begins a cycle.  The result tells the status of the build command unless it goes on
running. -/
def beginCycle : Act Workspace (Cycle × Option Int) := do
  let manifest ← manifestToWrite
  let digest ← writeManifest manifest
  modify fun w => { w with detector := w.detector.observe digest }
  let status ← startBuild
  return (⟨manifest, digest⟩, status)

/-- Remembers a build. -/
def recordBuild (c : Cycle) : Act Workspace Unit := do
  modify fun w => { w with detector := w.detector.record c.digest }
  let w ← get
  onDisk (Sidecar.keepSnapshot (some w.settings.snapshotPath) c.manifest)

/-- Ends a cycle whose build command has ended with a status. -/
def endCycle (c : Cycle) (status : Int) : Act Workspace Unit := do
  let s := (← get).settings
  if status ≠ 0 then throw (.build s.command status)
  let written ← onDisk (Sidecar.write s.manifestPath c.digest s.root s.artifacts)
  recordBuild c
  say .info "orchestrator" <|
    "Probes built with manifest hash " ++ c.digest ++ s!" ({written.length} sidecar files)"

/-! ### What is due -/

/-- Compares a manifest with the last build. -/
def compareAll (m : Manifest) : Act Workspace Detector.Report := do
  let w ← get
  let snapshot ← Act.ofExcept id <|
    Sidecar.snapshot w.desk.room w.desk.disk (some w.settings.snapshotPath)
  onDesk (noteAll (Detector.snapshotRecords m snapshot))
  let (report, detector) := w.detector.compare m snapshot w.force
  modify fun w => { w with detector }
  return report

/-- Applies an event to what was scanned. -/
def applyEvent (e : Event) : Act Workspace Unit := do
  match e.kind with
  | .add | .change => let _ ← update e.path
  | .unlink => let _ ← forget e.path
  | kind => throw (.noticeKind kind.text)

/-- Applies an event and tells whether the manifest changed. -/
def absorb (e : Event) : Act Workspace Bool := do
  applyEvent e
  let m ← currentManifest false
  let w ← get
  let changed := w.detector.changed m.digest w.force
  set { w with detector := w.detector.observe m.digest }
  let subject := e.kind.text ++ " " ++ e.path.text
  if changed then
    say .info "orchestrator" (subject ++ " changed the manifest; requesting build")
  else
    say .debug "orchestrator" (subject ++ " left the manifest unchanged")
  return changed

end Workspace

end ProbeKit
