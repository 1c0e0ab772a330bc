import ProbeKit.Build.Sidecar
import ProbeKit.Detector
import ProbeKit.Scan.Scanner
import ProbeKit.Source.Basic

/-!
# Workspaces

A workspace is a project that is open: its settings, where its manifest comes from, what was
scanned, and the digests that were built and computed last.  `Workspace.currentManifest` makes the
manifest and refuses a flawed one, and only a manifest without a flaw is ever written; one that no
file can hold leaves its file empty (`spoilManifest`).
-/

namespace ProbeKit

/-- A project that is open. -/
structure Workspace where
  /-- The settings. -/
  settings : Settings
  /-- Where the manifest comes from. -/
  source : Source
  /-- The sources and what they declare. -/
  scanner : Scanner
  /-- The digests that were built and computed last. -/
  detector : Detector
  /-- Whether every build counts as due. -/
  force : Bool := false
  /-- The aggregates of the last manifest that came from a scan. -/
  aggregates : List Aggregate := []
  /-- The desk. -/
  desk : Desk
  deriving Inhabited

/-- The scanner that settings ask for. -/
def openScanner (s : Settings) : Act Desk Scanner := do
  Act.ofExcept Fault.disk (Scanner.ofSettings (← get).disk s)

namespace Workspace

/-- Opens a project; `rescan` leaves an existing manifest aside. -/
def openUp (s : Settings) (rescan force : Bool) : Act Desk Workspace := do
  let source ← Source.resolve s rescan
  let scanner ← openScanner s
  let sidecar ← Act.ofExcept id (Sidecar.path s.manifestPath)
  let desk ← get
  let recorded ← Act.ofExcept Fault.disk (desk.disk.readIfAny sidecar)
  return { settings := s, source, scanner, force, desk, detector := Detector.ofSidecar recorded }

/-- An action on the desk. -/
def onDesk {α : Type} (a : Act Desk α) : Act Workspace α :=
  a.within Workspace.desk fun desk w => { w with desk }

/-- An action on the disk. -/
def onDisk {α : Type} (a : Act Disk α) : Act Workspace α := onDesk (Desk.onDisk a)

/-- Enters a record in the journal. -/
def say (level : Level) (speaker message : String) : Act Workspace Unit :=
  onDesk (note level speaker message)

/-! ### Scanning -/

/-- Reads all sources again. -/
def rescan : Act Workspace Unit := do
  let w ← get
  let (scanner, records) := w.scanner.rescan w.desk.disk
  onDesk (noteAll records)
  let scanner ← Act.ofExcept id scanner
  modify fun w => { w with scanner }

/-- Reads one file again.  The flag says whether it is a source that can be read. -/
def update (p : Path) : Act Workspace Bool := do
  let w ← get
  let (updated, scanner, records) ← Act.ofExcept id (w.scanner.update w.desk.disk p)
  set { w with scanner }
  onDesk (noteAll records)
  return updated

/-- Forgets one file.  The flag says whether it was known. -/
def forget (p : Path) : Act Workspace Bool := do
  let w ← get
  let (known, scanner) ← Act.ofExcept Fault.disk (w.scanner.forget w.desk.disk p)
  set { w with scanner }
  return known

/-! ### Manifests -/

/-- A manifest without a flaw. -/
def sound (m : Manifest) : Act Workspace Manifest :=
  match m.flaw? with
  | none => pure m
  | some flaw => throw (.manifest flaw)

/-- The manifest of what was scanned. -/
def scanned : Act Workspace Manifest := do
  let w ← get
  let aggregates := w.scanner.catalog.aggregates
  set { w with aggregates }
  return Manifest.ofAggregates w.settings.providerValue w.settings.moduleValue aggregates

/-- The current manifest; `rescan` reads all sources again, if it comes from them. -/
def currentManifest (rescan : Bool) : Act Workspace Manifest := do
  let w ← get
  let (made, source) := w.source.load
  match w.source with
  | .scan => if rescan then Workspace.rescan
  | _ => set { w with aggregates := [], source }
  match ← Act.ofExcept id made with
  | some m => sound m
  | none => do sound (← scanned)

/-- Writes a manifest and gives its digest. -/
def writeManifest (m : Manifest) : Act Workspace String := do
  let w ← get
  let file := w.settings.manifestPath
  onDisk (Disk.makeRoom file)
  onDisk (Disk.writeText file (m.fileText w.aggregates w.settings.development))
  return m.digest

/-- Leaves the file of the manifest empty, for its text cannot be written. -/
def spoilManifest : Act Workspace Manifest := do
  modify fun w => { w with aggregates := [] }
  let file := (← get).settings.manifestPath
  onDisk (Disk.makeRoom file)
  onDisk (Disk.writeText file "")
  throw .unencodable

/-- The manifest that is about to be written.  One that no file can hold spoils its file. -/
def manifestToWrite : Act Workspace Manifest := do
  match (← get).source with
  | .broken _ none => spoilManifest
  | _ => currentManifest true

/-- A manifest that was written. -/
structure Emitted where
  /-- The file. -/
  file : Path
  /-- The digest. -/
  digest : String
  deriving DecidableEq, Inhabited

/-- Makes the manifest and writes it. -/
def emit : Act Workspace Emitted := do
  let m ← manifestToWrite
  let digest ← writeManifest m
  let file := (← get).settings.manifestPath
  say .info "orchestrator" (s!"Wrote {m.probes.length} probes to " ++ file.text)
  return ⟨file, digest⟩

end Workspace

end ProbeKit
