import ProbeKit.Journal.Basic
import ProbeKit.Manifest.Canonical
import ProbeKit.Manifest.Snapshot

/-!
# Detecting change

A detector remembers two digests: of the manifest that was built last and of the one that was
computed last.  A build is due when the digest of the current manifest differs; what the last
snapshot says only feeds a report of the probes that came and went.
-/

namespace ProbeKit

open Text

/-- The digests that decide whether a build is due. -/
structure Detector where
  /-- The digest of the last manifest that was built. -/
  lastBuilt : Option String := none
  /-- The digest of the last manifest that was computed. -/
  lastComputed : Option String := none
  deriving DecidableEq, Inhabited

namespace Detector

/-- The digest that the bytes of a sidecar record, if any. -/
def recorded? (sidecar : Option ByteArray) : Option String :=
  ((sidecar.bind readText?).map trimmed).filter (!·.isEmpty)

/-- A detector that takes up what a sidecar records. -/
def ofSidecar (sidecar : Option ByteArray) : Detector :=
  ⟨recorded? sidecar, recorded? sidecar⟩

/-- Remembers a digest that was computed. -/
def observe (d : Detector) (digest : String) : Detector := { d with lastComputed := some digest }

/-- Whether a digest differs from the one computed last; `force` says so in any case. -/
def changed (d : Detector) (digest : String) (force : Bool) : Bool :=
  force || d.lastComputed != some digest

/-- Whether a digest differs from the one built last; `force` says so in any case. -/
def isDue (d : Detector) (digest : String) (force : Bool) : Bool :=
  force || d.lastBuilt != some digest

/-- Remembers a digest that was built. -/
def record (d : Detector) (digest : String) : Detector := { d with lastBuilt := some digest }

/-- What a comparison found. -/
structure Report where
  /-- The digest of the manifest. -/
  digest : String
  /-- Whether a build is due. -/
  due : Bool
  /-- How the probes differ from the last snapshot, if they do. -/
  change : Option Snapshot.Change
  deriving DecidableEq, Inhabited

/-- How the probes of a manifest differ from the lines of a snapshot: nothing if both make the
same manifest. -/
def change? (m : Manifest) (previous : List String) : Option Snapshot.Change :=
  let rebuilt : Manifest :=
    { provider := m.provider, moduleName := m.moduleName, probes := Snapshot.probes previous }
  if rebuilt.digest == m.digest then none else some (Snapshot.Change.between previous m.entries)

/-- What the journal says of a change. -/
def changeRecords (c : Snapshot.Change) : List Record :=
  c.added.map (fun line => ⟨.info, "detector", "Probe added: " ++ line⟩) ++
    c.removed.map fun line => ⟨.info, "detector", "Probe removed: " ++ line⟩

/-- What the journal says of a comparison with a snapshot. -/
def snapshotRecords (m : Manifest) : Option (List String) → List Record
  | none => [⟨.debug, "detector", "No usable probe snapshot; skipping diff report"⟩]
  | some previous => ((change? m previous).map changeRecords).getD []

/-- Compares a manifest with the last build and reports on the lines of the last snapshot. -/
def compare (d : Detector) (m : Manifest) (snapshot : Option (List String)) (force : Bool) :
    Report × Detector :=
  (⟨m.digest, d.isDue m.digest force, snapshot.bind (change? m)⟩, d.observe m.digest)

end Detector

end ProbeKit
