import ProbeKit.Build.Line
import ProbeKit.Main
import ProbeKit.Probe.Roster
import ProbeKit.Session.Company
import ProbeKit.Watch.Lookout
import ProbeKit.Proofs.Session.Current
import ProbeKit.Proofs.Session.Skip
import ProbeKit.Proofs.Workspace.Failure
import ProbeKit.Proofs.Disk.Move
import ProbeKit.Proofs.Manifest.Scanned
import ProbeKit.Proofs.Path.Text
import ProbeKit.Proofs.Probe.Catalog
import ProbeKit.Proofs.Scan.Accepting
import ProbeKit.Proofs.Workspace.Emitting
import ProbeKit.Proofs.Scan.Rescan
import ProbeKit.Proofs.Session.Phases
import ProbeKit.Proofs.Session.Runs
import ProbeKit.Proofs.Session.Steps
import ProbeKit.Proofs.Build.Steps
import ProbeKit.Proofs.Build.Waiters
import ProbeKit.Proofs.Build.SingleFlight
import ProbeKit.Proofs.Build.Coalescing
import ProbeKit.Proofs.Json.Floats
import ProbeKit.Proofs.Json.Proper
import ProbeKit.Proofs.Manifest.Canonical
import ProbeKit.Proofs.Workspace.Agreement
import ProbeKit.Proofs.Session.Building
import ProbeKit.Proofs.Session.Converging
import ProbeKit.Proofs.Session.Turns
import ProbeKit.Proofs.Manifest.Content
import ProbeKit.Proofs.Manifest.Variants
import ProbeKit.Proofs.Session.Validity
import ProbeKit.Proofs.Session.Reuse
import ProbeKit.Proofs.Watch.Delivery
import ProbeKit.Proofs.Watch.Settling
import ProbeKit.Proofs.Workspace.Choosing
import ProbeKit.Proofs.Probe.Extraction
import ProbeKit.Proofs.Session.Ending
import ProbeKit.Proofs.Scan.Climbing
import ProbeKit.Proofs.Probe.Merging
import ProbeKit.Proofs.Probe.Closest
import ProbeKit.Proofs.Probe.Sites
import ProbeKit.Proofs.Scan.Updating
import ProbeKit.Proofs.Workspace.Comparing
import ProbeKit.Proofs.Scan.Elsewhere
import ProbeKit.Proofs.Probe.Roster
import ProbeKit.Proofs.Workspace.Artifacts
import ProbeKit.Proofs.Settings.Escaping
import ProbeKit.Proofs.Settings.Usable
