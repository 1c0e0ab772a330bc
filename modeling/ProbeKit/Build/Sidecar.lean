import ProbeKit.Desk
import ProbeKit.Manifest.Snapshot

/-!
# Sidecars

After a build the digest of the manifest is written beside the manifest and beside everything that
the build made, so that each can be told to belong to the other.  What is itself a sidecar never
gets one.  The snapshot of the manifest is kept here too.
-/

namespace ProbeKit.Sidecar

/-- What the name of a sidecar adds to the name of a manifest. -/
def suffix : String := ".sha256"

/-- What the name of a sidecar adds to the name of an artifact. -/
def artifactSuffix : String := ".probes.sha256"

/-- A path with something added to its last name, if it has one. -/
def beside (p : Path) (suffix : String) : Except Fault Path :=
  if p.names.isEmpty then .error (.nameless p) else .ok (p.parent.child (p.name ++ suffix))

/-- The sidecar of a manifest. -/
def path (manifest : Path) : Except Fault Path := beside manifest suffix

/-- Whether a name is that of a sidecar. -/
def isSidecar (name : String) : Bool := suffix.toList.isSuffixOf name.toList

/-- The files under a directory that fit some pattern and are no sidecars, in order. -/
def artifacts (disk : Disk) (root : Path) (patterns : List String) : Except Fault (List Path) := do
  let found ← patterns.mapM fun pattern => do
    let parts ← (Glob.parse pattern).mapError Fault.pattern
    let paths ← (disk.matching root parts).mapError Fault.disk
    paths.filterM fun p => do
      return (← (disk.look p).mapError Fault.disk).any Node.isFile && !isSidecar p.name
  return Path.sorted found.flatten

/-- Writes a digest beside each of some files. -/
def writeBeside (digest : String) : List Path → Act Disk (List Path)
  | [] => pure []
  | p :: rest => do
    let target ← Act.ofExcept id (beside p artifactSuffix)
    Disk.writeText target (digest ++ "\n")
    return target :: (← writeBeside digest rest)

/-- Writes a digest beside the manifest and beside every artifact, and gives the paths of what was
written. -/
def write (manifest : Path) (digest : String) (root : Path) (patterns : List String) :
    Act Disk (List Path) := do
  let own ← Act.ofExcept id (path manifest)
  Disk.writeText own (digest ++ "\n")
  let found ← Act.ofExcept id (artifacts (← get) root patterns)
  return own :: (← writeBeside digest found)

/-! ### Snapshots on disk -/

/-- The fault of lines that cannot be used. -/
def unusable : Snapshot.Unusable → Fault
  | .limit l => .json l
  | .broken => .unencodable

/-- The lines of the snapshot in a file, if it holds one.  A path that no file can have is an error,
and so is a snapshot that cannot be used. -/
def snapshot (room : Json.Room) (disk : Disk) (file : Option Path) :
    Except Fault (Option (List String)) :=
  match file with
  | none => .ok none
  | some file =>
    match disk.readIfAny file with
    | .error e => .error (.disk e)
    | .ok none => .ok none
    | .ok (some bytes) => (Snapshot.read room bytes).mapError unusable

/-- Keeps the snapshot of a manifest. -/
def keepSnapshot (file : Option Path) (m : Manifest) : Act Disk Unit :=
  match file with
  | none => pure ()
  | some file => do
    Disk.makeRoom file
    Disk.writeText file (Snapshot.text m)

end ProbeKit.Sidecar
