import ProbeKit.Desk
import ProbeKit.Source.Plugin

/-!
# Sources of manifests

A manifest comes from an existing file, from a plugin or from a scan of the sources, whichever of
these is there first.  The choice is made once, when a session opens.
-/

namespace ProbeKit

/-- Where the manifest of a session comes from. -/
inductive Source where
  /-- From a scan of the sources. -/
  | scan
  /-- From a file that was there before. -/
  | file (path : Path) (manifest : Manifest)
  /-- From a file that was there before and whose manifest no file can hold; with the flaw that it
  has, if any. -/
  | broken (path : Path) (flaw : Option Manifest.Flaw)
  /-- From a plugin. -/
  | plugin (path : Path) (recipe : Recipe)
  deriving Inhabited

namespace Settings

/-- The provider as a value. -/
def providerValue (s : Settings) : Json := .str s.provider

/-- The module as a value, null if there is none. -/
def moduleValue (s : Settings) : Json := (s.moduleName.map Json.str).getD .null

end Settings

namespace Source

/-- What reading an existing file gives, if it is a text. -/
def existing? (room : Json.Room) (disk : Disk) (s : Settings) :
    Option (Except Manifest.Unread Manifest) :=
  (disk.read? s.manifestPath).bind (Manifest.parseBytes? room)

/-- Takes up a plugin.  There is no source if it exports nothing. -/
def ofPlugin (s : Settings) (path : Path) : Act Desk (Option Source) := do
  if !Plugin.isPlugin path then throw (.source (.notPlugin path))
  let plugin := Plugin.ofBytes (((← get).disk.read? path).getD ByteArray.empty)
  match ← Act.ofExcept id (Recipe.ofPlugin path s.providerValue s.moduleValue plugin) with
  | some recipe => return some (.plugin path recipe)
  | none =>
    note .error "sources" <|
      "Builder module " ++ path.text ++
        " did not export a manifest, to_manifest() or build_probes()"
    return none

/-- The source beside an existing file: the plugin, or else the scan. -/
def beside (s : Settings) : Act Desk Source := do
  match s.pluginPath with
  | none => return .scan
  | some path =>
    let node ← Act.ofExcept Fault.disk ((← get).disk.look path)
    if node.any Node.isFile then return (← ofPlugin s path).getD .scan
    note .warning "sources" ("Builder module " ++ path.text ++ " not found; scanning sources")
    return .scan

/-- Takes up an existing file. -/
def reuse (s : Settings) (source : Source) : Act Desk Source := do
  note .debug "sources" ("Reusing existing manifest " ++ s.manifestPath.text)
  return source

/-- Chooses the source of a session; `rescan` leaves an existing file aside. -/
def resolve (s : Settings) (rescan : Bool) : Act Desk Source := do
  if rescan then return ← beside s
  let desk ← get
  if (← Act.ofExcept Fault.disk (desk.disk.look s.manifestPath)).isNone then return ← beside s
  match existing? desk.room desk.disk s with
  | some (.ok m) => reuse s (.file s.manifestPath m)
  | some (.error (.broken flaw)) => reuse s (.broken s.manifestPath flaw)
  | some (.error (.limit l)) => throw (.json l)
  | _ =>
    note .warning "sources" <|
      "Existing manifest " ++ s.manifestPath.text ++ " is invalid; regenerating"
    beside s

/-- Makes the manifest of a file or a plugin; a scan has none of its own.  The source is then ready
for the next time.  A manifest that no file can hold has no digest either, so it is of no use. -/
def load : Source → Except Fault (Option Manifest) × Source
  | .scan => (.ok none, .scan)
  | .file path m => (.ok (some m.withDefaults), .file path m)
  | .broken path flaw => (.error (flaw.elim .unencodable .manifest), .broken path flaw)
  | .plugin path recipe =>
    let (made, recipe) := recipe.make path
    (made.map fun m => some m.withDefaults, .plugin path recipe)

end Source

end ProbeKit
