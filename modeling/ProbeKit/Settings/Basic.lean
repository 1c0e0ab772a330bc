import ProbeKit.Number.Shortest
import ProbeKit.Path.Basic

/-!
# Settings

What a project may choose: where its sources are, where its outputs go, how it is built and how
patient a watch session is.  The defaults stand in the fields.
-/

namespace ProbeKit

open Number

/-- The name of the file that holds the settings of a project. -/
def settingsFile : String := ".probegen.yml"

/-- The delay before a renamed file is looked at, unless set otherwise: one twentieth. -/
def defaultDelay : Binary64 := Binary64.ofDecimal false 5 (-2)

/-- The settings of a project. -/
structure Settings where
  /-- The directory of the project. -/
  root : Path
  /-- The name of the provider. -/
  provider : String := "nodeapp"
  /-- The name of the module, if it has one. -/
  moduleName : Option String := none
  /-- Where the manifest is. -/
  manifestPath : Path
  /-- Where the snapshot is. -/
  snapshotPath : Path
  /-- The directories of sources, seen from the project. -/
  sourceDirs : List String := ["oldtests", "tests"]
  /-- The suffixes of sources. -/
  extensions : List String := [".js", ".mjs", ".cjs", ".ts"]
  /-- What is left out of a scan. -/
  exclusions : List String := []
  /-- The plugin that makes the manifest, if there is one. -/
  pluginPath : Option Path := none
  /-- Whether the manifest file lists all argument lists that were seen. -/
  development : Bool := false
  /-- The build command. -/
  command : List String := ["pnpm", "build"]
  /-- Patterns of what the build makes. -/
  artifacts : List String := ["*.node"]
  /-- The delay before a renamed file is looked at, in seconds. -/
  settleDelay : Binary64 := defaultDelay
  /-- How often a file that is not there is looked at again. -/
  maxRetries : Nat := 5
  deriving Inhabited

namespace Settings

/-- The settings of a project that chooses nothing. -/
def ofRoot (root : Path) : Settings :=
  { root, manifestPath := root.child "probes.manifest.json"
    snapshotPath := root.join ".probegen/snapshot.json" }

/-- The directories of sources. -/
def sourceRoots (s : Settings) : List Path := s.sourceDirs.map s.root.join

end Settings

/-- What is wrong with a settings file. -/
inductive SettingsError where
  /-- It cannot be read as a document; its name. -/
  | unreadable (name : String)
  /-- It is no mapping. -/
  | notMapping
  /-- The provider has no name. -/
  | provider
  /-- The build command is neither text nor list. -/
  | commandKind
  /-- The build command has no words. -/
  | commandEmpty
  /-- The delay is negative. -/
  | delay
  /-- The number of retries is negative. -/
  | retries
  deriving DecidableEq

/-- What is wrong, in words. -/
def SettingsError.message : SettingsError → String
  | .unreadable name => "Failed to parse " ++ name
  | .notMapping => settingsFile ++ " must contain a mapping at the root"
  | .provider => "provider must be a non-empty string"
  | .commandKind => "build.command must be a string or a list of strings"
  | .commandEmpty => "build.command must not be empty"
  | .delay => "watch.settle_delay must not be negative"
  | .retries => "watch.max_retries must not be negative"

end ProbeKit
