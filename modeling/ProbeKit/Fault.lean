import ProbeKit.Command.Words
import ProbeKit.Disk.Glob
import ProbeKit.Manifest.Reading
import ProbeKit.Probe.Roster
import ProbeKit.Settings.Basic
import ProbeKit.Text.Digit

/-!
# Faults

Everything that can stop a run, each by its cause.  `Fault.message` puts it into words.
-/

namespace ProbeKit

open Text

/-- What is wrong with the source of a manifest. -/
inductive SourceError where
  /-- The plugin cannot be loaded at all. -/
  | notPlugin (plugin : Path)
  /-- Loading the plugin fails with a message. -/
  | loading (plugin : Path) (message : String)
  /-- The plugin gives a document that is no manifest. -/
  | malformed (plugin : Path) (reason : Manifest.Malformed)
  /-- The plugin gives a value of some kind that is no manifest. -/
  | noManifest (plugin : Path) (kind : String)

/-- What is wrong, in words. -/
def SourceError.message : SourceError → String
  | .notPlugin plugin => "Cannot import builder module " ++ plugin.text
  | .loading plugin message => "Failed to load builder module " ++ plugin.text ++ ": " ++ message
  | .malformed plugin reason =>
    "Builder module " ++ plugin.text ++ " returned a malformed manifest: " ++ reason.message
  | .noManifest plugin kind =>
    "Builder module " ++ plugin.text ++ " produced " ++ kind ++ "; expected a manifest"

/-- Why a command cannot be started. -/
inductive StartError where
  /-- The file system refuses the name of the program. -/
  | refused (reason : Refused) (name : String)
  /-- A word holds a null character. -/
  | nullCharacter
  deriving DecidableEq

/-- What is wrong, in words. -/
def StartError.message : StartError → String
  | .refused reason name => reason.message name
  | .nullCharacter => Refused.words .nullCharacter

/-- What stops a run. -/
inductive Fault where
  /-- A file operation fails. -/
  | disk (e : DiskError)
  /-- The settings file is no text. -/
  | undecodable
  /-- The settings are wrong. -/
  | settings (e : SettingsError)
  /-- The reader of settings files fails in a way of its own, of some kind and with a message. -/
  | reader (kind message : String)
  /-- The build command is no command line. -/
  | words (e : Command.WordsError)
  /-- The delay is too large a number. -/
  | hugeDelay
  /-- A user has no home directory. -/
  | unknownHome
  /-- A numeral in a source has too many digits. -/
  | numeral (e : TooManyDigits)
  /-- A file of the project is too large to be read. -/
  | json (l : Json.Limit)
  /-- A text cannot be written to a file. -/
  | unencodable
  /-- The manifest has a flaw. -/
  | manifest (flaw : Manifest.Flaw)
  /-- The source of the manifest is wrong. -/
  | source (e : SourceError)
  /-- A roster refuses a probe. -/
  | roster (e : RosterError)
  /-- A plugin gives up with a message. -/
  | plugin (message : String)
  /-- A pattern of artifacts is wrong. -/
  | pattern (e : GlobError)
  /-- A path has no last name. -/
  | nameless (path : Path)
  /-- The build command cannot be started. -/
  | start (e : StartError)
  /-- The build command fails with a status. -/
  | build (command : List String) (status : Int)
  /-- A notice is of no known kind. -/
  | noticeKind (kind : String)
  /-- The session is watching already. -/
  | alreadyWatching
  /-- Whoever is told that watching begins gives up with a message. -/
  | listener (message : String)
  /-- It would go on until someone interrupts it. -/
  | endless

/-- What stopped a run, in words. -/
def Fault.message : Fault → String
  | .disk e => e.message
  | .undecodable => "the settings file is not UTF-8"
  | .settings e => e.message
  | .reader _ message => message
  | .words e => e.message
  | .hugeDelay => "int too large to convert to float"
  | .unknownHome => "Could not determine home directory."
  | .numeral e => e.message
  | .json l => l.message
  | .unencodable => "surrogates not allowed"
  | .manifest flaw => flaw.message
  | .source e => e.message
  | .roster e => e.message
  | .plugin message => message
  | .pattern e => e.message
  | .nameless path => "PosixPath(" ++ quoted path.text ++ ") has an empty name"
  | .start e => e.message
  | .build command status =>
    "Build command " ++ quoted (" ".intercalate command) ++ s!" exited with status {status}"
  | .noticeKind kind => "Unknown watch event kind: " ++ kind
  | .alreadyWatching => "Watch session already started"
  | .listener message => message
  | .endless => "Interrupted"

end ProbeKit
