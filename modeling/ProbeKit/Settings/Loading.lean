import ProbeKit.Fault
import ProbeKit.Settings.Value
import ProbeKit.Text.Lowercase

/-!
# Loading settings

The settings of a project stand in a file that a reader makes one mapping of, and the environment
overrides some of them.  Values are taken generously: a number is taken for a text, a text for the
number that it spells, and a value of the wrong kind counts as absent.  Only an integer of too many
digits has no text.
-/

namespace ProbeKit.Settings

open Number Text

/-! ### Values of settings -/

/-- The text of an integer. -/
def intText (n : Int) : Except Fault String :=
  if overlong n then .error (.numeral .writing) else .ok (toString n)

/-- The text of a value: itself, or the digits of a number. -/
def text? : Option Setting → Except Fault (Option String)
  | some (.text s) => .ok (some s)
  | some (.int n) => (intText n).map some
  | some (.float x) => .ok (some x.text)
  | _ => .ok none

/-- The text of an item of a list; truth values have one here. -/
def itemText? : Setting → Except Fault (Option String)
  | .bool b => .ok (some (if b then "True" else "False"))
  | v => text? (some v)

/-- The list of texts of a value; a single text is a list of one. -/
def textList : Option Setting → Except Fault (List String)
  | some (.text s) => .ok [s]
  | some (.bytes bytes) => .ok (bytes.map toString)
  | some (.items values) => (values.mapM itemText?).map (List.filterMap id)
  | _ => .ok []

/-- The truth value that a text stands for. -/
def flagOfText? (s : String) : Option Bool :=
  let word := lowercase (trimmed s)
  if word == "true" || word == "yes" || word == "1" then some true
  else if word == "false" || word == "no" || word == "0" || word == "" then some false
  else none

/-- The truth value of a value. -/
def flag? : Option Setting → Option Bool
  | some (.bool b) => some b
  | some (.text s) => flagOfText? s
  | _ => none

/-- The floating-point number of a value. -/
def float? : Option Setting → Except Fault (Option Binary64)
  | some (.int n) =>
    match Binary64.ofInt n with
    | .infinite _ => .error .hugeDelay
    | x => .ok (some x)
  | some (.float x) => .ok (some x)
  | some (.text s) => .ok (readFloat? s)
  | _ => .ok none

/-- The integer of a value. -/
def int? : Option Setting → Option Int
  | some (.int n) => some n
  | some (.text s) => readInt? s
  | _ => none

/-- A suffix in its proper form: no blanks, small letters, a dot in front. -/
def properExtension (s : String) : String :=
  let word := lowercase (trimmed s)
  if word.toList.head? == some '.' then word else "." ++ word

/-! ### Parts of the settings -/

/-- The build command of a value. -/
def commandOf (current : List String) : Option Setting → Except Fault (List String)
  | none => .ok current
  | some .null => .ok current
  | some (.text s) =>
    match Command.words s with
    | .ok words => .ok words
    | .error e => .error (.words e)
  | some (.items values) => textList (some (.items values))
  | some (.bytes bytes) => textList (some (.bytes bytes))
  | some _ => .error (.settings .commandKind)

/-- A path of the project that a value gives; an empty one counts as absent. -/
def path? (s : Settings) (v : Option Setting) : Except Fault (Option Path) :=
  (text? v).map fun text => (text.filter (!·.isEmpty)).map s.root.join

/-- Takes over what a document says of the provider. -/
def withProvider (s : Settings) (root : Setting) : Except Fault Settings := do
  let provider ← text? (root.member? "provider")
  if provider == some "" then .error (.settings .provider)
  else .ok { s with provider := provider.getD s.provider }

/-- Takes over what a document says of the module and the paths. -/
def withPaths (s : Settings) (root : Setting) : Except Fault Settings := do
  let moduleName ← text? (root.member? "module")
  let manifest ← s.path? (root.member? "manifest_path")
  let snapshot ← s.path? (root.member? "snapshot_path")
  let plugin ← s.path? (root.member? "builder_module")
  return { s with
    moduleName := moduleName.filter (!·.isEmpty)
    manifestPath := manifest.getD s.manifestPath
    snapshotPath := snapshot.getD s.snapshotPath
    pluginPath := plugin
    development := (flag? (root.member? "development")).getD false }

/-- The list of texts of a value, if it is there at all. -/
def textListOr (current : List String) (v : Option Setting) : Except Fault (List String) :=
  if v.isSome then textList v else .ok current

/-- Takes over what a document says of the sources. -/
def withSources (s : Settings) (root : Setting) : Except Fault Settings := do
  let sourceDirs ← textListOr s.sourceDirs (root.member? "source_dirs")
  let extensions ←
    (textListOr s.extensions (root.member? "extensions")).map fun extensions =>
      if (root.member? "extensions").isSome then extensions.map properExtension else extensions
  let exclusions ← textList (root.member? "exclude_paths")
  return { s with sourceDirs, extensions, exclusions }

/-- Takes over what a document says of the build. -/
def withBuild (s : Settings) (root : Setting) : Except Fault Settings :=
  match root.mapping? "build" with
  | none => .ok s
  | some build => do
    let command ← commandOf s.command (build.member? "command")
    if command.isEmpty then throw (.settings .commandEmpty)
    let artifacts ← textListOr s.artifacts (build.member? "artifacts")
    return { s with command, artifacts }

/-- Takes over what a document says of watch sessions. -/
def withWatch (s : Settings) (root : Setting) : Except Fault Settings :=
  match root.mapping? "watch" with
  | none => .ok s
  | some watch => do
    let delay := (← float? (watch.member? "settle_delay")).getD s.settleDelay
    if delay.isNegative then throw (.settings .delay)
    let retries := (int? (watch.member? "max_retries")).getD s.maxRetries
    if retries < 0 then throw (.settings .retries)
    return { s with settleDelay := delay, maxRetries := retries.toNat }

/-- Takes over what a document says. -/
def withDocument (s : Settings) (root : Setting) : Except Fault Settings := do
  let s ← s.withProvider root
  let s ← s.withPaths root
  let s ← s.withSources root
  let s ← s.withBuild root
  s.withWatch root

/-! ### The environment -/

/-- The variables of an environment. -/
abbrev Environment := List (String × String)

/-- The value of a variable unless it is empty. -/
def nonEmpty? (env : Environment) (name : String) : Option String :=
  (env.lookup name).filter (!·.isEmpty)

/-- The path of a variable, seen from the project. -/
def overridePath (disk : Disk) (root : Path) : Option String → Except Fault (Option Path)
  | none => .ok none
  | some s =>
    match disk.resolve (root.join s) with
    | .ok p => .ok (some p)
    | .error e => .error (.disk e)

/-- Takes over what the environment says. -/
def withEnvironment (s : Settings) (disk : Disk) (env : Environment) : Except Fault Settings := do
  let manifest ← overridePath disk s.root (nonEmpty? env "DTRACE_MANIFEST")
  let plugin ← overridePath disk s.root (nonEmpty? env "DTRACE_PROBES_BUILDER")
  return { s with
    manifestPath := manifest.getD s.manifestPath
    pluginPath := plugin.or s.pluginPath
    development := ((env.lookup "PROBEGEN_DEV").bind flagOfText?).getD s.development }

/-! ### The file -/

/-- A path with a tilde in front replaced by the home directory. -/
def expandHome (home : Path) (p : Path) : Except Fault Path :=
  if p.isAbsolute then .ok p
  else
    match p.names with
    | [] => .ok p
    | name :: rest =>
      if name == "~" then .ok ⟨home.anchor, home.names ++ rest⟩
      else if name.toList.head? == some '~' then
        .error (if Disk.hasNull name then .disk (.refused .nullCharacter p) else .unknownHome)
      else .ok p

/-- The file that holds the settings: in a directory, or beside any other file. -/
def locate (disk : Disk) (home : Path) (p : Path) : Except Fault Path := do
  let p ← expandHome home p
  let node ← (disk.look p).mapError Fault.disk
  let file :=
    if node.any Node.isDir then p.child settingsFile
    else if p.name != settingsFile then p.parent.child settingsFile
    else p
  (disk.resolve file).mapError Fault.disk

/-- The value in a file of settings. -/
def document (reader : Setting.Reader) (disk : Disk) (file : Path) : Except Fault Setting := do
  let bytes ← (disk.read file).mapError Fault.disk
  match readText? bytes with
  | none => throw .undecodable
  | some text =>
    if (trimmed text).isEmpty then return .null
    match reader text with
    | .ok v => return v
    | .error .malformed => throw (.settings (.unreadable file.name))
    | .error (.mishap kind message) => throw (.reader kind message)

/-- The settings of the project at a path. -/
def load (reader : Setting.Reader) (disk : Disk) (home : Path) (env : Environment) (p : Path) :
    Except Fault Settings := do
  let file ← locate disk home p
  let root ← (disk.resolve file.parent).mapError Fault.disk
  let s := ofRoot root
  let s ←
    if (← (disk.look file).mapError Fault.disk).isSome then do
      match ← document reader disk file with
      | .null => pure s
      | .members values => s.withDocument (.members values)
      | _ => throw (.settings .notMapping)
    else pure s
  s.withEnvironment disk env

end ProbeKit.Settings
