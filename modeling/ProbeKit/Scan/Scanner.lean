import ProbeKit.Disk.Basic
import ProbeKit.Fault
import ProbeKit.Journal.Basic
import ProbeKit.Probe.Catalog
import ProbeKit.Probe.Declaration
import ProbeKit.Scan.Exclusion
import ProbeKit.Settings.Basic
import ProbeKit.Text.Encoding
import ProbeKit.Text.Lowercase

/-!
# Scanning sources

A scanner keeps the catalog of a project's sources.  `rescan` rebuilds it from every source file
below the roots, `update` and `forget` follow a single file, and `accepts?` says whether a path
names a source at all.  Files are known by their paths from the project, so that a catalog does not
depend on where the project is.  A source with a numeral that is too long to be read stops both
`rescan` and `update`.
-/

namespace ProbeKit

open Text

/-- Names of directories that never hold sources. -/
def skippedDirectories : List String :=
  [".git", ".hg", ".svn", ".venv", "node_modules", "__pycache__", ".pytest_cache", ".probegen",
    "target"]

/-- The sources of a project and what they declare. -/
structure Scanner where
  /-- The directory of the project. -/
  root : Path
  /-- The directories of sources. -/
  roots : List Path
  /-- The suffixes of sources, in small letters. -/
  extensions : List String
  /-- What is left out. -/
  exclusions : List Exclusion
  /-- What the sources declare. -/
  catalog : Catalog := ∅
  deriving Inhabited

namespace Scanner

/-- The scanner that settings ask for. -/
def ofSettings (disk : Disk) (s : Settings) : Except DiskError Scanner := do
  let root ← disk.resolve s.root
  let roots ← s.sourceRoots.mapM disk.resolve
  return { root, roots, extensions := s.extensions.map lowercase
           exclusions := s.exclusions.filterMap Exclusion.ofString? }

/-- The name by which a file is known: its path from the project, or in full if it is outside. -/
def keyFor (s : Scanner) (p : Path) : String := (p.relativeTo s.root).text

/-- Whether a path has the suffix of a source. -/
def hasExtension (s : Scanner) (p : Path) : Bool := s.extensions.contains (lowercase p.suffix)

/-- Whether a path is left out. -/
def excludes (s : Scanner) (p : Path) (isDirectory : Bool) : Bool :=
  s.exclusions.any fun e => e.excludes (s.keyFor p) isDirectory

/-! ### Which paths are sources -/

/-- The first root that a path lies below, and the names on the way. -/
def owner? (s : Scanner) (p : Path) : Option (Path × List String) :=
  s.roots.findSome? fun root => (p.below? root).map fun names => (root, names)

/-- Goes up from a directory to a root.  The result says whether no directory on the way is left
out; it is nothing if the way never meets the root. -/
def clearUp? (s : Scanner) (root : Path) (dir : Path) : Option Bool :=
  if dir = root then some true
  else if s.excludes dir true then some false
  else if _h : dir.names = [] then none
  else s.clearUp? root dir.parent
  termination_by dir.names.length
  decreasing_by exact Path.length_names_parent_lt _h

/-- Whether an absolute path without links names a source.  There is no answer if the way up from
the path misses the root that owns it, as it does when the path is the root itself. -/
def acceptsResolved? (s : Scanner) (p : Path) : Option Bool :=
  if !s.hasExtension p then some false
  else
    match s.owner? p with
    | none => some false
    | some (root, names) =>
      if names.dropLast.any skippedDirectories.contains then some false
      else
        match s.clearUp? root p.parent with
        | some true => some (!s.excludes p false)
        | other => other

/-- Whether a path names a source. -/
def accepts? (s : Scanner) (disk : Disk) (p : Path) : Except DiskError (Option Bool) :=
  (disk.resolve p).map s.acceptsResolved?

/-- Whether a path names a source.  Where there is no answer the way up never ends. -/
def accepts (s : Scanner) (disk : Disk) (p : Path) : Except Fault Bool :=
  match s.accepts? disk p with
  | .error e => .error (.disk e)
  | .ok none => .error .endless
  | .ok (some answer) => .ok answer

/-- Whether the catalog knows a path. -/
def tracks (s : Scanner) (disk : Disk) (p : Path) : Except DiskError Bool :=
  (disk.resolve p).map fun p => s.catalog.contains (s.keyFor p)

/-! ### Reading sources -/

/-- What comes of reading a file, unless it cannot be read as text. -/
def reading? (disk : Disk) (p : Path) : Option (Except TooManyDigits (List Probe)) :=
  ((disk.read? p).bind readText?).map declaredProbes

/-- What a file declares, unless it cannot be read. -/
def declared? (disk : Disk) (p : Path) : Option (List Probe) :=
  (reading? disk p).bind Except.toOption

/-- What is wrong with a numeral of a file that has too many digits. -/
def overlong? (disk : Disk) (p : Path) : Option TooManyDigits :=
  match reading? disk p with
  | some (.error e) => some e
  | _ => none

/-- What the journal says of a file that cannot be read. -/
def unreadable (p : Path) : Record :=
  ⟨.debug, "scanner", "Skipping unreadable source " ++ p.text⟩

mutual

/-- The sources in a directory and below it: its own by name, then those of its directories by
name.  Links to directories are not followed. -/
def sourcesIn (s : Scanner) (disk : Disk) (dir : Path) : Node → List Path
  | .dir entries =>
    let files := (entries.filter fun e => !disk.hasDirectory (dir.child e.1)).map (·.1)
    let own := (sorted files).map dir.child
    let below := (sourcesInEntries s disk dir entries).mergeSort fun a b => atMost a.1 b.1
    (own.filter fun p => s.hasExtension p && !s.excludes p false) ++ below.flatMap (·.2)
  | _ => []

/-- The sources below each directory among entries. -/
def sourcesInEntries (s : Scanner) (disk : Disk) (dir : Path) :
    List (String × Node) → List (String × List Path)
  | [] => []
  | (name, node) :: rest =>
    let others := sourcesInEntries s disk dir rest
    if node.isDir && !skippedDirectories.contains name && !s.excludes (dir.child name) true then
      (name, sourcesIn s disk (dir.child name) node) :: others
    else others

end

/-- The sources below roots, root by root, up to a root that cannot be looked at. -/
def sourcesBelow (s : Scanner) (disk : Disk) : List Path → List Path × Option DiskError
  | [] => ([], none)
  | root :: rest =>
    match disk.look root with
    | .error e => ([], some e)
    | .ok none => s.sourcesBelow disk rest
    | .ok (some node) =>
      let (more, e) := s.sourcesBelow disk rest
      (s.sourcesIn disk root node ++ more, e)

/-! ### The catalog -/

/-- The catalog of files, and what the journal says of those that cannot be read. -/
def catalogOf (s : Scanner) (disk : Disk) (files : List Path) : Catalog × List Record :=
  files.foldl (fun (catalog, records) p =>
    match declared? disk p with
    | some probes => (catalog.insert (s.keyFor p) probes, records)
    | none => (catalog, records ++ [unreadable p])) (∅, [])

/-- Rebuilds the catalog from all sources, provided that every root can be looked at and no source
has a numeral of too many digits. -/
def rescan (s : Scanner) (disk : Disk) : Except Fault Scanner × List Record :=
  let (files, obstacle) := s.sourcesBelow disk s.roots
  -- Files are read as they are found, so a numeral comes before the roots behind its file.
  match files.findSome? (overlong? disk) with
  | some e =>
    let before := files.takeWhile fun p => (overlong? disk p).isNone
    (.error (.numeral e), (s.catalogOf disk before).2)
  | none =>
    let (catalog, records) := s.catalogOf disk files
    match obstacle with
    | some e => (.error (.disk e), records)
    | none =>
      (.ok { s with catalog },
        records ++ [⟨.debug, "scanner", s!"Scanned {catalog.size} source files"⟩])

/-- Reads one file again.  The flag says whether it is a source that can be read; a source that
cannot be read as text is forgotten. -/
def update (s : Scanner) (disk : Disk) (p : Path) :
    Except Fault (Bool × Scanner × List Record) := do
  let p ← (disk.resolve p).mapError Fault.disk
  if !(← s.accepts disk p) then return (false, s, [])
  match reading? disk p with
  | some (.ok probes) =>
    return (true, { s with catalog := s.catalog.insert (s.keyFor p) probes }, [])
  | some (.error e) => throw (.numeral e)
  | none => return (false, { s with catalog := s.catalog.erase (s.keyFor p) }, [unreadable p])

/-- Forgets one file.  The flag says whether it was known. -/
def forget (s : Scanner) (disk : Disk) (p : Path) : Except DiskError (Bool × Scanner) := do
  let key := s.keyFor (← disk.resolve p)
  return (s.catalog.contains key, { s with catalog := s.catalog.erase key })

end Scanner

end ProbeKit
