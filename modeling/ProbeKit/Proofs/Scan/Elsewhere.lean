import Mathlib.Data.List.Induction
import ProbeKit.Proofs.Results
import ProbeKit.Proofs.Scan.Accepting
import ProbeKit.Proofs.Scan.Hosted
import ProbeKit.Manifest.Canonical
import ProbeKit.Source.Basic

/-!
# The same project elsewhere

Files are known by their paths from the project and directories are gone through by sorted names, so
where a project is and how its directories are listed plays no part in a scan: through the same tree at
two places a scan goes the same way (`Scanner.parallel_sourcesIn`), and both scans give the same catalog
and with it the same manifest (`Settings.scan_elsewhere`).
-/

namespace ProbeKit

open Disk (IsName Dotless)
open Text (sorted)

namespace Scanner

variable {s s' : Scanner} {d d' : Disk} {tree tree' : Node}

/-! ### A directory by its names -/

/-- The sources below a name in a directory. -/
def sourcesUnder (s : Scanner) (d : Disk) (dir : Path) (entries : List (String × Node))
    (name : String) : List Path :=
  ((entries.lookup name).map (s.sourcesIn d (dir.child name))).getD []

/-- Whether a name in a directory is that of a source. -/
def takes (s : Scanner) (d : Disk) (dir : Path) (name : String) : Bool :=
  !d.hasDirectory (dir.child name) &&
    (s.hasExtension (dir.child name) && !s.excludes (dir.child name) false)

/-- Whether a name in a directory is that of a directory that a scan goes down to. -/
def descends (s : Scanner) (dir : Path) (entries : List (String × Node)) (name : String) : Bool :=
  (entries.lookup name).any Node.isDir && !skippedDirectories.contains name &&
    !s.excludes (dir.child name) true

/-- What is found in a directory depends on its sorted names and on what they stand for. -/
theorem sourcesIn_dir_eq {dir : Path} {entries : List (String × Node)}
    (hdistinct : (entries.map (·.1)).Nodup) :
    s.sourcesIn d dir (.dir entries) =
      ((sorted (entries.map (·.1))).filter (s.takes d dir)).map dir.child ++
      ((sorted (entries.map (·.1))).filter (s.descends dir entries)).flatMap
        (s.sourcesUnder d dir entries) := by
  have hlookup : ∀ e ∈ entries, entries.lookup e.1 = some e.2 := fun e => lookup_of_mem hdistinct
  have hfiles : (entries.filter fun e => !d.hasDirectory (dir.child e.1)).map (·.1) =
      (entries.map (·.1)).filter fun name => !d.hasDirectory (dir.child name) := by
    rw [List.filter_map]
    rfl
  have hbelow : s.sourcesInEntries d dir entries =
      ((entries.map (·.1)).filter (s.descends dir entries)).map fun name =>
        (name, s.sourcesUnder d dir entries name) := by
    rw [sourcesInEntries_eq, List.filter_map, List.map_map]
    have hfilter : entries.filter (fun e => e.2.isDir && !skippedDirectories.contains e.1 &&
        !s.excludes (dir.child e.1) true) = entries.filter (s.descends dir entries ∘ (·.1)) := by
      refine List.filter_congr fun e he => ?_
      rw [Function.comp_apply, descends, hlookup e he, Option.any_some]
    rw [hfilter]
    refine List.map_congr_left fun e he => ?_
    rw [Function.comp_apply, sourcesUnder, hlookup e (List.mem_filter.1 he |>.1), Option.map_some,
      Option.getD_some]
  -- The directories are sorted together with what was found in them, and by their names alone.
  have hsorted := List.map_mergeSort
    (r := Text.atMost) (s := fun a b : String × List Path => Text.atMost a.1 b.1)
    (f := fun name => (name, s.sourcesUnder d dir entries name))
    (l := (entries.map (·.1)).filter (s.descends dir entries)) fun _ _ _ _ => rfl
  rw [sourcesIn, hfiles, hbelow, ← hsorted, Text.sorted_filter]
  rw [List.filter_map, List.filter_filter, List.flatMap_map, ← Text.sorted_filter (s.descends dir entries)]
  congr 2
  refine List.filter_congr fun name _ => ?_
  rw [Function.comp_apply, takes, Bool.and_comm]

/-! ### Names below the project -/

theorem keyFor_down (s : Scanner) (names : List String) :
    s.keyFor (s.root.down names) = (⟨.relative, names⟩ : Path).text := by
  rw [keyFor, Path.relativeTo, Path.below?_eq_some_iff_down.2 rfl]

theorem excludes_down (s : Scanner) (names : List String) (isDirectory : Bool) :
    s.excludes (s.root.down names) isDirectory =
      s.exclusions.any fun e => e.excludes (⟨.relative, names⟩ : Path).text isDirectory := by
  rw [excludes, keyFor_down]

theorem hasExtension_child (s : Scanner) (dir : Path) (name : String) :
    s.hasExtension (dir.child name) = s.extensions.contains
      (Text.lowercase (String.ofList (Path.suffixOf name.toList))) := by
  rw [hasExtension, Path.suffix, Path.name, Path.child, List.getLastD_concat]

/-- The same project, perhaps at another place and with other directories of sources. -/
structure Twin (s s' : Scanner) : Prop where
  /-- The suffixes are the same. -/
  extensions : s.extensions = s'.extensions
  /-- The same is left out. -/
  exclusions : s.exclusions = s'.exclusions

theorem Twin.excludes_eq (h : s.Twin s') (names : List String) (isDirectory : Bool) :
    s.excludes (s.root.down names) isDirectory = s'.excludes (s'.root.down names) isDirectory := by
  rw [excludes_down, excludes_down, h.exclusions]

theorem Twin.hasExtension_eq (h : s.Twin s') (dir dir' : Path) (name : String) :
    s.hasExtension (dir.child name) = s'.hasExtension (dir'.child name) := by
  rw [hasExtension_child, hasExtension_child, h.extensions]

/-- Paths that go the same way from two places. -/
def Parallel (base base' : Path) (paths paths' : List Path) : Prop :=
  ∃ ways : List (List String), (∀ way ∈ ways, ∀ n ∈ way, Dotless n) ∧
    paths = ways.map base.down ∧ paths' = ways.map base'.down

namespace Parallel

variable {base base' : Path} {paths paths' more more' : List Path}

theorem nil : Parallel base base' [] [] := ⟨[], nofun, rfl, rfl⟩

theorem append (h : Parallel base base' paths paths') (hmore : Parallel base base' more more') :
    Parallel base base' (paths ++ more) (paths' ++ more') := by
  obtain ⟨ways, hways, rfl, rfl⟩ := h
  obtain ⟨ways', hways', rfl, rfl⟩ := hmore
  refine ⟨ways ++ ways', fun way hway => ?_, List.map_append.symm, List.map_append.symm⟩
  rcases List.mem_append.1 hway with hway | hway
  · exact hways way hway
  · exact hways' way hway

theorem flatMap {α : Type} {items : List α} {f f' : α → List Path}
    (h : ∀ x ∈ items, Parallel base base' (f x) (f' x)) :
    Parallel base base' (items.flatMap f) (items.flatMap f') := by
  induction items with
  | nil => exact nil
  | cons x rest ih =>
    exact (h x List.mem_cons_self).append (ih fun y hy => h y (List.mem_cons_of_mem _ hy))

end Parallel

/-! ### The names in a directory -/

theorem at?_concat {place : List String} {entries : List (String × Node)}
    (hat : tree.at? place = some (.dir entries)) (name : String) :
    tree.at? (place ++ [name]) = entries.lookup name := by
  rw [Node.at?_append, hat, Option.bind_some, Node.at?, Node.entries]
  cases entries.lookup name <;> rfl

theorem mem_names_iff {place : List String} {entries : List (String × Node)}
    (hat : tree.at? place = some (.dir entries)) (name : String) :
    name ∈ entries.map (·.1) ↔ tree.view (place ++ [name]) ≠ none := by
  rw [Ne, Node.view_eq_none_iff, at?_concat hat, List.lookup_eq_none_iff, List.mem_map]
  constructor
  · rintro ⟨e, he, rfl⟩ hnone
    simpa using hnone e he
  · intro hsome
    refine Classical.byContradiction fun hno => hsome fun e he => ?_
    simpa using fun heq => hno ⟨e, he, heq.symm⟩

theorem isName_of_mem_names (h : tree.Orderly) {place : List String} {entries : List (String × Node)}
    (hat : tree.at? place = some (.dir entries)) {name : String} (hname : name ∈ entries.map (·.1)) :
    IsName name := by
  obtain ⟨e, he, rfl⟩ := List.mem_map.1 hname
  refine h.names (place ++ [e.1]) e.2 ?_ e.1 (by simp)
  rw [at?_concat hat, lookup_of_mem (h.distinct _ _ hat) he]

/-- The same directory of the same tree has the same names. -/
theorem sorted_names_eq (h : tree.Orderly) (h' : tree'.Orderly) (hsame : tree.Same tree')
    {place : List String} {entries entries' : List (String × Node)}
    (hat : tree.at? place = some (.dir entries)) (hat' : tree'.at? place = some (.dir entries')) :
    sorted (entries.map (·.1)) = sorted (entries'.map (·.1)) := by
  refine Text.sorted_eq_of_perm ((List.perm_ext_iff_of_nodup (h.distinct _ _ hat)
    (h'.distinct _ _ hat')).2 fun name => ?_)
  rw [mem_names_iff hat, mem_names_iff hat', hsame]

theorem sizeOf_of_lookup {entries : List (String × Node)} {name : String} {child : Node}
    (h : entries.lookup name = some child) : sizeOf child < 1 + sizeOf entries := by
  have hlist := List.sizeOf_lt_of_mem (mem_of_lookup h)
  rw [Prod.mk.sizeOf_spec] at hlist
  omega

/-! ### The sources of a tree -/

section
variable (h : d.Hosts s.root tree) (h' : d'.Hosts s'.root tree') (hsame : tree.Same tree')
  (htwin : s.Twin s')
include h h' hsame htwin

theorem takes_eq {place : List String} {name : String} (hdotless : ∀ n ∈ place ++ [name], Dotless n) :
    s.takes d (s.root.down place) name = s'.takes d' (s'.root.down place) name := by
  rw [takes, takes, htwin.hasExtension_eq (s.root.down place) (s'.root.down place),
    ← Path.down_concat, ← Path.down_concat, Disk.hasDirectory_eq h h' hsame hdotless,
    htwin.excludes_eq]

omit h h' in
theorem descends_eq {place : List String} {entries entries' : List (String × Node)}
    (hat : tree.at? place = some (.dir entries)) (hat' : tree'.at? place = some (.dir entries'))
    (name : String) :
    s.descends (s.root.down place) entries name = s'.descends (s'.root.down place) entries' name := by
  have hdir : (entries.lookup name).any Node.isDir = (entries'.lookup name).any Node.isDir := by
    rw [← at?_concat hat, ← at?_concat hat']
    exact hsame.any_isDir_eq (place ++ [name])
  rw [descends, descends, hdir, ← Path.down_concat, ← Path.down_concat, htwin.excludes_eq]

/-- A scan goes the same way through a directory if it does so below each name. -/
theorem parallel_sourcesIn_dir {place : List String} (hplace : ∀ n ∈ place, Dotless n)
    {entries entries' : List (String × Node)} (hat : tree.at? place = some (.dir entries))
    (hat' : tree'.at? place = some (.dir entries'))
    (hbelow : ∀ name child child', entries.lookup name = some child →
      entries'.lookup name = some child' →
      Parallel s.root s'.root (s.sourcesIn d (s.root.down (place ++ [name])) child)
        (s'.sourcesIn d' (s'.root.down (place ++ [name])) child')) :
    Parallel s.root s'.root (s.sourcesIn d (s.root.down place) (.dir entries))
      (s'.sourcesIn d' (s'.root.down place) (.dir entries')) := by
  have hnames := sorted_names_eq h.orderly h'.orderly hsame hat hat'
  have hdotless : ∀ name ∈ sorted (entries.map (·.1)), ∀ n ∈ place ++ [name], Dotless n := by
    intro name hname n hn
    rcases List.mem_append.1 hn with hn | hn
    · exact hplace n hn
    · obtain rfl := List.mem_singleton.1 hn
      exact (isName_of_mem_names h.orderly hat ((Text.sorted_perm _).mem_iff.1 hname)).dotless
  have hdescends : s.descends (s.root.down place) entries = s'.descends (s'.root.down place) entries' :=
    funext (descends_eq hsame htwin hat hat')
  rw [sourcesIn_dir_eq (h.orderly.distinct _ _ hat), sourcesIn_dir_eq (h'.orderly.distinct _ _ hat'),
    ← hnames, hdescends]
  -- The files of the directory come first, then what is below its directories.
  refine Parallel.append ?_ (Parallel.flatMap fun name hname => ?_)
  · have htakes : (sorted (entries.map (·.1))).filter (s.takes d (s.root.down place)) =
        (sorted (entries.map (·.1))).filter (s'.takes d' (s'.root.down place)) :=
      List.filter_congr fun name hname => takes_eq h h' hsame htwin (hdotless name hname)
    rw [htakes]
    refine ⟨((sorted (entries.map (·.1))).filter (s'.takes d' (s'.root.down place))).map
      (place ++ [·]), fun way hway => ?_, ?_, ?_⟩
    · obtain ⟨name, hname, rfl⟩ := List.mem_map.1 hway
      exact hdotless name (List.mem_filter.1 hname).1
    · rw [List.map_map]
      exact List.map_congr_left fun name _ => (Path.down_concat _ _ _).symm
    · rw [List.map_map]
      exact List.map_congr_left fun name _ => (Path.down_concat _ _ _).symm
  · have hview := hsame (place ++ [name])
    rw [Node.view, Node.view, at?_concat hat, at?_concat hat'] at hview
    unfold sourcesUnder
    rw [← Path.down_concat, ← Path.down_concat]
    cases hchild : entries.lookup name with
    | none =>
      rw [hchild] at hview
      rw [Option.map_eq_none_iff.1 hview.symm]
      exact .nil
    | some child =>
      rw [hchild] at hview
      obtain ⟨child', hchild', -⟩ := Option.map_eq_some_iff.1 hview.symm
      rw [hchild']
      exact hbelow name child child' hchild hchild'

/-- **A scan goes the same way through the same tree**, in whatever order its directories are listed. -/
theorem parallel_sourcesIn {place : List String} (hplace : ∀ n ∈ place, Dotless n) {node node' : Node}
    (hat : tree.at? place = some node) (hat' : tree'.at? place = some node') :
    Parallel s.root s'.root (s.sourcesIn d (s.root.down place) node)
      (s'.sourcesIn d' (s'.root.down place) node') := by
  have hmark := hsame.mark_eq hat hat'
  match node, node', hmark with
  | .file bytes, .file bytes', _ => exact .nil
  | .link target, .link target', _ => exact .nil
  | .dir entries, .dir entries', _ =>
    refine parallel_sourcesIn_dir h h' hsame htwin hplace hat hat' fun name child child' hc hc' => ?_
    have hsmaller := sizeOf_of_lookup hc
    rw [← at?_concat hat] at hc
    rw [← at?_concat hat'] at hc'
    refine parallel_sourcesIn (fun n hn => ?_) hc hc'
    rcases List.mem_append.1 hn with hn | hn
    · exact hplace n hn
    · obtain rfl := List.mem_singleton.1 hn
      exact (h.orderly.names _ _ hc n (by simp)).dotless
  termination_by sizeOf node

/-! ### The catalog of a tree -/

omit h h' hsame htwin in
/-- One more file adds what it declares to the catalog. -/
theorem catalogOf_concat (s : Scanner) (d : Disk) (files : List Path) (p : Path) :
    (s.catalogOf d (files ++ [p])).1 = (declared? d p).elim (s.catalogOf d files).1
      ((s.catalogOf d files).1.insert (s.keyFor p)) := by
  unfold catalogOf
  rw [List.foldl_append, List.foldl_cons, List.foldl_nil]
  cases declared? d p with
  | none => rfl
  | some probes => rfl

omit htwin in
/-- The same comes of reading the same files. -/
theorem reading?_eq {way : List String} (hway : ∀ n ∈ way, Dotless n) :
    reading? d (s.root.down way) = reading? d' (s'.root.down way) := by
  rw [reading?, reading?, Disk.read?_eq h h' hsame hway]

omit htwin in
/-- The first numeral that is too long is the same. -/
theorem findSome?_overlong?_eq {ways : List (List String)}
    (hways : ∀ way ∈ ways, ∀ n ∈ way, Dotless n) :
    (ways.map s.root.down).findSome? (overlong? d) =
      (ways.map s'.root.down).findSome? (overlong? d') := by
  induction ways with
  | nil => rfl
  | cons way rest ih =>
    have hway : ∀ n ∈ way, Dotless n := hways way List.mem_cons_self
    rw [List.map_cons, List.map_cons, List.findSome?_cons, List.findSome?_cons, overlong?, overlong?,
      reading?_eq h h' hsame hway, ih fun way hway => hways way (List.mem_cons_of_mem _ hway)]

omit htwin in
/-- The same files are read, and what they declare is known by the same names. -/
theorem catalogOf_eq {ways : List (List String)} (hways : ∀ way ∈ ways, ∀ n ∈ way, Dotless n) :
    (s.catalogOf d (ways.map s.root.down)).1 = (s'.catalogOf d' (ways.map s'.root.down)).1 := by
  induction ways using List.reverseRecOn with
  | nil => rfl
  | append_singleton rest way ih =>
    have hway : ∀ n ∈ way, Dotless n := hways way (List.mem_append_right _ List.mem_cons_self)
    have hdeclared : declared? d (s.root.down way) = declared? d' (s'.root.down way) := by
      rw [declared?, declared?, reading?_eq h h' hsame hway]
    rw [List.map_append, List.map_append, List.map_singleton, List.map_singleton, catalogOf_concat,
      catalogOf_concat, hdeclared, keyFor_down, keyFor_down,
      ih fun way hway => hways way (List.mem_append_left _ hway)]

/-- Going on with the same names from both places, a scan finds the same files, and it meets an
obstacle on both sides or on none; it meets none if the names are proper. -/
theorem parallel_sourcesBelow {dirs : List (List String)} (hdirs : ∀ dir ∈ dirs, ∀ n ∈ dir, Dotless n) :
    Parallel s.root s'.root (s.sourcesBelow d (dirs.map s.root.down)).1
        (s'.sourcesBelow d' (dirs.map s'.root.down)).1 ∧
      ((s.sourcesBelow d (dirs.map s.root.down)).2 = none ↔
        (s'.sourcesBelow d' (dirs.map s'.root.down)).2 = none) ∧
      ((∀ dir ∈ dirs, ∀ n ∈ dir, n.utf8ByteSize ≤ Disk.nameLimit) →
        (s.sourcesBelow d (dirs.map s.root.down)).2 = none) := by
  induction dirs with
  | nil => exact ⟨.nil, Iff.rfl, fun _ => rfl⟩
  | cons dir rest ih =>
    have hdir := hdirs dir List.mem_cons_self
    obtain ⟨hfiles, hobstacle, hshort⟩ := ih fun dir hdir => hdirs dir (List.mem_cons_of_mem _ hdir)
    rw [List.map_cons, List.map_cons, sourcesBelow, sourcesBelow]
    rcases Disk.look_alike h h' hsame hdir with
      ⟨node, node', hat, hat', hlook, hlook'⟩ | ⟨hlook, hlook'⟩ | ⟨⟨e, e', hlook, hlook'⟩, hlong⟩
    · rw [hlook, hlook']
      exact ⟨(parallel_sourcesIn h h' hsame htwin hdir hat hat').append hfiles, hobstacle,
        fun hall => hshort fun dir hdir => hall dir (List.mem_cons_of_mem _ hdir)⟩
    · rw [hlook, hlook']
      exact ⟨hfiles, hobstacle,
        fun hall => hshort fun dir hdir => hall dir (List.mem_cons_of_mem _ hdir)⟩
    · rw [hlook, hlook']
      refine ⟨.nil, by simp, fun hall => ?_⟩
      obtain ⟨n, hn, hlong⟩ := hlong
      exact absurd (hall dir List.mem_cons_self n hn) (Nat.not_le.2 hlong)

end

/-! ### Projects -/

/-- Scans the sources that settings name. -/
def scan (d : Disk) (settings : Settings) : Except Fault Catalog := do
  let s ← (ofSettings d settings).mapError Fault.disk
  let s ← (s.rescan d).1
  return s.catalog

/-- What a scan comes to that finds a catalog, perhaps a numeral that is too long and perhaps an
obstacle among the roots. -/
def outcome (c : Catalog) : Option Text.TooManyDigits → Option DiskError → Except Fault Catalog
  | some e, _ => .error (.numeral e)
  | none, some e => .error (.disk e)
  | none, none => .ok c

/-- A scan gives the catalog of what it finds, unless it meets a numeral that is too long or an
obstacle. -/
theorem scan_eq {settings : Settings} (h : ofSettings d settings = .ok s) :
    scan d settings = outcome (s.catalogOf d (s.sourcesBelow d s.roots).1).1
      ((s.sourcesBelow d s.roots).1.findSome? (overlong? d)) (s.sourcesBelow d s.roots).2 := by
  rw [scan, h]
  show ((s.rescan d).1 >>= fun s => pure s.catalog) = _
  unfold rescan
  rcases s.sourcesBelow d s.roots with ⟨files, obstacle⟩
  dsimp only
  cases files.findSome? (overlong? d) with
  | some e => rfl
  | none => cases obstacle <;> rfl

theorem scan_eq_error {settings : Settings} {e : DiskError} (h : ofSettings d settings = .error e) :
    scan d settings = .error (.disk e) := by
  rw [scan, h]
  rfl

end Scanner

namespace Settings

variable {d d' : Disk} {settings settings' : Settings} {base base' : Path} {tree tree' : Node}

/-- The manifest of a catalog. -/
def manifestOf (s : Settings) (c : Catalog) : Manifest :=
  .ofAggregates s.providerValue s.moduleValue c.aggregates

/-- The project of settings is a tree that stands on a disk. -/
structure Finds (s : Settings) (d : Disk) (base : Path) (tree : Node) : Prop where
  /-- The directory of the project is resolved to where the tree stands. -/
  resolve : d.resolve s.root = .ok base
  /-- It is given by names that are not empty. -/
  names : ∀ n ∈ d.absoluteNames s.root, n ≠ ""
  /-- The tree stands there. -/
  hosts : d.Hosts base tree

/-- Two projects choose the same but for where they are. -/
structure ChoosesLike (s s' : Settings) : Prop where
  /-- The directories of sources have the same names. -/
  sourceDirs : s.sourceDirs = s'.sourceDirs
  /-- The suffixes are the same. -/
  extensions : s.extensions = s'.extensions
  /-- The same is left out. -/
  exclusions : s.exclusions = s'.exclusions
  /-- The provider is the same. -/
  provider : s.provider = s'.provider
  /-- The module is the same. -/
  moduleName : s.moduleName = s'.moduleName

/-- The directories of sources lie in the project: they are relative and do not go up. -/
def StaysInside (s : Settings) : Prop :=
  ∀ dir ∈ s.sourceDirs, (Path.ofString dir).anchor = .relative ∧ ".." ∉ (Path.ofString dir).names

/-- The names of the directories of sources. -/
def sourceNames (s : Settings) : List (List String) :=
  s.sourceDirs.map fun dir => (Path.ofString dir).names

theorem StaysInside.dotless (h : settings.StaysInside) :
    ∀ names ∈ settings.sourceNames, ∀ n ∈ names, Dotless n := by
  intro names hnames n hn
  obtain ⟨dir, hdir, rfl⟩ := List.mem_map.1 hnames
  have hpart := Path.clean_ofString dir n hn
  refine ⟨beq_eq_false_iff_ne.2 fun hup => (h dir hdir).2 (hup ▸ hn), ?_⟩
  rw [Bool.or_eq_false_iff, beq_eq_false_iff_ne, beq_eq_false_iff_ne]
  constructor
  · rintro rfl
    exact hpart.ne_empty rfl
  · rintro rfl
    exact hpart.ne_dot rfl

/-- The scanner of a project at a place. -/
def scannerAt (s : Settings) (base : Path) : Scanner :=
  { root := base, roots := s.sourceNames.map base.down
    extensions := s.extensions.map Text.lowercase
    exclusions := s.exclusions.filterMap Exclusion.ofString? }

theorem ChoosesLike.twin (h : settings.ChoosesLike settings') (base base' : Path) :
    (settings.scannerAt base).Twin (settings'.scannerAt base') :=
  ⟨by rw [scannerAt, scannerAt, h.extensions], by rw [scannerAt, scannerAt, h.exclusions]⟩

theorem ChoosesLike.manifestOf_eq (h : settings.ChoosesLike settings') (c : Catalog) :
    settings.manifestOf c = settings'.manifestOf c := by
  rw [manifestOf, manifestOf, providerValue, providerValue, moduleValue, moduleValue, h.provider,
    h.moduleName]

/-- The scanner of a project: its directories of sources are where their names say. -/
theorem Finds.ofSettings_eq (h : settings.Finds d base tree) (hinside : settings.StaysInside)
    (hnull : ∀ names ∈ settings.sourceNames, ¬names.any Disk.hasNull) :
    Scanner.ofSettings d settings = .ok (settings.scannerAt base) := by
  have hroots : ∀ dirs : List String, (∀ dir ∈ dirs, dir ∈ settings.sourceDirs) →
      (dirs.map settings.root.join).mapM d.resolve =
        .ok (dirs.map fun dir => base.down (Path.ofString dir).names) := by
    intro dirs hdirs
    induction dirs with
    | nil => rfl
    | cons dir rest ih =>
      have hdir := hdirs dir List.mem_cons_self
      have hmem : (Path.ofString dir).names ∈ settings.sourceNames := List.mem_map_of_mem hdir
      have hfirst : d.resolve (settings.root.join dir) = .ok (base.down (Path.ofString dir).names) :=
        h.hosts.resolve_append h.resolve h.names (hinside dir hdir).1 (hinside.dotless _ hmem)
          (hnull _ hmem)
      rw [List.map_cons, List.mapM_cons, hfirst, ih fun dir hdir => hdirs dir (List.mem_cons_of_mem _ hdir)]
      rfl
  unfold Scanner.ofSettings sourceRoots
  rw [h.resolve, hroots _ fun _ hdir => hdir, scannerAt, sourceNames, List.map_map]
  rfl

/-- A null character in the name of a directory of sources is an error. -/
theorem StaysInside.exists_error (h : settings.StaysInside) (d : Disk)
    (hnull : ∃ names ∈ settings.sourceNames, names.any Disk.hasNull = true) :
    ∃ e, Scanner.ofSettings d settings = .error e := by
  obtain ⟨_, hmem, hnull⟩ := hnull
  obtain ⟨dir, hdir, rfl⟩ := List.mem_map.1 hmem
  have hresolve : d.resolve (settings.root.join dir) =
      .error (.refused .nullCharacter (settings.root.join dir)) := by
    have hboth : (settings.root.join dir).names.any Disk.hasNull = true := by
      rw [Path.join, Disk.append_of_relative _ (h dir hdir).1, List.any_append, hnull, Bool.or_true]
    rw [Disk.resolve, if_pos hboth]
  obtain ⟨e, he⟩ := exists_error_of_mapM (List.mem_map_of_mem hdir) hresolve
  unfold Scanner.ofSettings sourceRoots
  cases d.resolve settings.root with
  | error e => exact ⟨e, rfl⟩
  | ok root =>
    rw [he]
    exact ⟨e, rfl⟩

theorem ChoosesLike.sourceNames_eq (h : settings.ChoosesLike settings') :
    settings'.sourceNames = settings.sourceNames := by
  rw [sourceNames, sourceNames, h.sourceDirs]

theorem ChoosesLike.staysInside (h : settings.ChoosesLike settings') (hinside : settings.StaysInside) :
    settings'.StaysInside := by
  unfold StaysInside
  rw [← h.sourceDirs]
  exact hinside

/-- Without null characters in the names, both scans find the same sources, they meet the same
numeral that is too long or none, and they meet an obstacle on both sides or on none; they meet none
if no name is too long. -/
theorem scan_alike (h : settings.Finds d base tree) (h' : settings'.Finds d' base' tree')
    (hsame : tree.Same tree') (hlike : settings.ChoosesLike settings')
    (hinside : settings.StaysInside)
    (hclean : ∀ names ∈ settings.sourceNames, ¬names.any Disk.hasNull) :
    ∃ c numeral obstacle obstacle',
      Scanner.scan d settings = Scanner.outcome c numeral obstacle ∧
      Scanner.scan d' settings' = Scanner.outcome c numeral obstacle' ∧
      (obstacle = none ↔ obstacle' = none) ∧
      ((∀ names ∈ settings.sourceNames, ∀ n ∈ names, n.utf8ByteSize ≤ Disk.nameLimit) →
        obstacle = none) ∧
      ∀ e, numeral = some e → ∃ way bytes text, tree.at? way = some (.file bytes) ∧
        Text.readText? bytes = some text ∧ declaredProbes text = .error e := by
  have hhosts : d.Hosts (settings.scannerAt base).root tree := h.hosts
  have hhosts' : d'.Hosts (settings'.scannerAt base').root tree' := h'.hosts
  obtain ⟨⟨ways, hways, hfiles, hfiles'⟩, hobstacle, hshort⟩ :=
    Scanner.parallel_sourcesBelow hhosts hhosts' hsame (hlike.twin base base') hinside.dotless
  have hroots : settings.sourceNames.map (settings.scannerAt base).root.down =
      (settings.scannerAt base).roots := rfl
  have hroots' : settings.sourceNames.map (settings'.scannerAt base').root.down =
      (settings'.scannerAt base').roots := by
    rw [← hlike.sourceNames_eq]
    rfl
  rw [hroots, hroots'] at hobstacle
  rw [hroots] at hfiles hshort
  rw [hroots'] at hfiles'
  have hcatalog := Scanner.catalogOf_eq hhosts hhosts' hsame hways
  have hnumeral := Scanner.findSome?_overlong?_eq hhosts hhosts' hsame hways
  refine ⟨_, _, _, _, Scanner.scan_eq (h.ofSettings_eq hinside hclean), ?_, hobstacle, hshort,
    fun e he => ?_⟩
  · rw [hfiles, hcatalog, hnumeral, ← hfiles']
    exact Scanner.scan_eq
      (h'.ofSettings_eq (hlike.staysInside hinside) (hlike.sourceNames_eq ▸ hclean))
  · rw [hfiles] at he
    obtain ⟨p, hp, he⟩ := List.exists_of_findSome?_eq_some he
    obtain ⟨way, hway, rfl⟩ := List.mem_map.1 hp
    obtain ⟨text, htext, hlong⟩ := Option.map_eq_some_iff.1 (Scanner.overlong?_eq_some_iff.1 he)
    obtain ⟨bytes, hread, htext⟩ := Option.bind_eq_some_iff.1 htext
    have hat := Disk.at?_of_read? hhosts hhosts' hsame (hways way hway) hread
    exact ⟨way, bytes, text, hat, htext, hlong⟩

/-! ### The main result -/

/-- **What a scan finds depends neither on where the project is nor on the order in which
directories are listed.**  Let two projects choose the same, with directories of sources that stay
inside, and let the same tree without links stand where each of them is, on the same disk or on
different ones, listed in whatever order.  Then either no scan of the two comes to an end, or both
give the same catalog, and their manifests have the same text and the same digest.  If the
directories of sources have proper names, both come to an end or both meet the same numeral that is
too long. -/
theorem scan_elsewhere (h : settings.Finds d base tree) (h' : settings'.Finds d' base' tree')
    (hsame : tree.Same tree') (hlike : settings.ChoosesLike settings')
    (hinside : settings.StaysInside) :
    ((∃ e e', Scanner.scan d settings = .error e ∧ Scanner.scan d' settings' = .error e') ∨
      ∃ c, Scanner.scan d settings = .ok c ∧ Scanner.scan d' settings' = .ok c ∧
        (settings.manifestOf c).canonicalText = (settings'.manifestOf c).canonicalText ∧
        (settings.manifestOf c).digest = (settings'.manifestOf c).digest) ∧
    ((∀ names ∈ settings.sourceNames, ∀ n ∈ names, IsName n) →
      (∃ c, Scanner.scan d settings = .ok c) ∨
        ∃ way bytes text e, tree.at? way = some (.file bytes) ∧ Text.readText? bytes = some text ∧
          declaredProbes text = .error e ∧ Scanner.scan d settings = .error (.numeral e) ∧
          Scanner.scan d' settings' = .error (.numeral e)) := by
  -- A null character in a name makes a scan fail before anything is looked at, here and there.
  by_cases hnull : ∃ names ∈ settings.sourceNames, names.any Disk.hasNull = true
  · obtain ⟨e, he⟩ := hinside.exists_error d hnull
    obtain ⟨e', he'⟩ := (hlike.staysInside hinside).exists_error d' (hlike.sourceNames_eq ▸ hnull)
    refine ⟨.inl ⟨_, _, Scanner.scan_eq_error he, Scanner.scan_eq_error he'⟩, fun hproper => ?_⟩
    obtain ⟨names, hmem, hnull⟩ := hnull
    obtain ⟨n, hn, hnull⟩ := List.any_eq_true.1 hnull
    rw [(hproper names hmem n hn).noNull] at hnull
    cases hnull
  · obtain ⟨c, numeral, obstacle, obstacle', hscan, hscan', hnone, hshort, hway⟩ :=
      scan_alike h h' hsame hlike hinside fun names hmem hany => hnull ⟨names, hmem, hany⟩
    rw [hscan, hscan']
    cases numeral with
    | some e =>
      obtain ⟨way, bytes, text, hat, htext, hlong⟩ := hway e rfl
      exact ⟨.inl ⟨_, _, rfl, rfl⟩, fun _ => .inr ⟨way, bytes, text, e, hat, htext, hlong, rfl, rfl⟩⟩
    | none =>
      refine ⟨?_, fun hproper => ?_⟩
      · cases hmet : obstacle with
        | none =>
          rw [hnone.1 hmet]
          exact .inr ⟨c, rfl, rfl, by rw [hlike.manifestOf_eq], by rw [hlike.manifestOf_eq]⟩
        | some e =>
          obtain ⟨e', hmet'⟩ := Option.ne_none_iff_exists'.1 fun hfree => by
            rw [hnone.2 hfree] at hmet
            cases hmet
          rw [hmet']
          exact .inl ⟨_, _, rfl, rfl⟩
      · rw [hshort fun names hmem n hn => (hproper names hmem n hn).short]
        exact .inl ⟨c, rfl⟩

/-- A project with two sources, listed in some order. -/
def listed (sources : List (String × Node)) : Node := .dir [("t", .dir sources)]

/-- Two sources. -/
def twoSources : List (String × Node) :=
  [("a.js", .file (Text.encode "d.addProbe('p');")), ("b.js", .file (Text.encode "d.addProbe('q');"))]

/-- A disk with the project near the top. -/
def nearDisk : Disk := { top := .dir [("p", listed twoSources)], here := [] }

/-- A disk with the project below a directory of the kind that is skipped, listed backwards. -/
def farDisk : Disk :=
  { top := .dir [("node_modules", .dir [("q", listed twoSources.reverse)])], here := [] }

/-- The settings of a project at a place whose sources are in one directory. -/
def oneDirectory (root : Path) : Settings := { ofRoot root with sourceDirs := ["t"] }

theorem ofString_t : Path.ofString "t" = ⟨.relative, ["t"]⟩ := by decide

theorem orderly_listed {sources : List (String × Node)} (hdistinct : (sources.map (·.1)).Nodup)
    (h : ∀ e ∈ sources, IsName e.1 ∧ ∃ bytes, e.2 = .file bytes) : (listed sources).Orderly := by
  refine Node.orderly_dir (by simp) fun e he => ?_
  obtain rfl := List.mem_singleton.1 he
  refine ⟨(by decide : IsName "t"), Node.orderly_dir hdistinct fun e he => ?_⟩
  obtain ⟨hname, bytes, hfile⟩ := h e he
  exact ⟨hname, hfile ▸ Node.orderly_file bytes⟩

theorem finds_oneDirectory {d : Disk} {sources : List (String × Node)} {names : List String}
    (hfree : d.top.linkCount = 0) (hnames : ∀ n ∈ names, IsName n)
    (hat : d.top.at? names = some (listed sources)) (hdistinct : (sources.map (·.1)).Nodup)
    (h : ∀ e ∈ sources, IsName e.1 ∧ ∃ bytes, e.2 = .file bytes) :
    (oneDirectory ⟨.root, names⟩).Finds d ⟨.root, names⟩ (listed sources) where
  resolve := Disk.resolve_eq_self hnames (Node.linkFree_of_linkCount_eq_zero hfree) rfl
  names n hn hempty := by
    have hname : IsName "" := hempty ▸ hnames n hn
    exact absurd hname (by decide)
  hosts :=
    { anchor := rfl, names := hnames, stands := hat, isDir := rfl
      linkFree := fun place target hlink => Node.linkFree_of_linkCount_eq_zero hfree (names ++ place)
        target (by rw [Node.view_append, hat]; exact hlink)
      orderly := orderly_listed hdistinct h }

/-- The files of the project are its two sources, and both can be read. -/
theorem exists_declared_of_listed {way : List String} {bytes : ByteArray}
    (h : (listed twoSources).at? way = some (.file bytes)) :
    ∃ text probes, Text.readText? bytes = some text ∧ declaredProbes text = .ok probes := by
  match way with
  | [] => cases h
  | [name] =>
    obtain ⟨entries, child, hdir, hlookup, hchild⟩ := Node.exists_entry_of_at? h
    cases hdir
    obtain rfl := Option.some.inj hchild
    have hmem := mem_of_lookup hlookup
    simp at hmem
  | name :: name' :: rest =>
    obtain ⟨entries, child, hdir, hlookup, hchild⟩ := Node.exists_entry_of_at? h
    cases hdir
    obtain ⟨-, rfl⟩ := Prod.mk.inj (List.mem_singleton.1 (mem_of_lookup hlookup))
    obtain ⟨entries, source, hdir, hlookup, hsource⟩ := Node.exists_entry_of_at? hchild
    cases hdir
    have hmem := mem_of_lookup hlookup
    simp only [twoSources, List.mem_cons, List.not_mem_nil, or_false, Prod.mk.injEq] at hmem
    have hread (text : String) (hline : '\r' ∉ text.toList)
        (hshort : Declaration.obstacle? text.toList = none)
        (hfile : (Node.file (Text.encode text)).at? rest = some (.file bytes)) :
        ∃ text probes, Text.readText? bytes = some text ∧ declaredProbes text = .ok probes := by
      cases rest with
      | nil =>
        cases hfile
        exact ⟨text, _, Text.readText?_encode hline, by rw [declaredProbes, hshort]⟩
      | cons => cases hfile
    rcases hmem with ⟨-, rfl⟩ | ⟨-, rfl⟩
    · exact hread "d.addProbe('p');" (by decide) (by decide +kernel) hsource
    · exact hread "d.addProbe('q');" (by decide) (by decide +kernel) hsource

/-- The project gives the same catalog near the top and far below. -/
theorem scan_elsewhere_far : ∃ c,
    Scanner.scan nearDisk (oneDirectory ⟨.root, ["p"]⟩) = .ok c ∧
    Scanner.scan farDisk (oneDirectory ⟨.root, ["node_modules", "q"]⟩) = .ok c := by
  have hfiles : ∀ e ∈ twoSources, IsName e.1 ∧ ∃ bytes, e.2 = .file bytes := by
    intro e he
    simp only [twoSources, List.mem_cons, List.not_mem_nil, or_false] at he
    rcases he with rfl | rfl
    · exact ⟨by decide, _, rfl⟩
    · exact ⟨by decide, _, rfl⟩
  have hinside : (oneDirectory ⟨.root, ["p"]⟩).StaysInside := by
    intro dir hdir
    obtain rfl := List.mem_singleton.1 hdir
    rw [ofString_t]
    decide
  have hproper : ∀ names ∈ (oneDirectory ⟨.root, ["p"]⟩).sourceNames, ∀ n ∈ names, IsName n := by
    intro names hnames
    obtain rfl : names = (Path.ofString "t").names := List.mem_singleton.1 hnames
    rw [ofString_t]
    decide
  have hnear : (oneDirectory ⟨.root, ["p"]⟩).Finds nearDisk ⟨.root, ["p"]⟩ (listed twoSources) :=
    finds_oneDirectory (by decide) (by decide) rfl (by decide) hfiles
  have hfar : (oneDirectory ⟨.root, ["node_modules", "q"]⟩).Finds farDisk
      ⟨.root, ["node_modules", "q"]⟩ (listed twoSources.reverse) :=
    finds_oneDirectory (by decide) (by decide) rfl (by decide)
      fun e he => hfiles e (List.mem_reverse.1 he)
  obtain ⟨hboth, hends⟩ := scan_elsewhere hnear hfar
    (Node.same_child "t" (Node.same_of_perm (by decide) (List.reverse_perm _).symm))
    ⟨rfl, rfl, rfl, rfl, rfl⟩ hinside
  obtain ⟨c, hc⟩ : ∃ c, Scanner.scan nearDisk (oneDirectory ⟨.root, ["p"]⟩) = .ok c := by
    refine (hends hproper).resolve_right ?_
    rintro ⟨way, bytes, text, e, hat, htext, hlong, -⟩
    obtain ⟨text', probes, htext', hread⟩ := exists_declared_of_listed hat
    obtain rfl := Option.some.inj (htext.symm.trans htext')
    rw [hlong] at hread
    cases hread
  rcases hboth with ⟨e, e', he, -⟩ | ⟨c', hc', hc'', -⟩
  · rw [hc] at he
    cases he
  · exact ⟨c', hc', hc''⟩

end Settings

end ProbeKit
