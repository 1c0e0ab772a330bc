import Mathlib.Data.List.Nodup
import ProbeKit.Proofs.Disk.Matching
import ProbeKit.Proofs.Manifest.Scanned
import ProbeKit.Proofs.Workspace.Outputs

/-!
# Sidecars of artifacts

The artifacts of a project are looked for in the tree that their sidecars are written into, with
patterns that may fit the sidecars too.  `Sidecar.IsArtifact` says what an artifact is: a file whose
names fit some pattern and that is not named like a sidecar.  So no sidecar is ever taken for an
artifact, each of them can be written without changing what is found (`Sidecar.Ready.step`), and
however often sidecars are written they are the same ones (`Sidecar.write_repeatedly`).
-/

namespace ProbeKit

open Act
open Disk (Overwrites)

/-! ### Paths in order -/

namespace Path

theorem mem_sorted {paths : List Path} {p : Path} : p ∈ sorted paths ↔ p ∈ paths := by
  rw [sorted, List.mem_mergeSort, List.mem_eraseDups]

theorem nodup_sorted (paths : List Path) : (sorted paths).Nodup :=
  (List.mergeSort_perm _ _).nodup_iff.2 (Aggregate.nodup_eraseDups paths)

theorem pairwise_sorted (paths : List Path) : (sorted paths).Pairwise fun p q => p.atMost q :=
  List.pairwise_mergeSort (fun p q r => Text.listAtMost_trans p.orderKey q.orderKey r.orderKey)
    (fun p q => Text.listAtMost_total p.orderKey q.orderKey) _

/-- Paths that begin alike are in order in one way only. -/
theorem atMost_antisymm {p q : Path} (hanchor : p.anchor = q.anchor) (h : p.atMost q)
    (h' : q.atMost p) : p = q := by
  have hkey := Text.listAtMost_antisymm h h'
  obtain ⟨anchor, names⟩ := p
  obtain ⟨anchor', names'⟩ := q
  obtain rfl : anchor = anchor' := hanchor
  unfold orderKey at hkey
  split at hkey
  · exact congrArg _ hkey
  · exact congrArg _ (List.cons_inj_right _ |>.1 hkey)

/-- The same paths, if they begin alike, have one order. -/
theorem sorted_eq_of_mem_iff (anchor : Anchor) {paths paths' : List Path}
    (hanchor : ∀ p ∈ paths, p.anchor = anchor) (h : ∀ p, p ∈ paths ↔ p ∈ paths') :
    sorted paths = sorted paths' := by
  have hperm : (sorted paths).Perm (sorted paths') :=
    (List.perm_ext_iff_of_nodup (nodup_sorted paths) (nodup_sorted paths')).2 fun p => by
      rw [mem_sorted, mem_sorted, h]
  refine hperm.eq_of_pairwise (fun p q hp hq hle hge => ?_) (pairwise_sorted paths)
    (pairwise_sorted paths')
  have hp := hanchor p (mem_sorted.1 hp)
  have hq := hanchor q ((h q).2 (mem_sorted.1 hq))
  exact atMost_antisymm (hp.trans hq.symm) hle hge

end Path

namespace Sidecar

variable {d d' : Disk} {root own p : Path} {tree tree' : Node} {patterns : List String}
  {found : List Path} {bytes : ByteArray}

/-! ### What is an artifact -/

/-- The names of a file fit some pattern, and they are not those of a sidecar. -/
structure IsArtifact (tree : Node) (patterns : List String) (names : List String) : Prop where
  /-- There is a file under these names. -/
  file : ∃ bytes, tree.at? names = some (.file bytes)
  /-- It is not named like a sidecar. -/
  notSidecar : isSidecar (names.getLastD "") = false
  /-- Some pattern for files fits. -/
  fits : ∃ pattern ∈ patterns, ∃ parts, Glob.parse pattern = .ok parts ∧ Glob.Fits parts names ∧
    Glob.asksDirectory parts = false

/-- The patterns can be looked for below a directory, and none of them leads out of it. -/
def Accepts (d : Disk) (root : Path) (patterns : List String) : Prop :=
  ∀ pattern ∈ patterns, ".." ∉ (Path.ofString pattern).names ∧
    ∃ parts paths, Glob.parse pattern = .ok parts ∧ d.matching root parts = .ok paths

/-- The artifacts that fit one pattern. -/
def fitting (d : Disk) (root : Path) (pattern : String) : Except Fault (List Path) := do
  let parts ← (Glob.parse pattern).mapError Fault.pattern
  let paths ← (d.matching root parts).mapError Fault.disk
  paths.filterM fun p => do
    return (← (d.look p).mapError Fault.disk).any Node.isFile && !isSidecar p.name

theorem artifacts_eq (d : Disk) (root : Path) (patterns : List String) :
    artifacts d root patterns =
      do return Path.sorted (← patterns.mapM (fitting d root)).flatten := rfl

theorem name_down {names : List String} (hnames : names ≠ []) :
    (root.down names).name = names.getLastD "" := by
  obtain ⟨before, name, rfl⟩ := (List.eq_nil_or_concat names).resolve_left hnames
  simp [Path.name, Path.down]

theorem ne_nil_of_isFile (htree : tree.isDir = true) {names : List String}
    (hat : tree.at? names = some (.file bytes)) : names ≠ [] := by
  rintro rfl
  cases hat
  cases htree

/-- Looking for one pattern gives the files that fit it and are not named like sidecars. -/
theorem exists_fitting (h : d.Hosts root tree) {pattern : String} {parts : List GlobPart}
    {paths : List Path} (hup : ".." ∉ (Path.ofString pattern).names)
    (hparse : Glob.parse pattern = .ok parts) (hmatching : d.matching root parts = .ok paths) :
    ∃ files, fitting d root pattern = .ok files ∧ ∀ p, p ∈ files ↔ ∃ names, p = root.down names ∧
      (∃ bytes, tree.at? names = some (.file bytes)) ∧ isSidecar (names.getLastD "") = false ∧
      Glob.Fits parts names ∧ Glob.asksDirectory parts = false := by
  have hmem := h.mem_matching_iff (Glob.leadsDown_of_parse hparse hup) hmatching
  let keeps (p : Path) : Bool := (d.node? p).any Node.isFile && !isSidecar p.name
  refine ⟨paths.filter keeps, ?_, fun p => ?_⟩
  · rw [fitting, hparse]
    show ((d.matching root parts).mapError Fault.disk >>= _) = _
    rw [hmatching]
    refine filterM_eq fun p hp => ?_
    obtain ⟨names, node, rfl, hat, -⟩ := (hmem p).1 hp
    show _ = Except.ok ((d.node? (root.down names)).any Node.isFile && _)
    rw [h.look_down hat, h.node?_down hat]
    rfl
  · -- What fits the pattern may be a directory, a link or a sidecar, and none of those is kept.
    rw [List.mem_filter, hmem]
    constructor
    · rintro ⟨⟨names, node, rfl, hat, hfits, hasks⟩, hkeep⟩
      rw [Bool.and_eq_true, Bool.not_eq_true', h.node?_down hat, Option.any_some] at hkeep
      cases node with
      | file bytes =>
        rw [name_down (ne_nil_of_isFile h.isDir hat)] at hkeep
        refine ⟨names, rfl, ⟨bytes, hat⟩, hkeep.2, hfits, Bool.eq_false_iff.2 fun hdir => ?_⟩
        cases hasks hdir
      | link target => cases hkeep.1
      | dir entries => cases hkeep.1
    · rintro ⟨names, rfl, ⟨bytes, hat⟩, hname, hfits, hasks⟩
      refine ⟨⟨names, .file bytes, rfl, hat, hfits, by simp [hasks]⟩, ?_⟩
      rw [Bool.and_eq_true, Bool.not_eq_true', h.node?_down hat, name_down (ne_nil_of_isFile h.isDir hat)]
      exact ⟨rfl, hname⟩

/-- The artifacts are listed in order, each of them once. -/
theorem exists_artifacts (h : d.Hosts root tree) (haccepts : Accepts d root patterns) :
    ∃ files, artifacts d root patterns = .ok (Path.sorted files) ∧
      ∀ p, p ∈ files ↔ ∃ names, p = root.down names ∧ IsArtifact tree patterns names := by
  obtain ⟨results, hresults⟩ : ∃ results, patterns.mapM (fitting d root) = .ok results := by
    refine exists_mapM_iff.2 fun pattern hpattern => ?_
    obtain ⟨hup, parts, paths, hparse, hmatching⟩ := haccepts pattern hpattern
    obtain ⟨files, hfiles, -⟩ := exists_fitting h hup hparse hmatching
    exact ⟨files, hfiles⟩
  refine ⟨results.flatten, by rw [artifacts_eq, hresults]; rfl, fun p => ?_⟩
  rw [mem_flatten_of_mapM hresults]
  constructor
  · rintro ⟨pattern, hpattern, files, hfiles, hp⟩
    obtain ⟨hup, parts, paths, hparse, hmatching⟩ := haccepts pattern hpattern
    obtain ⟨files', hfiles', hmem⟩ := exists_fitting h hup hparse hmatching
    cases hfiles.symm.trans hfiles'
    obtain ⟨names, rfl, hfile, hname, hfits, hasks⟩ := (hmem p).1 hp
    exact ⟨names, rfl, hfile, hname, pattern, hpattern, parts, hparse, hfits, hasks⟩
  · rintro ⟨names, rfl, hfile, hname, pattern, hpattern, parts, hparse, hfits, hasks⟩
    obtain ⟨hup, parts', paths, hparse', hmatching⟩ := haccepts pattern hpattern
    cases hparse.symm.trans hparse'
    obtain ⟨files, hfiles, hmem⟩ := exists_fitting h hup hparse hmatching
    exact ⟨pattern, hpattern, files, hfiles, (hmem _).2 ⟨names, rfl, hfile, hname, hfits, hasks⟩⟩

/-- Where the same files are artifacts the same artifacts are listed. -/
theorem artifacts_eq_of_iff (h : d.Hosts root tree) (h' : d'.Hosts root tree')
    (haccepts : Accepts d root patterns) (haccepts' : Accepts d' root patterns)
    (hsame : ∀ names, IsArtifact tree patterns names ↔ IsArtifact tree' patterns names) :
    artifacts d root patterns = artifacts d' root patterns := by
  obtain ⟨files, hfiles, hmem⟩ := exists_artifacts h haccepts
  obtain ⟨files', hfiles', hmem'⟩ := exists_artifacts h' haccepts'
  rw [hfiles, hfiles']
  refine congrArg Except.ok (Path.sorted_eq_of_mem_iff root.anchor (fun p hp => ?_) fun p => ?_)
  · obtain ⟨names, rfl, -⟩ := (hmem p).1 hp
    rfl
  · rw [hmem, hmem']
    simp only [hsame]

/-! ### Files named like sidecars -/

theorem isDir_top_of_hosts (h : d.Hosts root tree) : d.top.isDir = true :=
  Disk.isDir_of_view_nil (Node.view_root_of_dir h.view_base)

/-- A file that is named like a sidecar changes neither directories nor artifacts. -/
theorem view_of_overwrites (h : d.Hosts root tree) (h' : d'.Hosts root tree')
    (hplain : d.EndsPlainly p) (hnamed : isSidecar p.name = true)
    (hover : Overwrites [p] bytes d d') (names : List String) :
    (tree'.view names = tree.view names) ∨
      (tree'.view names = some (.file bytes) ∧ tree.view names ≠ some .dir ∧
        isSidecar (names.getLastD "") = true) := by
  -- What is under the names was there before, or it is the file that was written.
  have hview := hover.exists_of_view (root.names ++ names)
  rw [h.view_append, h'.view_append] at hview
  refine hview.imp_right fun ⟨hfile, q, hq, hhome⟩ => ⟨hfile, fun hdir => ?_, ?_⟩
  · have hkept := hover.keeps.dirs (root.names ++ names) ((h.view_append names).trans hdir)
    rw [h'.view_append, hfile] at hkept
    cases hkept
  · obtain rfl := List.mem_singleton.1 hq
    have hlast := hplain _ hhome
    have hnames : names ≠ [] := by
      rintro rfl
      rw [h'.view_nil] at hfile
      cases hfile
    obtain ⟨before, name, rfl⟩ := (List.eq_nil_or_concat names).resolve_left hnames
    rw [List.concat_eq_append, ← List.append_assoc, List.getLast?_concat, Option.some.injEq] at hlast
    rw [List.concat_eq_append, List.getLastD_concat, hlast]
    exact hnamed

theorem view_eq_dir_iff_of_overwrites (h : d.Hosts root tree) (h' : d'.Hosts root tree')
    (hplain : d.EndsPlainly p) (hnamed : isSidecar p.name = true)
    (hover : Overwrites [p] bytes d d') (place : List String) :
    tree.view place = some .dir ↔ tree'.view place = some .dir := by
  rcases view_of_overwrites h h' hplain hnamed hover place with hview | ⟨hfile, hdir, -⟩
  · rw [hview]
  · simp [hfile, hdir]

theorem accepts_of_overwrites (h : d.Hosts root tree) (h' : d'.Hosts root tree')
    (hplain : d.EndsPlainly p) (hnamed : isSidecar p.name = true)
    (hover : Overwrites [p] bytes d d') (haccepts : Accepts d root patterns) :
    Accepts d' root patterns := by
  intro pattern hpattern
  obtain ⟨hup, parts, paths, hparse, hmatching⟩ := haccepts pattern hpattern
  have hdown := Glob.leadsDown_of_parse hparse hup
  -- Whether a search comes to an end is a matter of the directories, and they are the same.
  have hclear := (h.exists_matching_iff hdown).1 ⟨paths, hmatching⟩
  rw [Glob.clear_congr (view_eq_dir_iff_of_overwrites h h' hplain hnamed hover)] at hclear
  obtain ⟨paths', hmatching'⟩ := (h'.exists_matching_iff hdown).2 hclear
  exact ⟨hup, parts, paths', hparse, hmatching'⟩

/-- The same files are artifacts: what was written over is still a file, and what is new is named like
a sidecar. -/
theorem isArtifact_iff_of_overwrites (h : d.Hosts root tree) (h' : d'.Hosts root tree')
    (hplain : d.EndsPlainly p) (hnamed : isSidecar p.name = true)
    (hover : Overwrites [p] bytes d d') (names : List String) :
    IsArtifact tree patterns names ↔ IsArtifact tree' patterns names := by
  have hview := view_of_overwrites h h' hplain hnamed hover names
  constructor
  · rintro ⟨⟨old, hfile⟩, hname, hfits⟩
    rcases hview with hview | ⟨-, -, hsidecar⟩
    · exact ⟨⟨old, Node.view_eq_file_iff.1 (hview.trans (Node.view_eq_file_iff.2 hfile))⟩, hname, hfits⟩
    · rw [hname] at hsidecar
      cases hsidecar
  · rintro ⟨⟨old, hfile⟩, hname, hfits⟩
    rcases hview with hview | ⟨-, -, hsidecar⟩
    · exact ⟨⟨old, Node.view_eq_file_iff.1 (hview.symm.trans (Node.view_eq_file_iff.2 hfile))⟩, hname,
        hfits⟩
    · rw [hname] at hsidecar
      cases hsidecar

/-! ### Writing sidecars -/

/-- The sidecar of an artifact. -/
def ofArtifact (p : Path) : Path := p.parent.child (p.name ++ artifactSuffix)

/-- What a sidecar says of a digest. -/
def line (digest : String) : ByteArray := Text.encode (digest ++ "\n")

/-- The sidecars of a manifest and of the artifacts that are found can be written. -/
structure Ready (root : Path) (patterns : List String) (own : Path) (found : List Path) (d : Disk) :
    Prop where
  /-- The artifacts are looked for in a tree without links. -/
  hosts : ∃ tree, d.Hosts root tree
  /-- The patterns are accepted. -/
  accepts : Accepts d root patterns
  /-- The artifacts are found. -/
  listed : artifacts d root patterns = .ok found
  /-- No link stands at the end of the path of a sidecar. -/
  plain : ∀ p ∈ own :: found.map ofArtifact, d.EndsPlainly p
  /-- It is named like one. -/
  named : ∀ p ∈ own :: found.map ofArtifact, isSidecar p.name = true
  /-- It can be written. -/
  canWrite : ∀ p ∈ own :: found.map ofArtifact, d.CanWrite p

namespace Ready

/-- **A sidecar can be written without an effect on the artifacts that are found and on the sidecars
that can be written.** -/
theorem step (h : Ready root patterns own found d) (hp : p ∈ own :: found.map ofArtifact)
    (bytes : ByteArray) :
    ∃ d', d.write p bytes = .ok d' ∧ Overwrites [p] bytes d d' ∧ Ready root patterns own found d' := by
  obtain ⟨tree, hhosts⟩ := h.hosts
  obtain ⟨d', hw⟩ := h.canWrite p hp bytes
  have htop := isDir_top_of_hosts hhosts
  have hover := Disk.overwrites_write htop hw
  have hplain := h.plain p hp
  have hnamed := h.named p hp
  obtain ⟨tree', hhosts'⟩ := hhosts.of_write hw hplain
  have haccepts := accepts_of_overwrites hhosts hhosts' hplain hnamed hover h.accepts
  have hlisted := artifacts_eq_of_iff hhosts hhosts' h.accepts haccepts
    (isArtifact_iff_of_overwrites hhosts hhosts' hplain hnamed hover)
  refine ⟨d', hw, hover, ⟨tree', hhosts'⟩, haccepts, hlisted ▸ h.listed, fun q hq place hplace => ?_,
    h.named, fun q hq => hover.canWrite htop (h.canWrite q hq)⟩
  exact h.plain q hq place (hover.home?_eq q ▸ hplace)

theorem isDir_top (h : Ready root patterns own found d) : d.top.isDir = true := by
  obtain ⟨tree, hhosts⟩ := h.hosts
  exact isDir_top_of_hosts hhosts

theorem names_ne_nil (h : Ready root patterns own found d) (hp : p ∈ found) : p.names ≠ [] := by
  obtain ⟨tree, hhosts⟩ := h.hosts
  obtain ⟨files, hfiles, hmem⟩ := exists_artifacts hhosts h.accepts
  obtain rfl := Except.ok.inj (h.listed.symm.trans hfiles)
  obtain ⟨names, rfl, ⟨bytes, hat⟩, -⟩ := (hmem p).1 (Path.mem_sorted.1 hp)
  exact List.append_ne_nil_of_right_ne_nil _ (ne_nil_of_isFile hhosts.isDir hat)

/-- Writing beside some of the artifacts writes their sidecars. -/
theorem on_writeBeside (h : Ready root patterns own found d) (digest : String) {some : List Path}
    (hsome : ∀ p ∈ some, p ∈ found) :
    ∃ d', (writeBeside digest some).on d = (.ok (some.map ofArtifact), d') ∧
      Overwrites (some.map ofArtifact) (line digest) d d' ∧ Ready root patterns own found d' := by
  -- The disk is another one behind each sidecar, and it is ready for the others again.
  induction some generalizing d with
  | nil => exact ⟨d, rfl, Disk.overwrites_nil _ d, h⟩
  | cons p rest ih =>
    have hp := hsome p List.mem_cons_self
    have htarget : beside p artifactSuffix = .ok (ofArtifact p) :=
      if_neg (by simpa using h.names_ne_nil hp)
    obtain ⟨d₁, hw, hover, hready⟩ :=
      h.step (List.mem_cons_of_mem _ (List.mem_map_of_mem hp)) (line digest)
    obtain ⟨d₂, hrest, hover', hready'⟩ := ih hready fun q hq => hsome q (List.mem_cons_of_mem _ hq)
    refine ⟨d₂, ?_, hover.cons h.isDir_top hover', hready'⟩
    rw [writeBeside, htarget, on_bind_of_ok (on_ofExcept_ok _ _ _),
      on_bind_of_ok (Disk.on_writeText hw), on_bind_of_ok hrest]
    rfl

/-- Writing sidecars writes that of the manifest and those of all artifacts. -/
theorem on_write (h : Ready root patterns own found d) {manifest : Path}
    (hown : path manifest = .ok own) (digest : String) :
    ∃ d', (write manifest digest root patterns).on d = (.ok (own :: found.map ofArtifact), d') ∧
      Overwrites (own :: found.map ofArtifact) (line digest) d d' ∧
      Ready root patterns own found d' := by
  obtain ⟨d₁, hw, hover, hready⟩ := h.step List.mem_cons_self (line digest)
  obtain ⟨d₂, hrest, hover', hready'⟩ := hready.on_writeBeside digest fun _ hp => hp
  refine ⟨d₂, ?_, hover.cons h.isDir_top hover', hready'⟩
  rw [write, hown, on_bind_of_ok (on_ofExcept_ok _ _ _), on_bind_of_ok (Disk.on_writeText hw),
    on_get_bind, hready.listed, on_bind_of_ok (on_ofExcept_ok _ _ _), on_bind_of_ok hrest]
  rfl

/-- However often sidecars are written after that, it is the same ones: the last digest counts, and
nothing new comes to be. -/
theorem on_mapM_write {d₁ : Disk} (h : Ready root patterns own found d₁) {manifest : Path}
    (hown : path manifest = .ok own) {digest : String}
    (hfirst : Overwrites (own :: found.map ofArtifact) (line digest) d d₁) (digests : List String) :
    ∃ d₂, (digests.mapM fun digest => write manifest digest root patterns).on d₁ =
        (.ok (digests.map fun _ => own :: found.map ofArtifact), d₂) ∧
      Overwrites (own :: found.map ofArtifact) (line (digests.getLastD digest)) d d₂ ∧
      Ready root patterns own found d₂ ∧
      ∀ place, d₂.top.view place = none ↔ d₁.top.view place = none := by
  -- Seen from the first disk all that was written so far is one overwriting, with the last digest.
  induction digests generalizing d₁ digest with
  | nil => exact ⟨d₁, rfl, hfirst, h, fun _ => Iff.rfl⟩
  | cons next rest ih =>
    obtain ⟨d', hw, hover, hready⟩ := h.on_write hown next
    obtain ⟨d₂, hrest, hover', hready', hnone⟩ := ih hready (hfirst.again hover)
    refine ⟨d₂, ?_, ?_, hready', fun place => (hnone place).trans (hfirst.view_eq_none_iff hover place)⟩
    · rw [List.mapM_cons, on_bind_of_ok hw, on_bind_of_ok hrest]
      rfl
    · rwa [List.getLastD_cons]

end Ready

/-! ### The main result -/

theorem isSidecar_append {name suffix' : String} (h : suffix.toList <:+ suffix'.toList) :
    isSidecar (name ++ suffix') = true := by
  rw [isSidecar, List.isSuffixOf_iff_suffix, String.toList_append]
  exact h.trans (List.suffix_append _ _)

theorem name_child (p : Path) (name : String) : (p.child name).name = name := by
  rw [Path.name, Path.child, List.getLastD_concat]

/-- The sidecar of a file stands in the same directory. -/
theorem ofArtifact_down (root : Path) (names : List String) (name : String) :
    ofArtifact (root.down (names ++ [name])) = (root.down names).child (name ++ artifactSuffix) := by
  rw [ofArtifact, Path.parent_down _ (by simp), List.dropLast_concat, name_down (by simp),
    List.getLastD_concat]

theorem dotless_append_artifactSuffix (name : String) : Disk.Dotless (name ++ artifactSuffix) := by
  have hlength : 14 ≤ (name ++ artifactSuffix).length := by
    rw [String.length_append, show artifactSuffix.length = 14 by decide]
    omega
  have hne {short : String} (hshort : short.length < 14) : (name ++ artifactSuffix == short) = false := by
    rw [beq_eq_false_iff_ne]
    rintro rfl
    omega
  exact ⟨hne (by decide), Bool.or_eq_false_iff.2 ⟨hne (by decide), hne (by decide)⟩⟩

/-- Before anything is written the sidecars are ready to be written. -/
theorem ready_of_hosts (h : d.Hosts root tree) (haccepts : Accepts d root patterns) {manifest : Path}
    (hown : path manifest = .ok own) (hplain : d.EndsPlainly own) (hwrite : d.CanWrite own)
    (hwrites : ∀ names, IsArtifact tree patterns names → d.CanWrite (ofArtifact (root.down names)))
    (hlisted : artifacts d root patterns = .ok found)
    (hfound : ∀ p, p ∈ found ↔ ∃ names, p = root.down names ∧ IsArtifact tree patterns names) :
    Ready root patterns own found d := by
  -- An artifact has a name, so its sidecar stands in the same directory as itself.
  have hartifact : ∀ p ∈ found.map ofArtifact, ∃ names name bytes,
      p = (root.down names).child (name ++ artifactSuffix) ∧
        tree.at? (names ++ [name]) = some (.file bytes) ∧ d.CanWrite p := by
    intro p hp
    obtain ⟨q, hq, rfl⟩ := List.mem_map.1 hp
    obtain ⟨names, rfl, hnames⟩ := (hfound q).1 hq
    obtain ⟨bytes, hat⟩ := hnames.file
    have hnil := ne_nil_of_isFile h.isDir hat
    obtain ⟨before, name, rfl⟩ := (List.eq_nil_or_concat names).resolve_left hnil
    rw [List.concat_eq_append] at hat hnames ⊢
    exact ⟨before, name, bytes, ofArtifact_down root before name, hat, hwrites _ hnames⟩
  refine ⟨⟨tree, h⟩, haccepts, hlisted, fun p hp => ?_, fun p hp => ?_, fun p hp => ?_⟩
  all_goals rcases List.mem_cons.1 hp with rfl | hp
  · exact hplain
  · obtain ⟨names, name, bytes, rfl, hat, -⟩ := hartifact p hp
    have hdir : tree.view names = some .dir :=
      Node.view_eq_dir_of_append (List.cons_ne_nil name []) (by rw [Node.view, hat]; rfl)
    exact h.endsPlainly_child hdir (dotless_append_artifactSuffix name)
  · rw [names_of_beside hown, name_child]
    exact isSidecar_append List.suffix_rfl
  · obtain ⟨names, name, bytes, rfl, -, -⟩ := hartifact p hp
    rw [name_child]
    exact isSidecar_append (by decide)
  · exact hwrite
  · obtain ⟨names, name, bytes, -, -, hcan⟩ := hartifact p hp
    exact hcan

/-- Different artifacts have different sidecars. -/
theorem ofArtifact_inj {p q : Path} (hp : p.names ≠ []) (hq : q.names ≠ [])
    (h : ofArtifact p = ofArtifact q) : p = q := by
  obtain ⟨anchor, names⟩ := p
  obtain ⟨anchor', names'⟩ := q
  obtain ⟨before, name, rfl⟩ := (List.eq_nil_or_concat names).resolve_left hp
  obtain ⟨before', name', rfl⟩ := (List.eq_nil_or_concat names').resolve_left hq
  simpa [ofArtifact, Path.parent, Path.child, Path.name] using h

/-- **Sidecars are written beside the manifest and beside each artifact, once, and they are the same
ones ever after.**  Let a tree without links stand at a place of a disk, let the patterns be accepted
there without leading out of it, and let the sidecars be such that they can be written.  Then the
artifacts are found, each once, however many patterns fit it; the digest is written into the sidecar of
the manifest and into one sidecar for each artifact, and nothing else is changed.  The same artifacts
are found afterwards; and if sidecars are written again and again, with whatever digests, then each
time it is the same ones that are written, and nothing new comes to be. -/
theorem write_repeatedly (h : d.Hosts root tree) (haccepts : Accepts d root patterns) {manifest : Path}
    (hown : path manifest = .ok own) (hplain : d.EndsPlainly own) (hwrite : d.CanWrite own)
    (hwrites : ∀ names, IsArtifact tree patterns names → d.CanWrite (ofArtifact (root.down names))) :
    ∃ found, artifacts d root patterns = .ok found ∧ found.Nodup ∧
      (∀ p, p ∈ found ↔ ∃ names, p = root.down names ∧ IsArtifact tree patterns names) ∧
      (found.map ofArtifact).Nodup ∧
      ∀ digest, ∃ d₁, (write manifest digest root patterns).on d =
          (.ok (own :: found.map ofArtifact), d₁) ∧
        Overwrites (own :: found.map ofArtifact) (line digest) d d₁ ∧
        artifacts d₁ root patterns = .ok found ∧
        ∀ digests : List String, ∃ d₂,
          (digests.mapM fun digest => write manifest digest root patterns).on d₁ =
            (.ok (digests.map fun _ => own :: found.map ofArtifact), d₂) ∧
          Overwrites (own :: found.map ofArtifact) (line (digests.getLastD digest)) d d₂ ∧
          artifacts d₂ root patterns = .ok found ∧
          ∀ place, d₂.top.view place = none ↔ d₁.top.view place = none := by
  obtain ⟨files, hlisted, hfiles⟩ := exists_artifacts h haccepts
  have hfound : ∀ p, p ∈ Path.sorted files ↔
      ∃ names, p = root.down names ∧ IsArtifact tree patterns names := fun p => by
    rw [Path.mem_sorted, hfiles]
  have hready := ready_of_hosts h haccepts hown hplain hwrite hwrites hlisted hfound
  refine ⟨Path.sorted files, hlisted, Path.nodup_sorted files, hfound, ?_, fun digest => ?_⟩
  · exact List.Nodup.map_on (fun p hp q hq =>
      ofArtifact_inj (hready.names_ne_nil hp) (hready.names_ne_nil hq)) (Path.nodup_sorted files)
  · obtain ⟨d₁, hfirst, hover, hready₁⟩ := hready.on_write hown digest
    refine ⟨d₁, hfirst, hover, hready₁.listed, fun digests => ?_⟩
    obtain ⟨d₂, hrest, hover', hready₂, hnone⟩ := hready₁.on_mapM_write hown hover digests
    exact ⟨d₂, hrest, hover', hready₂.listed, hnone⟩

/-! ### A small project -/

/-- On a disk without links no path of a sidecar ends at a link. -/
theorem endsPlainly_of_linkFree (hfree : d.top.LinkFree) {manifest : Path}
    (hown : path manifest = .ok own) : d.EndsPlainly own := by
  intro place hplace
  rw [getLast?_of_beside hfree hown (by decide) hplace, names_of_beside hown, name_child]

/-- A project with nothing but its manifest. -/
def bareTree : Node := .dir [("m.json", .file ByteArray.empty)]

/-- The disk of the project. -/
def bareTreeDisk : Disk := { top := .dir [("p", bareTree)], here := [] }

theorem linkFree_bareTreeDisk : bareTreeDisk.top.LinkFree :=
  Node.linkFree_of_linkCount_eq_zero (by decide)

theorem hosts_bareTree : bareTreeDisk.Hosts ⟨.root, ["p"]⟩ bareTree where
  anchor := rfl
  names := by decide
  stands := rfl
  isDir := rfl
  linkFree := Node.linkFree_of_linkCount_eq_zero (by decide)
  orderly := by
    refine Node.orderly_dir (by decide) fun e he => ?_
    obtain rfl := List.mem_singleton.1 he
    exact ⟨by decide, Node.orderly_file _⟩

theorem eq_of_at?_bareTree {names : List String} {node : Node} (hnames : names ≠ [])
    (h : bareTree.at? names = some node) : names = ["m.json"] := by
  obtain ⟨name, rest, rfl⟩ := List.exists_cons_of_ne_nil hnames
  rw [bareTree, Node.at?_dir_cons, List.lookup_cons] at h
  split at h
  · rename_i heq
    obtain rfl := beq_iff_eq.1 heq
    cases rest with
    | nil => rfl
    | cons name rest => cases h
  · cases h

/-- Any new name can be taken. -/
theorem canWrite_bareTree {name : String} (hname : Disk.IsName name) (hne : name ≠ "m.json") :
    bareTreeDisk.CanWrite ⟨.root, ["p", name]⟩ := by
  have hnames : ∀ n ∈ bareTreeDisk.absoluteNames ⟨.root, ["p", name]⟩, Disk.IsName n := by
    intro n hn
    obtain rfl | rfl : n = "p" ∨ n = name := by simpa [Disk.absoluteNames, Path.isAbsolute] using hn
    · decide
    · exact hname
  have hfree : bareTreeDisk.top.view ["p", name] = none := by
    refine Node.view_eq_none_iff.2 (Option.eq_none_iff_forall_ne_some.2 fun node hat => hne ?_)
    have hat : bareTree.at? [name] = some node := hat
    simpa using eq_of_at?_bareTree (List.cons_ne_nil name []) hat
  intro bytes
  rw [Disk.write, Disk.locateFor_free hnames rfl ["p"] rfl rfl hfree]
  exact ⟨_, rfl⟩

/-- Two patterns that fit everything in the project, the sidecars too. -/
def bothPatterns : List String := ["*", "m*"]

theorem accepts_bareTree : Accepts bareTreeDisk ⟨.root, ["p"]⟩ bothPatterns := by
  have haccepts {pattern : String} (parts : List WildcardPart)
      (hup : ".." ∉ (Path.ofString pattern).names)
      (hparse : Glob.parse pattern = .ok [.wildcard parts]) :
      ".." ∉ (Path.ofString pattern).names ∧ ∃ parts paths, Glob.parse pattern = .ok parts ∧
        bareTreeDisk.matching ⟨.root, ["p"]⟩ parts = .ok paths := by
    obtain ⟨paths, hpaths⟩ := (hosts_bareTree.exists_matching_iff
      (Glob.leadsDown_of_parse hparse hup)).2 ⟨trivial, fun _ _ => trivial⟩
    exact ⟨hup, _, paths, hparse, hpaths⟩
  intro pattern hpattern
  obtain rfl | rfl : pattern = "*" ∨ pattern = "m*" := by simpa [bothPatterns] using hpattern
  · exact haccepts [.run] (by decide +kernel) rfl
  · exact haccepts [.char 'm', .run] (by decide +kernel) (by decide +kernel)

/-- The manifest itself is the one artifact, and both its sidecars are written again and again. -/
theorem write_repeatedly_bareTree : ∃ d₁ d₂,
    (write ⟨.root, ["p", "m.json"]⟩ "a" ⟨.root, ["p"]⟩ bothPatterns).on bareTreeDisk =
      (.ok [⟨.root, ["p", "m.json.sha256"]⟩, ⟨.root, ["p", "m.json.probes.sha256"]⟩], d₁) ∧
    (["b"].mapM fun digest =>
      write ⟨.root, ["p", "m.json"]⟩ digest ⟨.root, ["p"]⟩ bothPatterns).on d₁ =
      (.ok [[⟨.root, ["p", "m.json.sha256"]⟩, ⟨.root, ["p", "m.json.probes.sha256"]⟩]], d₂) := by
  have hone {names : List String} (h : IsArtifact bareTree bothPatterns names) : names = ["m.json"] := by
    obtain ⟨bytes, hat⟩ := h.file
    exact eq_of_at?_bareTree (ne_nil_of_isFile rfl hat) hat
  have hartifact : IsArtifact bareTree bothPatterns ["m.json"] :=
    ⟨⟨_, rfl⟩, by decide, "*", List.mem_cons_self, _, rfl, .wildcard (by decide +kernel) .nil, rfl⟩
  have hown : path ⟨.root, ["p", "m.json"]⟩ = .ok ⟨.root, ["p", "m.json.sha256"]⟩ := rfl
  obtain ⟨found, -, hnodup, hfound, -, hwrite⟩ := write_repeatedly hosts_bareTree accepts_bareTree hown
    (endsPlainly_of_linkFree linkFree_bareTreeDisk hown) (canWrite_bareTree (by decide) (by decide))
    (fun names h => by
      rw [hone h]
      exact canWrite_bareTree (by decide) (by decide))
  obtain rfl : found = [⟨.root, ["p", "m.json"]⟩] := by
    refine List.perm_singleton.1 ((List.perm_ext_iff_of_nodup hnodup (List.nodup_singleton _)).2 ?_)
    intro p
    rw [hfound, List.mem_singleton]
    constructor
    · rintro ⟨names, rfl, h⟩
      rw [hone h]
      rfl
    · rintro rfl
      exact ⟨["m.json"], rfl, hartifact⟩
  obtain ⟨d₁, hfirst, -, -, hagain⟩ := hwrite "a"
  obtain ⟨d₂, hsecond, -⟩ := hagain ["b"]
  exact ⟨d₁, d₂, hfirst, hsecond⟩

end Sidecar

end ProbeKit
