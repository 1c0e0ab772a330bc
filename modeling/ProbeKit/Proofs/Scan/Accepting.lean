import ProbeKit.Proofs.Results
import ProbeKit.Proofs.Scan.Rescan

/-!
# Following what was scanned

A scan goes down from every root, but whether a single file is a source is asked of the first root
above it alone.  `Scanner.follows_iff_of_rescan` says that a file that a scan has read is followed
from then on exactly if that first root leads to it as well.  It always does where no root lies
inside another; a root below a directory that the root above it skips has files that are scanned
once and never followed (`Scanner.exists_ignored`).
-/

namespace ProbeKit

open Disk (IsName IsStep Dotless)

/-- A file is known to the catalog that some files fill exactly if it is one of those that can be
read. -/
theorem Scanner.contains_catalogOf {s : Scanner} {d : Disk} {files : List Path} {key : String} :
    (s.catalogOf d files).1.contains key = true ↔
      ∃ p ∈ files, (declared? d p).isSome ∧ s.keyFor p = key := by
  have hnone : ¬((∅ : Catalog), ([] : List Record)).1.contains key = true := by
    rw [Catalog.contains, Catalog.find?_empty]
    exact Bool.false_ne_true
  unfold catalogOf
  refine Iff.trans ?_ (or_iff_right hnone)
  -- The induction is on the files, with whatever the catalog holds when their turn comes.
  generalize ((∅ : Catalog), ([] : List Record)) = before
  induction files generalizing before with
  | nil => simp
  | cons p rest ih =>
    rw [List.foldl_cons, ih]
    cases hp : declared? d p with
    | none => simp [hp]
    | some probes =>
      dsimp only
      rw [Catalog.contains, Catalog.find?_insert]
      by_cases hkey : key = s.keyFor p
      · simp [hkey, hp]
      · rw [if_neg hkey]
        simp [hp, Ne.symm hkey, Catalog.contains]

namespace Scanner

variable {s s' : Scanner} {d : Disk}

/-- A scan reads a file into the catalog. -/
structure Reads (s : Scanner) (d : Disk) (p : Path) : Prop where
  /-- It finds the file below some root. -/
  found : p ∈ (s.sourcesBelow d s.roots).1
  /-- The file can be read. -/
  readable : (declared? d p).isSome

/-- The first root above a file leads to it. -/
def OwnerReads (s : Scanner) (d : Disk) (p : Path) : Prop :=
  ∃ root names node, s.owner? p = some (root, names) ∧ d.look root = .ok (some node) ∧
    p ∈ s.sourcesIn d root node

/-- What is said of a file reaches the catalog. -/
structure Follows (s : Scanner) (d : Disk) (p : Path) : Prop where
  /-- The file is accepted. -/
  accepted : s.accepts? d p = .ok (some true)
  /-- To read it again makes the catalog right about it, and changes nothing else. -/
  updated : overlong? d p = none → ∃ updated c records,
    s.update d p = .ok (updated, { s with catalog := c }, records) ∧
    (∀ key, key ≠ s.keyFor p → c.find? key = s.catalog.find? key) ∧
    c.find? (s.keyFor p) = declared? d p
  /-- To read it again fails if a numeral in it is too long. -/
  stopped : ∀ e, overlong? d p = some e → s.update d p = .error (.numeral e)

/-- What is said of a file does not reach the catalog: the file is rejected, and to read it again
changes nothing.  If it is a root itself there may be no answer at all. -/
def Ignores (s : Scanner) (d : Disk) (p : Path) : Prop :=
  (s.accepts? d p = .ok (some false) ∧ s.update d p = .ok (false, s, [])) ∨
    (s.accepts? d p = .ok none ∧ s.owner? p = some (p, []))

/-! ### Roots -/

/-- The roots that settings ask for begin at the root and have no dots. -/
theorem roots_of_ofSettings {settings : Settings} (h : ofSettings d settings = .ok s) :
    ∀ r ∈ s.roots, r.anchor = .root ∧ ∀ n ∈ r.names, Dotless n := by
  unfold ofSettings at h
  obtain ⟨root, -, h⟩ := bind_eq_ok.1 h
  obtain ⟨roots, hroots, h⟩ := bind_eq_ok.1 h
  cases h
  intro r hr
  obtain ⟨r', -, hresolve⟩ := (mem_iff_of_mapM hroots).1 hr
  exact Disk.resolve_spec hresolve

theorem mem_sourcesBelow {roots : List Path} {p : Path} (h : p ∈ (s.sourcesBelow d roots).1) :
    ∃ root ∈ roots, ∃ node, d.look root = .ok (some node) ∧ p ∈ s.sourcesIn d root node := by
  fun_induction sourcesBelow s d roots with
  | case1 => cases h
  | case2 => cases h
  | case3 root rest hlook ih =>
    obtain ⟨root', hroot, node, hfound⟩ := ih h
    exact ⟨root', List.mem_cons_of_mem _ hroot, node, hfound⟩
  | case4 root rest node hlook more e hmore ih =>
    rcases List.mem_append.1 h with h | h
    · exact ⟨root, List.mem_cons_self, node, hlook, h⟩
    · rw [hmore] at ih
      obtain ⟨root', hroot, node', hfound⟩ := ih h
      exact ⟨root', List.mem_cons_of_mem _ hroot, node', hfound⟩

theorem rescan_eq_ok (h : (s.rescan d).1 = .ok s') :
    s' = { s with catalog := (s.catalogOf d (s.sourcesBelow d s.roots).1).1 } := by
  unfold rescan at h
  generalize s.sourcesBelow d s.roots = below at h ⊢
  obtain ⟨files, obstacle⟩ := below
  dsimp only at h
  split at h
  · cases h
  · cases obstacle with
    | some e => cases h
    | none => exact (Except.ok.inj h).symm

/-! ### The way to what was scanned -/

section
variable (hfree : d.top.LinkFree) (htop : d.top.isDir = true)
include hfree htop

/-- What a root leads to stands below its names. -/
theorem at?_of_look {root : Path} (hanchor : root.anchor = .root)
    (hnames : ∀ n ∈ root.names, Dotless n) {node : Node} (h : d.look root = .ok (some node)) :
    d.top.at? root.names = some node := by
  unfold Disk.look at h
  split at h
  · rename_i place found hlocate
    obtain rfl := Option.some.inj (Except.ok.inj h)
    exact Disk.at?_of_locate hfree htop hanchor hnames hlocate
  · cases h
  · cases h

/-- The first root above a file that is accepted and can be read leads to it. -/
theorem ownerReads_of_accepted {p : Path} (hanchor : p.anchor = .root)
    (hnames : ∀ n ∈ p.names, IsName n) (hne : p.names ≠ []) (hreadable : (declared? d p).isSome)
    (haccepted : s.acceptsResolved? p = some true) : s.OwnerReads d p := by
  have habs : d.absoluteNames p = p.names := absoluteNames_of_root d hanchor
  obtain ⟨owner, below, howner, hbelow⟩ := (acceptsResolved?_eq_true_iff hne).1 haccepted
  obtain ⟨-, rfl⟩ := exists_of_owner? howner
  -- The file can be read, so it stands below the owner too, and the names between lead to it.
  obtain ⟨probes, hprobes⟩ := Option.isSome_iff_exists.1 hreadable
  obtain ⟨bytes, hread⟩ := exists_read?_of_declared? hprobes
  rw [Disk.read?_eq_some_of_linkFree (habs ▸ hnames) hfree htop, habs, Node.view_eq_file_iff]
    at hread
  have hfile : (d.top.at? owner.names).bind (fun node => node.at? below) = some (.file bytes) :=
    (Node.at?_append ..).symm.trans hread
  obtain ⟨node, hat, hfile⟩ := Option.bind_eq_some_iff.1 hfile
  have hown : d.absoluteNames owner = owner.names := absoluteNames_of_root d hanchor
  have hlook : d.look owner = .ok (some node) := by
    rw [Disk.look_of_linkFree (hown ▸ fun n hn => hnames n (List.mem_append_left _ hn)) hfree
      htop, hown, hat]
  exact ⟨owner, below, node, howner, hlook,
    mem_sourcesIn_of_clears hfree htop hanchor hnames hat hfile hbelow⟩

variable (hnamed : d.top.Named)
  (hroots : ∀ r ∈ s.roots, r.anchor = .root ∧ ∀ n ∈ r.names, Dotless n)
include hnamed hroots

/-- A file that is read is found by names that clear the way from some root, and all its names are
proper. -/
theorem Reads.exists_down {p : Path} (h : s.Reads d p) :
    p.anchor = .root ∧ (∀ n ∈ p.names, IsName n) ∧
      ∃ root ∈ s.roots, ∃ names, p = root.down names ∧ s.clears root names = true := by
  obtain ⟨root, hroot, node, hlook, hp⟩ := mem_sourcesBelow h.found
  obtain ⟨hanchor, hdotless⟩ := hroots root hroot
  have hat := at?_of_look hfree htop hanchor hdotless hlook
  obtain ⟨names, rfl, hclears, hsteps⟩ :=
    exists_of_mem_sourcesIn (Node.named_of_at? hnamed hat) hp
  obtain ⟨probes, hprobes⟩ := Option.isSome_iff_exists.1 h.readable
  obtain ⟨bytes, hread⟩ := exists_read?_of_declared? hprobes
  have hnull := Disk.noNull_of_read? hread
  refine ⟨hanchor, fun n hn => ⟨?_, hnull n hn⟩, root, hroot, names, rfl, hclears⟩
  rcases List.mem_append.1 hn with hn | hn
  · exact Node.isStep_of_at? hnamed hat n hn
  · exact hsteps n hn

/-- **A file that is read is accepted exactly if the first root above it leads to it.** -/
theorem Reads.acceptsResolved?_iff {p : Path} (h : s.Reads d p) :
    s.acceptsResolved? p = some true ↔ s.OwnerReads d p := by
  obtain ⟨hanchor, hnames, root, hroot, names, hdown, hclears⟩ :=
    h.exists_down hfree htop hnamed hroots
  have hne : p.names ≠ [] := by
    rw [hdown]
    exact fun hnil => (clears_iff.1 hclears).ne_nil (List.append_eq_nil_iff.1 hnil).2
  constructor
  · exact ownerReads_of_accepted hfree htop hanchor hnames hne h.readable
  · rintro ⟨owner, below, node, howner, hlook, hp⟩
    obtain ⟨hmem, hbelow⟩ := exists_of_owner? howner
    have hat := at?_of_look hfree htop (hroots owner hmem).1 (hroots owner hmem).2 hlook
    obtain ⟨names', hdown', hclears', -⟩ :=
      exists_of_mem_sourcesIn (Node.named_of_at? hnamed hat) hp
    obtain rfl : below = names' := Path.down_inj (hbelow.symm.trans hdown')
    exact (acceptsResolved?_eq_true_iff hne).2 ⟨owner, below, howner, hclears'⟩

/-- Where no root lies inside another, the root that leads to a file is the first above it. -/
theorem Reads.ownerReads {p : Path} (h : s.Reads d p) (hapart : s.RootsApart) :
    s.OwnerReads d p := by
  obtain ⟨-, -, root, hroot, names, rfl, hclears⟩ := h.exists_down hfree htop hnamed hroots
  have hne : (root.down names).names ≠ [] := fun hnil =>
    (clears_iff.1 hclears).ne_nil (List.append_eq_nil_iff.1 hnil).2
  refine (h.acceptsResolved?_iff hfree htop hnamed hroots).1 ?_
  exact (acceptsResolved?_eq_true_iff hne).2
    ⟨root, names, owner?_down hapart hroot names, hclears⟩

end

/-- Only a root itself has no answer. -/
theorem owner?_of_acceptsResolved?_eq_none {p : Path} (h : s.acceptsResolved? p = none) :
    s.owner? p = some (p, []) := by
  unfold acceptsResolved? at h
  split at h
  · cases h
  split at h
  · cases h
  rename_i root names howner
  obtain ⟨-, rfl⟩ := exists_of_owner? howner
  split at h
  · cases h
  by_cases hnames : names = []
  · rw [hnames, Path.down_nil] at howner ⊢
    exact howner
  · rw [Path.parent_down root hnames] at h
    have hanswer : s.clearUp? root (root.down names.dropLast) ≠ none :=
      clearUp?_down_ne_none root names.dropLast
    split at h
    · cases h
    · exact absurd h hanswer

/-! ### After a scan -/

theorem Follows.of_accepted {p : Path} (hresolve : d.resolve p = .ok p)
    (h : s.acceptsResolved? p = some true) : s.Follows d p := by
  refine ⟨?_, update_of_accepted hresolve h, fun e => update_of_overlong hresolve h⟩
  rw [accepts?, hresolve]
  exact congrArg Except.ok h

theorem Ignores.of_rejected {p : Path} (hresolve : d.resolve p = .ok p)
    (h : s.acceptsResolved? p ≠ some true) : s.Ignores d p := by
  rw [Ignores, accepts?, hresolve]
  rcases hanswer : s.acceptsResolved? p with _ | _ | _
  · exact .inr ⟨congrArg Except.ok hanswer, owner?_of_acceptsResolved?_eq_none hanswer⟩
  · exact .inl ⟨congrArg Except.ok hanswer, update_of_rejected hresolve hanswer⟩
  · exact absurd hanswer h

/-- **After a scan the catalog knows the files that were read, and from then on each of them is
followed exactly if the first root above it leads to it.**  The disk may have changed in the
meantime. -/
theorem follows_iff_of_rescan {d₀ d d' : Disk} {settings : Settings}
    (hs : ofSettings d₀ settings = .ok s) (hfree : d.top.LinkFree) (htop : d.top.isDir = true)
    (hnamed : d.top.Named) (hrescan : (s.rescan d).1 = .ok s') (hfree' : d'.top.LinkFree) :
    (∀ key, s'.catalog.contains key = true ↔ ∃ p, s.Reads d p ∧ s.keyFor p = key) ∧
      ∀ p, s.Reads d p →
        (s.OwnerReads d p → s'.Follows d' p) ∧ (¬ s.OwnerReads d p → s'.Ignores d' p) ∧
          (s.RootsApart → s.OwnerReads d p) := by
  have hroots := roots_of_ofSettings hs
  obtain rfl := rescan_eq_ok hrescan
  refine ⟨fun key => contains_catalogOf.trans ?_, fun p hp => ?_⟩
  · constructor
    · rintro ⟨p, hfound, hreadable, hkey⟩
      exact ⟨p, ⟨hfound, hreadable⟩, hkey⟩
    · rintro ⟨p, hp, hkey⟩
      exact ⟨p, hp.found, hp.readable, hkey⟩
  obtain ⟨hanchor, hnames, -⟩ := hp.exists_down hfree htop hnamed hroots
  have habs : d'.absoluteNames p = p.names := absoluteNames_of_root d' hanchor
  have hresolve : d'.resolve p = .ok p := by
    rw [Disk.resolve_eq_self (habs ▸ hnames) hfree' (by simp [Path.isAbsolute, hanchor]), ← hanchor]
  -- To accept a path does not depend on the catalog.
  have hiff := hp.acceptsResolved?_iff hfree htop hnamed hroots
  rw [← acceptsResolved?_withCatalog s (s.catalogOf d (s.sourcesBelow d s.roots).1).1] at hiff
  exact ⟨fun howner => .of_accepted hresolve (hiff.2 howner),
    fun howner => .of_rejected hresolve fun h => howner (hiff.1 h),
    hp.ownerReads hfree htop hnamed hroots⟩

/-! ### A root below a skipped directory -/

/-- The text of each source in a project with a root inside another. -/
def nestedText : String := "t.addProbe('p', 'int');"

/-- The inner root. -/
def innerRoot : Node := .dir [("a.js", .file (Text.encode nestedText))]

/-- The outer root: it has a source of its own and the inner root. -/
def outerRoot : Node := .dir [("b.js", .file (Text.encode nestedText)), ("node_modules", innerRoot)]

/-- Its disk. -/
def nestedDisk : Disk := { top := .dir [("p", .dir [("t", outerRoot)])], here := [] }

/-- Its settings. -/
def nestedSettings : Settings :=
  { Settings.ofRoot ⟨.root, ["p"]⟩ with sourceDirs := ["t", "t/node_modules"] }

/-- Its scanner. -/
def nestedScanner : Scanner :=
  { root := ⟨.root, ["p"]⟩
    roots := [⟨.root, ["p", "t"]⟩, ⟨.root, ["p", "t", "node_modules"]⟩]
    extensions := [".js", ".mjs", ".cjs", ".ts"], exclusions := [] }

/-- The source below the outer root. -/
def outerSource : Path := ⟨.root, ["p", "t", "b.js"]⟩

/-- The source below the inner root alone. -/
def innerSource : Path := ⟨.root, ["p", "t", "node_modules", "a.js"]⟩

theorem linkFree_nestedDisk : nestedDisk.top.LinkFree :=
  Node.linkFree_of_linkCount_eq_zero (by
    simp [nestedDisk, outerRoot, innerRoot, Node.linkCount, Node.linkCountIn])

theorem named_nestedDisk : nestedDisk.top.Named := by
  have hp : IsStep "p" := (by decide : IsName "p").toIsStep
  have ht : IsStep "t" := (by decide : IsName "t").toIsStep
  have hb : IsStep "b.js" := (by decide : IsName "b.js").toIsStep
  have hm : IsStep "node_modules" := (by decide : IsName "node_modules").toIsStep
  have ha : IsStep "a.js" := (by decide : IsName "a.js").toIsStep
  simp [nestedDisk, outerRoot, innerRoot, Node.Named, Node.NamedIn, hp, ht, hb, hm, ha]

theorem resolve_nestedDisk {names : List String} (h : ∀ n ∈ names, IsName n) :
    nestedDisk.resolve ⟨.root, names⟩ = .ok ⟨.root, names⟩ :=
  Disk.resolve_eq_self h linkFree_nestedDisk rfl

theorem look_outerRoot : nestedDisk.look ⟨.root, ["p", "t"]⟩ = .ok (some outerRoot) :=
  Disk.look_of_linkFree (by show ∀ n ∈ ["p", "t"], IsName n; decide) linkFree_nestedDisk rfl

theorem look_innerRoot :
    nestedDisk.look ⟨.root, ["p", "t", "node_modules"]⟩ = .ok (some innerRoot) :=
  Disk.look_of_linkFree (by show ∀ n ∈ ["p", "t", "node_modules"], IsName n; decide)
    linkFree_nestedDisk rfl

theorem hasDirectory_nestedDisk {names : List String} (h : ∀ n ∈ names, IsName n) :
    nestedDisk.hasDirectory ⟨.root, names⟩ = (nestedDisk.top.at? names).any Node.isDir :=
  Disk.hasDirectory_of_linkFree h linkFree_nestedDisk rfl

theorem ofSettings_nestedDisk : ofSettings nestedDisk nestedSettings = .ok nestedScanner := by
  have hroots : nestedSettings.sourceRoots =
      [⟨.root, ["p", "t"]⟩, ⟨.root, ["p", "t", "node_modules"]⟩] := by decide +kernel
  have hextensions :
      nestedSettings.extensions.map Text.lowercase = [".js", ".mjs", ".cjs", ".ts"] := by
    decide +kernel
  rw [ofSettings, show nestedSettings.root = ⟨.root, ["p"]⟩ from rfl,
    resolve_nestedDisk (by decide), hroots, List.mapM_cons, resolve_nestedDisk (by decide),
    List.mapM_cons, resolve_nestedDisk (by decide), hextensions]
  rfl

theorem sourcesIn_outerRoot :
    nestedScanner.sourcesIn nestedDisk ⟨.root, ["p", "t"]⟩ outerRoot = [outerSource] := by
  have hfile : nestedDisk.hasDirectory ⟨.root, ["p", "t", "b.js"]⟩ = false := by
    rw [hasDirectory_nestedDisk (by decide)]
    rfl
  have hdir : nestedDisk.hasDirectory ⟨.root, ["p", "t", "node_modules"]⟩ = true := by
    rw [hasDirectory_nestedDisk (by decide)]
    rfl
  have hextension : nestedScanner.hasExtension ⟨.root, ["p", "t", "b.js"]⟩ = true := by
    decide +kernel
  have hexcludes (p : Path) (isDirectory : Bool) :
      nestedScanner.excludes p isDirectory = false := rfl
  simp [outerRoot, sourcesIn, sourcesInEntries, Node.isDir, Path.child, hfile, hdir, hextension,
    Text.sorted, hexcludes, skippedDirectories, outerSource]

theorem sourcesIn_innerRoot :
    nestedScanner.sourcesIn nestedDisk ⟨.root, ["p", "t", "node_modules"]⟩ innerRoot =
      [innerSource] := by
  have hfile : nestedDisk.hasDirectory ⟨.root, ["p", "t", "node_modules", "a.js"]⟩ = false := by
    rw [hasDirectory_nestedDisk (by decide)]
    rfl
  have hextension :
      nestedScanner.hasExtension ⟨.root, ["p", "t", "node_modules", "a.js"]⟩ = true := by
    decide +kernel
  have hexcludes (p : Path) (isDirectory : Bool) :
      nestedScanner.excludes p isDirectory = false := rfl
  simp [innerRoot, sourcesIn, sourcesInEntries, Node.isDir, Path.child, hfile, hextension,
    Text.sorted, hexcludes, innerSource]

theorem sourcesBelow_nestedDisk : nestedScanner.sourcesBelow nestedDisk nestedScanner.roots =
    ([outerSource, innerSource], none) := by
  rw [show nestedScanner.roots =
      [⟨.root, ["p", "t"]⟩, ⟨.root, ["p", "t", "node_modules"]⟩] from rfl, sourcesBelow,
    look_outerRoot, sourcesBelow, look_innerRoot, sourcesBelow]
  dsimp only
  rw [sourcesIn_outerRoot, sourcesIn_innerRoot]
  rfl

theorem declaredProbes_nestedText : declaredProbes nestedText = .ok [⟨"p", ["int"]⟩] := by
  have hnone : Declaration.obstacle? nestedText.toList = none := by decide +kernel
  have hgroups : (Declaration.groups nestedText.toList).flatMap (·.2) = [⟨"p", ["int"]⟩] := by
    decide +kernel
  rw [declaredProbes, hnone, hgroups]

theorem reading?_nestedDisk {names : List String}
    (hnames : ∀ n ∈ nestedDisk.absoluteNames ⟨.root, names⟩, IsName n)
    (hat : nestedDisk.top.at? names = some (.file (Text.encode nestedText))) :
    reading? nestedDisk ⟨.root, names⟩ = some (.ok [⟨"p", ["int"]⟩]) := by
  have hread : nestedDisk.read? ⟨.root, names⟩ = some (Text.encode nestedText) := by
    rw [Disk.read?_eq_some_of_linkFree hnames linkFree_nestedDisk rfl]
    exact Node.view_eq_file_iff.2 hat
  rw [reading?, hread, Option.bind_some, Text.readText?_encode (by decide)]
  exact congrArg some declaredProbes_nestedText

theorem reads_nestedDisk {names : List String}
    (hnames : ∀ n ∈ nestedDisk.absoluteNames ⟨.root, names⟩, IsName n)
    (hat : nestedDisk.top.at? names = some (.file (Text.encode nestedText)))
    (hfound : ⟨.root, names⟩ ∈ [outerSource, innerSource]) :
    nestedScanner.Reads nestedDisk ⟨.root, names⟩ := by
  refine ⟨by rw [sourcesBelow_nestedDisk]; exact hfound, ?_⟩
  rw [declared?_eq_some_iff.2 (reading?_nestedDisk hnames hat)]
  rfl

theorem ownerReads_outerSource : nestedScanner.OwnerReads nestedDisk outerSource := by
  refine ⟨⟨.root, ["p", "t"]⟩, ["b.js"], outerRoot, by decide, look_outerRoot, ?_⟩
  rw [sourcesIn_outerRoot]
  exact List.mem_singleton_self _

theorem not_ownerReads_innerSource : ¬ nestedScanner.OwnerReads nestedDisk innerSource := by
  rintro ⟨root, names, node, howner, hlook, hfound⟩
  have hfirst : nestedScanner.owner? innerSource =
      some (⟨.root, ["p", "t"]⟩, ["node_modules", "a.js"]) := by decide
  obtain ⟨rfl, -⟩ := Prod.mk.inj (Option.some.inj (hfirst.symm.trans howner))
  rw [look_outerRoot] at hlook
  obtain rfl := Option.some.inj (Except.ok.inj hlook)
  rw [sourcesIn_outerRoot] at hfound
  exact absurd (List.mem_singleton.1 hfound) (by decide)

/-- No numeral is too long in either source. -/
theorem overlong?_nestedDisk :
    [outerSource, innerSource].findSome? (overlong? nestedDisk) = none := by
  have houter : reading? nestedDisk outerSource = some (.ok [⟨"p", ["int"]⟩]) :=
    reading?_nestedDisk (by decide) rfl
  have hinner : reading? nestedDisk innerSource = some (.ok [⟨"p", ["int"]⟩]) :=
    reading?_nestedDisk (by decide) rfl
  simp [overlong?, houter, hinner]

theorem rescan_nestedDisk : ∃ s', (nestedScanner.rescan nestedDisk).1 = .ok s' := by
  have hbelow := sourcesBelow_nestedDisk
  rcases rescan_cases (s := nestedScanner) (d := nestedDisk) (by rw [hbelow]) with
    ⟨e, records, -, hlong⟩ | ⟨records, hrescan, -⟩
  · rw [hbelow, overlong?_nestedDisk] at hlong
    cases hlong
  · exact ⟨_, by rw [hrescan]⟩

theorem follows_outerSource_only : ∃ s',
    ofSettings nestedDisk nestedSettings = .ok nestedScanner ∧ nestedDisk.top.LinkFree ∧
      nestedDisk.top.isDir = true ∧ nestedDisk.top.Named ∧
        (nestedScanner.rescan nestedDisk).1 = .ok s' ∧ s'.Follows nestedDisk outerSource ∧
          s'.Ignores nestedDisk innerSource := by
  obtain ⟨s', hrescan⟩ := rescan_nestedDisk
  have h := (follows_iff_of_rescan ofSettings_nestedDisk linkFree_nestedDisk rfl named_nestedDisk
    hrescan linkFree_nestedDisk).2
  have houter := h outerSource (reads_nestedDisk (by decide) rfl (by simp [outerSource]))
  have hinner := h innerSource (reads_nestedDisk (by decide) rfl (by simp [innerSource]))
  exact ⟨s', ofSettings_nestedDisk, linkFree_nestedDisk, rfl, named_nestedDisk, hrescan,
    houter.1 ownerReads_outerSource, hinner.2.1 not_ownerReads_innerSource⟩

/-- **A file can be scanned into the catalog and yet be rejected from then on.** -/
theorem exists_ignored : ∃ s',
    ofSettings nestedDisk nestedSettings = .ok nestedScanner ∧ nestedDisk.top.linkCount = 0 ∧
      (nestedScanner.rescan nestedDisk).1 = .ok s' ∧ nestedScanner.Reads nestedDisk innerSource ∧
        s'.catalog.contains (s'.keyFor innerSource) = true ∧
          s'.accepts? nestedDisk innerSource = .ok (some false) ∧
            s'.update nestedDisk innerSource = .ok (false, s', []) := by
  obtain ⟨s', hrescan⟩ := rescan_nestedDisk
  have hreads : nestedScanner.Reads nestedDisk innerSource :=
    reads_nestedDisk (by decide) rfl (by simp [innerSource])
  have hresolve : nestedDisk.resolve innerSource = .ok innerSource :=
    resolve_nestedDisk (by decide)
  have hrejected : nestedScanner.acceptsResolved? innerSource = some false := by decide +kernel
  refine ⟨s', ofSettings_nestedDisk, ?_, hrescan, hreads, ?_⟩
  · simp [nestedDisk, outerRoot, innerRoot, Node.linkCount, Node.linkCountIn]
  obtain rfl := rescan_eq_ok hrescan
  -- The catalog that the scan has filled makes no difference to the answer.
  have hanswer := (acceptsResolved?_withCatalog nestedScanner
    (nestedScanner.catalogOf nestedDisk
      (nestedScanner.sourcesBelow nestedDisk nestedScanner.roots).1).1 innerSource).trans hrejected
  refine ⟨contains_catalogOf.2 ⟨innerSource, hreads.found, hreads.readable, rfl⟩, ?_,
    update_of_rejected hresolve hanswer⟩
  rw [accepts?, hresolve]
  exact congrArg Except.ok hanswer

end Scanner

end ProbeKit
