import ProbeKit.Proofs.Disk.LinkFree
import ProbeKit.Proofs.Probe.Catalog
import ProbeKit.Proofs.Scan.Way

/-!
# What a scan finds

`Scanner.Sees` says which paths name sources.  On a tidy disk a scan finds exactly the paths that
name sources and can be read, so the catalog after it says of each of them what it declares, and
nothing else (`Scanner.rescan_of_tidy`); it fails if a numeral in one of them is too long.  There is
only one such catalog (`Scanner.Describes.eq`).
-/

namespace ProbeKit

open Disk (IsName IsStep)

namespace Scanner

variable {s : Scanner}

/-! ### Sources in a tree -/

theorem sourcesInEntries_eq (s : Scanner) (d : Disk) (dir : Path)
    (entries : List (String × Node)) :
    s.sourcesInEntries d dir entries =
      (entries.filter fun e => e.2.isDir && !skippedDirectories.contains e.1 &&
        !s.excludes (dir.child e.1) true).map fun e => (e.1, s.sourcesIn d (dir.child e.1) e.2) := by
  induction entries with
  | nil => rfl
  | cons e rest ih =>
    obtain ⟨name, node⟩ := e
    rw [sourcesInEntries, ih, List.filter_cons]
    split <;> rfl

theorem mem_sourcesIn_dir {d : Disk} {dir p : Path} {entries : List (String × Node)} :
    p ∈ s.sourcesIn d dir (.dir entries) ↔
      (∃ e ∈ entries, d.hasDirectory (dir.child e.1) = false ∧ p = dir.child e.1 ∧
        s.hasExtension p = true ∧ s.excludes p false = false) ∨
      ∃ e ∈ entries, e.2.isDir = true ∧ skippedDirectories.contains e.1 = false ∧
        s.excludes (dir.child e.1) true = false ∧ p ∈ s.sourcesIn d (dir.child e.1) e.2 := by
  rw [sourcesIn, sourcesInEntries_eq]
  simp only [List.mem_append, List.mem_filter, List.mem_map, List.mem_flatMap, Text.sorted,
    List.mem_mergeSort, Bool.and_eq_true, Bool.not_eq_true']
  refine or_congr ?_ ?_
  · constructor
    · rintro ⟨⟨name, ⟨e, ⟨he, hdir⟩, rfl⟩, rfl⟩, hextension, hfile⟩
      exact ⟨e, he, hdir, rfl, hextension, hfile⟩
    · rintro ⟨e, he, hdir, rfl, hextension, hfile⟩
      exact ⟨⟨e.1, ⟨e, ⟨he, hdir⟩, rfl⟩, rfl⟩, hextension, hfile⟩
  · constructor
    · rintro ⟨_, ⟨e, ⟨he, ⟨hdir, hskipped⟩, hexcluded⟩, rfl⟩, hp⟩
      exact ⟨e, he, hdir, hskipped, hexcluded, hp⟩
    · rintro ⟨e, he, hdir, hskipped, hexcluded, hp⟩
      exact ⟨_, ⟨e, ⟨he, ⟨hdir, hskipped⟩, hexcluded⟩, rfl⟩, hp⟩

/-- Whatever is found in a tree is found by names that clear the way. -/
theorem exists_of_mem_sourcesIn {d : Disk} {dir p : Path} {node : Node} (hnamed : node.Named)
    (h : p ∈ s.sourcesIn d dir node) :
    ∃ names, p = dir.down names ∧ s.clears dir names = true ∧ ∀ n ∈ names, IsStep n := by
  match node, hnamed, h with
  | .file bytes, _, h =>
    rw [sourcesIn] at h
    · cases h
    · intro entries hentries
      cases hentries
  | .link target, _, h =>
    rw [sourcesIn] at h
    · cases h
    · intro entries hentries
      cases hentries
  | .dir entries, hnamed, h =>
    have hentries := Node.namedIn_iff.1 hnamed
    rcases mem_sourcesIn_dir.1 h with
      ⟨e, he, -, rfl, hextension, hfile⟩ | ⟨e, he, -, hskipped, hexcluded, hp⟩
    · refine ⟨[e.1], (Path.down_cons dir e.1 []).symm ▸ (Path.down_nil _).symm, ?_, ?_⟩
      · rw [clears, hextension, hfile]
        rfl
      · rintro n hn
        obtain rfl := List.mem_singleton.1 hn
        exact (hentries e he).1
    · have hsmaller : sizeOf e.2 < 1 + sizeOf entries := by
        have hpair : sizeOf e.2 < sizeOf e := by
          obtain ⟨name, node⟩ := e
          show sizeOf node < sizeOf (name, node)
          rw [Prod.mk.sizeOf_spec]
          omega
        have hlist := List.sizeOf_lt_of_mem he
        omega
      obtain ⟨names, rfl, hclears, hsteps⟩ := exists_of_mem_sourcesIn (hentries e he).2 hp
      refine ⟨e.1 :: names, (Path.down_cons dir e.1 names).symm, ?_, ?_⟩
      · rw [clears_cons (clears_iff.1 hclears).ne_nil, hskipped, hexcluded, hclears]
        rfl
      · intro n hn
        rcases List.mem_cons.1 hn with rfl | hn
        · exact (hentries e he).1
        · exact hsteps n hn
  termination_by sizeOf node

/-- A file that is reached by names that clear the way is found. -/
theorem mem_sourcesIn_of_clears {d : Disk} (hfree : d.top.LinkFree) (htop : d.top.isDir = true)
    {dir : Path} {names : List String} {node : Node} {bytes : ByteArray} (habs : dir.anchor = .root)
    (hnames : ∀ n ∈ (dir.down names).names, IsName n) (hat : d.top.at? dir.names = some node)
    (hfile : node.at? names = some (.file bytes)) (hclears : s.clears dir names = true) :
    dir.down names ∈ s.sourcesIn d dir node := by
  induction names generalizing dir node with
  | nil => cases hclears
  | cons name rest ih =>
    obtain ⟨entries, child, rfl, hlookup, hchild⟩ := Node.exists_entry_of_at? hfile
    have hmem : (name, child) ∈ entries := mem_of_lookup hlookup
    rw [Path.down_cons] at hnames ⊢
    have hatChild : d.top.at? (dir.child name).names = some child := by
      show d.top.at? (dir.names ++ [name]) = some child
      rw [Node.at?_append, hat, Option.bind_some, Node.at?_dir_cons, hlookup]
      rfl
    rw [mem_sourcesIn_dir]
    cases rest with
    | nil =>
      rw [Path.down_nil] at hnames ⊢
      rw [clears, Bool.and_eq_true, Bool.not_eq_true'] at hclears
      have habsolute : d.absoluteNames (dir.child name) = (dir.child name).names :=
        if_pos (by simp [Path.isAbsolute, Path.child, habs])
      refine .inl ⟨_, hmem, ?_, rfl, hclears.1, hclears.2⟩
      rw [Disk.hasDirectory_of_linkFree (habsolute ▸ hnames) hfree htop, habsolute, hatChild]
      cases hchild
      rfl
    | cons name' rest' =>
      rw [clears_cons (List.cons_ne_nil _ _), Bool.and_eq_true, Bool.and_eq_true,
        Bool.not_eq_true', Bool.not_eq_true'] at hclears
      obtain ⟨⟨hskipped, hexcluded⟩, hclears⟩ := hclears
      refine .inr ⟨_, hmem, ?_, hskipped, hexcluded, ih habs hnames hatChild hchild hclears⟩
      obtain ⟨below, -, rfl, -, -⟩ := Node.exists_entry_of_at? hchild
      rfl

/-! ### Tidy disks -/

/-- A path names a source. -/
structure Sees (s : Scanner) (p : Path) : Prop where
  /-- It begins at the root. -/
  anchor : p.anchor = .root
  /-- Its names are proper. -/
  names : ∀ n ∈ p.names, IsName n
  /-- It is accepted. -/
  accepted : s.acceptsResolved? p = some true

/-- A disk without links that has a directory for each root, and on which the files of sources have
names that a path can be written with. -/
structure Tidy (s : Scanner) (d : Disk) : Prop where
  /-- The top is a directory. -/
  isDir : d.top.isDir = true
  /-- There are no links. -/
  linkFree : d.top.LinkFree
  /-- Every name leads one step down. -/
  named : d.top.Named
  /-- The roots begin at the root. -/
  anchor : ∀ r ∈ s.roots, r.anchor = .root
  /-- The roots have proper names. -/
  names : ∀ r ∈ s.roots, ∀ n ∈ r.names, IsName n
  /-- The roots are directories. -/
  roots : ∀ r ∈ s.roots, d.top.view r.names = some .dir
  /-- Sources that can be read have proper parts. -/
  clean : ∀ p, s.Sees p → (reading? d p).isSome → p.Clean

theorem absoluteNames_of_root (d : Disk) {p : Path} (h : p.anchor = .root) :
    d.absoluteNames p = p.names := if_pos (by simp [Path.isAbsolute, h])

theorem keyFor_inj {p q : Path} (hp : p.Clean) (hq : q.Clean) (hpr : p.anchor = .root)
    (hqr : q.anchor = .root) : s.keyFor p = s.keyFor q ↔ p = q :=
  Path.text_relativeTo_inj hp hq (by simp [Path.isAbsolute, hpr]) (by simp [Path.isAbsolute, hqr])

/-! ### Reading a file -/

section
variable {d : Disk} {p : Path}

theorem declared?_eq_some_iff {probes : List Probe} :
    declared? d p = some probes ↔ reading? d p = some (.ok probes) := by
  unfold declared?
  rcases reading? d p with _ | _ | read
  · simp
  · simp [Except.toOption]
  · simp [Except.toOption]

theorem overlong?_eq_some_iff {e : Text.TooManyDigits} :
    overlong? d p = some e ↔ reading? d p = some (.error e) := by
  unfold overlong?
  rcases reading? d p with _ | _ | read
  · simp
  · simp
  · simp

/-- What comes of a file if no numeral in it is too long. -/
theorem reading?_of_overlong? (h : overlong? d p = none) :
    reading? d p = (declared? d p).map .ok := by
  unfold declared?
  cases hread : reading? d p with
  | none => rfl
  | some read =>
    cases read with
    | ok probes => rfl
    | error e =>
      rw [overlong?_eq_some_iff.2 hread] at h
      cases h

theorem exists_read?_of_reading? {read : Except Text.TooManyDigits (List Probe)}
    (h : reading? d p = some read) : ∃ bytes, d.read? p = some bytes := by
  unfold reading? at h
  obtain ⟨text, hbind, -⟩ := Option.map_eq_some_iff.1 h
  obtain ⟨bytes, hread, -⟩ := Option.bind_eq_some_iff.1 hbind
  exact ⟨bytes, hread⟩

/-- What declares anything can be read. -/
theorem exists_read?_of_declared? {probes : List Probe} (h : declared? d p = some probes) :
    ∃ bytes, d.read? p = some bytes :=
  exists_read?_of_reading? (declared?_eq_some_iff.1 h)

end

namespace Tidy

variable {d : Disk}

theorem read?_eq_some_iff (h : s.Tidy d) {p : Path} (hanchor : p.anchor = .root)
    (hnames : ∀ n ∈ p.names, IsName n) {bytes : ByteArray} :
    d.read? p = some bytes ↔ d.top.view p.names = some (.file bytes) := by
  have habs := absoluteNames_of_root d hanchor
  rw [Disk.read?_eq_some_of_linkFree (habs ▸ hnames) h.linkFree h.isDir, habs]

theorem look_eq (h : s.Tidy d) {p : Path} (hanchor : p.anchor = .root)
    (hnames : ∀ n ∈ p.names, IsName n) : d.look p = .ok (d.top.at? p.names) := by
  have habs := absoluteNames_of_root d hanchor
  rw [Disk.look_of_linkFree (habs ▸ hnames) h.linkFree h.isDir, habs]

theorem resolve_eq (h : s.Tidy d) {p : Path} (hanchor : p.anchor = .root)
    (hnames : ∀ n ∈ p.names, IsName n) : d.resolve p = .ok p := by
  have habs := absoluteNames_of_root d hanchor
  rw [Disk.resolve_eq_self (habs ▸ hnames) h.linkFree (by simp [Path.isAbsolute, hanchor]),
    ← hanchor]

end Tidy

/-! ### The files of a scan -/

theorem sourcesBelow_of_tidy {d : Disk} (h : s.Tidy d) {roots : List Path}
    (hroots : ∀ r ∈ roots, r ∈ s.roots) :
    (s.sourcesBelow d roots).2 = none ∧ ∀ p, p ∈ (s.sourcesBelow d roots).1 ↔
      ∃ root ∈ roots, ∃ node, d.top.at? root.names = some node ∧ p ∈ s.sourcesIn d root node := by
  induction roots with
  | nil => simp [sourcesBelow]
  | cons root rest ih =>
    have hroot := hroots root List.mem_cons_self
    obtain ⟨hnone, hmem⟩ := ih fun r hr => hroots r (List.mem_cons_of_mem _ hr)
    obtain ⟨entries, hat⟩ := Node.view_eq_dir_iff.1 (h.roots root hroot)
    rw [sourcesBelow, h.look_eq (h.anchor root hroot) (h.names root hroot), hat]
    refine ⟨hnone, fun p => ?_⟩
    dsimp only
    rw [List.mem_append, hmem]
    simp [hat]

/-- **A scan finds the sources.** -/
theorem mem_sourcesBelow_iff {d : Disk} (h : s.Tidy d) (hroots : s.RootsApart) {p : Path}
    {read : Except Text.TooManyDigits (List Probe)} (hreading : reading? d p = some read) :
    p ∈ (s.sourcesBelow d s.roots).1 ↔ s.Sees p := by
  obtain ⟨bytes, hread⟩ := exists_read?_of_reading? hreading
  rw [(sourcesBelow_of_tidy h fun _ hr => hr).2]
  constructor
  · -- Whatever was found below a root cleared the way down from it.
    rintro ⟨root, hroot, node, hat, hp⟩
    have hnamed : node.Named := Node.named_of_at? h.named hat
    obtain ⟨names, rfl, hclears, hsteps⟩ := exists_of_mem_sourcesIn hnamed hp
    have hnull := Disk.noNull_of_read? hread
    have hnames : ∀ n ∈ (root.down names).names, IsName n := by
      intro n hn
      refine ⟨?_, hnull n hn⟩
      rcases List.mem_append.1 hn with hn | hn
      · exact (h.names root hroot n hn).toIsStep
      · exact hsteps n hn
    have hne : (root.down names).names ≠ [] := by
      intro hnil
      exact (clears_iff.1 hclears).ne_nil (List.append_eq_nil_iff.1 hnil).2
    exact ⟨h.anchor root hroot, hnames,
      (acceptsResolved?_iff hroots hne).2 ⟨root, hroot, names, rfl, hclears⟩⟩
  · -- A way that is clear is gone by the scan as well.
    intro hsees
    have hfile := (h.read?_eq_some_iff hsees.anchor hsees.names).1 hread
    have hne : p.names ≠ [] := by
      intro hnil
      rw [hnil, Disk.view_nil_of_isDir h.isDir] at hfile
      cases hfile
    obtain ⟨root, hroot, names, rfl, hclears⟩ :=
      (acceptsResolved?_iff hroots hne).1 hsees.accepted
    obtain ⟨entries, hat⟩ := Node.view_eq_dir_iff.1 (h.roots root hroot)
    have hdown := Node.view_eq_file_iff.1 hfile
    rw [show (root.down names).names = root.names ++ names from rfl, Node.at?_append, hat,
      Option.bind_some] at hdown
    exact ⟨root, hroot, _, hat, mem_sourcesIn_of_clears h.linkFree h.isDir (h.anchor root hroot)
      hsees.names hat hdown hclears⟩

/-! ### The catalog of a scan -/

/-- A catalog says of each source that can be read what it declares, and nothing else. -/
def Describes (s : Scanner) (d : Disk) (c : Catalog) : Prop :=
  ∀ k v, c.find? k = some v ↔ ∃ p, s.Sees p ∧ s.keyFor p = k ∧ declared? d p = some v

theorem Describes.eq {d : Disk} {c c' : Catalog} (h : s.Describes d c) (h' : s.Describes d c') :
    c = c' :=
  Catalog.ext_find? fun k v => (h k v).trans (h' k v).symm

/-- What a catalog holds once it was filled from some files: one entry for each that can be
read, provided that no two of them are known by the same name. -/
theorem find?_foldl {d : Disk} {found files : List Path}
    (hinj : ∀ p ∈ found ++ files, ∀ q ∈ found ++ files, (declared? d p).isSome →
      (declared? d q).isSome → s.keyFor p = s.keyFor q → p = q)
    {c : Catalog} (records : List Record)
    (hc : ∀ k v, c.find? k = some v ↔ ∃ p ∈ found, s.keyFor p = k ∧ declared? d p = some v)
    (k : String) (v : List Probe) :
    (files.foldl (fun (catalog, records) p =>
      match declared? d p with
      | some probes => (catalog.insert (s.keyFor p) probes, records)
      | none => (catalog, records ++ [unreadable p])) (c, records)).1.find? k = some v ↔
      ∃ p ∈ found ++ files, s.keyFor p = k ∧ declared? d p = some v := by
  induction files generalizing found c records with
  | nil => rw [List.append_nil]; exact hc k v
  | cons p rest ih =>
    rw [List.append_cons] at hinj ⊢
    rw [List.foldl_cons]
    cases hp : declared? d p with
    | none =>
      dsimp only
      refine ih hinj _ fun k v => (hc k v).trans ?_
      simp only [List.mem_append, List.mem_singleton, or_and_right, exists_or, exists_eq_left, hp,
        reduceCtorEq, and_false, or_false]
    | some probes =>
      dsimp only
      refine ih hinj _ fun k v => ?_
      -- The new entry may replace one of the same name, but then it is that of the same file.
      rw [Catalog.find?_insert]
      split
      · rename_i hk
        subst hk
        constructor
        · intro hv
          exact ⟨p, by simp, rfl, hp.trans hv⟩
        · rintro ⟨q, hq, hkey, hv⟩
          obtain rfl := hinj q (List.mem_append_left _ hq) p (by simp) (by rw [hv]; rfl)
            (by rw [hp]; rfl) hkey
          exact hp.symm.trans hv
      · rename_i hk
        refine (hc k v).trans ?_
        simp only [List.mem_append, List.mem_singleton, or_and_right, exists_or, exists_eq_left]
        refine ⟨.inl, ?_⟩
        rintro (h | ⟨hkey, -⟩)
        · exact h
        · exact absurd hkey.symm hk

theorem find?_catalogOf {d : Disk} {files : List Path}
    (hinj : ∀ p ∈ files, ∀ q ∈ files, (declared? d p).isSome → (declared? d q).isSome →
      s.keyFor p = s.keyFor q → p = q) (k : String) (v : List Probe) :
    (s.catalogOf d files).1.find? k = some v ↔
      ∃ p ∈ files, s.keyFor p = k ∧ declared? d p = some v :=
  @find?_foldl s d [] files hinj ∅ [] (by simp) k v

/-- A scan that meets no obstacle gives the catalog of the files that it finds, or it fails at the
first of them with too long a numeral. -/
theorem rescan_cases {d : Disk} (h : (s.sourcesBelow d s.roots).2 = none) :
    (∃ e records, s.rescan d = (.error (.numeral e), records) ∧
      (s.sourcesBelow d s.roots).1.findSome? (overlong? d) = some e) ∨
    ∃ records, s.rescan d =
        (.ok { s with catalog := (s.catalogOf d (s.sourcesBelow d s.roots).1).1 }, records) ∧
      (s.sourcesBelow d s.roots).1.findSome? (overlong? d) = none := by
  unfold rescan
  generalize s.sourcesBelow d s.roots = below at h ⊢
  obtain ⟨files, obstacle⟩ := below
  obtain rfl : obstacle = none := h
  dsimp only
  cases files.findSome? (overlong? d) with
  | some e => exact .inl ⟨e, _, rfl, rfl⟩
  | none => exact .inr ⟨_, rfl, rfl⟩

/-- **On a tidy disk a scan succeeds, and its catalog describes the disk**, unless it finds a source
with too long a numeral. -/
theorem rescan_of_tidy {d : Disk} (h : s.Tidy d) (hroots : s.RootsApart) :
    (∃ e records, s.rescan d = (.error (.numeral e), records) ∧
      ∃ p, s.Sees p ∧ overlong? d p = some e) ∨
    ∃ c records, s.rescan d = (.ok { s with catalog := c }, records) ∧ s.Describes d c ∧
      ∀ p, s.Sees p → overlong? d p = none := by
  have hnone := (sourcesBelow_of_tidy h fun _ hr => hr).1
  rcases rescan_cases hnone with ⟨e, records, hrescan, hlong⟩ | ⟨records, hrescan, hshort⟩
  · obtain ⟨p, hp, he⟩ := List.exists_of_findSome?_eq_some hlong
    exact .inl ⟨e, records, hrescan, p,
      (mem_sourcesBelow_iff h hroots (overlong?_eq_some_iff.1 he)).1 hp, he⟩
  · have hmem {p : Path} {probes : List Probe} (hp : declared? d p = some probes) :
        p ∈ (s.sourcesBelow d s.roots).1 ↔ s.Sees p :=
      mem_sourcesBelow_iff h hroots (declared?_eq_some_iff.1 hp)
    refine .inr ⟨_, records, hrescan, fun k v => ?_, fun p hp => ?_⟩
    · refine (find?_catalogOf ?_ k v).trans (exists_congr fun p => ?_)
      · intro p hp q hq hpd hqd hkey
        obtain ⟨u, hu⟩ := Option.isSome_iff_exists.1 hpd
        obtain ⟨v, hv⟩ := Option.isSome_iff_exists.1 hqd
        have hps := (hmem hu).1 hp
        have hqs := (hmem hv).1 hq
        have hpclean := h.clean p hps (by rw [declared?_eq_some_iff.1 hu]; rfl)
        have hqclean := h.clean q hqs (by rw [declared?_eq_some_iff.1 hv]; rfl)
        exact (keyFor_inj hpclean hqclean hps.anchor hqs.anchor).1 hkey
      · constructor
        · rintro ⟨hp, hkey, hv⟩
          exact ⟨(hmem hv).1 hp, hkey, hv⟩
        · rintro ⟨hp, hkey, hv⟩
          exact ⟨(hmem hv).2 hp, hkey, hv⟩
    · rw [Option.eq_none_iff_forall_ne_some]
      intro e he
      have hfound := (mem_sourcesBelow_iff h hroots (overlong?_eq_some_iff.1 he)).2 hp
      rw [List.findSome?_eq_none_iff.1 hshort p hfound] at he
      cases he

/-! ### One file -/

section
variable {d : Disk} {p : Path} (hresolve : d.resolve p = .ok p)
include hresolve

theorem accepts_of_resolve {answer : Bool} (h : s.acceptsResolved? p = some answer) :
    s.accepts d p = .ok answer := by
  have haccepts : s.accepts? d p = .ok (some answer) := by
    rw [accepts?, hresolve]
    exact congrArg Except.ok h
  rw [accepts, haccepts]

theorem update_of_rejected (h : s.acceptsResolved? p = some false) :
    s.update d p = .ok (false, s, []) := by
  unfold update
  rw [hresolve]
  show (s.accepts d p >>= _) = _
  rw [accepts_of_resolve hresolve h]
  rfl

/-- An accepted file is read again. -/
theorem update_eq_of_accepted (h : s.acceptsResolved? p = some true) :
    s.update d p = match reading? d p with
      | some (.ok probes) =>
        .ok (true, { s with catalog := s.catalog.insert (s.keyFor p) probes }, [])
      | some (.error e) => .error (.numeral e)
      | none => .ok (false, { s with catalog := s.catalog.erase (s.keyFor p) }, [unreadable p]) := by
  unfold update
  rw [hresolve]
  show (s.accepts d p >>= _) = _
  rw [accepts_of_resolve hresolve h]
  rfl

/-- To read an accepted file again fails if a numeral in it is too long. -/
theorem update_of_overlong (h : s.acceptsResolved? p = some true) {e : Text.TooManyDigits}
    (hlong : overlong? d p = some e) : s.update d p = .error (.numeral e) := by
  rw [update_eq_of_accepted hresolve h, overlong?_eq_some_iff.1 hlong]

/-- To read an accepted file again makes the catalog right about it, and changes nothing else. -/
theorem update_of_accepted (h : s.acceptsResolved? p = some true) (hshort : overlong? d p = none) :
    ∃ updated c records, s.update d p = .ok (updated, { s with catalog := c }, records) ∧
      (∀ k, k ≠ s.keyFor p → c.find? k = s.catalog.find? k) ∧
      c.find? (s.keyFor p) = declared? d p := by
  rw [update_eq_of_accepted hresolve h, reading?_of_overlong? hshort]
  cases declared? d p with
  | some probes =>
    exact ⟨true, s.catalog.insert (s.keyFor p) probes, [], rfl, fun k hk => by simp [hk], by simp⟩
  | none =>
    exact ⟨false, s.catalog.erase (s.keyFor p), [unreadable p], rfl, fun k hk => by simp [hk],
      by simp⟩

end

section
variable {d : Disk} (h : s.Tidy d) {p : Path} (hanchor : p.anchor = .root)
  (hnames : ∀ n ∈ p.names, IsName n)
include h hanchor hnames

theorem tracks_of_tidy : s.tracks d p = .ok (s.catalog.contains (s.keyFor p)) := by
  rw [tracks, h.resolve_eq hanchor hnames]
  rfl

theorem forget_of_tidy : ∃ known,
    s.forget d p = .ok (known, { s with catalog := s.catalog.erase (s.keyFor p) }) := by
  unfold forget
  rw [h.resolve_eq hanchor hnames]
  exact ⟨_, rfl⟩

end

/-! ### Another catalog -/

theorem clearUp?_withCatalog (s : Scanner) (c : Catalog) (root dir : Path) :
    clearUp? { s with catalog := c } root dir = s.clearUp? root dir := by
  fun_induction clearUp? s root dir with
  | case1 => rw [clearUp?, if_pos rfl]
  | case2 dir hroot hexcluded => rw [clearUp?, if_neg hroot]; exact if_pos hexcluded
  | case3 dir hroot hexcluded hnames =>
    rw [clearUp?, if_neg hroot, dif_pos hnames]
    exact if_neg hexcluded
  | case4 dir hroot hexcluded hnames ih =>
    rw [clearUp?, if_neg hroot, dif_neg hnames, ih]
    exact if_neg hexcluded

theorem acceptsResolved?_withCatalog (s : Scanner) (c : Catalog) (p : Path) :
    acceptsResolved? { s with catalog := c } p = s.acceptsResolved? p := by
  unfold acceptsResolved?
  simp only [clearUp?_withCatalog]
  rfl

theorem sees_withCatalog (s : Scanner) (c : Catalog) (p : Path) :
    Sees { s with catalog := c } p ↔ s.Sees p := by
  constructor
  · rintro ⟨hanchor, hnames, haccepted⟩
    exact ⟨hanchor, hnames, acceptsResolved?_withCatalog s c p ▸ haccepted⟩
  · rintro ⟨hanchor, hnames, haccepted⟩
    exact ⟨hanchor, hnames, (acceptsResolved?_withCatalog s c p).trans haccepted⟩

mutual

theorem sourcesIn_withCatalog (s : Scanner) (c : Catalog) (d : Disk) (dir : Path) :
    ∀ node, sourcesIn { s with catalog := c } d dir node = s.sourcesIn d dir node
  | .dir entries => by
    rw [sourcesIn, sourcesIn, sourcesInEntries_withCatalog s c d dir entries]
    rfl
  | .file _ => by simp [sourcesIn]
  | .link _ => by simp [sourcesIn]

theorem sourcesInEntries_withCatalog (s : Scanner) (c : Catalog) (d : Disk) (dir : Path) :
    ∀ entries, sourcesInEntries { s with catalog := c } d dir entries =
      s.sourcesInEntries d dir entries
  | [] => rfl
  | (name, node) :: rest => by
    rw [sourcesInEntries, sourcesInEntries, sourcesIn_withCatalog s c d _ node,
      sourcesInEntries_withCatalog s c d dir rest]
    rfl

end

theorem sourcesBelow_withCatalog (s : Scanner) (c : Catalog) (d : Disk) (roots : List Path) :
    sourcesBelow { s with catalog := c } d roots = s.sourcesBelow d roots := by
  induction roots with
  | nil => rfl
  | cons root rest ih =>
    rw [sourcesBelow, sourcesBelow, ih]
    simp only [sourcesIn_withCatalog]

/-- What a scan finds does not depend on what was known before. -/
theorem rescan_withCatalog (s : Scanner) (c : Catalog) (d : Disk) :
    rescan { s with catalog := c } d = s.rescan d := by
  rw [rescan, rescan, sourcesBelow_withCatalog]
  rfl

end Scanner

end ProbeKit
