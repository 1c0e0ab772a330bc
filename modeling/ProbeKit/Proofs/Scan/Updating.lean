import ProbeKit.Proofs.Probe.Extraction
import ProbeKit.Proofs.Scan.Accepting

/-!
# One file instead of a scan

To read one file again leaves the catalog with what a scan of the same disk would say of that file,
whatever the catalog held before and however the roots lie (`Scanner.update_agrees`).  The scan goes
down from every root and the single file is judged from below by the first root above it; where that
root leads to the file the scan finds it too, and no other file that a scan reads is known by the
same name.

A file is known by the name of its resolved path.  The path as it was given may have another name,
and then the entry that changes is not the one of the path (`Scanner.exists_other_name`).
-/

namespace ProbeKit

open Disk (IsName Dotless)

namespace Node

/-- No name in a tree holds a slash. -/
def Slashless (node : Node) : Prop :=
  ∀ place found, node.at? place = some found → ∀ n ∈ place, '/' ∉ n.toList

theorem slashless_file (bytes : ByteArray) : (Node.file bytes).Slashless := by
  intro place found hat
  cases place with
  | nil => exact fun n hn => absurd hn List.not_mem_nil
  | cons name rest => cases hat

theorem slashless_dir {entries : List (String × Node)}
    (h : ∀ e ∈ entries, '/' ∉ e.1.toList ∧ e.2.Slashless) : (Node.dir entries).Slashless := by
  intro place found hat
  cases place with
  | nil => exact fun n hn => absurd hn List.not_mem_nil
  | cons name rest =>
    rw [at?_dir_cons] at hat
    obtain ⟨child, hlookup, hchild⟩ := Option.bind_eq_some_iff.1 hat
    obtain ⟨hname, hbelow⟩ := h _ (mem_of_lookup hlookup)
    exact List.forall_mem_cons.2 ⟨hname, hbelow rest found hchild⟩

/-- What comes of reading a node: nothing unless it is a file that can be read as text. -/
def reading? : Node → Option (Except Text.TooManyDigits (List Probe))
  | .file bytes => (Text.readText? bytes).map declaredProbes
  | _ => none

end Node

namespace Disk

/-- A path as resolving leaves it. -/
structure Resolved (p : Path) : Prop where
  /-- It begins at the root. -/
  anchor : p.anchor = .root
  /-- It has no dots. -/
  dotless : ∀ n ∈ p.names, Dotless n
  /-- It has no null characters. -/
  noNull : ∀ n ∈ p.names, hasNull n = false
  /-- Its names can stand between slashes. -/
  clean : p.Clean

variable {d : Disk} {q : Path}

/-- **An absolute path is resolved by taking its dots out.** -/
theorem eq_absolute_of_resolve {text : String} (hfree : d.top.LinkFree)
    (habs : (Path.ofString text).isAbsolute) (h : d.resolve (Path.ofString text) = .ok q) :
    q = d.absolute (Path.ofString text) ∧ Resolved q := by
  have hnull := noNull_of_resolve h
  rw [resolve_of_linkFree hfree hnull] at h
  obtain rfl := Except.ok.inj h
  have hmem {n : String} (hn : n ∈ (d.absolute (Path.ofString text)).names) :
      n ∈ (Path.ofString text).names := by
    have hn := mem_of_mem_withoutDots hn
    rwa [absoluteNames, if_pos habs] at hn
  refine ⟨rfl, rfl, dotless_withoutDots _, fun n hn => ?_,
    fun n hn => Path.clean_ofString text n (hmem hn)⟩
  exact Bool.eq_false_iff.2 fun hn' => hnull (List.any_eq_true.2 ⟨n, hmem hn, hn'⟩)

namespace Resolved

variable (h : Resolved q)
include h

theorem absoluteNames_eq (d : Disk) : d.absoluteNames q = q.names :=
  if_pos (by simp [Path.isAbsolute, h.anchor])

theorem not_hasNull : ¬q.names.any hasNull := by
  rw [List.any_eq_true]
  rintro ⟨n, hn, hnull⟩
  rw [h.noNull n hn] at hnull
  cases hnull

/-- It stays as it is. -/
theorem resolve_eq (hfree : d.top.LinkFree) : d.resolve q = .ok q := by
  rw [resolve_of_linkFree hfree h.not_hasNull, absolute, h.absoluteNames_eq,
    withoutDots_of_dotless h.dotless, ← h.anchor]

/-- It reads the file that its names lead to. -/
theorem read?_eq_some_iff (hfree : d.top.LinkFree) (htop : d.top.isDir = true)
    (hnamed : d.top.Named) {bytes : ByteArray} :
    d.read? q = some bytes ↔ d.top.at? q.names = some (.file bytes) := by
  constructor
  · intro hread
    obtain ⟨place, hlocate⟩ := Disk.read?_eq_some_iff.1 hread
    exact at?_of_locate hfree htop h.anchor h.dotless hlocate
  · intro hat
    have hnames : ∀ n ∈ d.absoluteNames q, IsName n := by
      rw [h.absoluteNames_eq]
      exact fun n hn => ⟨Node.isStep_of_at? hnamed hat n hn, h.noNull n hn⟩
    rw [read?_eq_some_of_linkFree hnames hfree htop, h.absoluteNames_eq, Node.view_eq_file_iff]
    exact hat

/-- What comes of reading it is what comes of the node that its names lead to. -/
theorem reading?_eq (hfree : d.top.LinkFree) (htop : d.top.isDir = true) (hnamed : d.top.Named) :
    Scanner.reading? d q = (d.top.at? q.names).bind Node.reading? := by
  unfold Scanner.reading?
  cases hread : d.read? q with
  | some bytes =>
    rw [(h.read?_eq_some_iff hfree htop hnamed).1 hread]
    rfl
  | none =>
    cases hat : d.top.at? q.names with
    | none => rfl
    | some node =>
      cases node with
      | file bytes =>
        rw [(h.read?_eq_some_iff hfree htop hnamed).2 hat] at hread
        cases hread
      | dir entries => rfl
      | link target => rfl

end Resolved

end Disk

namespace Scanner

variable {s s' : Scanner} {d : Disk}

/-! ### What a scan says of a file -/

/-- What a root leads to is among the sources of a scan that looks at every root. -/
theorem mem_sourcesBelow_of_look {roots : List Path} {root p : Path} {node : Node}
    (hall : (s.sourcesBelow d roots).2 = none) (hroot : root ∈ roots)
    (hlook : d.look root = .ok (some node)) (hp : p ∈ s.sourcesIn d root node) :
    p ∈ (s.sourcesBelow d roots).1 := by
  fun_induction sourcesBelow s d roots with
  | case1 => cases hroot
  | case2 => cases hall
  | case3 other rest hother ih =>
    rcases List.mem_cons.1 hroot with rfl | hroot
    · rw [hlook] at hother
      cases hother
    · exact ih hall hroot
  | case4 other rest node' hother more e hmore ih =>
    rcases List.mem_cons.1 hroot with rfl | hroot
    · rw [hlook] at hother
      obtain rfl := Option.some.inj (Except.ok.inj hother)
      exact List.mem_append_left _ hp
    · rw [hmore] at ih
      exact List.mem_append_right _ (ih hall hroot)

theorem sourcesBelow_eq_of_rescan (h : (s.rescan d).1 = .ok s') :
    (s.sourcesBelow d s.roots).2 = none := by
  unfold rescan at h
  generalize s.sourcesBelow d s.roots = below at h ⊢
  obtain ⟨files, obstacle⟩ := below
  dsimp only at h
  split at h
  · cases h
  · cases obstacle with
    | none => rfl
    | some e => cases h

section
variable (hfree : d.top.LinkFree) (htop : d.top.isDir = true) (hnamed : d.top.Named)
  (hslash : d.top.Slashless)
  (hroots : ∀ r ∈ s.roots, r.anchor = .root ∧ ∀ n ∈ r.names, Dotless n)
include hfree htop hnamed hslash hroots

/-- A file that a scan reads has names that can stand between slashes. -/
theorem Reads.resolved {p : Path} (h : s.Reads d p) : Disk.Resolved p := by
  obtain ⟨hanchor, hnames, -⟩ := h.exists_down hfree htop hnamed hroots
  obtain ⟨probes, hprobes⟩ := Option.isSome_iff_exists.1 h.readable
  obtain ⟨bytes, hread⟩ := exists_read?_of_declared? hprobes
  have hdotless : ∀ n ∈ p.names, Dotless n := fun n hn => (hnames n hn).dotless
  obtain ⟨place, hlocate⟩ := Disk.read?_eq_some_iff.1 hread
  have hat := Disk.at?_of_locate hfree htop hanchor hdotless hlocate
  refine ⟨hanchor, hdotless, fun n hn => (hnames n hn).noNull, fun n hn => ?_⟩
  have hhere := (hdotless n hn).2
  rw [Bool.or_eq_false_iff, beq_eq_false_iff_ne, beq_eq_false_iff_ne] at hhere
  refine ⟨hslash _ _ hat n hn, fun hempty => hhere.1 ?_, fun hdot => hhere.2 ?_⟩
  · exact String.toList_inj.1 hempty
  · exact String.toList_inj.1 hdot

/-- **After a scan the catalog says of each file that was read what it declares.** -/
theorem find?_rescan (h : (s.rescan d).1 = .ok s') (k : String) (v : List Probe) :
    s'.catalog.find? k = some v ↔ ∃ p, s.Reads d p ∧ s.keyFor p = k ∧ declared? d p = some v := by
  obtain rfl := rescan_eq_ok h
  have hinj : ∀ p ∈ (s.sourcesBelow d s.roots).1, ∀ q ∈ (s.sourcesBelow d s.roots).1,
      (declared? d p).isSome → (declared? d q).isSome → s.keyFor p = s.keyFor q → p = q := by
    intro p hp q hq hpd hqd hkey
    have hpr := Reads.resolved hfree htop hnamed hslash hroots ⟨hp, hpd⟩
    have hqr := Reads.resolved hfree htop hnamed hslash hroots ⟨hq, hqd⟩
    exact (keyFor_inj hpr.clean hqr.clean hpr.anchor hqr.anchor).1 hkey
  refine (find?_catalogOf hinj k v).trans ⟨?_, ?_⟩
  · rintro ⟨p, hp, hkey, hv⟩
    exact ⟨p, ⟨hp, by rw [hv]; rfl⟩, hkey, hv⟩
  · rintro ⟨p, hp, hkey, hv⟩
    exact ⟨p, hp.found, hkey, hv⟩

/-- **After a scan the catalog says of an accepted file what it declares, or nothing if it cannot
be read.** -/
theorem find?_rescan_of_accepted {q : Path} (hq : Disk.Resolved q)
    (haccepted : s.acceptsResolved? q = some true) (h : (s.rescan d).1 = .ok s') :
    s'.catalog.find? (s.keyFor q) = declared? d q := by
  ext v
  rw [find?_rescan hfree htop hnamed hslash hroots h]
  constructor
  · rintro ⟨p, hp, hkey, hv⟩
    have hpr := hp.resolved hfree htop hnamed hslash hroots
    obtain rfl := (keyFor_inj hpr.clean hq.clean hpr.anchor hq.anchor).1 hkey
    exact hv
  · intro hv
    have hreadable : (declared? d q).isSome := by
      rw [hv]
      rfl
    obtain ⟨bytes, hread⟩ := exists_read?_of_declared? hv
    have hat := (hq.read?_eq_some_iff hfree htop hnamed).1 hread
    have hnames : ∀ n ∈ q.names, IsName n :=
      fun n hn => ⟨Node.isStep_of_at? hnamed hat n hn, hq.noNull n hn⟩
    have hne : q.names ≠ [] := by
      intro hnil
      rw [hnil] at hat
      have hfile : d.top = .file bytes := Option.some.inj hat
      rw [hfile] at htop
      cases htop
    -- The root that accepts the file leads to it, so the scan has found it.
    obtain ⟨root, names, node, howner, hlook, hmem⟩ :=
      ownerReads_of_accepted hfree htop hq.anchor hnames hne hreadable haccepted
    have hfound := mem_sourcesBelow_of_look (sourcesBelow_eq_of_rescan h)
      (exists_of_owner? howner).1 hlook hmem
    exact ⟨q, ⟨hfound, hreadable⟩, rfl, hv⟩

end

/-- A scan comes to an end if no root has a name that is too long, unless it finds a file with too
long a numeral. -/
theorem exists_rescan (hfree : d.top.LinkFree)
    (hroots : ∀ r ∈ s.roots, r.anchor = .root ∧ ∀ n ∈ r.names, Dotless n)
    (hshort : ∀ r ∈ s.roots, ∀ n ∈ r.names, n.utf8ByteSize ≤ Disk.nameLimit) :
    (∃ s', (s.rescan d).1 = .ok s') ∨
      ∃ p ∈ (s.sourcesBelow d s.roots).1, ∃ e, reading? d p = some (.error e) ∧
        (s.rescan d).1 = .error (.numeral e) := by
  -- On a disk without links only a name that is too long stops a look.
  have hlook : ∀ r ∈ s.roots, ∀ e, d.look r ≠ .error e := by
    intro r hr e hlook
    obtain ⟨hanchor, hdotless⟩ := hroots r hr
    have hlong : d.locate r = .error .tooLong := by
      unfold Disk.look at hlook
      split at hlook
      · cases hlook
      · assumption
      · cases hlook
    unfold Disk.locate Disk.locateFor at hlong
    split at hlong
    · cases hlong
    · rename_i hnull
      rw [absoluteNames_of_root d hanchor] at hlong
      refine Disk.walk_ne_tooLong hfree (fun n hn => ?_) _ hlong
      refine ⟨⟨(hdotless n hn).1, (hdotless n hn).2, hshort r hr n hn⟩, ?_⟩
      exact Bool.eq_false_iff.2 fun hn' => hnull (List.any_eq_true.2 ⟨n, hn, hn'⟩)
  have hall : ∀ roots, (∀ r ∈ roots, r ∈ s.roots) → (s.sourcesBelow d roots).2 = none := by
    intro roots hsub
    fun_induction sourcesBelow s d roots with
    | case1 => rfl
    | case2 r rest e hlook' => exact absurd hlook' (hlook r (hsub r List.mem_cons_self) e)
    | case3 r rest hlook' ih => exact ih fun r hr => hsub r (List.mem_cons_of_mem _ hr)
    | case4 r rest node hlook' more e hmore ih =>
      rw [hmore] at ih
      exact ih fun r hr => hsub r (List.mem_cons_of_mem _ hr)
  rcases rescan_cases (hall s.roots fun _ hr => hr) with
    ⟨e, records, hrescan, hlong⟩ | ⟨records, hrescan, -⟩
  · obtain ⟨p, hp, he⟩ := List.exists_of_findSome?_eq_some hlong
    exact .inr ⟨p, hp, e, overlong?_eq_some_iff.1 he, by rw [hrescan]⟩
  · exact .inl ⟨_, by rw [hrescan]⟩

/-! ### One file -/

theorem update_eq_of_resolve {p q : Path} (hp : d.resolve p = .ok q) (hq : d.resolve q = .ok q) :
    s.update d p = s.update d q := by
  unfold update
  rw [hp, hq]

theorem acceptsResolved?_eq_of_accepts? {p q : Path} {answer : Option Bool}
    (hp : d.resolve p = .ok q) (h : s.accepts? d p = .ok answer) :
    s.acceptsResolved? q = answer := by
  rw [accepts?, hp] at h
  exact Except.ok.inj h

/-- **To read one file again leaves the catalog with what a scan would say of the file**, and with
what it said before of every other.  The catalog may hold anything before, the roots may lie inside
each other, and there may be nothing at all where the path leads.  If a numeral in the file is too
long there is no other catalog.  A path that is not accepted leaves the catalog alone, and to forget
a file changes nothing but what is said of that file. -/
theorem update_agrees {d₀ d : Disk} {settings : Settings} {s : Scanner}
    (hs : ofSettings d₀ settings = .ok s) (hfree : d.top.LinkFree) (htop : d.top.isDir = true)
    (hnamed : d.top.Named) (hslash : d.top.Slashless) (catalog : Catalog) {text : String}
    (habs : (Path.ofString text).isAbsolute) {q : Path}
    (hresolve : d.resolve (Path.ofString text) = .ok q) :
    (accepts? { s with catalog } d (Path.ofString text) = .ok (some true) →
      (∃ e, (d.top.at? q.names).bind Node.reading? = some (.error e) ∧
        update { s with catalog } d (Path.ofString text) = .error (.numeral e)) ∨
      ∃ updated c records, update { s with catalog } d (Path.ofString text) =
          .ok (updated, { s with catalog := c }, records) ∧
        (∀ key, key ≠ s.keyFor q → c.find? key = catalog.find? key) ∧
        (d.top.at? q.names).bind Node.reading? = (c.find? (s.keyFor q)).map .ok ∧
        ∀ s', (rescan { s with catalog } d).1 = .ok s' →
          c.find? (s.keyFor q) = s'.catalog.find? (s.keyFor q)) ∧
    (accepts? { s with catalog } d (Path.ofString text) = .ok (some false) →
      update { s with catalog } d (Path.ofString text) = .ok (false, { s with catalog }, [])) ∧
    (∃ known c, forget { s with catalog } d (Path.ofString text) =
        .ok (known, { s with catalog := c }) ∧
      ∀ key, key ≠ s.keyFor q → c.find? key = catalog.find? key) ∧
    q = d.absolute (Path.ofString text) ∧
    ((∀ r ∈ s.roots, ∀ n ∈ r.names, n.utf8ByteSize ≤ Disk.nameLimit) →
      (∃ s', (rescan { s with catalog } d).1 = .ok s') ∨
        ∃ p ∈ (s.sourcesBelow d s.roots).1, ∃ e, reading? d p = some (.error e) ∧
          (rescan { s with catalog } d).1 = .error (.numeral e)) := by
  -- The roots are the same whatever the catalog holds.
  have hroots₀ := roots_of_ofSettings hs
  have hroots : ∀ r ∈ ({ s with catalog } : Scanner).roots, r.anchor = .root ∧
      ∀ n ∈ r.names, Dotless n := hroots₀
  obtain ⟨hdots, hq⟩ := Disk.eq_absolute_of_resolve hfree habs hresolve
  have hself := hq.resolve_eq hfree
  have hscan := exists_rescan hfree hroots₀
  rw [← rescan_withCatalog s catalog] at hscan
  refine ⟨?_, ?_, ?_, hdots, hscan⟩
  · intro haccepts
    have haccepted := acceptsResolved?_eq_of_accepts? hresolve haccepts
    rw [← hq.reading?_eq hfree htop hnamed]
    cases hlong : overlong? d q with
    | some e =>
      exact .inl ⟨e, overlong?_eq_some_iff.1 hlong, (update_eq_of_resolve hresolve hself).trans
        (update_of_overlong hself haccepted hlong)⟩
    | none =>
      obtain ⟨updated, c, records, hupdate, hothers, hfile⟩ :=
        update_of_accepted hself haccepted hlong
      refine .inr ⟨updated, c, records, (update_eq_of_resolve hresolve hself).trans hupdate,
        hothers, ?_, fun s' hrescan => ?_⟩
      · rw [reading?_of_overlong? hlong]
        exact congrArg _ hfile.symm
      · exact hfile.trans
          (find?_rescan_of_accepted hfree htop hnamed hslash hroots hq haccepted hrescan).symm
  · intro haccepts
    have hrejected := acceptsResolved?_eq_of_accepts? hresolve haccepts
    rw [update_eq_of_resolve hresolve hself]
    exact update_of_rejected hself hrejected
  · unfold forget
    rw [hresolve]
    refine ⟨_, _, rfl, fun key hkey => ?_⟩
    rw [Catalog.find?_erase]
    exact if_neg hkey

/-! ### A path with dots -/

/-- The source below the outer root, by a path with dots. -/
def dottedText : String := "/p/t/../t/b.js"

/-- A catalog that says something else of it. -/
def staleCatalog : Catalog := (∅ : Catalog).insert "t/b.js" [⟨"q", []⟩]

theorem slashless_nestedDisk : nestedDisk.top.Slashless := by
  have hfile : (Node.file (Text.encode nestedText)).Slashless := Node.slashless_file _
  have hinner : innerRoot.Slashless := Node.slashless_dir (by simp [hfile])
  have houter : outerRoot.Slashless := Node.slashless_dir (by simp [hfile, hinner])
  have hproject : (Node.dir [("t", outerRoot)]).Slashless := Node.slashless_dir (by simp [houter])
  exact Node.slashless_dir (by simp [hproject])

theorem ofString_dottedText :
    Path.ofString dottedText = ⟨.root, ["p", "t", "..", "t", "b.js"]⟩ := by decide +kernel

theorem resolve_dottedText : nestedDisk.resolve (Path.ofString dottedText) = .ok outerSource := by
  rw [ofString_dottedText, Disk.resolve_of_linkFree linkFree_nestedDisk (by decide)]
  exact congrArg Except.ok (by decide)

theorem reading?_at_outerSource :
    (nestedDisk.top.at? outerSource.names).bind Node.reading? = some (.ok [⟨"p", ["int"]⟩]) := by
  show (Text.readText? (Text.encode nestedText)).map declaredProbes = _
  rw [Text.readText?_encode (by decide)]
  exact congrArg some declaredProbes_nestedText

/-- What is said of the source is right again after it was read, and a scan says the same. -/
theorem update_agrees_dotted : ∃ updated c records s',
    update { nestedScanner with catalog := staleCatalog } nestedDisk (Path.ofString dottedText) =
        .ok (updated, { nestedScanner with catalog := c }, records) ∧
      (rescan { nestedScanner with catalog := staleCatalog } nestedDisk).1 = .ok s' ∧
      c.find? (nestedScanner.keyFor outerSource) = some [⟨"p", ["int"]⟩] ∧
      s'.catalog.find? (nestedScanner.keyFor outerSource) = some [⟨"p", ["int"]⟩] := by
  have haccepts : accepts? { nestedScanner with catalog := staleCatalog } nestedDisk
      (Path.ofString dottedText) = .ok (some true) := by
    rw [accepts?, resolve_dottedText]
    exact congrArg Except.ok (by decide +kernel)
  obtain ⟨hupdate, -, -, -, hrescan⟩ := update_agrees ofSettings_nestedDisk linkFree_nestedDisk rfl
    named_nestedDisk slashless_nestedDisk staleCatalog (by decide +kernel) resolve_dottedText
  -- No numeral in either source is too long.
  obtain ⟨s', hscan⟩ : ∃ s', (rescan { nestedScanner with catalog := staleCatalog } nestedDisk).1 =
      .ok s' := by
    refine (hrescan (by decide)).resolve_right ?_
    rintro ⟨p, hp, e, he, -⟩
    rw [sourcesBelow_nestedDisk] at hp
    have hnone := List.findSome?_eq_none_iff.1 overlong?_nestedDisk p hp
    rw [overlong?_eq_some_iff.2 he] at hnone
    cases hnone
  rcases hupdate haccepts with ⟨e, he, -⟩ | ⟨updated, c, records, hread, -, hfile, hsame⟩
  · rw [reading?_at_outerSource] at he
    cases he
  · rw [reading?_at_outerSource] at hfile
    obtain ⟨probes, hfound, hprobes⟩ := Option.map_eq_some_iff.1 hfile.symm
    obtain rfl := Except.ok.inj hprobes
    exact ⟨updated, c, records, s', hread, hscan, hfound, (hsame s' hscan).symm.trans hfound⟩

/-! ### A root that cannot be looked at -/

/-- A name that is longer than any can be. -/
def longName : String := String.ofList (List.replicate 256 'x')

/-- Settings with a second root that has such a name. -/
def longSettings : Settings := { nestedSettings with sourceDirs := ["t", longName] }

/-- Their scanner. -/
def longScanner : Scanner :=
  { nestedScanner with roots := [⟨.root, ["p", "t"]⟩, ⟨.root, ["p", longName]⟩] }

theorem toList_longName : longName.toList = List.replicate 256 'x' := String.toList_ofList

theorem ofString_longName : Path.ofString longName = ⟨.relative, [longName]⟩ := by
  rw [Path.ofString, toList_longName]
  decide +kernel

theorem not_hasNull_longName :
    ¬(⟨.root, ["p", longName]⟩ : Path).names.any Disk.hasNull = true := by
  have hname : Disk.hasNull longName = false := by
    rw [Disk.hasNull, toList_longName]
    decide
  rw [List.any_cons, List.any_cons, hname]
  decide

theorem ofSettings_longSettings : ofSettings nestedDisk longSettings = .ok longScanner := by
  have hroots : longSettings.sourceRoots = [⟨.root, ["p", "t"]⟩, ⟨.root, ["p", longName]⟩] := by
    have hshort : Path.join ⟨.root, ["p"]⟩ "t" = ⟨.root, ["p", "t"]⟩ := by decide +kernel
    show [Path.join ⟨.root, ["p"]⟩ "t", Path.join ⟨.root, ["p"]⟩ longName] = _
    rw [hshort, Path.join, ofString_longName]
    rfl
  have hlong : nestedDisk.resolve ⟨.root, ["p", longName]⟩ = .ok ⟨.root, ["p", longName]⟩ := by
    rw [Disk.resolve_of_linkFree linkFree_nestedDisk not_hasNull_longName]
    exact congrArg Except.ok (by decide +kernel)
  have hextensions :
      longSettings.extensions.map Text.lowercase = [".js", ".mjs", ".cjs", ".ts"] := by
    decide +kernel
  rw [ofSettings, show longSettings.root = ⟨.root, ["p"]⟩ from rfl,
    resolve_nestedDisk (by decide), hroots, List.mapM_cons, resolve_nestedDisk (by decide),
    List.mapM_cons, hlong, hextensions]
  rfl

theorem rescan_longScanner : ∃ e, (longScanner.rescan nestedDisk).1 = .error e := by
  have hlong : nestedDisk.look ⟨.root, ["p", longName]⟩ =
      .error (.refused .tooLong ⟨.root, ["p", longName]⟩) := by
    have hlocate : nestedDisk.locate ⟨.root, ["p", longName]⟩ = .error .tooLong := by
      have hstep : Disk.walk nestedDisk.top .target Disk.linkLimit ["p"] [longName] =
          .error .tooLong := by
        rw [Disk.walk, if_neg (by decide +kernel), if_neg (by decide +kernel),
          if_neg (by decide +kernel), if_pos (by decide +kernel)]
      rw [Disk.locate, Disk.locateFor, if_neg not_hasNull_longName]
      show Disk.walk nestedDisk.top .target Disk.linkLimit [] ["p", longName] = _
      rw [Disk.walk, if_neg (by decide), if_neg (by decide), if_neg (by decide),
        if_neg (by decide)]
      exact hstep
    rw [Disk.look, hlocate]
  have hbelow : (longScanner.sourcesBelow nestedDisk longScanner.roots).2 =
      some (.refused .tooLong ⟨.root, ["p", longName]⟩) := by
    rw [show longScanner.roots = [⟨.root, ["p", "t"]⟩, ⟨.root, ["p", longName]⟩] from rfl,
      sourcesBelow, look_outerRoot, sourcesBelow, hlong]
  unfold rescan
  generalize longScanner.sourcesBelow nestedDisk longScanner.roots = below at hbelow ⊢
  obtain ⟨files, obstacle⟩ := below
  obtain rfl := hbelow
  dsimp only
  split
  · exact ⟨_, rfl⟩
  · exact ⟨_, rfl⟩

/-! ### A numeral that is too long -/

/-- A disk where the source below the outer root is a loop from too long a zero. -/
def longZeroDisk : Disk :=
  { top := .dir [("p", .dir [("t", .dir [("b.js",
      .file (Text.encode (String.ofList (Rendering.rowText Rendering.longZero))))])])], here := [] }

theorem linkFree_longZeroDisk : longZeroDisk.top.LinkFree :=
  Node.linkFree_of_linkCount_eq_zero (by simp [longZeroDisk, Node.linkCount, Node.linkCountIn])

theorem overlong?_longZeroDisk :
    overlong? longZeroDisk outerSource = some (.reading (Text.digitLimit + 1)) := by
  have hread : longZeroDisk.read? outerSource =
      some (Text.encode (String.ofList (Rendering.rowText Rendering.longZero))) := by
    rw [Disk.read?_eq_some_of_linkFree (by show ∀ n ∈ ["p", "t", "b.js"], IsName n; decide)
      linkFree_longZeroDisk rfl]
    exact Node.view_eq_file_iff.2 rfl
  rw [overlong?_eq_some_iff, reading?, hread, Option.bind_some,
    Text.readText?_encode noReturn_longZero, Option.map_some, declaredProbes_longZero]

/-- **The entry that changes is not always the one of the path as it was given, a scan does not
always come to an end, and neither does a source that is accepted always enter the catalog.**  A
path with dots is accepted, and to read or to forget it changes what is said of another name; a
source is accepted and read while a scan fails at a root that cannot be looked at; and a source that
is accepted is not read, for a numeral in it is too long. -/
theorem exists_other_name :
    (∃ (settings : Settings) (s : Scanner) (d : Disk) (text : String) (updated known : Bool)
        (c c' : Catalog) (records : List Record) (key : String),
      ofSettings d settings = .ok s ∧ d.top.linkCount = 0 ∧ (Path.ofString text).isAbsolute ∧
        s.accepts? d (Path.ofString text) = .ok (some true) ∧
        s.update d (Path.ofString text) = .ok (updated, { s with catalog := c }, records) ∧
        forget { s with catalog := c } d (Path.ofString text) =
          .ok (known, { s with catalog := c' }) ∧
        key ≠ s.keyFor (Path.ofString text) ∧ c.find? key ≠ s.catalog.find? key ∧
          c'.find? key ≠ c.find? key) ∧
    (∃ (settings : Settings) (s : Scanner) (d : Disk) (p : Path) (updated : Bool) (c : Catalog)
        (records : List Record) (e : Fault),
      ofSettings d settings = .ok s ∧ d.top.linkCount = 0 ∧ p.isAbsolute ∧
        s.accepts? d p = .ok (some true) ∧
        s.update d p = .ok (updated, { s with catalog := c }, records) ∧
        (c.find? (s.keyFor p)).isSome ∧ (s.rescan d).1 = .error e) ∧
    ∃ (settings : Settings) (s : Scanner) (d d₀ : Disk) (p : Path) (e : Text.TooManyDigits),
      ofSettings d₀ settings = .ok s ∧ d.top.linkCount = 0 ∧ p.isAbsolute ∧
        s.accepts? d p = .ok (some true) ∧ s.update d p = .error (.numeral e) := by
  have hfree : nestedDisk.top.linkCount = 0 := by
    simp [nestedDisk, outerRoot, innerRoot, Node.linkCount, Node.linkCountIn]
  have hself : nestedDisk.resolve outerSource = .ok outerSource := resolve_nestedDisk (by decide)
  have hresolved := (Disk.eq_absolute_of_resolve linkFree_nestedDisk (by decide +kernel)
    resolve_dottedText).2
  have hreading := (hresolved.reading?_eq linkFree_nestedDisk rfl named_nestedDisk).trans
    reading?_at_outerSource
  have hdeclared : declared? nestedDisk outerSource = some [⟨"p", ["int"]⟩] :=
    declared?_eq_some_iff.2 hreading
  have hshort : overlong? nestedDisk outerSource = none := by
    rw [overlong?, hreading]
  have haccepted : nestedScanner.acceptsResolved? outerSource = some true := by decide +kernel
  refine ⟨?_, ?_, ?_⟩
  · obtain ⟨updated, c, records, hupdate, -, hfile⟩ := update_of_accepted hself haccepted hshort
    refine ⟨nestedSettings, nestedScanner, nestedDisk, dottedText, updated,
      c.contains (nestedScanner.keyFor outerSource), c,
      c.erase (nestedScanner.keyFor outerSource), records, nestedScanner.keyFor outerSource,
      ofSettings_nestedDisk, hfree, by decide +kernel, ?_,
      (update_eq_of_resolve resolve_dottedText hself).trans hupdate, ?_, by decide +kernel, ?_, ?_⟩
    · rw [accepts?, resolve_dottedText]
      exact congrArg Except.ok haccepted
    · unfold forget
      rw [resolve_dottedText]
      rfl
    · rw [hfile, hdeclared]
      exact Option.some_ne_none _
    · rw [Catalog.find?_erase, if_pos rfl, hfile, hdeclared]
      exact (Option.some_ne_none _).symm
  · have haccepted : longScanner.acceptsResolved? outerSource = some true := by decide +kernel
    obtain ⟨updated, c, records, hupdate, -, hfile⟩ := update_of_accepted hself haccepted hshort
    obtain ⟨e, hrescan⟩ := rescan_longScanner
    refine ⟨longSettings, longScanner, nestedDisk, outerSource, updated, c, records, e,
      ofSettings_longSettings, hfree, rfl, ?_, hupdate, ?_, hrescan⟩
    · rw [accepts?, hself]
      exact congrArg Except.ok haccepted
    · rw [hfile, hdeclared]
      rfl
  · have hlong : longZeroDisk.resolve outerSource = .ok outerSource :=
      Disk.resolve_eq_self (by show ∀ n ∈ ["p", "t", "b.js"], IsName n; decide)
        linkFree_longZeroDisk rfl
    refine ⟨nestedSettings, nestedScanner, longZeroDisk, nestedDisk, outerSource, _,
      ofSettings_nestedDisk, ?_, rfl, ?_, update_of_overlong hlong haccepted overlong?_longZeroDisk⟩
    · simp [longZeroDisk, Node.linkCount, Node.linkCountIn]
    · rw [accepts?, hlong]
      exact congrArg Except.ok haccepted

end Scanner

end ProbeKit
