import ProbeKit.Proofs.Disk.Move
import ProbeKit.Proofs.Scan.Rescan
import ProbeKit.Proofs.Workspace.Built
import ProbeKit.Watch.Event

/-!
# Projects that are watched

`Watched` is a project whose roots keep apart and whose build command leaves the sources and the
outputs alone.  `Watched.Holds` says what stays true of its disk throughout a session, and
`Watched.Edit` what someone who works on the project may do to the disk, with the report that the
file system makes of it.
-/

namespace ProbeKit

open Disk (IsName)

/-! ### Projects -/

/-- The paths that an edit may be about, in words of their own. -/
structure Path.Proper (p : Path) : Prop where
  /-- The path begins at the root. -/
  anchor : p.anchor = .root
  /-- Its names are proper. -/
  names : ∀ n ∈ p.names, IsName n
  /-- Its names can be read back from its text. -/
  clean : p.Clean

/-- A notice is about some paths, which it names by their texts. -/
structure Notice.About (n : Notice) (paths : List Path) : Prop where
  /-- The names are the texts of the paths. -/
  names : n.names = paths.map Path.text
  /-- The paths are proper ones. -/
  proper : ∀ p ∈ paths, p.Proper
  /-- The kind is one that a session knows. -/
  kind : n.kind ∈ [.add, .change, .unlink, .raw]

/-- A project that is watched. -/
structure Watched where
  /-- The settings. -/
  settings : Settings
  /-- The scanner, whatever it has found so far. -/
  scanner : Scanner
  /-- The build tool. -/
  tool : Tool
  /-- No root lies inside another. -/
  rootsApart : scanner.RootsApart

namespace Watched

/-- A notice is about paths none of which is a root, so it can be told which of them name
sources. -/
structure Reports (P : Watched) (n : Notice) (paths : List Path) : Prop extends n.About paths where
  /-- No path is a root. -/
  roots : ∀ p ∈ paths, p ∉ P.scanner.roots

/-- What is true of the disk throughout a session. -/
structure Holds (P : Watched) (d : Disk) : Prop where
  /-- The disk is tidy. -/
  tidy : P.scanner.Tidy d
  /-- The outputs keep out of each other's way. -/
  outputs : P.settings.OutputsApart d
  /-- Outputs are no sources. -/
  sources : ∀ p, P.scanner.Sees p → ∀ q, P.settings.IsOutput q → d.Apart p q
  /-- The log is no source. -/
  log : ∀ p, P.scanner.Sees p → d.NotHeld p

/-- Someone else changes the disk and leaves the sources and the outputs alone. -/
structure Leaves (P : Watched) (d d' : Disk) : Prop where
  /-- What is true throughout a session stays true. -/
  holds : P.Holds d'
  /-- The sources declare what they declared. -/
  declared : ∀ p, P.scanner.Sees p → Scanner.reading? d' p = Scanner.reading? d p
  /-- The manifest reads as before. -/
  manifest : d'.read? P.settings.manifestPath = d.read? P.settings.manifestPath

/-- The build command leaves the sources and the outputs alone. -/
def LeavesAlone (P : Watched) : Prop :=
  ∀ d d' status, P.tool.start P.settings.command P.settings.root d = .ok (d', status) →
    P.Holds d → P.Leaves d d'

/-- A path that whoever works on the project may use: no output, and not above the log. -/
structure Editable (P : Watched) (d : Disk) (p : Path) : Prop where
  /-- The path is a proper one. -/
  proper : p.Proper
  /-- It is no output. -/
  outputs : ∀ q, P.settings.IsOutput q → d.Apart p q
  /-- The log is not at it or below it. -/
  log : ∀ place, d.held = some place → ¬p.names <+: place

/-- What someone who works on the project does to the disk, with the report of the file system. -/
inductive Edit (P : Watched) (d : Disk) : NativeReport → Disk → Prop where
  /-- A file is written, and its directory is made if it is not there. -/
  | write {p : Path} {bytes : ByteArray} {kind : NativeKind} {d₁ d₂ : Disk}
      (hp : P.Editable d p) (hkind : kind = .created ∨ kind = .modified)
      (hroom : d.ensureDirectories p.parent = .ok d₁) (hwrite : d₁.write p bytes = .ok d₂) :
      Edit P d ⟨kind, p.text, "", false⟩ d₂
  /-- A file is removed. -/
  | delete {p : Path} {bytes : ByteArray} (hp : P.Editable d p)
      (hfile : d.read? p = some bytes) : Edit P d ⟨.deleted, p.text, "", false⟩ (d.remove p)
  /-- A file is renamed, and takes the place of another one if there is one. -/
  | rename {p q : Path} {bytes : ByteArray} (hp : P.Editable d p) (hq : P.Editable d q)
      (hfile : d.read? p = some bytes) (hroom : d.hasDirectory q.parent = true)
      (htarget : d.hasDirectory q = false) :
      Edit P d ⟨.moved, p.text, q.text, false⟩ (d.rename p q)

variable {P : Watched} {d d' : Disk} {paths : Path → Prop} {p q : Path}

/-! ### What stays true -/

theorem Editable.notHeld (h : P.Editable d p) (hd : P.Holds d) : d.NotHeld p := by
  intro place hhome hheld
  have habs := Scanner.absoluteNames_of_root d h.proper.anchor
  rw [Disk.home?_of_linkFree (habs ▸ h.proper.names) hd.tidy.linkFree, habs] at hhome
  exact h.log place hheld (Option.some.inj hhome ▸ List.prefix_refl _)

namespace Holds

theorem home?_eq (h : P.Holds d) (hanchor : p.anchor = .root) (hnames : ∀ n ∈ p.names, IsName n) :
    d.home? p = some p.names := by
  have habs := Scanner.absoluteNames_of_root d hanchor
  rw [Disk.home?_of_linkFree (habs ▸ hnames) h.tidy.linkFree, habs]

/-- Different proper paths lead to different places. -/
theorem apart_iff (h : P.Holds d) (hp : p.anchor = .root) (hq : q.anchor = .root)
    (hpn : ∀ n ∈ p.names, IsName n) (hqn : ∀ n ∈ q.names, IsName n) : d.Apart p q ↔ p ≠ q := by
  have hpq : p.names = q.names ↔ p = q := by
    obtain ⟨pa, pn⟩ := p
    obtain ⟨qa, qn⟩ := q
    simp_all
  unfold Disk.Apart
  rw [h.home?_eq hp hpn, h.home?_eq hq hqn]
  constructor
  · intro hapart heq
    exact hapart _ rfl (congrArg some (hpq.2 heq).symm)
  · rintro hne place hplace heq
    obtain rfl := Option.some.inj hplace
    exact hne (hpq.1 (Option.some.inj heq).symm)

theorem file?_eq_read? (h : P.Holds d) (hanchor : p.anchor = .root)
    (hnames : ∀ n ∈ p.names, IsName n) : d.read? p = d.file? p := by
  refine Option.ext fun bytes => ?_
  rw [h.tidy.read?_eq_some_iff hanchor hnames, Disk.file?_eq_some_iff, h.home?_eq hanchor hnames]
  simp

/-- A source declares the same while others are written. -/
theorem reading?_eq (h : P.Holds d) (hw : d.Writes paths d') (hp : P.scanner.Sees p)
    (hpaths : ∀ q, paths q → d.Apart p q) : Scanner.reading? d' p = Scanner.reading? d p := by
  have hplain := h.file?_eq_read? hp.anchor hp.names
  rw [Scanner.reading?, Scanner.reading?, hw.read?_eq h.tidy.isDir hplain (h.log p hp) hpaths]

/-- **All of this stays true while outputs are written and files are edited.** -/
theorem of_writes (h : P.Holds d) (hw : d.Writes paths d')
    (hpaths : ∀ q, paths q → P.settings.IsOutput q ∨ q.Proper) : P.Holds d' := by
  refine ⟨?_, h.outputs.of_writes hw, fun p hp q hq => hw.apart (h.sources p hp q hq),
    fun p hp => hw.notHeld (h.log p hp)⟩
  refine ⟨hw.isDir_top h.tidy.isDir, h.tidy.linkFree.of_keeps hw.keeps, hw.named h.tidy.named,
    h.tidy.anchor, h.tidy.names, fun r hr => hw.keeps.dirs _ (h.tidy.roots r hr), ?_⟩
  intro p hp hdeclared
  by_cases hself : paths p ∧ p.Clean
  · exact hself.2
  · refine h.tidy.clean p hp ?_
    rwa [h.reading?_eq hw hp fun q hq => ?_] at hdeclared
    rcases hpaths q hq with houtput | hproper
    · exact h.sources p hp q houtput
    · rw [h.apart_iff hp.anchor hproper.anchor hp.names hproper.names]
      rintro rfl
      exact hself ⟨hq, hproper.clean⟩

end Holds

/-! ### Edits -/

theorem isEmpty_text (hp : p.Proper) : p.text.isEmpty = false := by
  have htext : p.text = "/" ++ "/".intercalate p.names := by
    rw [Path.text, hp.anchor]
    rfl
  rw [← Bool.not_eq_true, String.isEmpty_iff, htext]
  intro h
  have hlength := congrArg String.length h
  rw [String.length_append] at hlength
  exact absurd hlength (by simp)

theorem Holds.hasDirectory_eq (h : P.Holds d) (hanchor : p.anchor = .root)
    (hnames : ∀ n ∈ p.names, IsName n) :
    d.hasDirectory p = true ↔ d.top.view p.names = some .dir := by
  have habs := Scanner.absoluteNames_of_root d hanchor
  rw [Disk.hasDirectory_of_linkFree (habs ▸ hnames) h.tidy.linkFree h.tidy.isDir, habs, Node.view]
  rcases d.top.at? p.names with _ | (_ | _ | _) <;> simp [Node.isDir, Node.mark]

/-- A root is a directory throughout a session. -/
theorem Holds.not_mem_roots (h : P.Holds d) (hview : d.top.view p.names ≠ some .dir) :
    p ∉ P.scanner.roots := fun hp => hview (h.tidy.roots p hp)

theorem Holds.not_mem_roots_of_read? (h : P.Holds d) (hp : p.Proper) {bytes : ByteArray}
    (hread : d.read? p = some bytes) : p ∉ P.scanner.roots := by
  refine h.not_mem_roots ?_
  rw [(h.tidy.read?_eq_some_iff hp.anchor hp.names).1 hread]
  nofun

namespace Edit

variable {r : NativeReport}

theorem writes_rename (h : P.Holds d) {bytes : ByteArray} (hp : P.Editable d p)
    (hq : P.Editable d q) (hfile : d.read? p = some bytes)
    (hroom : d.hasDirectory q.parent = true) (htarget : d.hasDirectory q = false) :
    d.Writes (fun r => r = p ∨ r = q) (d.rename p q) := by
  have hpabs := Scanner.absoluteNames_of_root d hp.proper.anchor
  have hqabs := Scanner.absoluteNames_of_root d hq.proper.anchor
  have hpnames := hp.proper.names
  have hqnames := hq.proper.names
  have hview := (h.tidy.read?_eq_some_iff hp.proper.anchor hpnames).1 hfile
  have hparent : d.top.view q.names.dropLast = some .dir :=
    (h.hasDirectory_eq (p := q.parent) hq.proper.anchor
      fun n hn => hqnames n (List.dropLast_subset _ hn)).1 hroom
  have hdir : d.top.view q.names ≠ some .dir := by
    rw [ne_eq, ← h.hasDirectory_eq hq.proper.anchor hqnames, htarget]
    exact Bool.false_ne_true
  rw [← hpabs] at hview
  refine (Disk.writes_rename ?_ ?_ h.tidy.linkFree h.tidy.isDir hview ?_ ?_ ?_).1
  · rw [hpabs]
    exact hpnames
  · rw [hqabs]
    exact hqnames
  · rw [hqabs]
    exact fun _ => hparent
  · rw [hqabs]
    exact hdir
  · rw [hpabs]
    exact hp.log

/-- **What an edit does**: it changes files that are free to be edited, and the notice that it makes
is about all of them and about no root; after the notice of a removal the files are gone. -/
theorem exists_notice (he : P.Edit d r d') (h : P.Holds d) :
    ∃ n paths, r.notice? = some n ∧ P.Reports n paths ∧ (∀ p ∈ paths, P.Editable d p) ∧
      d.Writes (· ∈ paths) d' ∧
      (n.kind = .unlink → ∀ p ∈ paths, Scanner.reading? d' p = none) := by
  cases he with
  | @write p bytes kind d₁ _ hp hkind hroom hwrite =>
    have h₁ := Disk.writes_ensureDirectories h.tidy.isDir hroom
    -- Only the file itself is written: the directories above it are no files.
    obtain ⟨h₂, hread⟩ := Disk.writes_write (h₁.isDir_top h.tidy.isDir) hwrite
    have hw : d.Writes (· ∈ [p]) d' :=
      (h₁.mono fun _ hq => hq.elim).trans (h₂.mono fun q hq => by simp [hq])
    have hafter := h.of_writes hw fun q hq => .inr (List.mem_singleton.1 hq ▸ hp.proper)
    have hroot := hafter.not_mem_roots_of_read? hp.proper hread
    rcases hkind with rfl | rfl
    · exact ⟨⟨.add, [p.text]⟩, [p], rfl, ⟨⟨rfl, by simpa using hp.proper, by simp⟩,
        by simpa using hroot⟩, by simpa using hp, hw, fun h => by cases h⟩
    · exact ⟨⟨.change, [p.text]⟩, [p], rfl, ⟨⟨rfl, by simpa using hp.proper, by simp⟩,
        by simpa using hroot⟩, by simpa using hp, hw, fun h => by cases h⟩
  | @delete p bytes hp hfile =>
    have habs := Scanner.absoluteNames_of_root d hp.proper.anchor
    have hnames := hp.proper.names
    have hview := (h.tidy.read?_eq_some_iff hp.proper.anchor hnames).1 hfile
    have hroot := h.not_mem_roots_of_read? hp.proper hfile
    rw [← habs] at hnames hview
    obtain ⟨hw, hgone⟩ := Disk.writes_remove hnames h.tidy.linkFree h.tidy.isDir hview
    refine ⟨⟨.unlink, [p.text]⟩, [p], rfl, ⟨⟨rfl, by simpa using hp.proper, by simp⟩,
      by simpa using hroot⟩, by simpa using hp, hw.mono fun q hq => by simp [hq], fun _ q hq => ?_⟩
    obtain rfl := List.mem_singleton.1 hq
    -- Behind the removal the disk is as tidy as before, so what is gone is not declared.
    have hafter := h.of_writes hw fun q hq => .inr (hq ▸ hp.proper)
    have hread : (d.remove q).read? q = none := by
      refine Option.eq_none_iff_forall_ne_some.2 fun bytes => ?_
      rw [ne_eq, hafter.tidy.read?_eq_some_iff hp.proper.anchor hp.proper.names, ← habs, hgone]
      simp
    rw [Scanner.reading?, hread]
    rfl
  | @rename p q bytes hp hq hfile hroom htarget =>
    have hdir : d.top.view q.names ≠ some .dir := by
      rw [ne_eq, ← h.hasDirectory_eq hq.proper.anchor hq.proper.names, htarget]
      exact Bool.false_ne_true
    refine ⟨⟨.raw, [p.text, q.text]⟩, [p, q], ?_, ⟨⟨rfl, ?_, by simp⟩, ?_⟩, ?_, ?_,
      fun h => by cases h⟩
    · simp [NativeReport.notice?, isEmpty_text hp.proper, isEmpty_text hq.proper]
    · simpa using ⟨hp.proper, hq.proper⟩
    · simpa using ⟨h.not_mem_roots_of_read? hp.proper hfile, h.not_mem_roots hdir⟩
    · simpa using ⟨hp, hq⟩
    · exact (writes_rename h hp hq hfile hroom htarget).mono fun r hr => by simpa using hr

end Edit

end Watched

end ProbeKit
