import ProbeKit.Proofs.Disk.LinkFree
import ProbeKit.Proofs.Workspace.Cycle

/-!
# Outputs that keep out of each other's way

The manifest, its sidecar, the sidecars of artifacts and the snapshot are told apart by where their
paths lead.  `Settings.SidecarApart` says so of the sidecar of the manifest, `Settings.RecordsApart`
of all that a build leaves behind; on a disk without links it is a matter of names
(`Settings.recordsApart_of_linkFree`).
-/

namespace ProbeKit

open Act

namespace Settings

/-- The sidecar of the manifest keeps out of the way of the manifest, of the snapshot and of the
log. -/
structure SidecarApart (s : Settings) (d : Disk) : Prop where
  /-- The top is a directory. -/
  isDir : d.top.isDir = true
  /-- The sidecar is not the manifest. -/
  manifest : ∀ own, Sidecar.path s.manifestPath = .ok own → d.Apart own s.manifestPath
  /-- The sidecar is not the snapshot. -/
  snapshot : ∀ own, Sidecar.path s.manifestPath = .ok own → d.Apart own s.snapshotPath
  /-- The sidecar is not the log. -/
  log : ∀ own, Sidecar.path s.manifestPath = .ok own → d.NotHeld own

/-- All records of a build keep out of the way of the manifest and of the log. -/
structure RecordsApart (s : Settings) (d : Disk) : Prop extends SidecarApart s d where
  /-- No record is the manifest. -/
  manifests : ∀ q, s.IsRecord q → d.Apart q s.manifestPath
  /-- No record is the log. -/
  logs : ∀ q, s.IsRecord q → d.NotHeld q

theorem SidecarApart.of_writes {s : Settings} {d d' : Disk} {paths : Path → Prop}
    (h : s.SidecarApart d) (hw : d.Writes paths d') : s.SidecarApart d' :=
  ⟨hw.isDir_top h.isDir, fun own hown => hw.apart (h.manifest own hown),
    fun own hown => hw.apart (h.snapshot own hown), fun own hown => hw.notHeld (h.log own hown)⟩

theorem RecordsApart.of_writes {s : Settings} {d d' : Disk} {paths : Path → Prop}
    (h : s.RecordsApart d) (hw : d.Writes paths d') : s.RecordsApart d' :=
  ⟨h.toSidecarApart.of_writes hw, fun q hq => hw.apart (h.manifests q hq),
    fun q hq => hw.notHeld (h.logs q hq)⟩

end Settings

/-! ### Names of sidecars -/

namespace Sidecar

theorem names_of_beside {p q : Path} {suffix : String} (h : beside p suffix = .ok q) :
    q = p.parent.child (p.name ++ suffix) := by
  unfold beside at h
  split at h
  · cases h
  · exact (Except.ok.inj h).symm

/-- On a disk without links a sidecar stands under its own name. -/
theorem getLast?_of_beside {d : Disk} (hfree : d.top.LinkFree) {p q : Path} {suffix : String}
    (h : beside p suffix = .ok q) (hlong : 2 < suffix.length) {place : List String}
    (hplace : d.home? q = some place) : place.getLast? = some (p.name ++ suffix) := by
  obtain rfl := names_of_beside h
  unfold Disk.home? at hplace
  split at hplace
  · cases hplace
  rw [Disk.leadsTo_of_linkFree hfree] at hplace
  have hlen : 2 < (p.name ++ suffix).length := by
    rw [String.length_append]
    omega
  have hne {t : String} (ht : t.length ≤ 2) : (p.name ++ suffix == t) = false := by
    rw [beq_eq_false_iff_ne]
    rintro rfl
    omega
  have habs : ∃ names, d.absoluteNames (p.parent.child (p.name ++ suffix)) =
      names ++ [p.name ++ suffix] := by
    unfold Disk.absoluteNames
    split
    · exact ⟨_, rfl⟩
    · exact ⟨d.here ++ p.parent.names, by rw [List.append_assoc]; rfl⟩
  obtain ⟨names, habs⟩ := habs
  rw [habs, List.foldl_append, List.foldl_cons, List.foldl_nil, Disk.stepTo, hne (by decide),
    hne (by decide), hne (by decide)] at hplace
  cases hplace
  exact List.getLast?_concat

/-- On a disk without links the sidecars of artifacts keep apart from what is not named like one. -/
theorem apart_of_linkFree {d : Disk} (hfree : d.top.LinkFree) {p q : Path}
    (hnames : ∀ n ∈ d.absoluteNames p, Disk.IsName n)
    (hlast : ∀ name, (d.absoluteNames p).getLast? = some name →
      ¬artifactSuffix.toList <:+ name.toList) (hq : OfArtifact q) : d.Apart q p := by
  intro place hplace hplace'
  obtain ⟨artifact, h⟩ := hq
  have hown := getLast?_of_beside hfree h (by decide) hplace
  rw [Disk.home?_of_linkFree hnames hfree] at hplace'
  cases hplace'
  refine hlast _ hown ?_
  rw [String.toList_append]
  exact List.suffix_append _ _

end Sidecar

theorem Disk.getLast?_absoluteNames (d : Disk) {p : Path} (h : p.names ≠ []) :
    (d.absoluteNames p).getLast? = some p.name := by
  obtain ⟨names, name, hp⟩ := List.eq_nil_or_concat p.names |>.resolve_left h
  rw [List.concat_eq_append] at hp
  unfold absoluteNames Path.name
  split
  · simp [hp]
  · simp [hp]

namespace Settings

/-- **On a disk without links the records of a build keep apart if their names do.** -/
theorem recordsApart_of_linkFree {s : Settings} {d : Disk} (hfree : d.top.LinkFree)
    (htop : d.top.isDir = true) (hheld : d.held = none)
    (hmanifest : ∀ n ∈ d.absoluteNames s.manifestPath, Disk.IsName n)
    (hsnapshot : ∀ n ∈ d.absoluteNames s.snapshotPath, Disk.IsName n)
    (hne : d.absoluteNames s.snapshotPath ≠ d.absoluteNames s.manifestPath)
    (hsidecar : (d.absoluteNames s.snapshotPath).getLast? ≠
      some (s.manifestPath.name ++ Sidecar.suffix))
    (hartifact : ∀ name, (d.absoluteNames s.manifestPath).getLast? = some name →
      ¬Sidecar.artifactSuffix.toList <:+ name.toList) :
    s.RecordsApart d := by
  have hm := Disk.home?_of_linkFree hmanifest hfree
  have hs := Disk.home?_of_linkFree hsnapshot hfree
  have hlog : ∀ q, d.NotHeld q := by
    intro q place _ h
    rw [hheld] at h
    cases h
  -- The name of the sidecar is longer than that of the manifest.
  have hown {own : Path} (h : Sidecar.path s.manifestPath = .ok own) :
      d.Apart own s.manifestPath := by
    intro place hplace hplace'
    have hlast := Sidecar.getLast?_of_beside hfree h (by decide) hplace
    have hnil : s.manifestPath.names ≠ [] := by
      intro hnil
      simp [Sidecar.path, Sidecar.beside, hnil] at h
    rw [hm] at hplace'
    cases hplace'
    rw [Disk.getLast?_absoluteNames d hnil, Option.some.injEq] at hlast
    have hlen := congrArg String.length hlast
    have hpos : 0 < Sidecar.suffix.length := by decide
    rw [String.length_append] at hlen
    omega
  refine ⟨⟨htop, fun own h => hown h, fun own h place hplace hplace' => ?_, fun own _ => hlog own⟩,
    fun q hq => ?_, fun q _ => hlog q⟩
  · rw [hs] at hplace'
    cases hplace'
    exact hsidecar (Sidecar.getLast?_of_beside hfree h (by decide) hplace)
  · rcases hq with (h | h) | rfl
    · exact hown h
    · exact Sidecar.apart_of_linkFree hfree hmanifest hartifact h
    · intro place hplace hplace'
      rw [hs] at hplace
      rw [hm] at hplace'
      exact hne (Option.some.inj (hplace.trans hplace'.symm))

end Settings

end ProbeKit
