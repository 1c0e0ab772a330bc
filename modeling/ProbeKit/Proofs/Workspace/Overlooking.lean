import ProbeKit.Proofs.Act
import ProbeKit.Proofs.Results
import ProbeKit.Workspace.Cycle

/-!
# What making a manifest leaves alone

To make the manifest, and to take in an event, a workspace changes what it remembers of its sources and
enters records in the journal.  So a relation between workspaces that looks at nothing of that
(`Workspace.Overlooks`) holds of every run of these actions, however it ends
(`Workspace.Overlooks.relates_currentManifest`, `Workspace.Overlooks.relates_applyEvent`).  Whatever an
action like this leaves as it was is one such relation.
-/

namespace ProbeKit

open Act

/-! ### Scanners -/

namespace Scanner

variable {s s' : Scanner} {d : Disk} {p : Path} {records : List Record}

/-- A scan replaces nothing but the catalog. -/
theorem exists_catalog_of_rescan (h : s.rescan d = (.ok s', records)) :
    ∃ catalog, s' = { s with catalog } := by
  unfold rescan at h
  dsimp only at h
  split at h
  · cases h
  split at h
  · cases h
  · cases h
    exact ⟨_, rfl⟩

/-- Reading one file again replaces nothing but the catalog. -/
theorem exists_catalog_of_update {updated : Bool} (h : s.update d p = .ok (updated, s', records)) :
    ∃ catalog, s' = { s with catalog } := by
  unfold update at h
  obtain ⟨_, -, h⟩ := bind_eq_ok.1 h
  obtain ⟨_, -, h⟩ := bind_eq_ok.1 h
  split at h
  · cases h
    exact ⟨_, rfl⟩
  split at h
  · cases h
    exact ⟨_, rfl⟩
  · cases h
  · cases h
    exact ⟨_, rfl⟩

/-- Forgetting a file replaces nothing but the catalog. -/
theorem exists_catalog_of_forget {known : Bool} (h : s.forget d p = .ok (known, s')) :
    ∃ catalog, s' = { s with catalog } := by
  unfold forget at h
  obtain ⟨_, -, h⟩ := bind_eq_ok.1 h
  cases h
  exact ⟨_, rfl⟩

end Scanner

namespace Workspace

/-! ### Runs of the actions -/

variable {w : Workspace}

theorem on_noteAll (records : List Record) (w : Workspace) :
    (onDesk (noteAll records)).on w = (.ok (), { w with desk := w.desk.noteAll records }) := by
  rw [onDesk, on_within]
  rfl

/-- The sources are read again as the scanner reads them. -/
theorem on_rescan {scanner : Scanner} {records : List Record}
    (h : w.scanner.rescan w.desk.disk = (.ok scanner, records)) :
    rescan.on w = (.ok (), { w with scanner, desk := w.desk.noteAll records }) := by
  unfold rescan
  rw [on_get_bind, h, on_bind_of_ok (on_noteAll _ _)]
  rfl

theorem on_update {p : Path} {updated : Bool} {scanner : Scanner} {records : List Record}
    (h : w.scanner.update w.desk.disk p = .ok (updated, scanner, records)) :
    (update p).on w = (.ok updated, { w with scanner, desk := w.desk.noteAll records }) := by
  unfold update
  rw [on_get_bind, h, on_bind_of_ok (on_ofExcept_ok _ _ _), on_set_bind,
    on_bind_of_ok (on_noteAll _ _)]
  rfl

theorem on_forget {p : Path} {known : Bool} {scanner : Scanner}
    (h : w.scanner.forget w.desk.disk p = .ok (known, scanner)) :
    (forget p).on w = (.ok known, { w with scanner }) := by
  unfold forget
  rw [on_get_bind, h, on_bind_of_ok (on_ofExcept_ok _ _ _), on_set_bind]
  rfl

theorem on_scanned (w : Workspace) :
    scanned.on w =
      (.ok (Manifest.ofAggregates w.settings.providerValue w.settings.moduleValue
        w.scanner.catalog.aggregates), { w with aggregates := w.scanner.catalog.aggregates }) := rfl

theorem on_currentManifest_of_scan (h : w.source = .scan) (again : Bool) :
    (currentManifest again).on w =
      ((if again then rescan else pure ()) >>= fun _ => scanned >>= sound).on w := by
  unfold currentManifest
  rw [on_get_bind, h]
  cases again <;> rfl

theorem on_currentManifest_of_not_scan (h : w.source ≠ .scan) (again : Bool) :
    (currentManifest again).on w =
      (Act.ofExcept id w.source.load.1 >>= fun made =>
        match made with
        | some m => sound m
        | none => scanned >>= sound).on
        { w with aggregates := [], source := w.source.load.2 } := by
  unfold currentManifest
  rw [on_get_bind]
  cases hs : w.source with
  | scan => exact absurd hs h
  | file => rfl
  | broken => rfl
  | plugin => rfl

/-- The manifest of a source can be written, or it has a flaw that is found before. -/
def Whole (w : Workspace) : Prop := ∀ path, w.source ≠ .broken path none

/-- To load a source makes no difference to that. -/
theorem Whole.load (h : w.Whole) : { w with aggregates := [], source := w.source.load.2 }.Whole := by
  intro path
  have hpath := h path
  show w.source.load.2 ≠ _
  cases hs : w.source with
  | scan => nofun
  | file => nofun
  | broken =>
    rw [hs] at hpath
    exact hpath
  | plugin => nofun

/-- A manifest that could be made can be written. -/
theorem whole_of_currentManifest {again : Bool} {m : Manifest} {w' : Workspace}
    (h : (currentManifest again).on w = (.ok m, w')) : w.Whole := by
  intro path hbroken
  rw [on_currentManifest_of_not_scan (by rw [hbroken]; nofun), hbroken] at h
  cases h

theorem on_manifestToWrite_of_whole (h : w.Whole) :
    manifestToWrite.on w = (currentManifest true).on w := by
  unfold manifestToWrite
  rw [on_get_bind]
  split
  · exact absurd ‹_› (h _)
  · rfl

theorem on_manifestToWrite_of_broken {path : Path} (h : w.source = .broken path none) :
    manifestToWrite.on w = spoilManifest.on w := by
  unfold manifestToWrite
  rw [on_get_bind, h]

theorem spoilManifest_ne_ok {m : Manifest} {w' : Workspace} : spoilManifest.on w ≠ (.ok m, w') := by
  intro h
  obtain ⟨_, _, -, h⟩ := on_bind_eq_ok.1 h
  obtain ⟨_, _, -, h⟩ := on_bind_eq_ok.1 h
  obtain ⟨_, _, -, h⟩ := on_bind_eq_ok.1 h
  obtain ⟨_, _, -, h⟩ := on_bind_eq_ok.1 h
  cases h

/-- Only a manifest that can be made is written. -/
theorem on_currentManifest_of_manifestToWrite {m : Manifest} {w' : Workspace}
    (h : manifestToWrite.on w = (.ok m, w')) : (currentManifest true).on w = (.ok m, w') := by
  rw [← on_manifestToWrite_of_whole fun path hbroken => ?_]
  · exact h
  · rw [on_manifestToWrite_of_broken hbroken] at h
    exact spoilManifest_ne_ok h

theorem on_compareAll {m : Manifest} {snapshot : Option (List String)}
    (h : Sidecar.snapshot w.desk.room w.desk.disk (some w.settings.snapshotPath) = .ok snapshot) :
    (compareAll m).on w =
      (.ok (w.detector.compare m snapshot w.force).1,
        { w with
          desk := w.desk.noteAll (Detector.snapshotRecords m snapshot)
          detector := w.detector.observe m.digest }) := by
  unfold compareAll
  rw [on_get_bind, h, on_bind_of_ok (on_ofExcept_ok _ _ _), on_bind_of_ok (on_noteAll _ _)]
  rfl

/-! ### What such relations hold of -/

/-- A relation between workspaces that looks neither at what they remember of their sources nor at the
journal. -/
structure Overlooks (R : Workspace → Workspace → Prop) : Prop where
  /-- Other files may be known. -/
  catalog : ∀ w catalog, R w { w with scanner := { w.scanner with catalog } }
  /-- Other aggregates may be remembered. -/
  aggregates : ∀ w aggregates, R w { w with aggregates }
  /-- What is no scan may be loaded. -/
  source : ∀ w, w.source ≠ .scan → R w { w with aggregates := [], source := w.source.load.2 }
  /-- Records may be entered. -/
  records : ∀ w records, R w { w with desk := w.desk.noteAll records }

namespace Overlooks

variable {R : Workspace → Workspace → Prop} (h : Overlooks R)
include h

theorem relates_noteAll (records : List Record) : Relates R (onDesk (noteAll records)) := by
  intro w
  rw [on_noteAll]
  exact h.records w records

theorem relates_say (level : Level) (speaker message : String) :
    Relates R (say level speaker message) := h.relates_noteAll [⟨level, speaker, message⟩]

theorem relates_scanned : Relates R scanned := by
  intro w
  rw [on_scanned]
  exact h.aggregates w _

theorem relates_rescan [Trans R R R] : Relates R rescan := by
  intro w
  have hnoted := h.records w
  rcases hrescan : w.scanner.rescan w.desk.disk with ⟨e | scanner, records⟩
  · unfold rescan
    rw [on_get_bind, hrescan, on_bind_of_ok (on_noteAll _ _)]
    exact hnoted records
  · obtain ⟨catalog, rfl⟩ := Scanner.exists_catalog_of_rescan hrescan
    rw [on_rescan hrescan]
    exact Trans.trans (hnoted records) (h.catalog { w with desk := w.desk.noteAll records } catalog)

variable [Std.Refl R]

omit h in
theorem relates_sound (m : Manifest) : Relates R (sound m) := by
  unfold sound
  split
  · exact relates_pure m
  · exact relates_throw _

theorem relates_forget (p : Path) : Relates R (forget p) := by
  intro w
  cases hforget : w.scanner.forget w.desk.disk p with
  | error e =>
    unfold forget
    rw [on_get_bind, hforget]
    exact Std.Refl.refl w
  | ok read =>
    obtain ⟨known, scanner⟩ := read
    obtain ⟨catalog, rfl⟩ := Scanner.exists_catalog_of_forget hforget
    rw [on_forget hforget]
    exact h.catalog w catalog

variable [Trans R R R]

theorem relates_update (p : Path) : Relates R (update p) := by
  intro w
  cases hupdate : w.scanner.update w.desk.disk p with
  | error e =>
    unfold update
    rw [on_get_bind, hupdate]
    exact Std.Refl.refl w
  | ok read =>
    obtain ⟨updated, scanner, records⟩ := read
    obtain ⟨catalog, rfl⟩ := Scanner.exists_catalog_of_update hupdate
    rw [on_update hupdate]
    exact Trans.trans (h.catalog w catalog)
      (h.records { w with scanner := { w.scanner with catalog } } records)

/-- **Making the manifest** is overlooked, whether or not it can be made. -/
theorem relates_currentManifest (again : Bool) : Relates R (currentManifest again) := by
  intro w
  by_cases hs : w.source = .scan
  · rw [on_currentManifest_of_scan hs]
    refine relates_bind ?_ (fun _ => relates_bind h.relates_scanned relates_sound) w
    split
    · exact h.relates_rescan
    · exact relates_pure _
  · rw [on_currentManifest_of_not_scan hs]
    refine Trans.trans (s := R) (h.source w hs)
      (relates_bind (relates_ofExcept _ _) (fun made => ?_) _)
    cases made with
    | none => exact relates_bind h.relates_scanned relates_sound
    | some m => exact relates_sound m

/-- So is the manifest that is about to be written, for a relation that does not look at the
disk. -/
theorem relates_manifestToWrite (hdisk : ∀ a : Act Disk Unit, Relates R (onDisk a)) :
    Relates R manifestToWrite := by
  intro w
  unfold manifestToWrite
  rw [on_get_bind]
  split
  · unfold spoilManifest
    rw [on_modify_bind, on_get_bind]
    refine Trans.trans (s := R) (h.aggregates w []) (relates_bind (hdisk _) (fun _ => ?_) _)
    exact relates_bind (hdisk _) fun _ => relates_throw _
  · exact h.relates_currentManifest true w

/-- **Applying an event** is overlooked, whatever the event is about. -/
theorem relates_applyEvent (e : Event) : Relates R (applyEvent e) := by
  unfold applyEvent
  cases e.kind with
  | add => exact relates_bind (h.relates_update e.path) fun _ => relates_pure _
  | change => exact relates_bind (h.relates_update e.path) fun _ => relates_pure _
  | unlink => exact relates_bind (h.relates_forget e.path) fun _ => relates_pure _
  | _ => exact relates_throw _

variable (hobserve : ∀ w digest, R w { w with detector := w.detector.observe digest })
include hobserve

/-- **An event** is overlooked if the digest that was computed last is. -/
theorem relates_absorb (e : Event) : Relates R (absorb e) := by
  unfold absorb
  refine relates_bind (h.relates_applyEvent e) fun _ => ?_
  refine relates_bind (h.relates_currentManifest false) fun m => ?_
  intro w
  rw [on_get_bind, on_set_bind]
  refine Trans.trans (s := R) (hobserve w m.digest) ?_
  split
  · exact relates_bind (h.relates_say _ _ _) (fun _ => relates_pure _) _
  · exact relates_bind (h.relates_say _ _ _) (fun _ => relates_pure _) _

/-- So is a comparison with the last build. -/
theorem relates_compareAll (m : Manifest) : Relates R (compareAll m) := by
  intro w
  cases hsnapshot : Sidecar.snapshot w.desk.room w.desk.disk (some w.settings.snapshotPath) with
  | error e =>
    unfold compareAll
    rw [on_get_bind, hsnapshot]
    exact Std.Refl.refl w
  | ok snapshot =>
    rw [on_compareAll hsnapshot]
    exact Trans.trans (h.records w _)
      (hobserve { w with desk := w.desk.noteAll (Detector.snapshotRecords m snapshot) } m.digest)

end Overlooks

end Workspace

end ProbeKit
