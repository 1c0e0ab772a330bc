import ProbeKit.Proofs.Workspace.Files

/-!
# Opening a project

To open a project writes no file (`Workspace.noted_openUp`), and what is taken to be built last is
what the sidecar of the manifest records (`Workspace.openUp_ok`).
-/

namespace ProbeKit

open Act
open Disk (MayWrite)

/-- A desk where nothing but the journal has grown. -/
structure Desk.Noted (d d' : Desk) : Prop where
  /-- The build tool stays. -/
  tool : d'.tool = d.tool
  /-- Nothing but the log is written. -/
  disk : MayWrite (fun _ => False) d.disk d'.disk

namespace Desk.Noted

theorem refl (d : Desk) : Noted d d := ⟨rfl, .refl _ _⟩

theorem trans {a b c : Desk} (h : Noted a b) (h' : Noted b c) : Noted a c :=
  ⟨h'.tool.trans h.tool, h.disk.trans h'.disk⟩

instance : Std.Refl Noted := ⟨refl⟩

instance : Trans Noted Noted Noted := ⟨trans⟩

end Desk.Noted

open Desk (Noted)

theorem noted_note (level : Level) (speaker message : String) :
    Relates Noted (note level speaker message) :=
  fun d => ⟨rfl, d.mayWrite_note _⟩

namespace Source

section
variable {R : Desk → Desk → Prop} [Std.Refl R] [Trans R R R]
  (hnote : ∀ level speaker message, Relates R (note level speaker message)) (s : Settings)
include hnote

theorem relates_ofPlugin (path : Path) : Relates R (ofPlugin s path) := by
  unfold ofPlugin
  split
  · exact relates_bind (relates_throw _) fun _ => relates_bind relates_get fun d =>
      relates_bind (relates_ofExcept _ _) fun made => by
        cases made with
        | some recipe => exact relates_pure _
        | none => exact relates_bind (hnote _ _ _) fun _ => relates_pure _
  · exact relates_bind relates_get fun d => relates_bind (relates_ofExcept _ _) fun made => by
      cases made with
      | some recipe => exact relates_pure _
      | none => exact relates_bind (hnote _ _ _) fun _ => relates_pure _

theorem relates_beside : Relates R (beside s) := by
  unfold beside
  split
  · exact relates_pure _
  · refine relates_bind relates_get fun d => relates_bind (relates_ofExcept _ _) fun node => ?_
    split
    · exact relates_bind (relates_ofPlugin hnote s _) fun _ => relates_pure _
    · exact relates_bind (hnote _ _ _) fun _ => relates_pure _

/-- **To choose the source of the manifest does no more than to enter records in the journal.** -/
theorem relates_resolve (rescan : Bool) : Relates R (resolve s rescan) := by
  unfold resolve
  split
  · exact relates_beside hnote s
  · refine relates_bind relates_get fun d => relates_bind (relates_ofExcept _ _) fun node => ?_
    split
    · exact relates_beside hnote s
    · split
      · exact relates_bind (hnote _ _ _) fun _ => relates_pure _
      · exact relates_bind (hnote _ _ _) fun _ => relates_pure _
      · exact relates_throw _
      · exact relates_bind (hnote _ _ _) fun _ => relates_beside hnote s

end

/-- The source is a file that was there before. -/
def Existing : Source → Prop
  | .file .. => True
  | .broken .. => True
  | _ => False

theorem not_existing_of_ofPlugin {s : Settings} {path : Path} {source : Source} {d d' : Desk}
    (h : (ofPlugin s path).on d = (.ok (some source), d')) : ¬source.Existing := by
  unfold ofPlugin at h
  split at h
  · cases h
  change ((get : Act Desk Desk) >>= _).on d = _ at h
  rw [on_get_bind] at h
  obtain ⟨made, d₁, -, h⟩ := on_bind_eq_ok.1 h
  cases made with
  | some recipe =>
    cases h
    exact id
  | none =>
    obtain ⟨_, d₂, -, h⟩ := on_bind_eq_ok.1 h
    cases h

/-- **Beside an existing file there are plugins and scans only.** -/
theorem not_existing_of_beside {s : Settings} {source : Source} {d d' : Desk}
    (h : (beside s).on d = (.ok source, d')) : ¬source.Existing := by
  unfold beside at h
  split at h
  · cases h
    exact id
  rw [on_get_bind] at h
  obtain ⟨node, d₁, -, h⟩ := on_bind_eq_ok.1 h
  split at h
  · obtain ⟨made, d₂, hmade, h⟩ := on_bind_eq_ok.1 h
    cases h
    cases made with
    | none => exact id
    | some source => exact not_existing_of_ofPlugin hmade
  · obtain ⟨_, d₂, -, h⟩ := on_bind_eq_ok.1 h
    cases h
    exact id

/-- A broken source comes from a broken file. -/
theorem existing?_of_resolve_broken {s : Settings} {rescan : Bool} {path : Path}
    {flaw : Option Manifest.Flaw} {d d' : Desk}
    (h : (resolve s rescan).on d = (.ok (.broken path flaw), d')) :
    existing? d.room d.disk s = some (.error (.broken flaw)) := by
  unfold resolve at h
  cases rescan with
  | true => exact absurd trivial (not_existing_of_beside h)
  | false =>
    change ((get : Act Desk Desk) >>= _).on d = _ at h
    rw [on_get_bind] at h
    obtain ⟨node, d₁, hlook, h⟩ := on_bind_eq_ok.1 h
    obtain ⟨-, rfl⟩ := on_ofExcept_eq_ok.1 hlook
    split at h
    · exact absurd trivial (not_existing_of_beside h)
    split at h
    · obtain ⟨_, _, -, h⟩ := on_bind_eq_ok.1 h
      cases h
    · obtain ⟨_, _, -, h⟩ := on_bind_eq_ok.1 h
      cases h
      assumption
    · cases h
    · obtain ⟨_, _, -, h⟩ := on_bind_eq_ok.1 h
      exact absurd trivial (not_existing_of_beside h)

end Source

/-- The file of the manifest does not spell a manifest that no file can hold. -/
def Settings.FileWhole (s : Settings) (d : Disk) : Prop :=
  ∀ bytes, d.file? s.manifestPath = some bytes →
    ∀ room, Manifest.parseBytes? room bytes ≠ some (.error (.broken none))

namespace Workspace

theorem noted_openScanner (s : Settings) : Relates Noted (openScanner s) :=
  relates_bind relates_get fun _ => relates_ofExcept _ _

/-- **Opening a project writes no file**, and what was built last is what the sidecar says. -/
theorem openUp_ok {s : Settings} {rescan force : Bool} {d d' : Desk} {w : Workspace}
    (h : (openUp s rescan force).on d = (.ok w, d')) :
    Noted d d' ∧ w.desk = d' ∧ w.settings = s ∧ w.force = force ∧
      ∃ own, Sidecar.path s.manifestPath = .ok own ∧
        w.detector = Detector.ofSidecar (d'.disk.read? own) := by
  unfold openUp at h
  obtain ⟨source, d₁, h₁, h⟩ := on_bind_eq_ok.1 h
  obtain ⟨scanner, d₂, h₂, h⟩ := on_bind_eq_ok.1 h
  obtain ⟨own, d₃, h₃, h⟩ := on_bind_eq_ok.1 h
  rw [on_get_bind] at h
  obtain ⟨recorded, d₄, h₄, hmade⟩ := on_bind_eq_ok.1 h
  obtain ⟨hown, rfl⟩ := on_ofExcept_eq_ok.1 h₃
  obtain ⟨hread, rfl⟩ := on_ofExcept_eq_ok.1 h₄
  have hnoted : Noted d d₄ := by
    have hsource := Source.relates_resolve noted_note s rescan d
    have hscanner := noted_openScanner s d₁
    rw [h₁] at hsource
    rw [h₂] at hscanner
    exact hsource.trans hscanner
  have hrecorded : recorded = d₄.disk.read? own := by
    rw [Disk.readIfAny_eq] at hread
    split at hread
    · cases hread
    · exact (Except.ok.inj hread).symm
  cases hmade
  exact ⟨hnoted, rfl, rfl, rfl, own, hown, by rw [hrecorded]⟩

theorem whole_of_openUp {s : Settings} {rescan force : Bool} {d d' : Desk} {w : Workspace}
    (htop : d.disk.top.isDir = true) (hwhole : s.FileWhole d.disk)
    (h : (openUp s rescan force).on d = (.ok w, d')) : w.Whole := by
  unfold openUp at h
  obtain ⟨source, d₁, hsource, h⟩ := on_bind_eq_ok.1 h
  obtain ⟨_, d₂, -, h⟩ := on_bind_eq_ok.1 h
  obtain ⟨_, d₃, -, h⟩ := on_bind_eq_ok.1 h
  rw [on_get_bind] at h
  obtain ⟨_, d₄, -, h⟩ := on_bind_eq_ok.1 h
  cases h
  rintro path rfl
  obtain ⟨bytes, hread, hbroken⟩ :=
    Option.bind_eq_some_iff.1 (Source.existing?_of_resolve_broken hsource)
  exact hwhole bytes (Disk.file?_of_read? htop hread) d.room hbroken

/-- A project that cannot be opened is left alone as well. -/
theorem noted_openUp (s : Settings) (rescan force : Bool) :
    Relates Noted (openUp s rescan force) :=
  relates_bind (Source.relates_resolve noted_note s rescan) fun _ =>
    relates_bind (noted_openScanner s) fun _ =>
      relates_bind (relates_ofExcept _ _) fun _ =>
        relates_bind relates_get fun _ => relates_bind (relates_ofExcept _ _) fun _ => relates_pure _

end Workspace

end ProbeKit
