import ProbeKit.Proofs.Disk.Change
import ProbeKit.Proofs.Workspace.Overlooking

/-!
# What the actions of a workspace write

Each action of a workspace writes a few files of its own: the manifest, its sidecar, the sidecars of
artifacts and the snapshot.  `Workspace.Writes paths w w'` says that `w'` comes from `w` by writing
the files at some paths, with the settings as they were and no build remembered; every action is
such a change, but for the one that remembers a build.
-/

namespace ProbeKit

open Act

/-! ### Actions on the disk -/

namespace Disk

/-- What may have become of a disk: a change that writes only the files at some paths. -/
def MayWrite (paths : Path → Prop) (d d' : Disk) : Prop := d.top.isDir = true → Writes paths d d'

theorem MayWrite.refl (paths : Path → Prop) (d : Disk) : MayWrite paths d d := fun _ => .refl _ d

theorem MayWrite.trans {paths : Path → Prop} {a b c : Disk} (h : MayWrite paths a b)
    (h' : MayWrite paths b c) : MayWrite paths a c :=
  fun htop => (h htop).trans (h' ((h htop).isDir_top htop))

instance (paths : Path → Prop) : Std.Refl (MayWrite paths) := ⟨MayWrite.refl paths⟩

instance (paths : Path → Prop) : Trans (MayWrite paths) (MayWrite paths) (MayWrite paths) :=
  ⟨MayWrite.trans⟩

theorem MayWrite.mono {paths more : Path → Prop} {d d' : Disk} (h : MayWrite paths d d')
    (hsub : ∀ p, paths p → more p) : MayWrite more d d' := fun htop => (h htop).mono hsub

theorem on_writeText {p : Path} {text : String} {d d' : Disk}
    (h : d.write p (Text.encode text) = .ok d') : (writeText p text).on d = (.ok (), d') := by
  rw [writeText, on_get_bind, h]
  rfl

theorem on_makeRoom {p : Path} {d d' : Disk} (h : d.ensureDirectories p.parent = .ok d') :
    (makeRoom p).on d = (.ok (), d') := by
  rw [makeRoom, on_get_bind, h]
  rfl

theorem writeText_ok {p : Path} {text : String} {d d' : Disk} (htop : d.top.isDir = true)
    (h : (writeText p text).on d = (.ok (), d')) :
    Writes (· = p) d d' ∧ d'.read? p = some (Text.encode text) := by
  simp only [writeText, on_get_bind] at h
  split at h
  · rename_i hw
    cases h
    exact writes_write htop hw
  · cases h

theorem writeText_error {p : Path} {text : String} {d d' : Disk} {f : Fault}
    (h : (writeText p text).on d = (.error f, d')) : d' = d := by
  simp only [writeText, on_get_bind] at h
  split at h <;> cases h
  rfl

theorem relates_writeText (p : Path) (text : String) :
    Relates (MayWrite (· = p)) (writeText p text) := by
  intro d htop
  rcases h : (writeText p text).on d with ⟨f | ⟨⟩, d'⟩
  · rw [writeText_error h]
    exact .refl _ d
  · exact (writeText_ok htop h).1

theorem relates_makeRoom (p : Path) : Relates (MayWrite fun _ => False) (makeRoom p) := by
  intro d htop
  simp only [makeRoom, on_get_bind]
  split
  · rename_i hd
    exact writes_ensureDirectories htop hd
  · exact .refl _ d

end Disk

open Disk (MayWrite)

namespace Sidecar

/-- A path that may be the sidecar of an artifact. -/
def OfArtifact (q : Path) : Prop := ∃ p, beside p artifactSuffix = .ok q

theorem relates_writeBeside (digest : String) (found : List Path) :
    Relates (MayWrite OfArtifact) (writeBeside digest found) := by
  induction found with
  | nil => exact relates_pure _
  | cons p rest ih =>
    unfold writeBeside
    cases hb : beside p artifactSuffix with
    | error f => exact relates_throw f
    | ok target =>
      show Relates _ (Disk.writeText target _ >>= _)
      refine relates_bind ?_ fun _ => relates_bind ih fun _ => relates_pure _
      exact fun d => (Disk.relates_writeText target _ d).mono fun q hq => ⟨p, hq ▸ hb⟩

/-- The sidecars of a project. -/
def Mine (manifest q : Path) : Prop := path manifest = .ok q ∨ OfArtifact q

theorem relates_write (manifest : Path) (digest : String) (root : Path) (patterns : List String) :
    Relates (MayWrite (Mine manifest)) (write manifest digest root patterns) := by
  unfold write
  cases hown : path manifest with
  | error f => exact relates_throw f
  | ok own =>
    show Relates _ (Disk.writeText own _ >>= _)
    refine relates_bind ?_ fun _ => ?_
    · exact fun d => (Disk.relates_writeText own _ d).mono fun q hq => .inl (hq ▸ hown)
    · intro d
      rw [on_get_bind]
      refine relates_bind (relates_ofExcept _ _) (fun found => ?_) d
      refine relates_bind ?_ fun _ => relates_pure _
      exact fun d => (relates_writeBeside digest found d).mono fun q hq => .inr hq

theorem relates_keepSnapshot (file : Path) (m : Manifest) :
    Relates (MayWrite (· = file)) (keepSnapshot (some file) m) := by
  refine relates_bind ?_ fun _ => Disk.relates_writeText file _
  exact fun d => (Disk.relates_makeRoom file d).mono fun _ h => h.elim

end Sidecar

/-- A file that only a build that has ended well should write: the sidecars and the snapshot. -/
def Settings.IsRecord (s : Settings) (q : Path) : Prop :=
  Sidecar.Mine s.manifestPath q ∨ q = s.snapshotPath

/-! ### The journal -/

theorem Desk.mayWrite_note (r : Record) (d : Desk) :
    MayWrite (fun _ => False) d.disk (d.note r).disk := by
  intro _
  show Disk.Writes _ d.disk (d.logged r)
  unfold Desk.logged
  split
  · split
    · exact Disk.writes_appendHeld d.disk _
    · exact .refl _ _
  · exact .refl _ _

theorem Desk.mayWrite_noteAll (records : List Record) (d : Desk) :
    MayWrite (fun _ => False) d.disk (d.noteAll records).disk := by
  unfold Desk.noteAll
  induction records generalizing d with
  | nil => exact .refl _ _
  | cons r rest ih => exact (d.mayWrite_note r).trans (ih _)

/-- What one record leaves as it was, any number of them does. -/
theorem Desk.eq_of_noteAll {α : Type} {f : Desk → α} (h : ∀ d r, f (d.note r) = f d)
    (records : List Record) (d : Desk) : f (d.noteAll records) = f d := by
  unfold Desk.noteAll
  induction records generalizing d with
  | nil => rfl
  | cons r rest ih => exact (ih (d.note r)).trans (h d r)

theorem Desk.tool_noteAll (records : List Record) (d : Desk) :
    (d.noteAll records).tool = d.tool :=
  Desk.eq_of_noteAll (f := Desk.tool) (fun _ _ => rfl) records d

/-! ### Actions on a workspace -/

namespace Workspace

/-- A workspace with another disk. -/
def withDisk (w : Workspace) (disk : Disk) : Workspace :=
  { w with desk := { w.desk with disk } }

theorem on_onDisk {α : Type} (a : Act Disk α) (w : Workspace) :
    (onDisk a).on w = ((a.on w.desk.disk).1, w.withDisk (a.on w.desk.disk).2) := by
  simp only [onDisk, onDesk, Desk.onDisk, on_within]
  rfl

theorem on_onDisk_eq {α : Type} {a : Act Disk α} {w w' : Workspace} {result : Except Fault α} :
    (onDisk a).on w = (result, w') ↔
      ∃ d', a.on w.desk.disk = (result, d') ∧ w' = w.withDisk d' := by
  rw [on_onDisk]
  constructor
  · intro h
    cases h
    exact ⟨_, rfl, rfl⟩
  · rintro ⟨d', h, rfl⟩
    rw [h]

/-- A workspace comes from another by writing the files at some paths; it is about the same project
and remembers the same build. -/
structure Writes (paths : Path → Prop) (w w' : Workspace) : Prop where
  /-- The settings stay. -/
  settings : w'.settings = w.settings
  /-- Whether every build is due stays. -/
  force : w'.force = w.force
  /-- The build tool stays. -/
  tool : w'.desk.tool = w.desk.tool
  /-- The build that was made last stays. -/
  lastBuilt : w'.detector.lastBuilt = w.detector.lastBuilt
  /-- Only some files are written. -/
  disk : MayWrite paths w.desk.disk w'.desk.disk

namespace Writes

variable {paths : Path → Prop}

theorem refl (paths : Path → Prop) (w : Workspace) : Writes paths w w :=
  ⟨rfl, rfl, rfl, rfl, .refl _ _⟩

theorem trans {a b c : Workspace} (h : Writes paths a b) (h' : Writes paths b c) :
    Writes paths a c :=
  ⟨h'.settings.trans h.settings, h'.force.trans h.force, h'.tool.trans h.tool,
    h'.lastBuilt.trans h.lastBuilt, h.disk.trans h'.disk⟩

theorem mono {more : Path → Prop} {w w' : Workspace} (h : Writes paths w w')
    (hsub : ∀ p, paths p → more p) : Writes more w w' :=
  ⟨h.settings, h.force, h.tool, h.lastBuilt, h.disk.mono hsub⟩

instance (paths : Path → Prop) : Std.Refl (Writes paths) := ⟨refl paths⟩

instance (paths : Path → Prop) : Trans (Writes paths) (Writes paths) (Writes paths) := ⟨trans⟩

end Writes

theorem relates_onDisk {α : Type} {paths : Path → Prop} {a : Act Disk α}
    (h : Relates (MayWrite paths) a) : Relates (Writes paths) (onDisk a) := by
  intro w
  rw [on_onDisk]
  exact ⟨rfl, rfl, rfl, rfl, h w.desk.disk⟩

/-- Neither the sources that are known nor the journal are files. -/
theorem overlooks_writes : Overlooks (Writes fun _ => False) :=
  ⟨fun _ _ => ⟨rfl, rfl, rfl, rfl, .refl _ _⟩, fun _ _ => ⟨rfl, rfl, rfl, rfl, .refl _ _⟩,
    fun _ _ => ⟨rfl, rfl, rfl, rfl, .refl _ _⟩, fun w records =>
    ⟨rfl, rfl, w.desk.tool_noteAll records, rfl, w.desk.mayWrite_noteAll records⟩⟩

theorem writes_observe (w : Workspace) (digest : String) :
    Writes (fun _ => False) w { w with detector := w.detector.observe digest } :=
  ⟨rfl, rfl, rfl, rfl, .refl _ _⟩

theorem relates_say (level : Level) (speaker message : String) :
    Relates (Writes fun _ => False) (say level speaker message) :=
  overlooks_writes.relates_say level speaker message

/-- Making the manifest writes no file. -/
theorem relates_currentManifest (again : Bool) :
    Relates (Writes fun _ => False) (currentManifest again) :=
  overlooks_writes.relates_currentManifest again

/-- Writing the manifest writes that file. -/
theorem writes_writeManifest (m : Manifest) (w : Workspace) :
    Writes (· = w.settings.manifestPath) w ((writeManifest m).on w).2 := by
  unfold writeManifest
  rw [on_get_bind]
  refine relates_bind (relates_onDisk ?_) (fun _ => ?_) w
  · exact fun d => (Disk.relates_makeRoom _ d).mono fun _ h => h.elim
  · exact relates_bind (relates_onDisk (Disk.relates_writeText _ _)) fun _ => relates_pure _

theorem writes_spoilManifest (w : Workspace) :
    Writes (· = w.settings.manifestPath) w (spoilManifest.on w).2 := by
  unfold spoilManifest
  rw [on_modify_bind, on_get_bind]
  refine Writes.trans (b := { w with aggregates := [] }) ⟨rfl, rfl, rfl, rfl, .refl _ _⟩ ?_
  refine relates_bind (relates_onDisk ?_) (fun _ => ?_) _
  · exact fun d => (Disk.relates_makeRoom _ d).mono fun _ h => h.elim
  · exact relates_bind (relates_onDisk (Disk.relates_writeText _ _)) fun _ => relates_throw _

/-- The manifest that is to be written changes no file but that of a manifest. -/
theorem writes_manifestToWrite (w : Workspace) :
    Writes (· = w.settings.manifestPath) w (manifestToWrite.on w).2 := by
  unfold manifestToWrite
  rw [on_get_bind]
  split
  · exact writes_spoilManifest w
  · exact (relates_currentManifest true w).mono fun _ h => h.elim

theorem writes_emit (w : Workspace) : Writes (· = w.settings.manifestPath) w (emit.on w).2 := by
  have h₁ := writes_manifestToWrite w
  unfold emit
  rcases hm : manifestToWrite.on w with ⟨f | m, w₁⟩
  all_goals rw [hm] at h₁
  · rwa [on_bind_of_error hm]
  rw [on_bind_of_ok hm]
  have hwritten := writes_writeManifest m w₁
  rw [h₁.settings] at hwritten
  refine h₁.trans ?_
  rcases hd : (writeManifest m).on w₁ with ⟨f | digest, w₂⟩
  all_goals rw [hd] at hwritten
  · rwa [on_bind_of_error hd]
  rw [on_bind_of_ok hd, on_get_bind]
  refine hwritten.trans (relates_bind (fun w => ?_) (fun _ => relates_pure _) _)
  exact (relates_say _ _ _ w).mono fun _ h => h.elim

/-- A comparison never changes what counts as built. -/
theorem relates_compareAll (m : Manifest) : Relates (Writes fun _ => False) (compareAll m) :=
  overlooks_writes.relates_compareAll writes_observe m

/-- A build is due unless the digest is that of the last build and none is forced. -/
theorem due_of_compareAll {m : Manifest} {w w' : Workspace} {report : Detector.Report}
    (h : (compareAll m).on w = (.ok report, w')) :
    report.digest = m.digest ∧ report.due = w.detector.isDue m.digest w.force := by
  cases hs : Sidecar.snapshot w.desk.room w.desk.disk (some w.settings.snapshotPath) with
  | error e =>
    unfold compareAll at h
    rw [on_get_bind, hs] at h
    cases h
  | ok snapshot =>
    rw [on_compareAll hs] at h
    cases h
    exact ⟨rfl, rfl⟩

/-- A manifest that can be written is written, and its digest is the result. -/
theorem on_writeManifest {m : Manifest} {w : Workspace} {d₁ d₂ : Disk}
    (hroom : w.desk.disk.ensureDirectories w.settings.manifestPath.parent = .ok d₁)
    (hwrite : d₁.write w.settings.manifestPath
      (Text.encode (m.fileText w.aggregates w.settings.development)) = .ok d₂) :
    (writeManifest m).on w = (.ok m.digest, w.withDisk d₂) := by
  have h₁ : (onDisk (Disk.makeRoom w.settings.manifestPath)).on w = (.ok (), w.withDisk d₁) := by
    rw [on_onDisk, Disk.on_makeRoom hroom]
  have h₂ : (onDisk (Disk.writeText w.settings.manifestPath
      (m.fileText w.aggregates w.settings.development))).on (w.withDisk d₁) =
      (.ok (), w.withDisk d₂) := by
    rw [on_onDisk, Disk.on_writeText (d := (w.withDisk d₁).desk.disk) hwrite]
    rfl
  unfold writeManifest
  rw [on_get_bind, on_bind_of_ok h₁, on_bind_of_ok h₂]
  rfl

/-! ### Events -/

/-- **An event writes no file.** -/
theorem relates_absorb (e : Event) : Relates (Writes fun _ => False) (absorb e) :=
  overlooks_writes.relates_absorb writes_observe e

end Workspace

end ProbeKit
