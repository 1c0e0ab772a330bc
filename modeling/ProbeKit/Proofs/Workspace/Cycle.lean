import ProbeKit.Proofs.Detector
import ProbeKit.Proofs.Workspace.Files

/-!
# Cycles step by step

A cycle is cut in two where its build command starts.  `prepare` is the part before it, which writes
the manifest and nothing else; `on_beginCycle` puts the command behind it.  `on_endCycle` is the part
after it, which writes nothing after a failure, and the sidecar of the manifest first of all after a
success.  Once that sidecar is written its line stays (`hasLine_of_endCycle`), whatever fails
behind it.
-/

namespace ProbeKit

open Act

namespace Disk

/-- A path at which a file can be written. -/
def CanWrite (d : Disk) (p : Path) : Prop := ∀ bytes, ∃ d', d.write p bytes = .ok d'

theorem canWrite_of_write {d d' : Disk} {p : Path} {bytes : ByteArray}
    (h : d.write p bytes = .ok d') : d.CanWrite p := by
  intro other
  unfold write at h ⊢
  split at h <;> cases h
  all_goals simp

end Disk

namespace Workspace

/-! ### Up to the build command -/

/-- A cycle up to its build command: the manifest is made and written. -/
def prepare : Act Workspace Manifest := do
  let m ← manifestToWrite
  let digest ← writeManifest m
  modify fun w => { w with detector := w.detector.observe digest }
  say .info "build" ("Running native build: " ++ " ".intercalate (← get).settings.command)
  return m

/-- The workspace once its build command has run and has left a disk behind. -/
def ran (w : Workspace) (disk : Disk) : Workspace :=
  { w with
    desk :=
      { w.desk with disk, builds := w.desk.builds ++ [⟨w.settings.command, w.settings.root⟩] } }

theorem on_say (level : Level) (speaker message : String) (w : Workspace) :
    (say level speaker message).on w =
      (.ok (), { w with desk := w.desk.note ⟨level, speaker, message⟩ }) := by
  rw [say, onDesk, on_within]
  rfl

theorem digest_of_writeManifest {m : Manifest} {w w' : Workspace} {digest : String}
    (h : (writeManifest m).on w = (.ok digest, w')) : digest = m.digest := by
  unfold writeManifest at h
  rw [on_get_bind] at h
  obtain ⟨_, _, -, h⟩ := on_bind_eq_ok.1 h
  obtain ⟨_, _, -, h⟩ := on_bind_eq_ok.1 h
  rw [on_pure] at h
  exact (Except.ok.inj (congrArg Prod.fst h)).symm

/-- Beginning a cycle is preparing it and starting the command. -/
theorem on_beginCycle (w : Workspace) :
    beginCycle.on w =
      match prepare.on w with
      | (.error f, w₁) => (.error f, w₁)
      | (.ok m, w₁) =>
        match w₁.desk.tool.start w₁.settings.command w₁.settings.root w₁.desk.disk with
        | .error e => (.error (.start e), w₁)
        | .ok (disk, status) => (.ok (⟨m, m.digest⟩, status), w₁.ran disk) := by
  unfold beginCycle prepare
  rcases hm : manifestToWrite.on w with ⟨f | m, w₁⟩
  · rw [on_bind_of_error hm, on_bind_of_error hm]
  rw [on_bind_of_ok hm, on_bind_of_ok hm]
  rcases hd : (writeManifest m).on w₁ with ⟨f | digest, w₂⟩
  · rw [on_bind_of_error hd, on_bind_of_error hd]
  rw [on_bind_of_ok hd, on_bind_of_ok hd, on_modify_bind, on_modify_bind, on_get_bind,
    on_bind_of_ok (on_say _ _ _ _), on_pure, digest_of_writeManifest hd, on_bind, startBuild,
    on_get_bind, on_bind_of_ok (on_say _ _ _ _), on_get_bind]
  generalize Desk.note _ w₂.desk = desk
  dsimp only
  rcases desk.tool.start w₂.settings.command w₂.settings.root desk.disk with e | ⟨disk, status⟩
  · rfl
  · rfl

/-- Up to its build command a cycle writes the manifest only. -/
theorem writes_prepare (w : Workspace) :
    Writes (· = w.settings.manifestPath) w (prepare.on w).2 := by
  have h₁ := writes_manifestToWrite w
  unfold prepare
  rcases hm : manifestToWrite.on w with ⟨f | m, w₁⟩
  all_goals rw [hm] at h₁
  · rwa [on_bind_of_error hm]
  rw [on_bind_of_ok hm]
  have hwritten := writes_writeManifest m w₁
  rw [h₁.settings] at hwritten
  rcases hd : (writeManifest m).on w₁ with ⟨f | digest, w₂⟩
  all_goals rw [hd] at hwritten
  · rw [on_bind_of_error hd]
    exact h₁.trans hwritten
  rw [on_bind_of_ok hd, on_modify_bind, on_get_bind]
  have hobserved : Writes (· = w.settings.manifestPath) w₂
      { w₂ with detector := w₂.detector.observe digest } := ⟨rfl, rfl, rfl, rfl, .refl _ _⟩
  refine (h₁.trans hwritten).trans (hobserved.trans ?_)
  refine relates_bind (fun w => ?_) (fun _ => relates_pure _) _
  exact (relates_say _ _ _ w).mono fun _ h => h.elim

end Workspace

/-! ### Behind the build command -/

namespace Disk

/-- The line of a sidecar stands on a disk, out of the way of the snapshot and of the log. -/
structure Line (own snapshot : Path) (text : String) (d : Disk) : Prop where
  /-- The top is a directory. -/
  isDir : d.top.isDir = true
  /-- The sidecar is not the log. -/
  notHeld : d.NotHeld own
  /-- The sidecar is not the snapshot. -/
  apart : d.Apart own snapshot
  /-- The sidecar holds the text. -/
  read : d.read? own = some (Text.encode text)

namespace Line

variable {own snapshot : Path} {text : String} {d d' : Disk}

theorem of_writes {paths : Path → Prop} (h : Line own snapshot text d) (hw : Writes paths d d')
    (hpaths : ∀ q, paths q → d.Apart own q) : Line own snapshot text d' :=
  ⟨hw.isDir_top h.isDir, hw.notHeld h.notHeld, hw.apart h.apart,
    hw.read?_eq_some h.isDir h.read h.notHeld hpaths⟩

/-- Writing the same line, wherever it goes, leaves the line where it is. -/
theorem preserves_writeText (target : Path) :
    Preserves (Line own snapshot text) (writeText target text) := by
  intro d h
  rcases hw : (writeText target text).on d with ⟨f | ⟨⟩, d'⟩
  · rwa [writeText_error hw]
  obtain ⟨hwrites, hread⟩ := writeText_ok h.isDir hw
  by_cases hapart : d.Apart own target
  · exact h.of_writes hwrites fun q hq => hq ▸ hapart
  · -- The target is where the line stands.
    obtain ⟨place, hown, htarget⟩ :
        ∃ place, d.home? own = some place ∧ d.home? target = some place :=
      by simpa [Apart] using hapart
    refine ⟨hwrites.isDir_top h.isDir, hwrites.notHeld h.notHeld, hwrites.apart h.apart, ?_⟩
    obtain ⟨place', hl⟩ := read?_eq_some_iff.1 h.read
    obtain ⟨hh, -⟩ := home?_of_locate (by simp) h.isDir hl
    refine read?_of_keeps (by simp) h.isDir hwrites.here hwrites.keeps hl ?_
    obtain ⟨place'', hh'', hv⟩ :=
      file?_eq_some_iff.1 (file?_of_read? (hwrites.isDir_top h.isDir) hread)
    rw [hwrites.home?_eq, htarget] at hh''
    rw [hown] at hh
    cases hh
    cases hh''
    exact hv

theorem preserves_writeBeside (digest : String) (found : List Path) :
    Preserves (Line own snapshot (digest ++ "\n")) (Sidecar.writeBeside digest found) := by
  induction found with
  | nil => exact preserves_pure _
  | cons p rest ih =>
    unfold Sidecar.writeBeside
    refine preserves_bind (preserves_ofExcept _ _) fun target => ?_
    exact preserves_bind (preserves_writeText target) fun _ =>
      preserves_bind ih fun _ => preserves_pure _

theorem preserves_keepSnapshot (m : Manifest) :
    Preserves (Line own snapshot text) (Sidecar.keepSnapshot (some snapshot) m) := by
  intro d h
  exact h.of_writes (Sidecar.relates_keepSnapshot snapshot m d h.isDir) fun q hq => hq ▸ h.apart

end Line

end Disk

/-- Once the sidecar of the manifest can be written, its line stands, whatever comes of the sidecars
of the artifacts. -/
theorem Sidecar.line_of_write {manifest own snapshot : Path} {digest : String} {d d' : Disk}
    (root : Path) (patterns : List String) (hown : path manifest = .ok own)
    (hwrite : d.write own (Text.encode (digest ++ "\n")) = .ok d') (htop : d.top.isDir = true)
    (hheld : d.NotHeld own) (hapart : d.Apart own snapshot) :
    Disk.Line own snapshot (digest ++ "\n") ((write manifest digest root patterns).on d).2 := by
  have hw := Disk.on_writeText hwrite
  obtain ⟨hwrites, hread⟩ := Disk.writeText_ok htop hw
  have hline : Disk.Line own snapshot (digest ++ "\n") d' :=
    ⟨hwrites.isDir_top htop, hwrites.notHeld hheld, hwrites.apart hapart, hread⟩
  unfold write
  rw [hown, on_bind_of_ok (on_ofExcept_ok _ _ _), on_bind_of_ok hw, on_get_bind]
  refine preserves_bind (preserves_ofExcept _ _) (fun found => ?_) _ hline
  exact preserves_bind (Disk.Line.preserves_writeBeside digest found) fun _ => preserves_pure _

/-- A sidecar that cannot be written leaves the disk alone. -/
theorem Sidecar.write_of_not_canWrite {manifest : Path} {d : Disk} (digest : String) (root : Path)
    (patterns : List String)
    (hwrite : ∀ own, path manifest = .ok own → ¬d.CanWrite own) :
    ∃ f, (write manifest digest root patterns).on d = (.error f, d) := by
  unfold write
  cases hown : path manifest with
  | error f => exact ⟨f, rfl⟩
  | ok own =>
    rw [on_bind_of_ok (on_ofExcept_ok _ _ _), on_bind, Disk.writeText, on_get_bind]
    cases hw : d.write own (Text.encode (digest ++ "\n")) with
    | error e => exact ⟨_, rfl⟩
    | ok d' => exact absurd (Disk.canWrite_of_write hw) (hwrite own hown)

namespace Workspace

theorem endCycle_of_ne {c : Cycle} {status : Int} (h : status ≠ 0) (w : Workspace) :
    (endCycle c status).on w = (.error (.build w.settings.command status), w) := by
  unfold endCycle
  rw [on_get_bind, if_pos h]
  rfl

/-- What follows a build command that has ended well. -/
theorem endCycle_zero (c : Cycle) (w : Workspace) :
    (endCycle c 0).on w =
      (do
        let written ← onDisk <|
          Sidecar.write w.settings.manifestPath c.digest w.settings.root w.settings.artifacts
        recordBuild c
        say .info "orchestrator" <|
          "Probes built with manifest hash " ++ c.digest ++ s!" ({written.length} sidecar files)").on
        w := by
  unfold endCycle
  rw [on_get_bind, if_neg (fun h : (0 : Int) ≠ 0 => h rfl)]

/-- A build is remembered before its snapshot is written. -/
theorem writes_recordBuild (c : Cycle) (w : Workspace) :
    Writes (· = w.settings.snapshotPath) { w with detector := w.detector.record c.digest }
      ((recordBuild c).on w).2 := by
  unfold recordBuild
  rw [on_modify_bind, on_get_bind]
  exact relates_onDisk (Sidecar.relates_keepSnapshot w.settings.snapshotPath c.manifest) _

/-- Behind its build command a cycle writes the records of the build only. -/
theorem writes_endCycle (c : Cycle) (status : Int) (w : Workspace) :
    Writes w.settings.IsRecord w
      { ((endCycle c status).on w).2 with detector := w.detector } := by
  by_cases hstatus : status = 0
  · subst hstatus
    rw [endCycle_zero, on_bind]
    have hsidecars : Writes w.settings.IsRecord w _ :=
      (relates_onDisk (Sidecar.relates_write w.settings.manifestPath c.digest w.settings.root
        w.settings.artifacts) w).mono fun _ h => .inl h
    -- The sidecars come first, then the record of the build; either may fail.
    rcases hw : (onDisk (Sidecar.write w.settings.manifestPath c.digest w.settings.root
      w.settings.artifacts)).on w with ⟨f | written, w₁⟩
    all_goals rw [hw] at hsidecars
    · exact ⟨hsidecars.settings, hsidecars.force, hsidecars.tool, rfl, hsidecars.disk⟩
    have hrecord := writes_recordBuild c w₁
    have hmine : ∀ q, q = w₁.settings.snapshotPath → w.settings.IsRecord q := by
      intro q hq
      rw [hsidecars.settings] at hq
      exact .inr hq
    have h := hsidecars.disk.trans (hrecord.disk.mono hmine)
    dsimp only
    rw [on_bind]
    rcases hr : (recordBuild c).on w₁ with ⟨f | ⟨⟩, w₂⟩
    all_goals rw [hr] at hrecord h
    · exact ⟨hrecord.settings.trans hsidecars.settings, hrecord.force.trans hsidecars.force,
        hrecord.tool.trans hsidecars.tool, rfl, h⟩
    · have hsay := relates_say .info "orchestrator" ("Probes built with manifest hash " ++ c.digest
        ++ s!" ({written.length} sidecar files)") w₂
      exact ⟨hsay.settings.trans (hrecord.settings.trans hsidecars.settings),
        hsay.force.trans (hrecord.force.trans hsidecars.force),
        hsay.tool.trans (hrecord.tool.trans hsidecars.tool), rfl,
        h.trans (hsay.disk.mono fun _ h => h.elim)⟩
  · rw [endCycle_of_ne hstatus]
    exact .refl _ _

/-- The line of the sidecar stands on the disk of a workspace. -/
def HasLine (own : Path) (text : String) (w : Workspace) : Prop :=
  Disk.Line own w.settings.snapshotPath text w.desk.disk

theorem HasLine.of_writes {own : Path} {text : String} {w w' : Workspace} {paths : Path → Prop}
    (h : HasLine own text w) (hw : Writes paths w w')
    (hpaths : ∀ q, paths q → w.desk.disk.Apart own q) : HasLine own text w' := by
  rw [HasLine, hw.settings]
  exact Disk.Line.of_writes h (hw.disk h.isDir) hpaths

theorem preserves_say {own : Path} {text : String} (level : Level) (speaker message : String) :
    Preserves (HasLine own text) (say level speaker message) :=
  fun w h => h.of_writes (relates_say level speaker message w) fun _ hq => hq.elim

theorem preserves_recordBuild {own : Path} {text : String} (c : Cycle) :
    Preserves (HasLine own text) (recordBuild c) := by
  intro w h
  unfold recordBuild
  rw [on_modify_bind, on_get_bind, on_onDisk]
  exact Disk.Line.preserves_keepSnapshot c.manifest _ h

/-- **A cycle whose command has ended well leaves the line of its digest in the sidecar**, whatever
fails behind that. -/
theorem hasLine_of_endCycle {c : Cycle} {w : Workspace} {own : Path} {d' : Disk}
    (hown : Sidecar.path w.settings.manifestPath = .ok own)
    (hwrite : w.desk.disk.write own (Text.encode (c.digest ++ "\n")) = .ok d')
    (htop : w.desk.disk.top.isDir = true) (hheld : w.desk.disk.NotHeld own)
    (hapart : w.desk.disk.Apart own w.settings.snapshotPath) :
    HasLine own (c.digest ++ "\n") ((endCycle c 0).on w).2 := by
  have hline := Sidecar.line_of_write w.settings.root w.settings.artifacts hown hwrite htop hheld
    hapart
  rw [endCycle_zero, on_bind, on_onDisk]
  generalize (Sidecar.write w.settings.manifestPath c.digest w.settings.root w.settings.artifacts).on
    w.desk.disk = result at hline ⊢
  rcases result with ⟨f | written, d⟩
  · exact hline
  · exact preserves_bind (preserves_recordBuild c) (fun _ => preserves_say _ _ _) _ hline

/-- Where the artifacts cannot be listed the cycle ends with the sidecar of the manifest written. -/
theorem endCycle_of_artifacts_error {c : Cycle} {w : Workspace} {own : Path} {d' : Disk} {f : Fault}
    (hown : Sidecar.path w.settings.manifestPath = .ok own)
    (hwrite : w.desk.disk.write own (Text.encode (c.digest ++ "\n")) = .ok d')
    (hfound : Sidecar.artifacts d' w.settings.root w.settings.artifacts = .error f) :
    (endCycle c 0).on w = (.error f, w.withDisk d') := by
  have hw : (Sidecar.write w.settings.manifestPath c.digest w.settings.root
      w.settings.artifacts).on w.desk.disk = (.error f, d') := by
    unfold Sidecar.write
    rw [hown, on_bind_of_ok (on_ofExcept_ok _ _ _), on_bind_of_ok (Disk.on_writeText hwrite),
      on_get_bind, hfound]
    rfl
  rw [endCycle_zero, on_bind, on_onDisk, hw]

/-- A sidecar that cannot be written ends the cycle with nothing done. -/
theorem endCycle_of_not_canWrite {c : Cycle} {w : Workspace}
    (hwrite : ∀ own, Sidecar.path w.settings.manifestPath = .ok own → ¬w.desk.disk.CanWrite own) :
    ∃ f, (endCycle c 0).on w = (.error f, w) := by
  obtain ⟨f, hf⟩ := Sidecar.write_of_not_canWrite c.digest w.settings.root w.settings.artifacts
    hwrite
  refine ⟨f, ?_⟩
  rw [endCycle_zero, on_bind, on_onDisk, hf]
  rfl

/-! ### Whole cycles -/

/-- A cycle whose build command ends with a status, unless it ends by itself with another. -/
def runCycle (status : Int) : Act Workspace Unit := do
  let (c, ended) ← beginCycle
  endCycle c (ended.getD status)

theorem same_runCycle (status : Int) (w : Workspace) :
    ((runCycle status).on w).2.settings = w.settings ∧
      ((runCycle status).on w).2.desk.tool = w.desk.tool := by
  have hbegin := on_beginCycle w
  have hprepared := writes_prepare w
  rcases hp : prepare.on w with ⟨f | m, w₁⟩
  all_goals
    rw [hp] at hbegin hprepared
    dsimp only at hbegin
  · rw [runCycle, on_bind_of_error hbegin]
    exact ⟨hprepared.settings, hprepared.tool⟩
  rcases hs : w₁.desk.tool.start w₁.settings.command w₁.settings.root w₁.desk.disk with
    e | ⟨disk, ended⟩
  all_goals rw [hs] at hbegin
  · rw [runCycle, on_bind_of_error hbegin]
    exact ⟨hprepared.settings, hprepared.tool⟩
  · rw [runCycle, on_bind_of_ok hbegin]
    have hend := writes_endCycle ⟨m, m.digest⟩ (ended.getD status) (w₁.ran disk)
    exact ⟨hend.settings.trans hprepared.settings, hend.tool.trans hprepared.tool⟩

end Workspace

end ProbeKit
