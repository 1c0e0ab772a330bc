import ProbeKit.Proofs.Manifest.Version
import ProbeKit.Proofs.Workspace.Events
import ProbeKit.Proofs.Workspace.Reopening

/-!
# Which manifests are reused

An existing manifest file is reused as soon as it can be read as a manifest, and whether the
manifest has a flaw is asked later, whenever it is made.  So a file is reused exactly if it holds a
manifest without a flaw, and is left aside with a warning otherwise, with two exceptions
(`Settings.reusesSound_iff`).  If it can be read as a manifest with a flaw it is reused, and no
manifest can be made from it; and if it is too large to be read, no source can be chosen at all.
-/

namespace ProbeKit

open Act

/-! ### Defaults and flaws -/

namespace Manifest

theorem badType?_withDefault (p : Probe) : badType? p.withDefault.types = badType? p.types := by
  unfold Probe.withDefault
  split
  · rename_i hbare
    have htypes : p.types = [] := by
      have hboth : p.types.isEmpty = true ∧ isNumbered p.name = true := by
        simpa [Probe.isBareNumbered] using hbare
      exact List.isEmpty_iff.1 hboth.1
    rw [htypes]
    rfl
  · rfl

theorem probesFlaw?_withDefault (place : Nat) (names : List String) (probes : List Probe) :
    probesFlaw? place names (probes.map Probe.withDefault) = probesFlaw? place names probes := by
  induction probes generalizing place names with
  | nil => rfl
  | cons p rest ih =>
    rw [List.map_cons, probesFlaw?, probesFlaw?, Probe.name_withDefault, badType?_withDefault, ih]

/-- **To fill in defaults neither mends nor makes a flaw.** -/
theorem flaw?_withDefaults (m : Manifest) : m.withDefaults.flaw? = m.flaw? := by
  have hprobes := probesFlaw?_withDefault 0 [] m.probes
  unfold flaw?
  rw [← hprobes]
  rfl

end Manifest

/-! ### Manifests of files -/

namespace Workspace

variable {w : Workspace} {path : Path} {m : Manifest}

/-- From a file the manifest is made unless it has a flaw, and then that flaw is the fault. -/
theorem on_currentManifest_file (hsource : w.source = .file path m) (again : Bool) :
    ((currentManifest again).on w).1 =
      m.flaw?.elim (.ok m.withDefaults) fun flaw => .error (.manifest flaw) := by
  have hload : w.source.load = (.ok (some m.withDefaults), .file path m) := by
    rw [hsource, Source.load]
  have hfile : w.source ≠ .scan := by
    rw [hsource]
    intro hscan
    cases hscan
  rw [on_currentManifest_of_not_scan hfile, hload]
  show ((sound m.withDefaults).on _).1 = _
  rw [sound, Manifest.flaw?_withDefaults]
  cases m.flaw? with
  | none => rfl
  | some flaw => rfl

/-- From a broken file no manifest is made, and a flaw that it has is the fault. -/
theorem on_currentManifest_broken {flaw : Option Manifest.Flaw}
    (hsource : w.source = .broken path flaw) (again : Bool) :
    ((currentManifest again).on w).1 = .error (flaw.elim .unencodable .manifest) := by
  have hbroken : w.source ≠ .scan := by
    rw [hsource]
    nofun
  rw [on_currentManifest_of_not_scan hbroken, hsource]
  rfl

end Workspace

/-! ### What a file holds -/

namespace Manifest

/-- The bytes of a file can be read as a manifest without a flaw. -/
def ReadsSound (room : Json.Room) (bytes : ByteArray) : Prop :=
  (∃ m, parseBytes? room bytes = some (.ok m) ∧ m.withDefaults.flaw? = none) ∨
    parseBytes? room bytes = some (.error (.broken none))

/-- The bytes of a file can be read as a manifest with a flaw. -/
def ReadsFlawed (room : Json.Room) (bytes : ByteArray) (flaw : Flaw) : Prop :=
  (∃ m, parseBytes? room bytes = some (.ok m) ∧ m.flaw? = some flaw) ∨
    parseBytes? room bytes = some (.error (.broken (some flaw)))

/-- The bytes of a file are too large to be read. -/
def ReadsTooLarge (room : Json.Room) (bytes : ByteArray) (l : Json.Limit) : Prop :=
  parseBytes? room bytes = some (.error (.limit l))

/-- The bytes of a file are no manifest. -/
def Unreadable (room : Json.Room) (bytes : ByteArray) : Prop :=
  parseBytes? room bytes = none ∨
    ∃ reason, parseBytes? room bytes = some (.error (.malformed reason))

variable {room : Json.Room} {bytes : ByteArray} {flaw : Flaw} {l : Json.Limit}

/-- One of these four is the case. -/
theorem reads_cases (room : Json.Room) (bytes : ByteArray) : ReadsSound room bytes ∨
    (∃ flaw, ReadsFlawed room bytes flaw) ∨ (∃ l, ReadsTooLarge room bytes l) ∨
      Unreadable room bytes := by
  unfold ReadsSound ReadsFlawed ReadsTooLarge Unreadable
  rcases hread : parseBytes? room bytes with _ | (reason | l | flaw) | m
  · exact .inr (.inr (.inr (.inl rfl)))
  · exact .inr (.inr (.inr (.inr ⟨reason, rfl⟩)))
  · exact .inr (.inr (.inl ⟨l, rfl⟩))
  · cases flaw with
    | none => exact .inl (.inr rfl)
    | some flaw => exact .inr (.inl ⟨flaw, .inr rfl⟩)
  · cases hflaw : m.flaw? with
    | none => exact .inl (.inl ⟨m, rfl, m.flaw?_withDefaults.trans hflaw⟩)
    | some flaw => exact .inr (.inl ⟨flaw, .inl ⟨m, rfl, hflaw⟩⟩)

theorem ReadsFlawed.not_sound (h : ReadsFlawed room bytes flaw) : ¬ReadsSound room bytes := by
  rintro (⟨m, hm, hsound⟩ | hbroken)
  · rcases h with ⟨m', hm', hflaw⟩ | hbroken
    · obtain rfl : m = m' := by simpa [hm] using hm'
      rw [flaw?_withDefaults, hflaw] at hsound
      cases hsound
    · rw [hm] at hbroken
      cases hbroken
  · rcases h with ⟨m', hm', -⟩ | hbroken'
    · rw [hm'] at hbroken
      cases hbroken
    · rw [hbroken'] at hbroken
      cases hbroken

theorem ReadsTooLarge.not_sound (h : ReadsTooLarge room bytes l) : ¬ReadsSound room bytes := by
  rintro (⟨m, hm, -⟩ | hbroken)
  · rw [h] at hm
    cases hm
  · rw [h] at hbroken
    cases hbroken

theorem Unreadable.not_sound (h : Unreadable room bytes) : ¬ReadsSound room bytes := by
  rintro (⟨m, hm, -⟩ | hbroken)
  · rcases h with h | ⟨reason, h⟩
    all_goals
      rw [h] at hm
      cases hm
  · rcases h with h | ⟨reason, h⟩
    all_goals
      rw [h] at hbroken
      cases hbroken

end Manifest

/-! ### The main result -/

namespace Settings

open Manifest (ReadsSound ReadsFlawed ReadsTooLarge Unreadable)

variable {s : Settings} {d : Desk} {bytes : ByteArray}

/-- The desk of a project once its manifest file is left aside. -/
def leavingAside (s : Settings) (d : Desk) : Desk :=
  d.note ⟨.warning, "sources",
    "Existing manifest " ++ s.manifestPath.text ++ " is invalid; regenerating"⟩

/-- Whoever opens a project reuses its manifest file if it holds a manifest without a flaw, and only
then; whatever else it holds is left aside with a warning. -/
structure ReusesSound (s : Settings) (d : Desk) (bytes : ByteArray) : Prop where
  /-- The source is the file exactly if there is a manifest without a flaw in it. -/
  source : (∃ source : Source, ((Source.resolve s false).on d).1 = .ok source ∧ source.Existing) ↔
    ReadsSound d.room bytes
  /-- Otherwise all goes on as if there were no file, but for the warning. -/
  aside : ¬ReadsSound d.room bytes →
    (Source.resolve s false).on d = (Source.beside s).on (s.leavingAside d)
  /-- No flaw is found later in what comes from the file. -/
  made : ∀ source : Source, ((Source.resolve s false).on d).1 = .ok source → source.Existing →
    ∀ w : Workspace, w.source = source → ∀ again flaw,
      ((Workspace.currentManifest again).on w).1 ≠ .error (.manifest flaw)

/-- No fewer records are in the journal. -/
def Longer (d d' : Desk) : Prop := d.journal.length ≤ d'.journal.length

instance : Std.Refl Longer := ⟨fun _ => Nat.le_refl _⟩

instance : Trans Longer Longer Longer := ⟨Nat.le_trans⟩

theorem longer_note (level : Level) (speaker message : String) :
    Relates Longer (note level speaker message) := by
  intro d
  show d.journal.length ≤ (d.journal ++ [_]).length
  simp

section
variable (hread : d.disk.read? s.manifestPath = some bytes)
include hread

/-- What the choice of a source depends on once there is a file. -/
theorem on_resolve_of_read? : (Source.resolve s false).on d =
    (match Manifest.parseBytes? d.room bytes with
      | some (.ok m) => Source.reuse s (.file s.manifestPath m)
      | some (.error (.broken flaw)) => Source.reuse s (.broken s.manifestPath flaw)
      | some (.error (.limit l)) => throw (Fault.json l)
      | _ => (do
        note .warning "sources"
          ("Existing manifest " ++ s.manifestPath.text ++ " is invalid; regenerating")
        Source.beside s)).on d := by
  unfold Source.resolve
  rw [if_neg Bool.false_ne_true, on_get_bind, Disk.look_of_read? hread, Source.existing?, hread,
    Option.bind_some]
  rfl

/-- What cannot be read as a manifest is left aside. -/
theorem on_resolve_of_unreadable (h : Unreadable d.room bytes) :
    (Source.resolve s false).on d = (Source.beside s).on (s.leavingAside d) := by
  rw [on_resolve_of_read? hread]
  rcases h with h | ⟨reason, h⟩
  all_goals
    rw [h]
    rfl

/-- A manifest that can be read and has no flaw is the one that is reused. -/
theorem reusesSound_of_sound (h : ReadsSound d.room bytes) : s.ReusesSound d bytes := by
  have hresolve := on_resolve_of_read? hread
  obtain ⟨source, hsource, hexisting, hmade⟩ : ∃ source : Source,
      ((Source.resolve s false).on d).1 = .ok source ∧ source.Existing ∧
        ∀ w : Workspace, w.source = source → ∀ again flaw,
          ((Workspace.currentManifest again).on w).1 ≠ .error (.manifest flaw) := by
    rw [hresolve]
    rcases h with ⟨m, hm, hflaw⟩ | hbroken
    · rw [hm]
      refine ⟨.file s.manifestPath m, rfl, trivial, fun w hw again flaw => ?_⟩
      rw [Manifest.flaw?_withDefaults] at hflaw
      rw [Workspace.on_currentManifest_file hw, hflaw]
      nofun
    · rw [hbroken]
      refine ⟨.broken s.manifestPath none, rfl, trivial, fun w hw again flaw => ?_⟩
      rw [Workspace.on_currentManifest_broken hw]
      nofun
  refine ⟨iff_of_true ⟨source, hsource, hexisting⟩ h, fun hnot => absurd h hnot,
    fun source' hsource' _ => ?_⟩
  obtain rfl := Except.ok.inj (hsource.symm.trans hsource')
  exact hmade

/-- What cannot be read as a manifest is left aside as it should be. -/
theorem reusesSound_of_unreadable (h : Unreadable d.room bytes) : s.ReusesSound d bytes := by
  have haside := on_resolve_of_unreadable hread h
  have hfresh : ∀ source : Source, ((Source.resolve s false).on d).1 = .ok source →
      ¬source.Existing := by
    intro source hsource
    rw [haside] at hsource
    exact Source.not_existing_of_beside (Prod.ext hsource rfl)
  refine ⟨iff_of_false ?_ h.not_sound, fun _ => haside,
    fun source hsource hexisting => absurd hexisting (hfresh source hsource)⟩
  rintro ⟨source, hsource, hexisting⟩
  exact hfresh source hsource hexisting

/-- A manifest with a flaw is reused as well, and the flaw is found when the manifest is made. -/
theorem reuses_flawed {flaw : Manifest.Flaw} (h : ReadsFlawed d.room bytes flaw) :
    ∃ source : Source, (Source.resolve s false).on d = (.ok source, s.reusing d) ∧
      source.Existing ∧ ∀ w : Workspace, w.source = source → ∀ again,
        ((Workspace.currentManifest again).on w).1 = .error (.manifest flaw) := by
  rw [on_resolve_of_read? hread]
  rcases h with ⟨m, hm, hflaw⟩ | hbroken
  · rw [hm]
    refine ⟨.file s.manifestPath m, rfl, trivial, fun w hw again => ?_⟩
    rw [Workspace.on_currentManifest_file hw, hflaw]
    rfl
  · rw [hbroken]
    exact ⟨.broken s.manifestPath (some flaw), rfl, trivial,
      fun w hw again => Workspace.on_currentManifest_broken hw again⟩

theorem not_reusesSound_of_flawed {flaw : Manifest.Flaw} (h : ReadsFlawed d.room bytes flaw) :
    ¬s.ReusesSound d bytes := by
  intro hreuses
  obtain ⟨source, hresolve, hexisting, -⟩ := reuses_flawed hread h
  exact h.not_sound (hreuses.source.1 ⟨source, congrArg Prod.fst hresolve, hexisting⟩)

/-- A file that is too large stops whoever opens the project. -/
theorem on_resolve_of_tooLarge {l : Json.Limit} (h : ReadsTooLarge d.room bytes l) :
    (Source.resolve s false).on d = (.error (.json l), d) := by
  rw [on_resolve_of_read? hread, h]
  rfl

theorem not_reusesSound_of_tooLarge {l : Json.Limit} (h : ReadsTooLarge d.room bytes l) :
    ¬s.ReusesSound d bytes := by
  intro hreuses
  have haside := hreuses.aside h.not_sound
  rw [on_resolve_of_tooLarge hread h] at haside
  -- Left aside, the file would have been mentioned in the journal.
  have hlonger := Source.relates_beside longer_note s (s.leavingAside d)
  rw [← haside] at hlonger
  change (s.leavingAside d).journal.length ≤ d.journal.length at hlonger
  have hnoted : (s.leavingAside d).journal.length = d.journal.length + 1 := by
    simp [leavingAside, Desk.note]
  omega

/-- **A manifest file is reused exactly if it holds a manifest without a flaw, and is left aside
otherwise, unless it can be read as a manifest with a flaw or is too large to be read.**  With a
flaw it is reused all the same, and whenever the manifest is to be made, that flaw is the fault.  If
it is too large, that is the fault as soon as a source is to be chosen. -/
theorem reusesSound_iff :
    (s.ReusesSound d bytes ↔
      (¬∃ flaw, ReadsFlawed d.room bytes flaw) ∧ ¬∃ l, ReadsTooLarge d.room bytes l) ∧
    (∀ flaw, ReadsFlawed d.room bytes flaw →
      ∃ source : Source, (Source.resolve s false).on d = (.ok source, s.reusing d) ∧
        source.Existing ∧ ∀ w : Workspace, w.source = source → ∀ again,
          ((Workspace.currentManifest again).on w).1 = .error (.manifest flaw)) ∧
    ∀ l, ReadsTooLarge d.room bytes l → (Source.resolve s false).on d = (.error (.json l), d) := by
  refine ⟨⟨fun hreuses => ⟨?_, ?_⟩, ?_⟩, fun flaw => reuses_flawed hread,
    fun l => on_resolve_of_tooLarge hread⟩
  · rintro ⟨flaw, h⟩
    exact not_reusesSound_of_flawed hread h hreuses
  · rintro ⟨l, h⟩
    exact not_reusesSound_of_tooLarge hread h hreuses
  · rintro ⟨hflawed, hlarge⟩
    rcases Manifest.reads_cases d.room bytes with h | h | h | h
    · exact reusesSound_of_sound hread h
    · exact absurd h hflawed
    · exact absurd h hlarge
    · exact reusesSound_of_unreadable hread h

end

end Settings

/-! ### Two versions -/

namespace Small

open Manifest

/-- The small project with something in its manifest file. -/
def holding (bytes : ByteArray) : Desk := { disk := disk "" [("probes.manifest.json", bytes)] }

theorem read?_holding (bytes : ByteArray) :
    (holding bytes).disk.read? settings.manifestPath = some bytes := by
  have hnames : ∀ n ∈ (holding bytes).disk.absoluteNames settings.manifestPath, Disk.IsName n := by
    show ∀ n ∈ ["p", "probes.manifest.json"], Disk.IsName n
    decide
  rw [Disk.read?_eq_some_of_linkFree hnames (linkFree_disk "" _) rfl]
  rfl

/-- The bytes of a manifest of no probes with some version. -/
def versionedBytes (n : Int) : ByteArray := Text.encode (versioned (.int n)).canonicalText

theorem parseBytes?_versionedBytes (room : Json.Room) {n : Int} (h : ¬Text.overlong n) :
    parseBytes? room (versionedBytes n) = some (.ok (versioned (.int n))) := by
  have hfits : (versioned (.int n)).document.Fits room.reading := by
    obtain ⟨levels, hlevels⟩ := exists_reading room
    rw [hlevels]
    exact fits_of_fields _ (Json.fits_int_iff.2 (by simpa using h)) rfl fun _ => rfl
  have hread := parseBytes?_fileText (plain_versioned (j := .int n) trivial) hfits [] false
  rw [reread_versioned] at hread
  exact hread

/-- A manifest of version one is reused as it should be. -/
theorem reusesSound_versionOne :
    (holding (versionedBytes 1)).disk.read? settings.manifestPath = some (versionedBytes 1) ∧
      settings.ReusesSound (holding (versionedBytes 1)) (versionedBytes 1) := by
  have hbytes := parseBytes?_versionedBytes (holding (versionedBytes 1)).room
    (by decide : ¬Text.overlong 1)
  have hsound : ReadsSound (holding (versionedBytes 1)).room (versionedBytes 1) :=
    .inl ⟨_, hbytes, rfl⟩
  refine ⟨read?_holding _, (Settings.reusesSound_iff (read?_holding _)).1.2 ⟨?_, ?_⟩⟩
  · rintro ⟨flaw, hflawed⟩
    exact hflawed.not_sound hsound
  · rintro ⟨l, hlarge⟩
    exact hlarge.not_sound hsound

/-- **A manifest of version two is reused although it has a flaw**, and no manifest can be made from
it. -/
theorem reuses_versionTwo :
    ¬settings.ReusesSound (holding (versionedBytes 2)) (versionedBytes 2) ∧
    (Source.resolve settings false).on (holding (versionedBytes 2)) =
      (.ok (.file settings.manifestPath (versioned (.int 2))),
        settings.reusing (holding (versionedBytes 2))) ∧
    ∀ w : Workspace, w.source = .file settings.manifestPath (versioned (.int 2)) → ∀ again,
      ((Workspace.currentManifest again).on w).1 = .error (.manifest .schemaVersion) := by
  have hread := read?_holding (versionedBytes 2)
  have hbytes := parseBytes?_versionedBytes (holding (versionedBytes 2)).room
    (by decide : ¬Text.overlong 2)
  have hflaw : (versioned (.int 2)).flaw? = some .schemaVersion := rfl
  refine ⟨Settings.not_reusesSound_of_flawed hread (.inl ⟨_, hbytes, hflaw⟩), ?_,
    fun w hw again => ?_⟩
  · rw [Settings.on_resolve_of_read? hread, hbytes]
    rfl
  · rw [Workspace.on_currentManifest_file hw, hflaw]
    rfl

end Small

end ProbeKit
