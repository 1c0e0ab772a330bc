import ProbeKit.CommandLine.Run
import ProbeKit.Proofs.Act
import ProbeKit.Proofs.Settings.Loading

/-!
# Settings that are wrong without being reported

A fault of the settings is reported if it is one of `Fault.settings`; any other fault ends the run
as it is.  `Settings.Escapes` lists the others: bytes that are no text, a mishap of the reader, an
integer with too many digits for a text, a command with a quotation that does not end, a delay
beyond the numbers, and a path of the environment that leads nowhere.  They are exactly the faults
that escape, from loading (`Settings.load_error_iff`) and from a run
(`CommandLine.Invocation.ending_escaped_iff`), whatever reads the settings file; all other settings
are loaded or reported.
-/

namespace ProbeKit.Settings

open Number Text

variable {reader : Setting.Reader} {disk : Disk} {home p file base : Path} {env : Environment}
variable {bytes : ByteArray} {s s' : Settings} {root : Setting} {f : Fault}

/-- A fault is one of those that are reported. -/
def Reported (f : Fault) : Prop := ∃ e, f = .settings e

theorem reported_settings (e : SettingsError) : Reported (.settings e) := ⟨e, rfl⟩

/-! ### Documents -/

/-- A document says nothing of the provider, or it gives it a name. -/
def NamesProvider (root : Setting) : Prop := text? (root.member? "provider") ≠ .ok (some "")

/-- Where a document is asked for a text or for texts, it has an integer with too many digits. -/
def SpellsOverlong (root : Setting) : Prop :=
  Overlong (root.member? "provider") ∨ NamesOverlong root ∨ ListsOverlong root

/-- A document says nothing of the build, or it gives the build words and artifacts. -/
def GivesBuild (root : Setting) (current : List String) : Prop :=
  ∀ build, root.mapping? "build" = some build →
    (∃ words, commandOf current (build.member? "command") = .ok words ∧ words ≠ []) ∧
      ¬HoldsOverlong (build.member? "artifacts")

/-- The build command of a document lacks its end. -/
def BreaksCommand (root : Setting) (e : Command.WordsError) : Prop :=
  ∃ build line, root.mapping? "build" = some build ∧
    build.member? "command" = some (.text line) ∧ Command.missing? line = some e

/-- The build command of a document holds an integer with too many digits, or its artifacts do. -/
def BuildsOverlong (root : Setting) (current : List String) : Prop :=
  ∃ build, root.mapping? "build" = some build ∧
    (HoldsOverlong (build.member? "command") ∨
      (∃ words, commandOf current (build.member? "command") = .ok words ∧ words ≠ []) ∧
        HoldsOverlong (build.member? "artifacts"))

/-- The delay of a document is an integer beyond the numbers. -/
def ExceedsDelay (root : Setting) : Prop :=
  ∃ watch n, root.mapping? "watch" = some watch ∧
    watch.member? "settle_delay" = some (.int n) ∧ Binary64.tooLarge ≤ n.natAbs

/-- Only a mapping has members. -/
theorem exists_members_of_member? {key : String} {v : Setting} (h : root.member? key = some v) :
    ∃ values, root = .members values := by
  cases root with
  | members values => exact ⟨values, rfl⟩
  | _ => cases h

theorem exists_members_of_mapping? {key : String} {v : Setting} (h : root.mapping? key = some v) :
    ∃ values, root = .members values :=
  exists_members_of_member? (Option.filter_eq_some_iff.1 h).1

/-! ### Steps -/

/-- An empty provider is reported, an integer with too many digits is not. -/
theorem withProvider_error_iff_of_not_reported (hf : ¬Reported f) :
    s.withProvider root = .error f ↔ Overlong (root.member? "provider") ∧ f = .numeral .writing := by
  rw [withProvider_error_iff]
  refine or_iff_left ?_
  rintro ⟨-, rfl⟩
  exact hf (reported_settings _)

theorem exists_withProvider_iff :
    (∃ s', s.withProvider root = .ok s') ↔
      NamesProvider root ∧ ¬Overlong (root.member? "provider") := by
  cases h : s.withProvider root with
  | ok s' =>
    refine iff_of_true ⟨s', rfl⟩ ⟨fun hempty => ?_, fun hlong => ?_⟩
    · cases h.symm.trans (withProvider_error_iff.2 (.inr ⟨hempty, rfl⟩))
    · cases h.symm.trans (withProvider_error_iff.2 (.inl ⟨hlong, rfl⟩))
  | error f =>
    refine iff_of_false (fun ⟨_, h⟩ => nomatch h) ?_
    rintro ⟨hnames, hshort⟩
    obtain ⟨hlong, -⟩ | ⟨hempty, -⟩ := withProvider_error_iff.1 h
    · exact hshort hlong
    · exact hnames hempty

/-- What is wrong with a build is reported unless the command lacks its end or an integer has too
many digits. -/
theorem withBuild_error_iff_of_not_reported (hf : ¬Reported f) :
    s.withBuild root = .error f ↔ (∃ e, BreaksCommand root e ∧ f = .words e) ∨
      BuildsOverlong root s.command ∧ f = .numeral .writing := by
  rw [withBuild_error_iff]
  constructor
  · rintro ⟨build, hbuild, hcommand | ⟨-, rfl⟩ | ⟨hwords, hartifacts, rfl⟩⟩
    · obtain ⟨line, e, hline, hmissing, rfl⟩ | ⟨hlong, rfl⟩ | ⟨-, rfl⟩ :=
        commandOf_error_iff.1 hcommand
      · exact .inl ⟨e, ⟨build, line, hbuild, hline, hmissing⟩, rfl⟩
      · exact .inr ⟨⟨build, hbuild, .inl hlong⟩, rfl⟩
      · exact absurd (reported_settings _) hf
    · exact absurd (reported_settings _) hf
    · exact .inr ⟨⟨build, hbuild, .inr ⟨hwords, hartifacts⟩⟩, rfl⟩
  · rintro (⟨e, ⟨build, line, hbuild, hline, hmissing⟩, rfl⟩ | ⟨⟨build, hbuild, hlong⟩, rfl⟩)
    · exact ⟨build, hbuild, .inl (commandOf_error_iff.2 (.inl ⟨line, e, hline, hmissing, rfl⟩))⟩
    · obtain hlong | ⟨hwords, hartifacts⟩ := hlong
      · exact ⟨build, hbuild, .inl (commandOf_error_iff.2 (.inr (.inl ⟨hlong, rfl⟩)))⟩
      · exact ⟨build, hbuild, .inr (.inr ⟨hwords, hartifacts, rfl⟩)⟩

theorem exists_withBuild_iff : (∃ s', s.withBuild root = .ok s') ↔ GivesBuild root s.command := by
  cases h : s.withBuild root with
  | ok s' =>
    refine iff_of_true ⟨s', rfl⟩ fun build hbuild => ?_
    have hno {f : Fault} : s.withBuild root ≠ .error f := fun herror => nomatch h.symm.trans herror
    cases hcommand : commandOf s.command (build.member? "command") with
    | error f => exact absurd (withBuild_error_iff.2 ⟨build, hbuild, .inl hcommand⟩) hno
    | ok words =>
      have hwords : words ≠ [] := by
        rintro rfl
        exact hno (withBuild_error_iff.2 ⟨build, hbuild, .inr (.inl ⟨hcommand, rfl⟩)⟩)
      exact ⟨⟨words, rfl, hwords⟩, fun hlong => hno (withBuild_error_iff.2
        ⟨build, hbuild, .inr (.inr ⟨⟨words, hcommand, hwords⟩, hlong, rfl⟩)⟩)⟩
  | error f =>
    refine iff_of_false (fun ⟨_, h⟩ => nomatch h) fun hgives => ?_
    obtain ⟨build, hbuild, hcommand | ⟨hcommand, -⟩ | ⟨-, hlong, -⟩⟩ := withBuild_error_iff.1 h
    · obtain ⟨⟨words, hwords, -⟩, -⟩ := hgives build hbuild
      cases hwords.symm.trans hcommand
    · obtain ⟨⟨words, hwords, hne⟩, -⟩ := hgives build hbuild
      exact hne (Except.ok.inj (hwords.symm.trans hcommand))
    · exact (hgives build hbuild).2 hlong

/-- What is wrong with a session is reported unless the delay is beyond the numbers. -/
theorem withWatch_error_iff_of_not_reported (hf : ¬Reported f) :
    s.withWatch root = .error f ↔ ExceedsDelay root ∧ f = .hugeDelay := by
  rw [withWatch_error_iff]
  constructor
  · rintro ⟨watch, hwatch, hdelay | ⟨_, -, ⟨-, rfl⟩ | ⟨-, -, rfl⟩⟩⟩
    · obtain ⟨rfl, n, hn, hlarge⟩ := float?_error_iff.1 hdelay
      exact ⟨⟨watch, n, hwatch, hn, hlarge⟩, rfl⟩
    · exact absurd (reported_settings _) hf
    · exact absurd (reported_settings _) hf
  · rintro ⟨⟨watch, n, hwatch, hn, hlarge⟩, rfl⟩
    exact ⟨watch, hwatch, .inl (float?_error_iff.2 ⟨rfl, n, hn, hlarge⟩)⟩

/-- What is wrong with a document is reported unless an integer has too many digits, its command
lacks its end or its delay is beyond the numbers. -/
theorem withDocument_error_iff_of_not_reported (hf : ¬Reported f) :
    s.withDocument root = .error f ↔ NamesProvider root ∧
      ((SpellsOverlong root ∧ f = .numeral .writing) ∨ ¬SpellsOverlong root ∧
        ((∃ e, BreaksCommand root e ∧ f = .words e) ∨
          (BuildsOverlong root s.command ∧ f = .numeral .writing) ∨
          GivesBuild root s.command ∧ ExceedsDelay root ∧ f = .hugeDelay)) := by
  have hnames (h : Overlong (root.member? "provider")) : NamesProvider root := by
    intro hempty
    rw [(failsIf_text? _ _).2 ⟨h, rfl⟩] at hempty
    cases hempty
  have hlast (s₃ : Settings) (hcommand : s₃.command = s.command) :
      (s₃.withBuild root >>= fun s₄ => s₄.withWatch root) = .error f ↔
        ((∃ e, BreaksCommand root e ∧ f = .words e) ∨
          BuildsOverlong root s.command ∧ f = .numeral .writing) ∨
          GivesBuild root s.command ∧ ExceedsDelay root ∧ f = .hugeDelay := by
    rw [← hcommand]
    exact bind_eq_error_iff_of (withBuild_error_iff_of_not_reported hf) exists_withBuild_iff
      fun s₄ _ => withWatch_error_iff_of_not_reported hf
  unfold withDocument
  refine Iff.trans (bind_eq_error_iff_of (withProvider_error_iff_of_not_reported hf)
    exists_withProvider_iff fun s₁ hs₁ => bind_eq_error_iff_of (failsIf_withPaths f)
      failsIf_withPaths.exists_ok_iff fun s₂ hs₂ => bind_eq_error_iff_of (failsIf_withSources f)
        failsIf_withSources.exists_ok_iff fun s₃ hs₃ => hlast s₃ ?_) ?_
  · -- The steps before it leave the command as it was.
    obtain ⟨_, -, -, hs₁⟩ := withProvider_eq_ok hs₁
    obtain ⟨-, -, hcommand₂, -⟩ := withPaths_eq_ok hs₂
    obtain ⟨-, -, hcommand₃, -⟩ := withSources_eq_ok hs₃
    rw [hcommand₃, hcommand₂, hs₁]
  · unfold SpellsOverlong
    by_cases hprovider : Overlong (root.member? "provider")
    · simp [hprovider, hnames hprovider]
    · by_cases hpaths : NamesOverlong root
      · simp [hprovider, hpaths]
      · by_cases hlists : ListsOverlong root <;> simp [hprovider, hpaths, hlists, or_assoc]

/-- The settings of a document are those of its project. -/
theorem root_of_ofDocument (h : ofDocument base root = .ok s) : s.root = base := by
  cases root with
  | null =>
    cases h
    rfl
  | members values =>
    obtain ⟨s₁, hs₁, h⟩ := bind_eq_ok.1 h
    obtain ⟨s₂, hs₂, h⟩ := bind_eq_ok.1 h
    obtain ⟨s₃, hs₃, h⟩ := bind_eq_ok.1 h
    obtain ⟨s₄, hs₄, h⟩ := bind_eq_ok.1 h
    obtain ⟨_, -, -, hs₁⟩ := withProvider_eq_ok hs₁
    obtain ⟨-, hroot₂, hcommand₂, -⟩ := withPaths_eq_ok hs₂
    obtain ⟨-, hroot₃, hcommand₃, -⟩ := withSources_eq_ok hs₃
    have hcommand : s₃.command ≠ [] := by
      rw [hcommand₃, hcommand₂, hs₁]
      exact List.cons_ne_nil _ _
    obtain ⟨-, -, hroot₄, -⟩ := withBuild_ok hs₄ hcommand
    obtain ⟨-, hroot, -⟩ := withWatch_ok h
    rw [hroot, hroot₄, hroot₃, hroot₂, hs₁]
    rfl
  | _ => cases h

theorem ofDocument_error_iff_of_not_reported (hf : ¬Reported f) :
    ofDocument base root = .error f ↔ NamesProvider root ∧
      ((SpellsOverlong root ∧ f = .numeral .writing) ∨ ¬SpellsOverlong root ∧
        ((∃ e, BreaksCommand root e ∧ f = .words e) ∨
          (BuildsOverlong root (ofRoot base).command ∧ f = .numeral .writing) ∨
          GivesBuild root (ofRoot base).command ∧ ExceedsDelay root ∧ f = .hugeDelay)) := by
  rw [← withDocument_error_iff_of_not_reported (s := ofRoot base) hf]
  constructor
  · intro h
    cases root with
    | null => cases h
    | members values => exact h
    | _ => exact absurd ⟨_, (Except.error.inj h).symm⟩ hf
  · intro h
    -- Whatever escapes stands in a member of the document, so its root is a mapping.
    obtain ⟨values, rfl⟩ : ∃ values, root = .members values := by
      obtain ⟨-, ⟨hlong, -⟩ | ⟨-, ⟨_, ⟨_, _, hbuild, -⟩, -⟩ | ⟨⟨_, hbuild, -⟩, -⟩ |
        ⟨-, ⟨_, _, hwatch, -⟩, -⟩⟩⟩ := (withDocument_error_iff_of_not_reported hf).1 h
      · obtain ⟨_, hmember, -⟩ | ⟨_, -, _, hmember, -⟩ | ⟨_, -, _, hmember, -⟩ := hlong
        all_goals exact exists_members_of_member? hmember
      · exact exists_members_of_mapping? hbuild
      · exact exists_members_of_mapping? hbuild
      · exact exists_members_of_mapping? hwatch
    exact h

/-! ### Loading -/

/-- The environment sets a path that leads nowhere. -/
def Strays (disk : Disk) (base : Path) (env : Environment) (name : String) (e : DiskError) : Prop :=
  ∃ text, nonEmpty? env name = some text ∧ disk.resolve (base.join text) = .error e

/-- What is wrong with settings without being reported: with the bytes of the file, with what the
reader makes of them, or with the environment. -/
inductive Escapes (reader : Setting.Reader) (disk : Disk) (env : Environment) (base : Path)
    (bytes : ByteArray) : Fault → Prop where
  /-- The bytes are no text. -/
  | undecodable (hbytes : readText? bytes = none) :
      Escapes reader disk env base bytes .undecodable
  /-- The reader fails on a text that it does not call malformed. -/
  | mishap {text kind message : String} (htext : readText? bytes = some text)
      (hblank : (trimmed text).isEmpty = false) (hread : reader text = .error (.mishap kind message)) :
      Escapes reader disk env base bytes (.reader kind message)
  /-- An integer has too many digits for a text. -/
  | numeral {root : Setting} (hroot : Holds reader bytes root) (hnames : NamesProvider root)
      (hlong : SpellsOverlong root) : Escapes reader disk env base bytes (.numeral .writing)
  /-- The build command lacks its end. -/
  | command {root : Setting} {e : Command.WordsError} (hroot : Holds reader bytes root)
      (hnames : NamesProvider root) (hshort : ¬SpellsOverlong root) (hbreaks : BreaksCommand root e) :
      Escapes reader disk env base bytes (.words e)
  /-- An integer in the build command or in the artifacts has too many digits for a text. -/
  | build {root : Setting} (hroot : Holds reader bytes root) (hnames : NamesProvider root)
      (hshort : ¬SpellsOverlong root) (hlong : BuildsOverlong root (ofRoot base).command) :
      Escapes reader disk env base bytes (.numeral .writing)
  /-- The delay is beyond the numbers. -/
  | delay {root : Setting} (hroot : Holds reader bytes root) (hnames : NamesProvider root)
      (hshort : ¬SpellsOverlong root) (hgives : GivesBuild root (ofRoot base).command)
      (hexceeds : ExceedsDelay root) : Escapes reader disk env base bytes .hugeDelay
  /-- The path of the manifest leads nowhere. -/
  | manifest {root : Setting} {s : Settings} {e : DiskError} (hroot : Holds reader bytes root)
      (hs : ofDocument base root = .ok s) (hstrays : Strays disk base env "DTRACE_MANIFEST" e) :
      Escapes reader disk env base bytes (.disk e)
  /-- The path of the plugin leads nowhere. -/
  | plugin {root : Setting} {s : Settings} {e : DiskError} (hroot : Holds reader bytes root)
      (hs : ofDocument base root = .ok s) (hmanifest : ∀ e, ¬Strays disk base env "DTRACE_MANIFEST" e)
      (hstrays : Strays disk base env "DTRACE_PROBES_BUILDER" e) :
      Escapes reader disk env base bytes (.disk e)

theorem Escapes.not_reported (h : Escapes reader disk env base bytes f) : ¬Reported f := by
  rintro ⟨e, rfl⟩
  cases h

theorem document_error_iff_of_not_reported (hread : disk.read file = .ok bytes) (hf : ¬Reported f) :
    document reader disk file = .error f ↔ (readText? bytes = none ∧ f = .undecodable) ∨
      ∃ text kind message, readText? bytes = some text ∧ (trimmed text).isEmpty = false ∧
        reader text = .error (.mishap kind message) ∧ f = .reader kind message := by
  rw [document_error_iff hread]
  refine or_congr Iff.rfl (exists_congr fun text => ?_)
  constructor
  · rintro ⟨failure, htext, hblank, hread, rfl⟩
    cases failure with
    | malformed => exact absurd ⟨_, rfl⟩ hf
    | mishap kind message => exact ⟨kind, message, htext, hblank, hread, rfl⟩
  · rintro ⟨kind, message, htext, hblank, hread, rfl⟩
    exact ⟨.mishap kind message, htext, hblank, hread, rfl⟩

theorem overridePath_error_iff_strays {name : String} :
    overridePath disk base (nonEmpty? env name) = .error f ↔
      ∃ e, Strays disk base env name e ∧ f = .disk e := by
  rw [overridePath_error_iff]
  constructor
  · rintro ⟨text, e, htext, hresolve, rfl⟩
    exact ⟨e, ⟨text, htext, hresolve⟩, rfl⟩
  · rintro ⟨e, ⟨text, htext, hresolve⟩, rfl⟩
    exact ⟨text, e, htext, hresolve, rfl⟩

theorem exists_overridePath_iff {name : String} :
    (∃ q, overridePath disk base (nonEmpty? env name) = .ok q) ↔ ∀ e, ¬Strays disk base env name e := by
  cases hpath : overridePath disk base (nonEmpty? env name) with
  | ok q =>
    refine iff_of_true ⟨q, rfl⟩ fun e hstrays => ?_
    rw [overridePath_error_iff_strays.2 ⟨e, hstrays, rfl⟩] at hpath
    cases hpath
  | error f =>
    obtain ⟨e, hstrays, -⟩ := overridePath_error_iff_strays.1 hpath
    exact iff_of_false (fun ⟨q, h⟩ => nomatch h) fun h => h e hstrays

theorem withEnvironment_error_iff_strays (hs : s.root = base) :
    s.withEnvironment disk env = .error f ↔
      (∃ e, Strays disk base env "DTRACE_MANIFEST" e ∧ f = .disk e) ∨
        (∀ e, ¬Strays disk base env "DTRACE_MANIFEST" e) ∧
          ∃ e, Strays disk base env "DTRACE_PROBES_BUILDER" e ∧ f = .disk e := by
  rw [withEnvironment_error_iff, hs, exists_overridePath_iff, overridePath_error_iff_strays,
    overridePath_error_iff_strays]

theorem escapes_of_load (h : Given disk home p file base bytes) (hf : ¬Reported f)
    (hload : load reader disk home env p = .error f) : Escapes reader disk env base bytes f := by
  -- The fault is that of the file, of its document or of the environment.
  rw [h.load_eq env, bind_eq_error, bind_eq_error, document_error_iff_of_not_reported h.read hf] at hload
  obtain ((⟨hbytes, rfl⟩ | ⟨text, kind, message, htext, hblank, hread, rfl⟩) | ⟨root, hroot, hof⟩) |
    ⟨s, hs, henv⟩ := hload
  · exact .undecodable hbytes
  · exact .mishap htext hblank hread
  · have hroot := (document_ok_iff h.read).1 hroot
    obtain ⟨hnames, ⟨hlong, rfl⟩ | ⟨hshort, ⟨e, hbreaks, rfl⟩ | ⟨hlong, rfl⟩ |
      ⟨hgives, hexceeds, rfl⟩⟩⟩ := (ofDocument_error_iff_of_not_reported hf).1 hof
    · exact .numeral hroot hnames hlong
    · exact .command hroot hnames hshort hbreaks
    · exact .build hroot hnames hshort hlong
    · exact .delay hroot hnames hshort hgives hexceeds
  · obtain ⟨root, hroot, hs⟩ := bind_eq_ok.1 hs
    have hroot := (document_ok_iff h.read).1 hroot
    obtain ⟨e, hstrays, rfl⟩ | ⟨hmanifest, e, hstrays, rfl⟩ :=
      (withEnvironment_error_iff_strays (root_of_ofDocument hs)).1 henv
    · exact .manifest hroot hs hstrays
    · exact .plugin hroot hs hmanifest hstrays

theorem Escapes.load_eq (hescapes : Escapes reader disk env base bytes f)
    (h : Given disk home p file base bytes) : load reader disk home env p = .error f := by
  have hf := hescapes.not_reported
  have hdocument {root : Setting} (hroot : Holds reader bytes root) :
      document reader disk file = .ok root := (document_ok_iff h.read).2 hroot
  rw [h.load_eq env, bind_eq_error, bind_eq_error, document_error_iff_of_not_reported h.read hf]
  cases hescapes with
  | undecodable hbytes => exact .inl (.inl (.inl ⟨hbytes, rfl⟩))
  | mishap htext hblank hread => exact .inl (.inl (.inr ⟨_, _, _, htext, hblank, hread, rfl⟩))
  | numeral hroot hnames hlong =>
    refine .inl (.inr ⟨_, hdocument hroot, (ofDocument_error_iff_of_not_reported hf).2 ⟨hnames, ?_⟩⟩)
    exact .inl ⟨hlong, rfl⟩
  | command hroot hnames hshort hbreaks =>
    refine .inl (.inr ⟨_, hdocument hroot, (ofDocument_error_iff_of_not_reported hf).2 ⟨hnames, ?_⟩⟩)
    exact .inr ⟨hshort, .inl ⟨_, hbreaks, rfl⟩⟩
  | build hroot hnames hshort hlong =>
    refine .inl (.inr ⟨_, hdocument hroot, (ofDocument_error_iff_of_not_reported hf).2 ⟨hnames, ?_⟩⟩)
    exact .inr ⟨hshort, .inr (.inl ⟨hlong, rfl⟩)⟩
  | delay hroot hnames hshort hgives hexceeds =>
    refine .inl (.inr ⟨_, hdocument hroot, (ofDocument_error_iff_of_not_reported hf).2 ⟨hnames, ?_⟩⟩)
    exact .inr ⟨hshort, .inr (.inr ⟨hgives, hexceeds, rfl⟩)⟩
  | manifest hroot hs hstrays =>
    have henv := (withEnvironment_error_iff_strays (root_of_ofDocument hs)).2 (.inl ⟨_, hstrays, rfl⟩)
    exact .inr ⟨_, bind_eq_ok.2 ⟨_, hdocument hroot, hs⟩, henv⟩
  | plugin hroot hs hmanifest hstrays =>
    have henv := (withEnvironment_error_iff_strays (root_of_ofDocument hs)).2
      (.inr ⟨hmanifest, _, hstrays, rfl⟩)
    exact .inr ⟨_, bind_eq_ok.2 ⟨_, hdocument hroot, hs⟩, henv⟩

/-- **A fault that is not reported comes out of loading exactly if it escapes.** -/
theorem load_error_iff (h : Given disk home p file base bytes) (hf : ¬Reported f) :
    load reader disk home env p = .error f ↔ Escapes reader disk env base bytes f :=
  ⟨escapes_of_load h hf, fun hescapes => hescapes.load_eq h⟩

/-- With nothing that escapes, settings are loaded or their fault is reported. -/
theorem exists_load_or_reported (h : Given disk home p file base bytes)
    (hnone : ∀ f, ¬Escapes reader disk env base bytes f) :
    (∃ s, load reader disk home env p = .ok s) ∨
      ∃ e, load reader disk home env p = .error (.settings e) := by
  cases hload : load reader disk home env p with
  | ok s => exact .inl ⟨s, rfl⟩
  | error f =>
    by_cases hf : Reported f
    · obtain ⟨e, rfl⟩ := hf
      exact .inr ⟨e, rfl⟩
    · exact absurd ((load_error_iff h hf).1 hload) (hnone f)

/-! ### A file that is no text -/

/-- A byte that begins no character. -/
def strayByte : ByteArray := ⟨#[0xff]⟩

theorem readText?_strayByte : readText? strayByte = none := by decide

theorem escapes_strayByte (reader : Setting.Reader) (disk : Disk) (env : Environment) (base : Path) :
    Escapes reader disk env base strayByte .undecodable := .undecodable readText?_strayByte

/-- A file of settings can stop loading with a fault that is not reported, whatever reads it. -/
theorem exists_given_not_reported : ∃ disk home p file base bytes, Given disk home p file base bytes ∧
    ∃ f, ¬Reported f ∧ ∀ reader env, load reader disk home env p = .error f := by
  have hgiven := given_loneDisk ⟨.root, []⟩ strayByte
  have hescapes (reader : Setting.Reader) (env : Environment) :=
    escapes_strayByte reader (loneDisk strayByte) env ⟨.root, ["p"]⟩
  have hreported : ¬Reported .undecodable := (hescapes (readerOf "" .null) []).not_reported
  exact ⟨_, _, _, _, _, _, hgiven, .undecodable, hreported,
    fun reader env => (hescapes reader env).load_eq hgiven⟩

end ProbeKit.Settings

namespace ProbeKit.CommandLine.Invocation

open Settings

variable (i : Invocation) (around : Surroundings) {desk desk₁ : Desk} {f : Fault}

/-- The settings that a run works with. -/
def loaded (d : Desk) : Except Fault Settings :=
  Settings.load around.reader d.disk around.home around.environment (Path.ofString i.path)

variable {i around}

theorem on_start (hopen : i.openJournal.on desk = (.ok (), desk₁)) :
    (do i.openJournal; i.loadSettings around).on desk = (i.loaded around desk₁, desk₁) := by
  rw [Act.on_bind_of_ok hopen]
  show (Act.ofExcept id (i.loaded around desk₁) : Act Desk Settings).on desk₁ = _
  cases i.loaded around desk₁ <;> rfl

/-- Settings with a fault that is reported end a run with status one and a message. -/
theorem run_of_reported (hopen : i.openJournal.on desk = (.ok (), desk₁)) {e : SettingsError}
    (hload : i.loaded around desk₁ = .error (.settings e)) :
    i.run around desk = (⟨.exit 1, ""⟩, complain (complaint e.message) desk₁) := by
  rw [run, on_start hopen, hload]

/-- Settings with a fault that is not reported end a run with the fault. -/
theorem run_of_not_reported (hopen : i.openJournal.on desk = (.ok (), desk₁))
    (hload : i.loaded around desk₁ = .error f) (hf : ¬Reported f) :
    i.run around desk = (⟨.escaped f, ""⟩, desk₁) := by
  rw [run, on_start hopen, hload]
  cases f with
  | settings e => exact absurd (reported_settings e) hf
  | _ => rfl

/-- No fault escapes from a run with settings that were loaded. -/
theorem ending_run_of_loaded (hopen : i.openJournal.on desk = (.ok (), desk₁)) {s : Settings}
    (hload : i.loaded around desk₁ = .ok s) : (i.run around desk).1.ending ≠ .escaped f := by
  rw [run, on_start hopen, hload]
  dsimp only
  split <;> exact nofun

/-- **A run reports what is wrong with settings unless it escapes.** -/
theorem ending_escaped_iff (hopen : i.openJournal.on desk = (.ok (), desk₁)) {file base : Path}
    {bytes : ByteArray} (hgiven : Given desk₁.disk around.home (Path.ofString i.path) file base bytes) :
    (∀ f, (i.run around desk).1.ending = .escaped f ↔
        Escapes around.reader desk₁.disk around.environment base bytes f) ∧
      (∀ f, Escapes around.reader desk₁.disk around.environment base bytes f →
        i.loaded around desk₁ = .error f ∧ i.run around desk = (⟨.escaped f, ""⟩, desk₁)) ∧
      ((∀ f, ¬Escapes around.reader desk₁.disk around.environment base bytes f) →
        (∃ s, i.loaded around desk₁ = .ok s) ∨
          ∃ e, i.loaded around desk₁ = .error (.settings e) ∧
            i.run around desk = (⟨.exit 1, ""⟩, complain (complaint e.message) desk₁)) := by
  have hload {f : Fault} (h : Escapes around.reader desk₁.disk around.environment base bytes f) :
      i.loaded around desk₁ = .error f := h.load_eq hgiven
  refine ⟨fun f => ⟨fun hending => ?_, fun h => ?_⟩, fun f h => ?_, fun hnone => ?_⟩
  · cases hloaded : i.loaded around desk₁ with
    | ok s => exact absurd hending (ending_run_of_loaded hopen hloaded)
    | error f' =>
      -- What is reported ends the run with an exit; anything else escapes it.
      by_cases hf : Reported f'
      · obtain ⟨e, rfl⟩ := hf
        rw [run_of_reported hopen hloaded] at hending
        cases hending
      · rw [run_of_not_reported hopen hloaded hf] at hending
        obtain rfl : f' = f := Ending.escaped.inj hending
        exact (load_error_iff hgiven hf).1 hloaded
  · rw [run_of_not_reported hopen (hload h) h.not_reported]
  · exact ⟨hload h, run_of_not_reported hopen (hload h) h.not_reported⟩
  · obtain h | ⟨e, h⟩ := exists_load_or_reported hgiven hnone
    · exact .inl h
    · exact .inr ⟨e, h, run_of_reported hopen h⟩

/-- A run reports nothing of settings that are no text: the fault is its end. -/
theorem ending_escaped_strayByte :
    (({ command := .emit, path := "/p" } : Invocation).run ⟨readerOf "" .null, ⟨.root, []⟩, []⟩
      { disk := loneDisk strayByte }).1.ending = .escaped .undecodable := by
  have hopen : ({ command := .emit, path := "/p" } : Invocation).openJournal.on
      { disk := loneDisk strayByte } =
        (.ok (), { disk := loneDisk strayByte, sink := some (⟨"emit", false⟩, false) }) := rfl
  exact ((ending_escaped_iff hopen (given_loneDisk ⟨.root, []⟩ strayByte)).1 _).2
    (escapes_strayByte _ _ [] _)

end ProbeKit.CommandLine.Invocation
