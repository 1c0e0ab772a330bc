import ProbeKit.Proofs.Command.Words
import ProbeKit.Proofs.Disk.LinkFree
import ProbeKit.Proofs.Number.Integers
import ProbeKit.Proofs.Results
import ProbeKit.Settings.Loading

/-!
# The steps of loading settings

What each step of loading makes of the settings so far, and exactly when it fails.  The steps that
take over a part of a document fail on an integer that has too many digits for a text
(`failsIf_withPaths`, `failsIf_withSources`), on an empty provider (`withProvider_error_iff`), on a
command without words or with a quotation that does not end (`withBuild_error_iff`), and on a delay
or a number of retries that is negative or too large (`withWatch_error_iff`); the environment fails
on a path that leads nowhere (`withEnvironment_error_iff`).
-/

namespace ProbeKit.Settings

open Number Text

variable {s s' : Settings} {root : Setting} {f : Fault}

/-! ### Integers without a text -/

/-- A value is an integer with too many digits. -/
def Overlong (v : Option Setting) : Prop := ∃ n, v = some (.int n) ∧ overlong n = true

/-- A value is a list with such an integer. -/
def HoldsOverlong (v : Option Setting) : Prop :=
  ∃ values, v = some (.items values) ∧ ∃ item ∈ values, Overlong (some item)

theorem failsIf_intText (n : Int) : FailsIf (overlong n = true) (.numeral .writing) (intText n) := by
  intro f
  unfold intText
  cases overlong n <;> simp [@eq_comm _ f]

theorem failsIf_text? (v : Option Setting) : FailsIf (Overlong v) (.numeral .writing) (text? v) := by
  unfold text?
  split
  · exact (failsIf_ok _).congr (by simp [Overlong])
  · exact ((failsIf_intText _).map _).congr (by simp [Overlong])
  · exact (failsIf_ok _).congr (by simp [Overlong])
  · rename_i hint _
    refine (failsIf_ok _).congr (iff_of_false id ?_)
    rintro ⟨n, hn, -⟩
    exact hint n hn

theorem failsIf_itemText? (v : Setting) :
    FailsIf (Overlong (some v)) (.numeral .writing) (itemText? v) := by
  unfold itemText?
  split
  · exact (failsIf_ok _).congr (by simp [Overlong])
  · exact failsIf_text? _

theorem failsIf_textList (v : Option Setting) :
    FailsIf (HoldsOverlong v) (.numeral .writing) (textList v) := by
  unfold textList
  split
  · exact (failsIf_ok _).congr (by simp [HoldsOverlong])
  · exact (failsIf_ok _).congr (by simp [HoldsOverlong])
  · exact ((failsIf_mapM failsIf_itemText? _).map _).congr (by simp [HoldsOverlong])
  · rename_i hitems
    refine (failsIf_ok _).congr (iff_of_false id ?_)
    rintro ⟨values, hvalues, -⟩
    exact hitems values hvalues

theorem failsIf_textListOr (current : List String) (v : Option Setting) :
    FailsIf (HoldsOverlong v) (.numeral .writing) (textListOr current v) := by
  cases v with
  | none => exact (failsIf_ok _).congr (by simp [HoldsOverlong])
  | some v => exact failsIf_textList _

/-! ### Names and paths -/

theorem withProvider_eq_ok (h : s.withProvider root = .ok s') :
    ∃ provider, text? (root.member? "provider") = .ok provider ∧ provider ≠ some "" ∧
      s' = { s with provider := provider.getD s.provider } := by
  obtain ⟨provider, hprovider, h⟩ := bind_eq_ok.1 h
  split at h
  · cases h
  · rename_i hempty
    exact ⟨provider, hprovider, by simpa using hempty, (Except.ok.inj h).symm⟩

theorem withProvider_error_iff :
    s.withProvider root = .error f ↔
      (Overlong (root.member? "provider") ∧ f = .numeral .writing) ∨
        text? (root.member? "provider") = .ok (some "") ∧ f = .settings .provider := by
  rw [withProvider, bind_eq_error, failsIf_text? _ f]
  refine or_congr Iff.rfl ?_
  constructor
  · rintro ⟨provider, hprovider, h⟩
    split at h
    · rename_i hempty
      rw [beq_iff_eq.1 hempty] at hprovider
      exact ⟨hprovider, (Except.error.inj h).symm⟩
    · cases h
  · rintro ⟨hprovider, rfl⟩
    exact ⟨_, hprovider, rfl⟩

/-- The module or a path of a document is an integer with too many digits. -/
def NamesOverlong (root : Setting) : Prop :=
  ∃ key ∈ ["module", "manifest_path", "snapshot_path", "builder_module"], Overlong (root.member? key)

theorem failsIf_withPaths : FailsIf (NamesOverlong root) (.numeral .writing) (s.withPaths root) := by
  have hpath (v : Option Setting) := (failsIf_text? v).map fun text =>
    (text.filter (!·.isEmpty)).map s.root.join
  refine ((failsIf_text? _).bind fun _ => (hpath _).bind fun _ => (hpath _).bind fun _ =>
    (hpath _).bind fun _ => failsIf_ok _).congr ?_
  simp [NamesOverlong]

/-- What a document says of paths leaves the rest of the settings alone. -/
theorem withPaths_eq_ok (h : s.withPaths root = .ok s') :
    s'.provider = s.provider ∧ s'.root = s.root ∧ s'.command = s.command ∧
      s'.extensions = s.extensions ∧ s'.settleDelay = s.settleDelay ∧
      s'.maxRetries = s.maxRetries := by
  obtain ⟨_, -, h⟩ := bind_eq_ok.1 h
  obtain ⟨_, -, h⟩ := bind_eq_ok.1 h
  obtain ⟨_, -, h⟩ := bind_eq_ok.1 h
  obtain ⟨_, -, h⟩ := bind_eq_ok.1 h
  cases h
  exact ⟨rfl, rfl, rfl, rfl, rfl, rfl⟩

/-! ### Sources -/

/-- A list that says what the sources are holds an integer with too many digits. -/
def ListsOverlong (root : Setting) : Prop :=
  ∃ key ∈ ["source_dirs", "extensions", "exclude_paths"], HoldsOverlong (root.member? key)

theorem failsIf_withSources :
    FailsIf (ListsOverlong root) (.numeral .writing) (s.withSources root) := by
  refine ((failsIf_textListOr _ _).bind fun _ => ((failsIf_textListOr _ _).map _).bind fun _ =>
    (failsIf_textList _).bind fun _ => failsIf_ok _).congr ?_
  simp [ListsOverlong]

/-- What a document says of the sources leaves the rest of the settings alone. -/
theorem withSources_eq_ok (h : s.withSources root = .ok s') :
    s'.provider = s.provider ∧ s'.root = s.root ∧ s'.command = s.command ∧
      s'.settleDelay = s.settleDelay ∧ s'.maxRetries = s.maxRetries ∧
      (s'.extensions = s.extensions ∨
        ∃ texts : List String, s'.extensions = texts.map properExtension) := by
  obtain ⟨_, -, h⟩ := bind_eq_ok.1 h
  obtain ⟨extensions, hextensions, h⟩ := bind_eq_ok.1 h
  obtain ⟨_, -, h⟩ := bind_eq_ok.1 h
  cases h
  refine ⟨rfl, rfl, rfl, rfl, rfl, ?_⟩
  obtain ⟨texts, htexts, rfl⟩ := map_eq_ok_iff.1 hextensions
  dsimp only
  split
  · exact .inr ⟨texts, rfl⟩
  · rename_i hnone
    rw [textListOr, if_neg hnone] at htexts
    exact .inl (Except.ok.inj htexts).symm

/-! ### The build command -/

/-- A value is no kind of command. -/
def IsNoCommand : Option Setting → Prop
  | none | some .null | some (.text _) | some (.items _) | some (.bytes _) => False
  | some _ => True

theorem commandOf_error_iff {current : List String} {v : Option Setting} :
    commandOf current v = .error f ↔
      (∃ line e, v = some (.text line) ∧ Command.missing? line = some e ∧ f = .words e) ∨
        (HoldsOverlong v ∧ f = .numeral .writing) ∨ IsNoCommand v ∧ f = .settings .commandKind := by
  rcases v with _ | _ | _ | _ | _ | line | _ | values | _ | _
  case some.text =>
    simp only [← Command.words_error_iff, commandOf]
    cases hwords : Command.words line <;> simp [IsNoCommand, HoldsOverlong, hwords, @eq_comm _ f]
  case some.items =>
    rw [commandOf, failsIf_textList _ f]
    simp [IsNoCommand]
  case some.bytes =>
    rw [commandOf, failsIf_textList _ f]
    simp [IsNoCommand]
  all_goals simp [commandOf, IsNoCommand, HoldsOverlong, @eq_comm _ f]

theorem withBuild_error_iff :
    s.withBuild root = .error f ↔ ∃ build, root.mapping? "build" = some build ∧
      (commandOf s.command (build.member? "command") = .error f ∨
        (commandOf s.command (build.member? "command") = .ok [] ∧ f = .settings .commandEmpty) ∨
        (∃ words, commandOf s.command (build.member? "command") = .ok words ∧ words ≠ []) ∧
          HoldsOverlong (build.member? "artifacts") ∧ f = .numeral .writing) := by
  unfold withBuild
  cases hbuild : root.mapping? "build" with
  | none => simp
  | some build =>
    simp only [Option.some.injEq, exists_eq_left']
    cases hcommand : commandOf s.command (build.member? "command") with
    | error e => simp [bind, Except.bind]
    | ok command =>
      cases command with
      | nil => simp [bind, Except.bind, throw, throwThe, MonadExceptOf.throw, eq_comm]
      | cons word rest =>
        have hartifacts := ((failsIf_textListOr s.artifacts (build.member? "artifacts")).bind
          fun artifacts => failsIf_ok { s with command := word :: rest, artifacts }) f
        rw [or_false] at hartifacts
        refine hartifacts.trans ?_
        simp

/-- What a document says of the build leaves the rest of the settings alone. -/
theorem withBuild_ok (h : s.withBuild root = .ok s') (hcommand : s.command ≠ []) :
    s'.command ≠ [] ∧ s'.provider = s.provider ∧ s'.root = s.root ∧ s'.extensions = s.extensions ∧
      s'.settleDelay = s.settleDelay ∧ s'.maxRetries = s.maxRetries := by
  unfold withBuild at h
  split at h
  · cases h
    exact ⟨hcommand, rfl, rfl, rfl, rfl, rfl⟩
  · obtain ⟨command, -, h⟩ := bind_eq_ok.1 h
    cases command with
    | nil => cases h
    | cons word rest =>
      obtain ⟨_, -, h⟩ := bind_eq_ok.1 h
      cases h
      exact ⟨List.cons_ne_nil _ _, rfl, rfl, rfl, rfl, rfl⟩

/-! ### Watch sessions -/

theorem float?_error_iff {v : Option Setting} :
    float? v = .error f ↔
      f = .hugeDelay ∧ ∃ n, v = some (.int n) ∧ Binary64.tooLarge ≤ n.natAbs := by
  unfold float?
  split
  · rename_i n
    have hinfinite := Binary64.ofInt_infinite_iff n
    split
    · rename_i negative heq
      simp [← hinfinite, heq, eq_comm]
    · -- A number that is not infinite is taken as it is, so the integer cannot be too large.
      rename_i hfinite
      have hno : ¬Binary64.tooLarge ≤ n.natAbs := by
        rw [← hinfinite]
        rintro ⟨negative, heq⟩
        exact hfinite negative heq
      simp [hno]
  all_goals simp_all

theorem withWatch_error_iff :
    s.withWatch root = .error f ↔ ∃ watch, root.mapping? "watch" = some watch ∧
      (float? (watch.member? "settle_delay") = .error f ∨
        ∃ delay, float? (watch.member? "settle_delay") = .ok delay ∧
          ((delay.getD s.settleDelay).isNegative = true ∧ f = .settings .delay ∨
            (delay.getD s.settleDelay).isNegative = false ∧
              (int? (watch.member? "max_retries")).getD s.maxRetries < 0 ∧
              f = .settings .retries)) := by
  unfold withWatch
  cases hwatch : root.mapping? "watch" with
  | none => simp
  | some watch =>
    simp only [Option.some.injEq, exists_eq_left', bind_eq_error]
    refine or_congr Iff.rfl (exists_congr fun delay => and_congr Iff.rfl ?_)
    split
    · simp [*, throw, throwThe, MonadExceptOf.throw, bind, Except.bind, eq_comm]
    · split
      · simp [*, throw, throwThe, MonadExceptOf.throw, bind, Except.bind, eq_comm]
      · simp [*, pure, Except.pure]

/-- What a document says of watch sessions leaves the rest of the settings alone; what it sets is not
negative. -/
theorem withWatch_ok (h : s.withWatch root = .ok s') :
    s'.provider = s.provider ∧ s'.root = s.root ∧ s'.command = s.command ∧
      s'.extensions = s.extensions ∧
      ((root.mapping? "watch" = none ∧ s'.settleDelay = s.settleDelay ∧
          s'.maxRetries = s.maxRetries) ∨
        ∃ watch delay, root.mapping? "watch" = some watch ∧
          float? (watch.member? "settle_delay") = .ok delay ∧
          s'.settleDelay = delay.getD s.settleDelay ∧ s'.settleDelay.isNegative = false ∧
          (s'.maxRetries : Int) = (int? (watch.member? "max_retries")).getD s.maxRetries) := by
  unfold withWatch at h
  split at h
  · rename_i hnone
    cases h
    exact ⟨rfl, rfl, rfl, rfl, .inl ⟨hnone, rfl, rfl⟩⟩
  · rename_i watch hwatch
    obtain ⟨delay, hdelay, h⟩ := bind_eq_ok.1 h
    dsimp only at h
    split at h
    · cases h
    split at h
    · cases h
    · rename_i hdelayed hretries
      cases h
      exact ⟨rfl, rfl, rfl, rfl, .inr ⟨watch, delay, hwatch, hdelay, rfl,
        Bool.eq_false_iff.2 hdelayed, Int.toNat_of_nonneg (Int.not_lt.1 hretries)⟩⟩

/-! ### The environment -/

variable {reader : Setting.Reader} {disk : Disk} {env : Environment} {home p file base : Path}
  {bytes : ByteArray}

theorem overridePath_error_iff {value : Option String} :
    overridePath disk base value = .error f ↔
      ∃ text e, value = some text ∧ disk.resolve (base.join text) = .error e ∧ f = .disk e := by
  unfold overridePath
  split
  · simp
  · rename_i text
    cases hresolve : disk.resolve (base.join text) <;> simp [hresolve, @eq_comm _ f]

/-- The environment is taken over unless a path in it leads nowhere. -/
theorem withEnvironment_error_iff :
    s.withEnvironment disk env = .error f ↔
      overridePath disk s.root (nonEmpty? env "DTRACE_MANIFEST") = .error f ∨
        (∃ q, overridePath disk s.root (nonEmpty? env "DTRACE_MANIFEST") = .ok q) ∧
          overridePath disk s.root (nonEmpty? env "DTRACE_PROBES_BUILDER") = .error f := by
  unfold withEnvironment
  rw [bind_eq_error]
  refine or_congr Iff.rfl ?_
  simp only [bind_eq_error]
  simp [pure, Except.pure]

/-- The environment leaves the command, the suffixes and the patience of a session alone. -/
theorem withEnvironment_ok (h : s.withEnvironment disk env = .ok s') :
    s'.provider = s.provider ∧ s'.command = s.command ∧ s'.extensions = s.extensions ∧
      s'.settleDelay = s.settleDelay ∧ s'.maxRetries = s.maxRetries := by
  obtain ⟨_, -, h⟩ := bind_eq_ok.1 h
  obtain ⟨_, -, h⟩ := bind_eq_ok.1 h
  cases h
  exact ⟨rfl, rfl, rfl, rfl, rfl⟩

/-! ### The file -/

/-- A file of settings can be read: where it is, where its project is, and what bytes it holds. -/
structure Given (disk : Disk) (home p file base : Path) (bytes : ByteArray) : Prop where
  /-- The path leads to the file. -/
  located : locate disk home p = .ok file
  /-- The project is where the file is. -/
  resolved : disk.resolve file.parent = .ok base
  /-- The file holds the bytes. -/
  read : disk.read file = .ok bytes

/-- The bytes of a file are the text of a value; a blank text is that of nothing. -/
def Holds (reader : Setting.Reader) (bytes : ByteArray) (v : Setting) : Prop :=
  ∃ text, readText? bytes = some text ∧
    if (trimmed text).isEmpty then v = .null else reader text = .ok v

/-- A fault of a document: whatever is not well formed is reported with the name of the file. -/
def faultOf (file : Path) : Setting.Failure → Fault
  | .malformed => .settings (.unreadable file.name)
  | .mishap kind message => .reader kind message

theorem document_eq (hread : disk.read file = .ok bytes) :
    document reader disk file =
      match readText? bytes with
      | none => .error .undecodable
      | some text =>
        if (trimmed text).isEmpty then .ok .null else (reader text).mapError (faultOf file) := by
  unfold document
  rw [hread]
  show (match readText? bytes with | none => _ | some text => _) = _
  cases readText? bytes with
  | none => rfl
  | some text =>
    dsimp only
    split
    · rfl
    · rcases reader text with failure | v
      · cases failure <;> rfl
      · rfl

theorem document_error_iff (hread : disk.read file = .ok bytes) :
    document reader disk file = .error f ↔ (readText? bytes = none ∧ f = .undecodable) ∨
      ∃ text failure, readText? bytes = some text ∧ (trimmed text).isEmpty = false ∧
        reader text = .error failure ∧ f = faultOf file failure := by
  rw [document_eq hread]
  cases readText? bytes with
  | none =>
    simp only [Except.error.injEq, @eq_comm _ f, true_and, reduceCtorEq, false_and, exists_false, or_false]
  | some text =>
    simp only [reduceCtorEq, false_and, false_or, Option.some.injEq, exists_and_left, exists_eq_left']
    generalize (trimmed text).isEmpty = blank
    cases blank with
    | true => simp
    | false => simpa using mapError_eq_error

theorem document_ok_iff (hread : disk.read file = .ok bytes) {v : Setting} :
    document reader disk file = .ok v ↔ Holds reader bytes v := by
  rw [document_eq hread, Holds]
  cases readText? bytes with
  | none => simp only [reduceCtorEq, false_and, exists_false]
  | some text =>
    simp only [Option.some.injEq, exists_eq_left']
    generalize (trimmed text).isEmpty = blank
    cases blank with
    | true => simp only [if_true, Except.ok.injEq, eq_comm]
    | false => simpa using mapError_eq_ok

/-- The settings that a document gives. -/
def ofDocument (base : Path) : Setting → Except Fault Settings
  | .null => .ok (ofRoot base)
  | .members values => (ofRoot base).withDocument (.members values)
  | _ => .error (.settings .notMapping)

/-- Settings are those of the document in the file, if there is one, changed by the environment. -/
theorem load_eq (hfile : locate disk home p = .ok file) (hbase : disk.resolve file.parent = .ok base)
    {node : Option Node} (hlook : disk.look file = .ok node) (env : Environment) :
    load reader disk home env p =
      (if node.isSome then document reader disk file >>= ofDocument base else .ok (ofRoot base)) >>=
        fun s => s.withEnvironment disk env := by
  -- Each step of the definition is run with what it gives, up to the document.
  unfold load
  rw [hfile]
  show ((disk.resolve file.parent).mapError Fault.disk >>= _) = _
  rw [hbase]
  show ((disk.look file).mapError Fault.disk >>= _) = _
  rw [hlook]
  cases node with
  | none => rfl
  | some node =>
    show (document reader disk file >>= fun v => _) = _
    cases document reader disk file with
    | error e => rfl
    | ok v =>
      show (_ : Except Fault Settings) = ofDocument base v >>= _
      cases v <;> rfl

theorem exists_look_of_read (hread : disk.read file = .ok bytes) :
    ∃ node, disk.look file = .ok (some node) := by
  unfold Disk.read at hread
  unfold Disk.look
  split at hread
  · rename_i hlocate
    rw [hlocate]
    exact ⟨_, rfl⟩
  all_goals cases hread

theorem Given.load_eq (h : Given disk home p file base bytes) (env : Environment) :
    load reader disk home env p =
      document reader disk file >>= ofDocument base >>= fun s => s.withEnvironment disk env := by
  obtain ⟨node, hlook⟩ := exists_look_of_read h.read
  rw [Settings.load_eq h.located h.resolved hlook, Option.isSome_some, if_pos rfl]

/-- Settings that were loaded are those of a project without a file or those of a document, changed by the
environment. -/
theorem exists_of_load (h : load reader disk home env p = .ok s) : ∃ file base s₀,
    locate disk home p = .ok file ∧ s₀.withEnvironment disk env = .ok s ∧
      ((disk.look file = .ok none ∧ s₀ = ofRoot base) ∨
        ∃ d, document reader disk file = .ok d ∧ ofDocument base d = .ok s₀) := by
  obtain ⟨file, hfile, hrest⟩ := bind_eq_ok.1 h
  obtain ⟨base, hbase, hrest⟩ := bind_eq_ok.1 hrest
  obtain ⟨node, hnode, -⟩ := bind_eq_ok.1 hrest
  have hlook : disk.look file = .ok node := mapError_eq_ok.1 hnode
  rw [load_eq hfile (mapError_eq_ok.1 hbase) hlook] at h
  obtain ⟨s₀, hs₀, henv⟩ := bind_eq_ok.1 h
  refine ⟨file, base, s₀, hfile, henv, ?_⟩
  cases node with
  | none => exact .inl ⟨hlook, (Except.ok.inj hs₀).symm⟩
  | some node => exact .inr (bind_eq_ok.1 hs₀)

/-! ### A project with nothing but its settings -/

/-- A reader that knows the value of one text. -/
def readerOf (text : String) (root : Setting) : Setting.Reader := fun t =>
  if t == text then .ok root else .error .malformed

/-- A disk with a project that consists of its settings. -/
def loneDisk (bytes : ByteArray) : Disk :=
  { top := .dir [("p", .dir [(settingsFile, .file bytes)])], here := [] }

theorem linkFree_loneDisk (bytes : ByteArray) : (loneDisk bytes).top.LinkFree :=
  Node.linkFree_of_linkCount_eq_zero rfl

theorem isName_loneDisk (bytes : ByteArray) {names : List String} (h : ∀ n ∈ names, Disk.IsName n) :
    ∀ n ∈ (loneDisk bytes).absoluteNames ⟨.root, names⟩, Disk.IsName n := h

theorem given_loneDisk (home : Path) (bytes : ByteArray) :
    Given (loneDisk bytes) home ⟨.root, ["p"]⟩ ⟨.root, ["p", settingsFile]⟩ ⟨.root, ["p"]⟩ bytes := by
  have hfree := linkFree_loneDisk bytes
  have hproject := isName_loneDisk bytes (show ∀ n ∈ ["p"], Disk.IsName n by decide)
  have hfile := isName_loneDisk bytes (show ∀ n ∈ ["p", settingsFile], Disk.IsName n by decide)
  refine ⟨?_, Disk.resolve_eq_self hproject hfree rfl, ?_⟩
  · unfold locate
    show (((loneDisk bytes).look ⟨.root, ["p"]⟩).mapError Fault.disk >>= _) = _
    rw [Disk.look_of_linkFree hproject hfree rfl]
    show ((loneDisk bytes).resolve ⟨.root, ["p", settingsFile]⟩).mapError Fault.disk = _
    rw [Disk.resolve_eq_self hfile hfree rfl]
    rfl
  · have hread : (loneDisk bytes).read? ⟨.root, ["p", settingsFile]⟩ = some bytes :=
      (Disk.read?_eq_some_of_linkFree hfile hfree rfl).2 rfl
    obtain ⟨place, hplace⟩ := Disk.read?_eq_some_iff.1 hread
    rw [Disk.read, hplace]

end ProbeKit.Settings
