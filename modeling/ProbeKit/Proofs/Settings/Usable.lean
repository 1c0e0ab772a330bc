import ProbeKit.Proofs.Settings.Loading

/-!
# Settings that were loaded

Each step of loading keeps settings sound (`Settings.Sound`): the provider has a name, the build command
has a word, every suffix begins with a dot and the delay is not less than zero.  A delay that is not less
than zero is at least zero unless it is no number, and that is what it is exactly if the document says so
(`usable_of_load`).
-/

namespace ProbeKit

/-! ### Numbers that are at least zero -/

namespace Number.Binary64

/-- A number is at least zero; what is no number is not. -/
def AtLeastZero : Binary64 → Prop
  | .finite negative m _ _ => 0 ≤ if negative then -(m : Int) else m
  | .infinite negative => negative = false
  | .nan => False

theorem atLeastZero_iff (x : Binary64) : x.AtLeastZero ↔ x.isNegative = false ∧ x ≠ .nan := by
  cases x with
  | finite negative m e hstorable =>
    cases negative with
    | false => simp [AtLeastZero, isNegative]
    | true => simp [AtLeastZero, isNegative]
  | infinite negative => simp [AtLeastZero, isNegative]
  | nan => simp [AtLeastZero]

end Number.Binary64

namespace Settings

open Number Text

variable {reader : Setting.Reader} {disk : Disk} {home p file base : Path} {env : Environment}
variable {s s' : Settings} {root : Setting}

/-! ### Sound settings -/

/-- A suffix begins with a dot. -/
def IsSuffix (e : String) : Prop := e.toList.head? = some '.'

theorem isSuffix_properExtension (e : String) : IsSuffix (properExtension e) := by
  unfold properExtension IsSuffix
  dsimp only
  split
  · rename_i hdot
    exact eq_of_beq hdot
  · rw [String.toList_append]
    rfl

/-- What all steps of loading keep. -/
structure Sound (s : Settings) : Prop where
  /-- The provider has a name. -/
  provider : s.provider ≠ ""
  /-- The build command has a word. -/
  command : s.command ≠ []
  /-- Every suffix begins with a dot. -/
  extensions : ∀ e ∈ s.extensions, IsSuffix e
  /-- The delay is not less than zero. -/
  delay : s.settleDelay.isNegative = false

theorem defaultDelay_ne_nan : defaultDelay ≠ .nan := Binary64.ofDecimal_ne_nan _ _ _

theorem sound_ofRoot (base : Path) : (ofRoot base).Sound where
  provider := by simp [ofRoot]
  command := List.cons_ne_nil _ _
  extensions := by simp [ofRoot, IsSuffix]
  delay := show defaultDelay.isNegative = false by decide +kernel

theorem Sound.withProvider (h : s.Sound) (hs : s.withProvider root = .ok s') : s'.Sound := by
  obtain ⟨provider, -, hne, rfl⟩ := withProvider_eq_ok hs
  refine ⟨?_, h.command, h.extensions, h.delay⟩
  cases provider with
  | none => exact h.provider
  | some name => exact fun hname => hne (congrArg some hname)

theorem Sound.withPaths (h : s.Sound) (hs : s.withPaths root = .ok s') : s'.Sound := by
  obtain ⟨hprovider, -, hcommand, hextensions, hdelay, -⟩ := withPaths_eq_ok hs
  exact ⟨hprovider ▸ h.provider, hcommand ▸ h.command, hextensions ▸ h.extensions, hdelay ▸ h.delay⟩

theorem Sound.withSources (h : s.Sound) (hs : s.withSources root = .ok s') : s'.Sound := by
  obtain ⟨hprovider, -, hcommand, hdelay, -, hextensions⟩ := withSources_eq_ok hs
  refine ⟨hprovider ▸ h.provider, hcommand ▸ h.command, ?_, hdelay ▸ h.delay⟩
  obtain hextensions | ⟨texts, hextensions⟩ := hextensions
  · exact hextensions ▸ h.extensions
  · rw [hextensions]
    exact List.forall_mem_map.2 fun e _ => isSuffix_properExtension e

theorem Sound.withBuild (h : s.Sound) (hs : s.withBuild root = .ok s') : s'.Sound := by
  obtain ⟨hcommand, hprovider, -, hextensions, hdelay, -⟩ := withBuild_ok hs h.command
  exact ⟨hprovider ▸ h.provider, hcommand, hextensions ▸ h.extensions, hdelay ▸ h.delay⟩

theorem Sound.withWatch (h : s.Sound) (hs : s.withWatch root = .ok s') : s'.Sound := by
  obtain ⟨hprovider, -, hcommand, hextensions, hwatch⟩ := withWatch_ok hs
  refine ⟨hprovider ▸ h.provider, hcommand ▸ h.command, hextensions ▸ h.extensions, ?_⟩
  obtain ⟨-, hdelay, -⟩ | ⟨_, _, -, -, -, hdelay, -⟩ := hwatch
  · exact hdelay ▸ h.delay
  · exact hdelay

theorem Sound.withEnvironment (h : s.Sound) (hs : s.withEnvironment disk env = .ok s') : s'.Sound := by
  obtain ⟨hprovider, hcommand, hextensions, hdelay, -⟩ := withEnvironment_ok hs
  exact ⟨hprovider ▸ h.provider, hcommand ▸ h.command, hextensions ▸ h.extensions, hdelay ▸ h.delay⟩

/-! ### What a document says of watch sessions -/

/-- A document says that the delay is no number. -/
def SaysNan (root : Setting) : Prop :=
  ∃ watch, root.mapping? "watch" = some watch ∧
    (watch.member? "settle_delay" = some (.float .nan) ∨
      ∃ text, watch.member? "settle_delay" = some (.text text) ∧ SpellsNan text)

/-- A document says how often to look again. -/
def SaysRetries (root : Setting) (n : Int) : Prop :=
  ∃ watch, root.mapping? "watch" = some watch ∧ int? (watch.member? "max_retries") = some n

theorem float?_eq_nan_iff {v : Option Setting} :
    float? v = .ok (some .nan) ↔ v = some (.float .nan) ∨
      ∃ text, v = some (.text text) ∧ SpellsNan text := by
  unfold float?
  split
  · rename_i n
    have hne : Binary64.ofInt n ≠ .nan := Binary64.ofRatio_ne_nan _ _ _
    split <;> simp_all
  · simp
  · simp [readFloat?_eq_nan_iff]
  · rename_i hint hfloat hstr
    simp only [Except.ok.injEq, reduceCtorEq, false_iff, not_or, not_exists, not_and]
    exact ⟨hfloat _, fun text h => absurd h (hstr text)⟩

theorem settleDelay_withWatch (hs : s.withWatch root = .ok s') (h : s.settleDelay ≠ .nan) :
    s'.settleDelay = .nan ↔ SaysNan root := by
  obtain ⟨-, -, -, -, ⟨hnone, hdelay, -⟩ | ⟨watch, delay, hwatch, hfloat, hdelay, -, -⟩⟩ := withWatch_ok hs
  · rw [hdelay]
    refine iff_of_false h ?_
    rintro ⟨watch, hwatch, -⟩
    rw [hnone] at hwatch
    cases hwatch
  · have hnan : SaysNan root ↔ delay = some .nan := by
      unfold SaysNan
      simp only [hwatch, Option.some.injEq, exists_eq_left', ← float?_eq_nan_iff, hfloat, Except.ok.injEq]
    rw [hdelay, hnan]
    cases delay with
    | none => simpa using h
    | some x => simp

theorem maxRetries_withWatch (hs : s.withWatch root = .ok s') {n : Int} (hn : SaysRetries root n) :
    (s'.maxRetries : Int) = n := by
  obtain ⟨watch, hwatch, hint⟩ := hn
  obtain ⟨-, -, -, -, ⟨hnone, -⟩ | ⟨watch', _, hwatch', -, -, -, hretries⟩⟩ := withWatch_ok hs
  · rw [hnone] at hwatch
    cases hwatch
  · obtain rfl : watch' = watch := Option.some.inj (hwatch'.symm.trans hwatch)
    rw [hretries, hint, Option.getD_some]

theorem ofDocument_spec (h : ofDocument base root = .ok s) : s.Sound ∧
    (s.settleDelay = .nan ↔ SaysNan root) ∧ ∀ n, SaysRetries root n → (s.maxRetries : Int) = n := by
  cases root with
  | null =>
    cases h
    refine ⟨sound_ofRoot base, iff_of_false defaultDelay_ne_nan ?_, ?_⟩
    · rintro ⟨watch, hwatch, -⟩
      cases hwatch
    · rintro n ⟨watch, hwatch, -⟩
      cases hwatch
  | members values =>
    obtain ⟨s₁, hs₁, h⟩ := bind_eq_ok.1 h
    obtain ⟨s₂, hs₂, h⟩ := bind_eq_ok.1 h
    obtain ⟨s₃, hs₃, h⟩ := bind_eq_ok.1 h
    obtain ⟨s₄, hs₄, h⟩ := bind_eq_ok.1 h
    have hsound := (((sound_ofRoot base).withProvider hs₁).withPaths hs₂).withSources hs₃
    obtain ⟨_, -, -, hdelay₁⟩ := withProvider_eq_ok hs₁
    obtain ⟨-, -, -, -, hdelay₂, -⟩ := withPaths_eq_ok hs₂
    obtain ⟨-, -, -, hdelay₃, -⟩ := withSources_eq_ok hs₃
    obtain ⟨-, -, -, -, hdelay₄, -⟩ := withBuild_ok hs₄ hsound.command
    have hdelay : s₄.settleDelay ≠ .nan := by
      rw [hdelay₄, hdelay₃, hdelay₂, hdelay₁]
      exact defaultDelay_ne_nan
    exact ⟨(hsound.withBuild hs₄).withWatch h, settleDelay_withWatch h hdelay, fun _ =>
      maxRetries_withWatch h⟩
  | _ => cases h

/-! ### Loading -/

/-- A path that leads to nothing has no document. -/
theorem document_ne_ok_of_look (h : disk.look file = .ok none) :
    document reader disk file ≠ .ok root := by
  intro hd
  obtain ⟨bytes, hbytes, -⟩ := bind_eq_ok.1 hd
  obtain ⟨node, hnode⟩ := exists_look_of_read (mapError_eq_ok.1 hbytes)
  rw [h] at hnode
  cases hnode

/-- The settings of a project say a thing if the document in its file does. -/
def Says (reader : Setting.Reader) (disk : Disk) (home p : Path) (P : Setting → Prop) : Prop :=
  ∃ file root, locate disk home p = .ok file ∧ document reader disk file = .ok root ∧ P root

/-- **What was loaded can be used, but for a delay that is no number.**  This does not depend on
what reads the settings file. -/
theorem usable_of_load (h : load reader disk home env p = .ok s) :
    s.provider ≠ "" ∧ s.command ≠ [] ∧ (∀ e ∈ s.extensions, IsSuffix e) ∧
      (s.settleDelay.AtLeastZero ↔ ¬Says reader disk home p SaysNan) ∧
      ∀ n, Says reader disk home p (SaysRetries · n) → (s.maxRetries : Int) = n := by
  obtain ⟨file, base, s₀, hfile, henv, horigin⟩ := exists_of_load h
  have hspec : s₀.Sound ∧ (s₀.settleDelay = .nan ↔ Says reader disk home p SaysNan) ∧
      ∀ n, Says reader disk home p (SaysRetries · n) → (s₀.maxRetries : Int) = n := by
    obtain ⟨hlook, rfl⟩ | ⟨root, hroot, hof⟩ := horigin
    · -- Without a file there is no document that could say anything.
      have hnone (P : Setting → Prop) : ¬Says reader disk home p P := by
        rintro ⟨file', root, hfile', hroot, -⟩
        obtain rfl : file = file' := Except.ok.inj (hfile.symm.trans hfile')
        exact document_ne_ok_of_look hlook hroot
      exact ⟨sound_ofRoot base, iff_of_false defaultDelay_ne_nan (hnone _), fun _ hn =>
        absurd hn (hnone _)⟩
    · -- There is one document, and all that is said is said by it.
      have hsame {P : Setting → Prop} : Says reader disk home p P ↔ P root := by
        constructor
        · rintro ⟨file', root', hfile', hroot', h⟩
          obtain rfl : file = file' := Except.ok.inj (hfile.symm.trans hfile')
          obtain rfl : root = root' := Except.ok.inj (hroot.symm.trans hroot')
          exact h
        · exact fun h => ⟨file, root, hfile, hroot, h⟩
      simp only [hsame]
      exact ofDocument_spec hof
  obtain ⟨hsound, hnan, hretries⟩ := hspec
  have hs := hsound.withEnvironment henv
  obtain ⟨-, -, -, hdelay, hmaxRetries⟩ := withEnvironment_ok henv
  refine ⟨hs.provider, hs.command, hs.extensions, ?_, hmaxRetries ▸ hretries⟩
  rw [Binary64.atLeastZero_iff, ← hnan, hdelay]
  exact and_iff_right hsound.delay

/-! ### Loading a text -/

/-- The document of a text alone is what the reader gives for it. -/
theorem document_loneDisk (text : String) (root : Setting) (hlines : '\r' ∉ text.toList)
    (hblank : (trimmed text).isEmpty = false) :
    document (readerOf text root) (loneDisk (encode text)) ⟨.root, ["p", settingsFile]⟩ =
      .ok root := by
  refine (document_ok_iff (given_loneDisk ⟨.root, []⟩ (encode text)).read).2
    ⟨text, readText?_encode hlines, ?_⟩
  rw [hblank]
  exact if_pos (beq_self_eq_true text)

/-- What is loaded from a text alone can be read off its document. -/
theorem exists_load_loneDisk {α : Type} (field : Settings → α) (text : String) (root : Setting)
    (x : α) (hlines : '\r' ∉ text.toList) (hblank : (trimmed text).isEmpty = false)
    (hfield : (ofDocument ⟨.root, ["p"]⟩ root).toOption.map field = some x) :
    ∃ s, load (readerOf text root) (loneDisk (encode text)) ⟨.root, []⟩ [] ⟨.root, ["p"]⟩ = .ok s ∧
      field s = x := by
  obtain ⟨s, hs, hx⟩ := Option.map_eq_some_iff.1 hfield
  refine ⟨s, ?_, hx⟩
  -- No environment changes anything, so the settings of the document are loaded.
  rw [(given_loneDisk ⟨.root, []⟩ (encode text)).load_eq, document_loneDisk text root hlines hblank]
  show (ofDocument ⟨.root, ["p"]⟩ root >>= _) = _
  rw [eq_ok_of_toOption hs]
  rfl

/-- Settings that choose a few things. -/
def modestText : String := "provider: app\nextensions: [JS, .ts]\nwatch:\n  settle_delay: 0.5\n"

/-- What a reader gives for them. -/
def modestRoot : Setting :=
  .members [(.text "provider", .text "app"),
    (.text "extensions", .items [.text "JS", .text ".ts"]),
    (.text "watch", .members [(.text "settle_delay", .float (.ofDecimal false 5 (-1)))])]

theorem usable_of_load_modestText : ∃ s,
    load (readerOf modestText modestRoot) (loneDisk (encode modestText)) ⟨.root, []⟩ []
        ⟨.root, ["p"]⟩ = .ok s ∧
      s.provider = "app" ∧ s.extensions = [".js", ".ts"] ∧ (∀ e ∈ s.extensions, IsSuffix e) ∧
      s.settleDelay.AtLeastZero := by
  obtain ⟨s, hs, hfields⟩ := exists_load_loneDisk (fun s => (s.provider, s.extensions)) modestText
    modestRoot ("app", [".js", ".ts"]) (by decide) (by decide +kernel) (by decide +kernel)
  obtain ⟨-, -, hsuffixes, hdelay, -⟩ := usable_of_load hs
  refine ⟨s, hs, congrArg Prod.fst hfields, congrArg Prod.snd hfields, hsuffixes, hdelay.2 ?_⟩
  -- The document gives a number for the delay.
  rintro ⟨file, root, hfile, hroot, watch, hwatch, hnan⟩
  obtain rfl := Except.ok.inj ((given_loneDisk _ _).located.symm.trans hfile)
  rw [document_loneDisk modestText modestRoot (by decide) (by decide +kernel)] at hroot
  obtain rfl := Except.ok.inj hroot
  obtain rfl := Option.some.inj (hwatch.symm.trans rfl)
  obtain hnan | ⟨text, htext, -⟩ := hnan
  · exact Binary64.ofDecimal_ne_nan _ _ _ (Setting.float.inj (Option.some.inj hnan))
  · cases htext

/-- Settings with a delay that is no number. -/
def nanText : String := "watch:\n  settle_delay: .nan\n"

/-- What a reader gives for them. -/
def nanRoot : Setting := .members [(.text "watch", .members [(.text "settle_delay", .float .nan)])]

/-- They can be loaded, but their delay is not at least zero. -/
theorem exists_load_delay_nan : ∃ s,
    load (readerOf nanText nanRoot) (loneDisk (encode nanText)) ⟨.root, []⟩ [] ⟨.root, ["p"]⟩ = .ok s ∧
      ¬s.settleDelay.AtLeastZero := by
  obtain ⟨s, hs, hdelay⟩ := exists_load_loneDisk (·.settleDelay) nanText nanRoot .nan
    (by decide) (by decide +kernel) (by decide +kernel)
  exact ⟨s, hs, hdelay ▸ id⟩

end Settings

end ProbeKit
