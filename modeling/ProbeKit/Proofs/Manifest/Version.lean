import ProbeKit.Proofs.Digest
import ProbeKit.Proofs.Manifest.Content

/-!
# The version that is written down

The version of a manifest is compared with the number one, and it is written as it is.  Three values
count as one: the integer, the true truth value and the number one with a point (`isOne_iff`).  So the
one text of a manifest without a flaw gives the integer one as its version unless the manifest has one
of the other two, and manifests that agree in all else have the same text exactly if they spell their
versions alike (`written_as_one_iff`).
-/

namespace ProbeKit.Manifest

open Json Number

variable {m n : Manifest}

/-! ### Values that count as one -/

theorem isOne_iff {j : Json} :
    j.isOne = true ↔ j = .int 1 ∨ j = .bool true ∨ j = .float (Binary64.ofInt 1) := by
  cases j with
  | bool b => simp [isOne]
  | int k => simp [isOne]
  | float x => simp [isOne, Binary64.isOne]
  | _ => simp [isOne]

/-! ### Reading the version -/

/-- The version that the one text of a manifest gives, if it gives any. -/
def writtenVersion? (room : Room) (m : Manifest) : Option Json :=
  (read? room m.canonicalText).bind (member? "schemaVersion")

/-- The document of a manifest is read back from its one text. -/
theorem read?_canonicalText {room : Room} (h : m.Plain) (hfits : m.document.Fits room.reading) :
    read? room m.canonicalText = some m.document := by
  have hlegible := legible_probes h []
  rw [← document_eq] at hlegible
  exact read?_document .unicode hlegible hfits

theorem writtenVersion?_eq (room : Room) (hm : m.flaw? = none) :
    m.writtenVersion? room = some m.schemaVersion := by
  rw [writtenVersion?, read?_canonicalText (plain_of_flaw?_eq_none hm)
    (fits_of_flaw?_eq_none hm room.le_reading)]
  rfl

/-- The integer one is written for a version unless it is one of the other two values. -/
theorem Valid.schemaVersion_eq_one_iff (h : m.Valid) :
    m.schemaVersion = .int 1 ↔
      m.schemaVersion ≠ .bool true ∧ m.schemaVersion ≠ .float (Binary64.ofInt 1) := by
  constructor
  · intro hone
    rw [hone]
    constructor
    · intro hbool
      cases hbool
    · intro hfloat
      cases hfloat
  · rintro ⟨hbool, hfloat⟩
    rcases isOne_iff.1 h.schemaVersion with hone | hone | hone
    · exact hone
    · exact absurd hone hbool
    · exact absurd hone hfloat

/-! ### The main result -/

/-- **A manifest without a flaw is written with the integer one for its version unless its version is
the true truth value or the number one with a point.**  Two such manifests that agree in provider,
module and probes have the same text exactly if their versions are the same value; in particular they
have the same text and the same digest if both are written with the integer one. -/
theorem written_as_one_iff (room : Room) (hm : m.flaw? = none) :
    (m.writtenVersion? room = some (.int 1) ↔
      m.schemaVersion ≠ .bool true ∧ m.schemaVersion ≠ .float (Binary64.ofInt 1)) ∧
    ∀ n : Manifest, n.flaw? = none → m.provider = n.provider → m.moduleText? = n.moduleText? →
      (∀ p, p ∈ m.probes ↔ p ∈ n.probes) →
      (m.canonicalText = n.canonicalText ↔ m.schemaVersion = n.schemaVersion) ∧
      (m.writtenVersion? room = some (.int 1) → n.writtenVersion? room = some (.int 1) →
        m.canonicalText = n.canonicalText ∧ m.digest = n.digest) := by
  have hmv := flaw?_eq_none_iff.1 hm
  constructor
  · rw [writtenVersion?_eq room hm, Option.some_inj]
    exact hmv.schemaVersion_eq_one_iff
  intro n hn hprovider hmodule hprobes
  have hnv := flaw?_eq_none_iff.1 hn
  have hsame (hversion : m.schemaVersion = n.schemaVersion) : m.canonicalText = n.canonicalText :=
    SaysSame.canonicalText_eq ⟨hversion, hprovider, hmodule, hprobes⟩ hmv hnv
  refine ⟨⟨fun htext => ?_, hsame⟩, fun hone hone' => ?_⟩
  · exact (saysSame_of_canonicalText_eq hm hn htext).schemaVersion
  · rw [writtenVersion?_eq room hm] at hone
    rw [writtenVersion?_eq room hn, ← hone] at hone'
    have htext := hsame (Option.some.inj hone').symm
    exact ⟨htext, congrArg Digest.hexDigest htext⟩

/-! ### Other spellings -/

/-- A manifest of no probes with some version. -/
def versioned (schemaVersion : Json) : Manifest := { schemaVersion, provider := .str "p" }

theorem plain_versioned {j : Json} (h : j.Legible) : (versioned j).Plain :=
  ⟨h, legible_str "p", trivial⟩

theorem reread_versioned (j : Json) : (versioned j).reread = versioned j := by
  rw [reread, sortedProbes, versioned, List.mergeSort_nil]
  rfl

/-- What was written for such a manifest is read as the manifest itself. -/
theorem parse_versioned (room : Room) {j : Json} (h : (versioned j).flaw? = none) :
    parse room (versioned j).canonicalText = .ok (versioned j) := by
  rw [parse_canonicalText_of_flaw?_eq_none room h, reread_versioned]

/-- The integer is written as the integer, and nothing else has the same text. -/
theorem written_as_one_versioned :
    (versioned (.int 1)).writtenVersion? .usual = some (.int 1) ∧
      (versioned (.bool true)).writtenVersion? .usual ≠ some (.int 1) ∧
      (versioned (.int 1)).canonicalText ≠
        (versioned (.float (Binary64.ofInt 1))).canonicalText := by
  obtain ⟨hint, hothers⟩ := written_as_one_iff .usual (m := versioned (.int 1)) (by decide)
  obtain ⟨hbool, -⟩ := written_as_one_iff .usual (m := versioned (.bool true)) (by decide)
  refine ⟨hint.2 ⟨?_, ?_⟩, fun hone => (hbool.1 hone).1 rfl, fun htext => ?_⟩
  · intro h
    cases h
  · intro h
    cases h
  · have hversion := (hothers (versioned (.float (Binary64.ofInt 1))) (by decide) rfl rfl
      fun _ => Iff.rfl).1.1 htext
    cases hversion

/-- **A manifest without a flaw need not be written with the integer one for its version.**  A text may
give `true` for the version; what is read from it has no flaw, `true` is written for it again, and
neither the text nor the digest is that of the same manifest with the integer one. -/
theorem exists_written_true : ∃ (text : String) (m n : Manifest),
    parse .usual text = .ok m ∧ m.flaw? = none ∧ m.writtenVersion? .usual = some (.bool true) ∧
    n = { m with schemaVersion := .int 1 } ∧ n.flaw? = none ∧
    m.canonicalText ≠ n.canonicalText ∧ m.digest ≠ n.digest := by
  have htrue : (versioned (.bool true)).flaw? = none := by decide
  have hparsed := parse_versioned .usual htrue
  refine ⟨_, versioned (.bool true), versioned (.int 1), hparsed, htrue,
    writtenVersion?_eq .usual htrue, rfl, by decide, fun htext => ?_, ?_⟩
  · have hversion := (saysSame_of_canonicalText_eq htrue (by decide) htext).schemaVersion
    cases hversion
  · rw [digest, digest, Digest.hexDigest_eq, Digest.hexDigest_eq]
    decide +kernel

end ProbeKit.Manifest
