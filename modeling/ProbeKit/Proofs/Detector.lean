import ProbeKit.Detector
import ProbeKit.Proofs.Json.Tokens

/-!
# The line of a sidecar

A sidecar holds a digest and a line end.  Digests are hexadecimal digits only, so the digest is what
a detector takes up from its line (`Detector.recorded?_line`).
-/

namespace ProbeKit

open Text

/-! ### Digests -/

theorem not_isBlank_hexDigit : ∀ d < 16, isBlank (hexDigit d) = false := by decide

namespace Digest

theorem not_isBlank_of_mem_hexDigestOf {bytes : ByteArray} {c : Char}
    (h : c ∈ (hexDigestOf bytes).toList) : isBlank c = false := by
  rw [hexDigestOf, String.toList_ofList, List.mem_flatMap] at h
  obtain ⟨w, -, hc⟩ := h
  obtain ⟨d, hd, rfl⟩ := Json.mem_hexDigits hc
  exact not_isBlank_hexDigit d hd

theorem hexDigestOf_ne_empty (bytes : ByteArray) : (hexDigestOf bytes).toList ≠ [] := by
  rw [hexDigestOf, String.toList_ofList]
  unfold sha256 State.words
  simp [hexDigits]

end Digest

/-! ### Lines -/

theorem skipBlanks_eq_self {cs : List Char} (h : ∀ c ∈ cs, isBlank c = false) :
    skipBlanks cs = cs := by
  cases cs with
  | nil => rfl
  | cons c rest => exact skipBlanks_cons_of_not_blank rest (h c List.mem_cons_self)

/-- A line without other blanks is trimmed to what is before its end. -/
theorem trim_line {cs : List Char} (h : ∀ c ∈ cs, isBlank c = false) :
    trim (cs ++ ['\n']) = cs := by
  cases cs with
  | nil => decide
  | cons c rest =>
    have hrev : skipBlanks (c :: rest).reverse = (c :: rest).reverse :=
      skipBlanks_eq_self fun x hx => h x (List.mem_reverse.1 hx)
    unfold trim
    rw [List.cons_append, skipBlanks_cons_of_not_blank _ (h c List.mem_cons_self),
      ← List.cons_append, List.reverse_append]
    show (skipBlanks ('\n' :: (c :: rest).reverse)).reverse = c :: rest
    rw [skipBlanks, List.dropWhile_cons_of_pos (by decide), ← skipBlanks, hrev,
      List.reverse_reverse]

namespace Detector

/-- **The line of a digest records that digest.** -/
theorem recorded?_line (bytes : ByteArray) :
    recorded? (some (encode (Digest.hexDigestOf bytes ++ "\n"))) =
      some (Digest.hexDigestOf bytes) := by
  have hblank := fun c => @Digest.not_isBlank_of_mem_hexDigestOf bytes c
  have htext : (Digest.hexDigestOf bytes ++ "\n").toList =
      (Digest.hexDigestOf bytes).toList ++ ['\n'] := String.toList_append
  have hcr : '\r' ∉ (Digest.hexDigestOf bytes ++ "\n").toList := by
    rw [htext, List.mem_append]
    rintro (hc | hc)
    · exact absurd (hblank _ hc) (by decide)
    · exact absurd hc (by decide)
  have hne : (Digest.hexDigestOf bytes).isEmpty = false := by
    rw [← Bool.not_eq_true, String.isEmpty_iff]
    intro h
    exact Digest.hexDigestOf_ne_empty bytes (by rw [h]; rfl)
  rw [recorded?, Option.bind_some, readText?_encode hcr, Option.map_some, trimmed, htext,
    trim_line hblank, String.ofList_toList]
  simp [hne]

theorem lastBuilt_ofSidecar_line (m : Manifest) :
    (ofSidecar (some (encode (m.digest ++ "\n")))).lastBuilt = some m.digest := by
  rw [ofSidecar, Manifest.digest, Digest.hexDigest, recorded?_line]

/-- No build is due for the digest that a sidecar records. -/
theorem isDue_ofSidecar_line (m : Manifest) :
    (ofSidecar (some (encode (m.digest ++ "\n")))).isDue m.digest false = false := by
  rw [isDue, lastBuilt_ofSidecar_line]
  simp

end Detector

end ProbeKit
