import ProbeKit.Proofs.Json.RoundTrip

/-!
# Floating-point numbers that are read back

A number is `Exact` if its own text is read as it.  Then it is read back wherever it stands
(`Exact.rereads`): a number that is read to the end of a text is read in front of anything that
cannot go on with it.
-/

namespace ProbeKit.Json

open Number Text

/-- A floating-point number whose own text is read as it. -/
def Exact (x : Binary64) : Prop :=
  ∀ room, read room (line .unicode (.float x)) = .ok (.float x)

section
variable {cs rest : List Char}

/-! ### In front of what cannot go on -/

theorem Stops.span_append (h : Stops rest) (cs : List Char) :
    (cs ++ rest).takeWhile Char.isDigit = cs.takeWhile Char.isDigit ∧
      (cs ++ rest).dropWhile Char.isDigit = cs.dropWhile Char.isDigit ++ rest := by
  induction cs with
  | nil => exact @Stops.span rest [] h (fun c hc => nomatch hc)
  | cons c cs ih =>
    cases hc : c.isDigit with
    | true =>
      rw [List.cons_append]
      simp only [List.takeWhile_cons, List.dropWhile_cons, hc, if_true]
      exact ⟨congrArg (c :: ·) ih.1, ih.2⟩
    | false =>
      rw [List.cons_append]
      simp [hc]

theorem wholeDigits_append (h : Stops rest) {whole more : List Char}
    (hwhole : wholeDigits cs = (whole, more)) : wholeDigits (cs ++ rest) = (whole, more ++ rest) := by
  have hspan := h.span_append cs
  unfold wholeDigits at hwhole
  split at hwhole
  · cases hwhole
    rfl
  · rename_i hzero
    cases hwhole
    unfold wholeDigits
    split
    · rename_i tail heq
      -- A zero at the front belongs to the number, for nothing behind it begins with a digit.
      cases cs with
      | nil =>
        rw [List.nil_append] at heq
        subst heq
        cases (h '0' rfl).1
      | cons c cs =>
        obtain ⟨rfl, -⟩ := List.cons.inj heq
        exact absurd rfl (hzero cs)
    · rw [hspan.1, hspan.2]

theorem fractionDigits_append (h : Stops rest) {digits more : List Char}
    (hfraction : fractionDigits cs = some (digits, more)) :
    fractionDigits (cs ++ rest) = some (digits, more ++ rest) := by
  unfold fractionDigits at hfraction
  split at hfraction
  · rename_i d tail
    split at hfraction
    · rename_i hd
      cases hfraction
      have hspan := h.span_append tail
      show (if d.isDigit then some (d :: (tail ++ rest).takeWhile Char.isDigit,
        (tail ++ rest).dropWhile Char.isDigit) else none) = _
      rw [if_pos hd, hspan.1, hspan.2]
    · cases hfraction
  · cases hfraction

theorem takeSign_append {c : Char} (hc : c.isDigit = true) {down : Bool} {tail : List Char}
    (hsign : takeSign cs = (down, c :: tail)) : takeSign (cs ++ rest) = (down, c :: tail ++ rest) := by
  cases cs with
  | nil => cases hsign
  | cons d cs =>
    unfold takeSign at hsign
    split at hsign
    · rename_i heq
      cases heq
      cases hsign
      rfl
    · rename_i heq
      cases heq
      cases hsign
      rfl
    · rename_i hminus hplus
      cases hsign
      unfold takeSign
      split
      · rename_i heq
        cases heq
        cases hc
      · rename_i heq
        cases heq
        cases hc
      · rfl

theorem exponentPart_append (h : Stops rest) {k : Int} {more : List Char}
    (hexponent : exponentPart cs = some (k, more)) :
    exponentPart (cs ++ rest) = some (k, more ++ rest) ∧ fractionDigits (cs ++ rest) = none := by
  cases cs with
  | nil => cases hexponent
  | cons c cs =>
    rw [exponentPart] at hexponent
    split at hexponent
    · rename_i hc
      rcases hsign : takeSign cs with ⟨down, tail⟩
      rw [hsign] at hexponent
      dsimp only at hexponent
      have hspan := h.span_append tail
      cases tail with
      | nil => cases hexponent
      | cons d tail =>
        cases hd : d.isDigit with
        | false =>
          rw [List.takeWhile_cons_of_neg (by simp [hd])] at hexponent
          cases hexponent
        | true =>
          refine ⟨?_, ?_⟩
          · rw [List.cons_append, exponentPart, if_pos hc, takeSign_append hd hsign]
            dsimp only
            rw [hspan.1, hspan.2]
            split at hexponent
            · cases hexponent
            · rename_i hsome
              rw [if_neg hsome]
              cases hexponent
              rfl
          · unfold fractionDigits
            split
            · rename_i heq
              rw [(List.cons.inj heq).1] at hc
              cases hc
            · rfl
    · cases hexponent

/-- A number that is read to the end is read in front of what cannot go on with it. -/
theorem readUnsigned_append (h : Stops rest) {start start' : List Char} {negative : Bool} {j : Raw}
    (hread : readUnsigned start negative cs = .ok (j, [])) :
    readUnsigned start' negative (cs ++ rest) = .ok (j, rest) := by
  rw [readUnsigned_eq_ok_iff] at hread ⊢
  cases hread with
  | integer hwhole hne hfraction hexponent hlength =>
    exact .integer (wholeDigits_append h hwhole) hne h.fractionDigits h.exponentPart hlength
  | fraction hwhole hne hfraction hexponent =>
    exact .fraction (wholeDigits_append h hwhole) hne (fractionDigits_append h hfraction)
      h.exponentPart
  | exponent hwhole hne hfraction hexponent =>
    obtain ⟨hpart, hnone⟩ := exponentPart_append h hexponent
    exact .exponent (wholeDigits_append h hwhole) hne hnone hpart
  | both hwhole hne hfraction hexponent =>
    exact .both (wholeDigits_append h hwhole) hne (fractionDigits_append h hfraction)
      (exponentPart_append h hexponent).1

theorem exists_digit_of_readUnsigned {start : List Char} {negative : Bool} {j : Raw}
    {more : List Char} (hread : readUnsigned start negative cs = .ok (j, more)) :
    ∃ c tail, cs = c :: tail ∧ c.isDigit = true := by
  cases cs with
  | nil => cases hread
  | cons c tail =>
    refine ⟨c, tail, rfl, ?_⟩
    cases hc : c.isDigit with
    | true => rfl
    | false =>
      have hwhole : wholeDigits (c :: tail) = ([], c :: tail) := by
        unfold wholeDigits
        split
        · rename_i heq
          cases heq
          cases hc
        · simp [hc]
      unfold readUnsigned at hread
      rw [hwhole] at hread
      cases hread

/-- A number is read as a value in front of what cannot go on with it. -/
theorem readValue_append (h : Stops rest) {j : Raw} (hread : readNumber cs = .ok (j, []))
    (levels fuel : Nat) : readValue levels (fuel + 1) (cs ++ rest) = .ok (j, rest) := by
  unfold readNumber at hread
  split at hread
  · rename_i tail
    obtain ⟨c, digits, rfl, hc⟩ := exists_digit_of_readUnsigned hread
    show readValue levels (fuel + 1) ('-' :: c :: (digits ++ rest)) = _
    rw [readValue_of_sign hc]
    exact readUnsigned_append h hread
  · obtain ⟨c, digits, rfl, hc⟩ := exists_digit_of_readUnsigned hread
    rw [List.cons_append, readValue_of_isDigit hc, ← List.cons_append]
    unfold readNumber
    split
    · rename_i heq
      cases heq
      cases hc
    · exact readUnsigned_append h hread

end

/-! ### What is left behind a number -/

theorem suffix_of_wholeDigits {cs whole more : List Char} (h : wholeDigits cs = (whole, more)) :
    more <:+ cs := by
  unfold wholeDigits at h
  split at h
  · cases h
    exact List.suffix_cons _ _
  · cases h
    exact List.dropWhile_suffix _

theorem suffix_of_fractionDigits {cs digits more : List Char}
    (h : fractionDigits cs = some (digits, more)) : more <:+ cs := by
  unfold fractionDigits at h
  split at h
  · split at h
    · cases h
      exact ((List.dropWhile_suffix _).trans (List.suffix_cons _ _)).trans (List.suffix_cons _ _)
    · cases h
  · cases h

theorem suffix_takeSign (cs : List Char) : (takeSign cs).2 <:+ cs := by
  unfold takeSign
  split
  · exact List.suffix_cons _ _
  · exact List.suffix_cons _ _
  · exact List.suffix_refl _

theorem suffix_of_exponentPart {cs : List Char} {k : Int} {more : List Char}
    (h : exponentPart cs = some (k, more)) : more <:+ cs := by
  cases cs with
  | nil => cases h
  | cons c cs =>
    rw [exponentPart] at h
    split at h
    · dsimp only at h
      split at h
      · cases h
      · cases h
        exact ((List.dropWhile_suffix _).trans (suffix_takeSign cs)).trans (List.suffix_cons _ _)
    · cases h

theorem suffix_of_readUnsigned {start cs more : List Char} {negative : Bool} {j : Raw}
    (h : readUnsigned start negative cs = .ok (j, more)) : more <:+ cs := by
  cases readUnsigned_eq_ok_iff.1 h with
  | integer hwhole => exact suffix_of_wholeDigits hwhole
  | fraction hwhole _ hfraction =>
    exact (suffix_of_fractionDigits hfraction).trans (suffix_of_wholeDigits hwhole)
  | exponent hwhole _ _ hexponent =>
    exact (suffix_of_exponentPart hexponent).trans (suffix_of_wholeDigits hwhole)
  | both hwhole _ hfraction hexponent =>
    exact ((suffix_of_exponentPart hexponent).trans (suffix_of_fractionDigits hfraction)).trans
      (suffix_of_wholeDigits hwhole)

theorem suffix_of_readNumber {cs more : List Char} {j : Raw} (h : readNumber cs = .ok (j, more)) :
    more <:+ cs := by
  unfold readNumber at h
  split at h
  · exact (suffix_of_readUnsigned h).trans (List.suffix_cons _ _)
  · exact suffix_of_readUnsigned h

/-! ### Exact numbers -/

theorem skipSpace_eq_self {cs : List Char} (h : ∀ c ∈ cs, isNumeric c = true) :
    skipSpace cs = cs := by
  cases cs with
  | nil => rfl
  | cons c rest =>
    refine skipSpace_cons ?_ rest
    have hc := h c List.mem_cons_self
    cases hspace : isSpace c with
    | false => rfl
    | true =>
      simp only [isSpace, Bool.or_eq_true, beq_iff_eq] at hspace
      rcases hspace with ((rfl | rfl) | rfl) | rfl <;> cases hc

/-- Nothing but a number consists of the characters of numbers. -/
theorem readValue_of_isNumeric {cs : List Char} (h : ∀ c ∈ cs, isNumeric c = true)
    (levels fuel : Nat) : readValue levels (fuel + 1) cs = readNumber cs := by
  rw [readValue]
  all_goals
    intro rest heq
    subst heq
    first
      | exact absurd (h _ List.mem_cons_self) (by decide)
      | exact absurd (h 'I' (by simp)) (by decide)

/-- **A number that is read from its own text is read back wherever it stands.** -/
theorem Exact.rereads {x : Binary64} (h : Exact x) : Rereads x := by
  intro levels fuel rest hrest
  cases x with
  | nan => rfl
  | infinite negative => cases negative <;> rfl
  | finite negative m e hstorable =>
    have hnumeric : ∀ c ∈ floatChars (.finite negative m e hstorable), isNumeric c = true :=
      fun c hc => isNumeric_of_mem_toChars (h := hstorable) hc
    have hchars := readChars?_of_read (h default)
    rw [line, String.toList_ofList] at hchars
    change readChars? _ (floatChars (.finite negative m e hstorable)) = _ at hchars
    obtain ⟨more, hread, hspace⟩ := exists_of_readChars? hchars
    rw [skipSpace_eq_self hnumeric, readValue_of_isNumeric hnumeric] at hread
    have hmore : ∀ c ∈ more, isNumeric c = true :=
      fun c hc => hnumeric c ((suffix_of_readNumber hread).subset hc)
    rw [skipSpace_eq_self hmore] at hspace
    subst hspace
    exact readValue_append hrest hread levels fuel

end ProbeKit.Json
