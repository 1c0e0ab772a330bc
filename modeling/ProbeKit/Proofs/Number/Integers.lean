import ProbeKit.Number.Numeral
import ProbeKit.Proofs.Number.Rounding

/-!
# Integers that are too large

An integer becomes an infinity exactly if it is not nearer to the greatest finite number than to the
power of two behind it (`Binary64.ofInt_infinite_iff`).  Of the texts that spell floating-point numbers
only the word for it spells no number (`readFloat?_eq_nan_iff`).
-/

namespace ProbeKit.Number

namespace Binary64

variable {num den k low high : Nat} {m : Nat} {e : Int}

/-! ### Rounding up -/

/-- A quotient is rounded to a number that is not further from it than its bounds. -/
theorem nearestEven_bounds (hden : 0 < den) (hlow : low * den ≤ num) (hhigh : num < high * den) :
    low ≤ nearestEven num den ∧ nearestEven num den ≤ high := by
  have hle : low ≤ num / den := (Nat.le_div_iff_mul_le hden).2 hlow
  have hlt : num / den < high := (Nat.div_lt_iff_lt_mul hden).2 hhigh
  unfold nearestEven
  dsimp only
  split <;> omega

/-- A quotient is rounded up to an even number from half a step below it. -/
theorem even_le_nearestEven_iff (hden : 0 < den) (heven : k % 2 = 0) (hk : 0 < k) :
    k ≤ nearestEven num den ↔ (2 * k - 1) * den ≤ 2 * num := by
  obtain ⟨j, rfl⟩ := Nat.exists_eq_add_one_of_ne_zero hk.ne'
  have hrest : num % den < den := Nat.mod_lt _ hden
  have hnum : den * (num / den) + num % den = num := Nat.div_add_mod num den
  unfold nearestEven
  dsimp only
  generalize num / den = q at hnum ⊢
  generalize num % den = r at hnum hrest ⊢
  subst hnum
  have hodd : 2 * (j + 1) - 1 = 2 * j + 1 := by omega
  rw [hodd]
  -- Only from the odd number just below is it rounded up to the even one.
  rcases Nat.lt_trichotomy q j with hlt | rfl | hgt
  · have hmul : den * (q + 1) ≤ den * j := Nat.mul_le_mul_left den hlt
    constructor
    · intro h
      split at h <;> omega
    · intro h
      rw [Nat.add_mul, Nat.mul_assoc, Nat.mul_comm j den] at h
      rw [Nat.mul_add] at hmul
      omega
  · rw [Nat.add_mul, Nat.mul_assoc, Nat.mul_comm q den]
    simp only [Bool.or_eq_true, Bool.and_eq_true, decide_eq_true_eq, beq_iff_eq]
    split <;> omega
  · have hmul : den * (j + 1) ≤ den * q := Nat.mul_le_mul_left den hgt
    constructor
    · intro _
      rw [Nat.add_mul, Nat.mul_assoc, Nat.mul_comm j den]
      rw [Nat.mul_add] at hmul
      omega
    · intro _
      split <;> omega

/-! ### Integers -/

theorem two_pow_mono {j k : Nat} (h : j ≤ k) : Nat.pow 2 j ≤ Nat.pow 2 k :=
  Nat.pow_le_pow_right two_pos h

/-- The first integer that is too large. -/
def tooLarge : Nat := Nat.pow 2 1024 - Nat.pow 2 970

theorem floorLog2_one (h : num ≠ 0) : floorLog2 num 1 = num.log2 := by
  have hlog : (Nat.log2 1 : Int) = 0 := rfl
  have hle : 1 * Nat.pow 2 (num.log2 : Int).toNat ≤ num := by
    rw [Nat.one_mul, Int.toNat_natCast]
    exact Nat.log2_self_le h
  simp only [floorLog2, hlog, Int.sub_zero, Int.natCast_nonneg, if_true, hle]

/-- The significand of an integer has 53 bits, or it is rounded up to one more. -/
theorem significand_bounds (h : num ≠ 0) (he : e = (num.log2 : Int) - 52) :
    Nat.pow 2 52 ≤ (if 0 ≤ e then nearestEven num (1 * Nat.pow 2 e.toNat)
      else nearestEven (num * Nat.pow 2 (-e).toNat) 1) ∧
    (if 0 ≤ e then nearestEven num (1 * Nat.pow 2 e.toNat)
      else nearestEven (num * Nat.pow 2 (-e).toNat) 1) ≤ Nat.pow 2 53 := by
  have hlow : 2 ^ num.log2 ≤ num := Nat.log2_self_le h
  have hhigh : num < 2 ^ (num.log2 + 1) := Nat.lt_log2_self
  split
  · obtain ⟨k, hk⟩ : ∃ k, num.log2 = 52 + k := ⟨num.log2 - 52, by omega⟩
    have hexponent : e.toNat = k := by omega
    rw [hk] at hlow hhigh
    rw [hexponent, Nat.one_mul]
    refine nearestEven_bounds (Nat.pow_pos two_pos) ?_ ?_
    · rwa [Nat.pow_eq, Nat.pow_eq, ← Nat.pow_add]
    · rwa [Nat.pow_eq, Nat.pow_eq, ← Nat.pow_add, show 53 + k = 52 + k + 1 by omega]
  · obtain ⟨j, hj⟩ : ∃ j, num.log2 + j = 52 := ⟨52 - num.log2, by omega⟩
    have hexponent : (-e).toNat = j := by omega
    rw [hexponent]
    refine nearestEven_bounds Nat.one_pos ?_ ?_
    · rw [Nat.mul_one, Nat.pow_eq, Nat.pow_eq, ← hj, Nat.pow_add]
      exact Nat.mul_le_mul_right _ hlow
    · rw [Nat.mul_one, Nat.pow_eq, Nat.pow_eq, show 53 = num.log2 + 1 + j by omega, Nat.pow_add]
      exact Nat.mul_lt_mul_of_pos_right hhigh (Nat.pow_pos two_pos)

theorem ofParts_infinite_iff {negative : Bool} :
    (∃ s, ofParts negative m e = .infinite s) ↔ ¬Storable m e := by
  unfold ofParts
  split <;> simp [*]

/-- A significand with all its bits cannot be stored if the exponent is too great. -/
theorem rounded_infinite_iff {negative : Bool} (he : -1074 ≤ e) (hlow : Nat.pow 2 52 ≤ m)
    (hhigh : m ≤ Nat.pow 2 53) :
    (∃ s, (if m = Nat.pow 2 53 then ofParts negative (Nat.pow 2 52) (e + 1)
      else ofParts negative m e) = .infinite s) ↔ 971 < e ∨ e = 971 ∧ Nat.pow 2 53 ≤ m := by
  have hpow : Nat.pow 2 52 < Nat.pow 2 53 := by decide
  split
  · rename_i hm
    have hstorable : Storable (Nat.pow 2 52) (e + 1) ↔ e + 1 ≤ 971 :=
      ⟨fun h => h.2.1, fun h => ⟨by omega, h, hpow, .inl (Nat.le_refl _)⟩⟩
    rw [ofParts_infinite_iff, hstorable]
    omega
  · rename_i hm
    have hstorable : Storable m e ↔ e ≤ 971 :=
      ⟨fun h => h.2.1, fun h => ⟨he, h, by omega, .inl hlow⟩⟩
    rw [ofParts_infinite_iff, hstorable]
    omega

theorem ofRatio_one_infinite_iff (negative : Bool) (num : Nat) :
    (∃ s, ofRatio negative num 1 = .infinite s) ↔ tooLarge ≤ num := by
  by_cases hnum : num = 0
  · subst hnum
    have hsmall : ¬tooLarge ≤ 0 := by decide +kernel
    simp [ofRatio, zero, hsmall]
  have hlow : 2 ^ num.log2 ≤ num := Nat.log2_self_le hnum
  have hhigh : num < 2 ^ (num.log2 + 1) := Nat.lt_log2_self
  obtain ⟨e, he⟩ : ∃ e : Int, e = (num.log2 : Int) - 52 := ⟨_, rfl⟩
  have hmax : max (-1074) (floorLog2 num 1 - 52) = e := by
    rw [floorLog2_one hnum]
    omega
  obtain ⟨hleast, hmost⟩ := significand_bounds hnum he
  rw [ofRatio_eq negative hnum hmax rfl, rounded_infinite_iff (by omega) hleast hmost]
  rcases Nat.lt_trichotomy num.log2 1023 with hlt | heq | hgt
  · obtain ⟨k, hk, hsmall⟩ : ∃ k, k = 1023 ∧ Nat.pow 2 k < tooLarge := ⟨1023, rfl, by decide +kernel⟩
    have hless : num < tooLarge := hhigh.trans_le ((two_pow_mono (hk ▸ hlt)).trans hsmall.le)
    omega
  · -- Here the significand decides.
    have hexponent : e = 971 := by omega
    subst hexponent
    obtain ⟨den, hden, hpos, hsame⟩ : ∃ den, 1 * Nat.pow 2 (971 : Int).toNat = den ∧ 0 < den ∧
        (2 * Nat.pow 2 53 - 1) * den = 2 * tooLarge :=
      ⟨_, rfl, by decide +kernel, by decide +kernel⟩
    rw [if_pos (by decide), hden, even_le_nearestEven_iff hpos (by decide) (by decide), hsame]
    omega
  · obtain ⟨k, hk, hlarge⟩ : ∃ k, k = 1024 ∧ tooLarge ≤ Nat.pow 2 k := ⟨1024, rfl, by decide +kernel⟩
    have hmore : tooLarge ≤ num := hlarge.trans ((two_pow_mono (hk ▸ hgt)).trans hlow)
    omega

/-- **An integer is too large from halfway between the greatest finite number and the power of two
behind it.** -/
theorem ofInt_infinite_iff (n : Int) : (∃ s, ofInt n = .infinite s) ↔ tooLarge ≤ n.natAbs :=
  ofRatio_one_infinite_iff _ _

/-! ### No number -/

theorem ofParts_ne_nan (negative : Bool) (m : Nat) (e : Int) : ofParts negative m e ≠ .nan := by
  unfold ofParts
  split <;> simp

theorem ofRatio_ne_nan (negative : Bool) (num den : Nat) : ofRatio negative num den ≠ .nan := by
  by_cases hnum : num = 0
  · simp [ofRatio, zero, hnum]
  · obtain ⟨e, he⟩ : ∃ e, max (-1074) (floorLog2 num den - 52) = e := ⟨_, rfl⟩
    obtain ⟨m, hm⟩ : ∃ m, (if 0 ≤ e then nearestEven num (den * Nat.pow 2 e.toNat)
      else nearestEven (num * Nat.pow 2 (-e).toNat) den) = m := ⟨_, rfl⟩
    rw [ofRatio_eq negative hnum he hm]
    split
    · exact ofParts_ne_nan _ _ _
    · exact ofParts_ne_nan _ _ _

theorem ofDecimal_ne_nan (negative : Bool) (digits : Nat) (exponent : Int) :
    ofDecimal negative digits exponent ≠ .nan := by
  unfold ofDecimal
  dsimp only
  split
  · simp [zero]
  split
  · simp
  split
  · simp [zero]
  split
  · exact ofRatio_ne_nan _ _ _
  · exact ofRatio_ne_nan _ _ _

end Binary64

theorem unsignedFloat?_ne_nan (negative : Bool) (cs : List Char) :
    unsignedFloat? negative cs ≠ some .nan := by
  have hdecimal (digits : Nat) (exponent : Int) :
      some (Binary64.ofDecimal negative digits exponent) ≠ some .nan := fun h =>
    Binary64.ofDecimal_ne_nan _ _ _ (Option.some.inj h)
  unfold unsignedFloat?
  dsimp only
  split
  all_goals
    split
    · simp
    split
    · exact hdecimal _ _
    split
    · exact hdecimal _ _
    · simp

/-- A text spells no number, with or without a sign. -/
def SpellsNan (s : String) : Prop :=
  ∃ cs, numeralChars? s = some cs ∧ String.ofList ((takeSign cs).2.map Char.toLower) = "nan"

/-- Only the word for it stands for no number. -/
theorem readFloat?_eq_nan_iff (s : String) : readFloat? s = some .nan ↔ SpellsNan s := by
  unfold readFloat? SpellsNan
  cases hchars : numeralChars? s with
  | none => simp
  | some cs =>
    simp only [Option.bind_eq_bind, Option.bind_some, Option.some.injEq, exists_eq_left', beq_iff_eq,
      Bool.or_eq_true]
    split
    · rename_i hinfinite
      rcases hinfinite with hinfinite | hinfinite <;> simp [hinfinite]
    · split
      · rename_i hnan
        simp [hnan]
      · rename_i hnan
        simp [hnan, unsignedFloat?_ne_nan]

end ProbeKit.Number
