import Mathlib.Algebra.Order.Field.Power
import Mathlib.Tactic.Linarith
import Mathlib.Tactic.Positivity
import Mathlib.Tactic.FieldSimp
import Mathlib.Tactic.Ring
import Mathlib.Tactic.NormNum
import ProbeKit.Number.Binary64

/-!
# Rounding to the nearest number

The reals to which no number of the format is nearer than `m * 2 ^ e` form an interval (`Nears`).  A
quotient in it is rounded to `m * 2 ^ e` (`Binary64.ofRatio_of_nears`), and so is a decimal in it,
however it is spelled (`Binary64.ofDecimal_of_nears`).  Just below a power of two the exponent is
found one too low; there the significand is rounded up to one bit more than it may have, which gives
the power of two again (`Nears.below`).
-/

namespace ProbeKit.Number

variable {num den n m : Nat} {e : Int} {x : ℚ}

/-! ### Powers -/

/-- A power with an integer exponent is the quotient of two natural powers, one of which is one. -/
theorem pow_div_pow (b : Nat) [NeZero b] (k : Int) :
    ((Nat.pow b k.toNat : Nat) : ℚ) / (Nat.pow b (-k).toNat : Nat) = (b : ℚ) ^ k := by
  have hb : (b : ℚ) ≠ 0 := NeZero.ne _
  rw [Nat.pow_eq, Nat.pow_eq, Nat.cast_pow, Nat.cast_pow, ← zpow_natCast, ← zpow_natCast,
    ← zpow_sub₀ hb]
  congr 1
  omega

theorem two_pow_div_two_pow (k : Int) :
    ((Nat.pow 2 k.toNat : Nat) : ℚ) / (Nat.pow 2 (-k).toNat : Nat) = 2 ^ k := by
  rw [pow_div_pow, Nat.cast_two]

theorem ten_pow_div_ten_pow (k : Int) :
    ((Nat.pow 10 k.toNat : Nat) : ℚ) / (Nat.pow 10 (-k).toNat : Nat) = 10 ^ k := by
  rw [pow_div_pow, Nat.cast_ofNat]

theorem two_pow_le_div_iff (k : Int) (hden : 0 < den) :
    Nat.pow 2 k.toNat * den ≤ num * Nat.pow 2 (-k).toNat ↔ (2 : ℚ) ^ k ≤ (num : ℚ) / den := by
  have hpow : (0 : ℚ) < (Nat.pow 2 (-k).toNat : Nat) := by exact_mod_cast Nat.pow_pos two_pos
  rw [← two_pow_div_two_pow, div_le_div_iff₀ hpow (by exact_mod_cast hden)]
  exact_mod_cast Iff.rfl

theorem lt_of_pow_lt {j k : Int} (h : (2 : ℚ) ^ j < 2 ^ k) : j < k :=
  (zpow_lt_zpow_iff_right₀ one_lt_two).1 h

/-- The greatest power of two that is at most a quotient. -/
theorem floorLog2_spec (hnum : 0 < num) (hden : 0 < den) :
    (2 : ℚ) ^ Binary64.floorLog2 num den ≤ num / den ∧
      (num : ℚ) / den < 2 ^ (Binary64.floorLog2 num den + 1) := by
  have hdenQ : (0 : ℚ) < den := by exact_mod_cast hden
  have hnumLow : (2 : ℚ) ^ (num.log2 : Int) ≤ num := by
    exact_mod_cast Nat.log2_self_le hnum.ne'
  have hnumHigh : (num : ℚ) < 2 ^ ((num.log2 : Int) + 1) := by
    exact_mod_cast Nat.lt_log2_self (n := num)
  have hdenLow : (2 : ℚ) ^ (den.log2 : Int) ≤ den := by
    exact_mod_cast Nat.log2_self_le hden.ne'
  have hdenHigh : (den : ℚ) < 2 ^ ((den.log2 : Int) + 1) := by
    exact_mod_cast Nat.lt_log2_self (n := den)
  obtain ⟨k, hk⟩ : ∃ k : Int, (num.log2 : Int) - den.log2 = k := ⟨_, rfl⟩
  -- The quotient of the two leading powers is off by a factor less than two either way.
  have hhigh : (num : ℚ) / den < 2 ^ (k + 1) := by
    rw [div_lt_iff₀ hdenQ]
    calc (num : ℚ) < 2 ^ ((num.log2 : Int) + 1) := hnumHigh
      _ = 2 ^ (k + 1) * 2 ^ (den.log2 : Int) := by
        rw [← zpow_add₀ two_ne_zero]
        congr 1
        omega
      _ ≤ 2 ^ (k + 1) * den := by gcongr
  have hlow : (2 : ℚ) ^ (k - 1) ≤ num / den := by
    rw [le_div_iff₀ hdenQ]
    calc (2 : ℚ) ^ (k - 1) * den ≤ 2 ^ (k - 1) * 2 ^ ((den.log2 : Int) + 1) := by gcongr
      _ = 2 ^ (num.log2 : Int) := by
        rw [← zpow_add₀ two_ne_zero]
        congr 1
        omega
      _ ≤ num := hnumLow
  have htest : (if 0 ≤ k then den * Nat.pow 2 k.toNat ≤ num
      else den ≤ num * Nat.pow 2 (-k).toNat) ↔ (2 : ℚ) ^ k ≤ num / den := by
    rw [← two_pow_le_div_iff k hden]
    split
    · rw [show (-k).toNat = 0 by omega, Nat.mul_comm]
      exact (Nat.mul_one num).symm ▸ Iff.rfl
    · rw [show k.toNat = 0 by omega]
      exact (Nat.one_mul den).symm ▸ Iff.rfl
  unfold Binary64.floorLog2
  rw [hk]
  dsimp only
  by_cases h : (2 : ℚ) ^ k ≤ num / den
  · rw [if_pos (htest.2 h)]
    exact ⟨h, hhigh⟩
  · rw [if_neg fun hatLeast => h (htest.1 hatLeast), Int.sub_add_cancel]
    exact ⟨hlow, not_le.1 h⟩

/-! ### The nearest integer -/

/-- The integer `n` is the one that `x` is rounded to, a tie going to the even one. -/
def Rounds (x : ℚ) (n : Nat) : Prop :=
  ((n : ℚ) - 1 / 2 < x ∧ x < n + 1 / 2) ∨ (n % 2 = 0 ∧ (n : ℚ) - 1 / 2 ≤ x ∧ x ≤ n + 1 / 2)

/-- The same bounds between natural numbers. -/
theorem Rounds.bounds (hden : 0 < den) (h : Rounds (num / den) n) :
    2 * n * den ≤ 2 * num + den ∧ 2 * num ≤ 2 * n * den + den ∧
      (n % 2 = 1 → 2 * n * den < 2 * num + den ∧ 2 * num < 2 * n * den + den) := by
  have hdenQ : (0 : ℚ) < den := by exact_mod_cast hden
  have hle : (n : ℚ) - 1 / 2 ≤ num / den ∧ (num : ℚ) / den ≤ n + 1 / 2 :=
    h.elim (fun h => ⟨h.1.le, h.2.le⟩) (·.2)
  rw [le_div_iff₀ hdenQ, div_le_iff₀ hdenQ] at hle
  refine ⟨?_, ?_, fun hodd => ?_⟩
  · have : (2 * n * den : ℚ) ≤ 2 * num + den := by linarith [hle.1]
    exact_mod_cast this
  · have : (2 * num : ℚ) ≤ 2 * n * den + den := by linarith [hle.2]
    exact_mod_cast this
  · have hlt := h.resolve_right fun h => by omega
    rw [lt_div_iff₀ hdenQ, div_lt_iff₀ hdenQ] at hlt
    constructor
    · have : (2 * n * den : ℚ) < 2 * num + den := by linarith [hlt.1]
      exact_mod_cast this
    · have : (2 * num : ℚ) < 2 * n * den + den := by linarith [hlt.2]
      exact_mod_cast this

/-- The nearest integer is found. -/
theorem nearestEven_eq (hden : 0 < den) (h : Rounds (num / den) n) :
    Binary64.nearestEven num den = n := by
  obtain ⟨hlow, hhigh, hodd⟩ := h.bounds hden
  have hdiv := Nat.div_add_mod num den
  have hmod := Nat.mod_lt num hden
  unfold Binary64.nearestEven
  dsimp only
  generalize num / den = q at hdiv ⊢
  generalize num % den = r at hdiv hmod ⊢
  -- The quotient is that integer or the one below it.
  have hnear : n = q ∨ n = q + 1 := by
    by_contra hfar
    rcases Nat.lt_or_ge n q with hlt | hge
    · have hmul := Nat.mul_le_mul_right den (Nat.succ_le_of_lt hlt)
      rw [Nat.succ_mul] at hmul
      rw [Nat.mul_comm den q] at hdiv
      rw [Nat.mul_assoc] at hhigh
      omega
    · have hmul := Nat.mul_le_mul_right den (show q + 2 ≤ n by omega)
      rw [Nat.add_mul] at hmul
      rw [Nat.mul_comm den q] at hdiv
      rw [Nat.mul_assoc] at hlow
      omega
  rw [Nat.mul_assoc] at hlow hhigh hodd
  rw [Nat.mul_comm den q] at hdiv
  rcases hnear with rfl | rfl
  · rw [if_neg]
    simp only [Bool.or_eq_true, decide_eq_true_eq, Bool.and_eq_true, beq_iff_eq]
    omega
  · rw [Nat.add_mul, Nat.one_mul] at hlow hhigh hodd
    rw [if_pos]
    simp only [Bool.or_eq_true, decide_eq_true_eq, Bool.and_eq_true, beq_iff_eq]
    omega

/-- Rounding a quotient in steps of a power of two. -/
theorem nearestEven_scaled (hden : 0 < den) (h : Rounds (num / den / 2 ^ e) n) :
    (if 0 ≤ e then Binary64.nearestEven num (den * Nat.pow 2 e.toNat)
      else Binary64.nearestEven (num * Nat.pow 2 (-e).toNat) den) = n := by
  rw [← two_pow_div_two_pow] at h
  split
  · rw [show (-e).toNat = 0 by omega] at h
    refine nearestEven_eq (Nat.mul_pos hden (Nat.pow_pos two_pos)) ?_
    rwa [show Nat.pow 2 0 = 1 from rfl, Nat.cast_one, div_one, div_div, ← Nat.cast_mul] at h
  · rw [show e.toNat = 0 by omega] at h
    refine nearestEven_eq hden ?_
    rwa [show Nat.pow 2 0 = 1 from rfl, Nat.cast_one, div_div_eq_mul_div, div_one,
      div_mul_eq_mul_div, ← Nat.cast_mul] at h

/-! ### The reals around a number -/

/-- How far the interval of `m * 2 ^ e` reaches downwards, in steps of `2 ^ e`.  Below a power of two
the neighbours are closer. -/
def reach (m : Nat) (e : Int) : ℚ := if m = Nat.pow 2 52 ∧ -1074 < e then 1 / 4 else 1 / 2

/-- Of all numbers of the format `m * 2 ^ e` is nearest to `x`, a tie going to the even
significand. -/
def Nears (m : Nat) (e : Int) (x : ℚ) : Prop :=
  if m % 2 = 0 then (m - reach m e) * 2 ^ e ≤ x ∧ x ≤ (m + 1 / 2) * 2 ^ e
  else (m - reach m e) * 2 ^ e < x ∧ x < (m + 1 / 2) * 2 ^ e

theorem Nears.le (h : Nears m e x) : (m - reach m e) * 2 ^ e ≤ x ∧ x ≤ (m + 1 / 2) * 2 ^ e := by
  unfold Nears at h
  split at h
  · exact h
  · exact ⟨h.1.le, h.2.le⟩

theorem reach_le : reach m e ≤ 1 / 2 := by
  unfold reach
  split <;> norm_num

theorem le_reach : 1 / 4 ≤ reach m e := by
  unfold reach
  split <;> norm_num

theorem nears_of_lt (hlow : (m - reach m e) * 2 ^ e < x) (hhigh : x < (m + 1 / 2) * 2 ^ e) :
    Nears m e x := by
  unfold Nears
  split
  · exact ⟨hlow.le, hhigh.le⟩
  · exact ⟨hlow, hhigh⟩

/-- In steps of its own exponent such a number is rounded to the significand. -/
theorem Nears.rounds (h : Nears m e x) : Rounds (x / 2 ^ e) m := by
  have hpow : (0 : ℚ) < 2 ^ e := by positivity
  have hreach : (m : ℚ) - 1 / 2 ≤ m - reach m e := by linarith [@reach_le m e]
  unfold Nears at h
  split at h
  · rename_i heven
    rw [← le_div_iff₀ hpow, ← div_le_iff₀ hpow] at h
    exact .inr ⟨heven, hreach.trans h.1, h.2⟩
  · rw [← lt_div_iff₀ hpow, ← div_lt_iff₀ hpow] at h
    exact .inl ⟨hreach.trans_lt h.1, h.2⟩

/-- Such a number is no less than half the least one of the format. -/
theorem Nears.ge (h : Nears m e x) (hs : Storable m e) (hm : m ≠ 0) :
    (2 : ℚ) ^ (-1075 : Int) ≤ x := by
  have hone : (1 : ℚ) ≤ m := by exact_mod_cast Nat.one_le_iff_ne_zero.2 hm
  calc (2 : ℚ) ^ (-1075 : Int) = 2 ^ (-1 : Int) * 2 ^ (-1074 : Int) := by
        rw [← zpow_add₀ two_ne_zero]
        rfl
    _ ≤ (m - reach m e) * 2 ^ e := by
      gcongr
      · linarith [@reach_le m e]
      · rw [zpow_neg_one]
        linarith [@reach_le m e]
      · exact one_le_two
      · exact hs.1
    _ ≤ x := h.le.1

theorem Nears.pos (h : Nears m e x) (hs : Storable m e) (hm : m ≠ 0) : 0 < x :=
  lt_of_lt_of_le (by positivity) (h.ge hs hm)

/-- Such a number lies below the power of two that a significand cannot reach. -/
theorem Nears.lt (h : Nears m e x) (hs : Storable m e) : x < 2 ^ (e + 53) := by
  have hm : (m : ℚ) + 1 ≤ 2 ^ 53 := by exact_mod_cast hs.2.2.1
  have hpow : (0 : ℚ) < 2 ^ e := by positivity
  calc x ≤ (m + 1 / 2) * 2 ^ e := h.le.2
    _ < 2 ^ 53 * 2 ^ e := by gcongr; linarith
    _ = 2 ^ (e + 53) := by rw [mul_comm, zpow_add₀ two_ne_zero]; norm_cast

theorem pow_add_52 (e : Int) : (2 : ℚ) ^ (e + 52) = 2 ^ 52 * 2 ^ e := by
  rw [zpow_add₀ two_ne_zero, mul_comm]
  norm_cast

/-- What is nearest to a power of two from below is rounded to it in half the steps. -/
theorem Nears.below (h : Nears m e x) (hs : Storable m e) (he : -1074 < e) (hx : x < 2 ^ (e + 52)) :
    m = Nat.pow 2 52 ∧ (2 : ℚ) ^ (e + 51) ≤ x ∧ Rounds (x / 2 ^ (e - 1)) (Nat.pow 2 53) := by
  have hpow : (0 : ℚ) < 2 ^ e := by positivity
  rw [pow_add_52] at hx
  have hm : m = Nat.pow 2 52 := by
    refine le_antisymm (not_lt.1 fun hlt => ?_) (hs.2.2.2.resolve_right (by omega))
    have hmore : (2 : ℚ) ^ 52 + 1 ≤ m := by exact_mod_cast hlt
    have hle : (2 : ℚ) ^ 52 * 2 ^ e ≤ (m - reach m e) * 2 ^ e := by
      gcongr
      linarith [@reach_le m e]
    exact absurd hx (not_lt.2 (hle.trans h.le.1))
  -- Below the smallest significand the interval reaches only half as far.
  have hlow : ((2 : ℚ) ^ 52 - 1 / 4) * 2 ^ e ≤ x := by
    have := h.le.1
    rw [reach, if_pos ⟨hm, he⟩, hm] at this
    exact_mod_cast this
  refine ⟨hm, le_trans ?_ hlow, ?_⟩
  · rw [zpow_add₀ two_ne_zero, mul_comm]
    gcongr
    norm_num
  · have hhalf : x / 2 ^ (e - 1) = 2 * (x / 2 ^ e) := by
      rw [zpow_sub₀ two_ne_zero, zpow_one]
      field_simp
    have hvalue : ((Nat.pow 2 53 : Nat) : ℚ) = 2 ^ 53 := by norm_cast
    rw [← div_lt_iff₀ hpow] at hx
    rw [← le_div_iff₀ hpow] at hlow
    refine .inr ⟨rfl, ?_, ?_⟩
    · rw [hvalue, hhalf]
      linarith
    · rw [hvalue, hhalf]
      linarith

/-! ### The nearest number of the format -/

namespace Binary64

theorem ofRatio_eq (negative : Bool) (hnum : num ≠ 0)
    (he : max (-1074) (floorLog2 num den - 52) = e)
    (hm : (if 0 ≤ e then nearestEven num (den * Nat.pow 2 e.toNat)
      else nearestEven (num * Nat.pow 2 (-e).toNat) den) = m) :
    ofRatio negative num den = if m = Nat.pow 2 53 then ofParts negative (Nat.pow 2 52) (e + 1)
      else ofParts negative m e := by
  unfold ofRatio
  rw [he]
  dsimp only
  rw [hm, if_neg (by simpa using hnum)]
  simp only [beq_iff_eq]

theorem ofParts_eq (negative : Bool) (hs : Storable m e) :
    ofParts negative m e = .finite negative m e hs := dif_pos hs

/-- **Rounding finds the number that a quotient is nearest to.** -/
theorem ofRatio_of_nears (negative : Bool) (hs : Storable m e) (hm : m ≠ 0) (hden : 0 < den)
    (h : Nears m e (num / den)) : ofRatio negative num den = .finite negative m e hs := by
  have hnum : num ≠ 0 := by
    rintro rfl
    have := h.pos hs hm
    rw [Nat.cast_zero, zero_div] at this
    exact lt_irrefl _ this
  obtain ⟨hlow, hhigh⟩ := floorLog2_spec (Nat.pos_of_ne_zero hnum) hden
  have hupper : floorLog2 num den < e + 53 := lt_of_pow_lt (hlow.trans_lt (h.lt hs))
  by_cases hbelow : -1074 < e ∧ (num : ℚ) / den < 2 ^ (e + 52)
  · obtain ⟨rfl, hlower, hrounds⟩ := h.below hs hbelow.1 hbelow.2
    have hless : floorLog2 num den < e + 52 := lt_of_pow_lt (hlow.trans_lt hbelow.2)
    have hmore : e + 51 < floorLog2 num den + 1 := lt_of_pow_lt (hlower.trans_lt hhigh)
    have he : max (-1074) (floorLog2 num den - 52) = e - 1 := by omega
    rw [ofRatio_eq negative hnum he (nearestEven_scaled hden hrounds), if_pos rfl,
      Int.sub_add_cancel]
    exact ofParts_eq negative hs
  · have he : max (-1074) (floorLog2 num den - 52) = e := by
      have hleast := hs.1
      rcases Int.lt_or_le (-1074) e with hmore | hless
      · have hge : (2 : ℚ) ^ (e + 52) ≤ num / den := not_lt.1 fun hlt => hbelow ⟨hmore, hlt⟩
        have := lt_of_pow_lt (hge.trans_lt hhigh)
        omega
      · omega
    rw [ofRatio_eq negative hnum he (nearestEven_scaled hden h.rounds),
      if_neg (Nat.ne_of_lt hs.2.2.1)]
    exact ofParts_eq negative hs

theorem pow_le_ten_pow (n : Nat) : (2 : ℚ) ^ (3 * n) ≤ 10 ^ n := by
  rw [pow_mul]
  gcongr
  norm_num

/-- The number of decimal digits says how large a number is. -/
theorem size_spec {digits : Nat} (h : digits ≠ 0) :
    (10 : ℚ) ^ (((Nat.toDigits 10 digits).length : Int) - 1) ≤ digits ∧
      (digits : ℚ) < 10 ^ ((Nat.toDigits 10 digits).length : Int) := by
  obtain ⟨n, hn⟩ : ∃ n, (Nat.toDigits 10 digits).length = n + 1 :=
    Nat.exists_eq_add_one_of_ne_zero Nat.length_toDigits_pos.ne'
  rw [hn]
  constructor
  · have hle : 10 ^ n ≤ digits := by
      cases n with
      | zero => exact Nat.pos_of_ne_zero h
      | succ n =>
        refine not_lt.1 fun hlt => ?_
        have := (Nat.length_toDigits_le_iff (by decide) (Nat.succ_pos n)).2 hlt
        omega
    rw [show ((n + 1 : Nat) : Int) - 1 = (n : Int) by omega]
    exact_mod_cast hle
  · have hlt : digits < 10 ^ (n + 1) :=
      (Nat.length_toDigits_le_iff (by decide) (Nat.succ_pos n)).1 hn.le
    exact_mod_cast hlt

/-- The numbers that are not zero and not infinite have sizes far inside the limits. -/
theorem size_of_nears (hs : Storable m e) (hm : m ≠ 0) {digits : Nat} {exponent : Int}
    (hdigits : digits ≠ 0) (h : Nears m e (digits * 10 ^ exponent)) :
    -400 ≤ ((Nat.toDigits 10 digits).length : Int) + exponent ∧
      ((Nat.toDigits 10 digits).length : Int) + exponent ≤ 400 := by
  obtain ⟨hlow, hhigh⟩ := size_spec hdigits
  generalize ((Nat.toDigits 10 digits).length : Int) = length at hlow hhigh ⊢
  -- Both bounds come from the powers of two between which the number lies.
  constructor
  · have hlt : (10 : ℚ) ^ (-((400 : Nat) : Int)) < 10 ^ (length + exponent) := by
      calc (10 : ℚ) ^ (-((400 : Nat) : Int)) ≤ 2 ^ (-((3 * 400 : Nat) : Int)) := by
            rw [zpow_neg, zpow_neg]
            gcongr
            exact_mod_cast pow_le_ten_pow 400
        _ ≤ 2 ^ (-1075 : Int) := by
          gcongr
          · exact one_le_two
          · omega
        _ ≤ digits * 10 ^ exponent := h.ge hs hm
        _ < 10 ^ length * 10 ^ exponent := by gcongr
        _ = 10 ^ (length + exponent) := (zpow_add₀ (by norm_num) _ _).symm
    have := (zpow_lt_zpow_iff_right₀ (by norm_num)).1 hlt
    omega
  · have hlt : (10 : ℚ) ^ (length - 1 + exponent) < 10 ^ ((400 : Nat) : Int) := by
      calc (10 : ℚ) ^ (length - 1 + exponent) = 10 ^ (length - 1) * 10 ^ exponent :=
            zpow_add₀ (by norm_num) _ _
        _ ≤ digits * 10 ^ exponent := by gcongr
        _ < 2 ^ (e + 53) := h.lt hs
        _ ≤ 2 ^ ((3 * 400 : Nat) : Int) := by
          gcongr
          · exact one_le_two
          · have := hs.2.1
            omega
        _ ≤ 10 ^ ((400 : Nat) : Int) := by exact_mod_cast pow_le_ten_pow 400
    have := (zpow_lt_zpow_iff_right₀ (by norm_num)).1 hlt
    omega

/-- **Reading a decimal finds the number that it is nearest to.** -/
theorem ofDecimal_of_nears (negative : Bool) (hs : Storable m e) (hm : m ≠ 0) {digits : Nat}
    {exponent : Int} (h : Nears m e (digits * 10 ^ exponent)) :
    ofDecimal negative digits exponent = .finite negative m e hs := by
  have hdigits : digits ≠ 0 := by
    rintro rfl
    have := h.pos hs hm
    rw [Nat.cast_zero, zero_mul] at this
    exact lt_irrefl _ this
  obtain ⟨hlow, hhigh⟩ := size_of_nears hs hm hdigits h
  unfold ofDecimal
  dsimp only
  rw [if_neg (by simpa using hdigits), if_neg (not_lt.2 hhigh), if_neg (not_lt.2 hlow)]
  rw [← ten_pow_div_ten_pow] at h
  split
  · refine ofRatio_of_nears negative hs hm one_pos ?_
    rwa [show (-exponent).toNat = 0 by omega, show Nat.pow 10 0 = 1 from rfl, ← mul_div_assoc,
      ← Nat.cast_mul] at h
  · refine ofRatio_of_nears negative hs hm (Nat.pow_pos (by decide)) ?_
    rwa [show exponent.toNat = 0 by omega, show Nat.pow 10 0 = 1 from rfl, Nat.cast_one,
      mul_one_div] at h

end Binary64

end ProbeKit.Number
