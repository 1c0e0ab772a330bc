import ProbeKit.Number.Shortest
import ProbeKit.Proofs.Number.Rounding

/-!
# The search for the shortest decimal

The interval of a number holds exactly the decimals that the number is nearest to
(`Basin.holds_iff`), and the search ends at one of them (`nears_search`): it begins at the first digit
of the number, and seventeen places further the grid is so fine that one step of it stays in the
interval (`Basin.onGrid?_ne_none`).  The first digit is found from the binary exponent by a quotient
that is close enough to the logarithm for all exponents that there are (`Basin.pow_guess_le`).
-/

namespace ProbeKit.Number

variable {m n den digits : Nat} {e k : Int} {b : Basin}

/-! ### Comparing a quotient with a decimal -/

theorem le_decimal_iff (hden : 0 < den) :
    n * Nat.pow 10 (-k).toNat ≤ digits * Nat.pow 10 k.toNat * den ↔
      (n : ℚ) / den ≤ digits * 10 ^ k := by
  have hpow : (0 : ℚ) < (Nat.pow 10 (-k).toNat : Nat) := by
    exact_mod_cast Nat.pow_pos (Nat.succ_pos 9)
  rw [← ten_pow_div_ten_pow, ← mul_div_assoc, div_le_div_iff₀ (by exact_mod_cast hden) hpow]
  exact_mod_cast Iff.rfl

theorem decimal_le_iff (hden : 0 < den) :
    digits * Nat.pow 10 k.toNat * den ≤ n * Nat.pow 10 (-k).toNat ↔
      (digits : ℚ) * 10 ^ k ≤ n / den := by
  have hpow : (0 : ℚ) < (Nat.pow 10 (-k).toNat : Nat) := by
    exact_mod_cast Nat.pow_pos (Nat.succ_pos 9)
  rw [← ten_pow_div_ten_pow, ← mul_div_assoc, div_le_div_iff₀ hpow (by exact_mod_cast hden)]
  exact_mod_cast Iff.rfl

namespace Basin

/-! ### The interval -/

theorem den_of_pos (m : Nat) (e : Int) : 0 < (Basin.of m e).den :=
  Nat.mul_pos (by decide) (Nat.pow_pos two_pos)

theorem of_div_den (n : Nat) (e : Int) :
    ((n * Nat.pow 2 e.toNat : Nat) : ℚ) / (4 * Nat.pow 2 (-e).toNat : Nat) = n / 4 * 2 ^ e := by
  rw [Nat.cast_mul, Nat.cast_mul, mul_div_mul_comm, two_pow_div_two_pow, Nat.cast_ofNat]

theorem value_of (m : Nat) (e : Int) :
    ((Basin.of m e).value : ℚ) / (Basin.of m e).den = m * 2 ^ e := by
  refine (of_div_den (4 * m) e).trans ?_
  rw [Nat.cast_mul, Nat.cast_ofNat, mul_div_cancel_left₀ _ four_ne_zero]

theorem high_of (m : Nat) (e : Int) :
    ((Basin.of m e).high : ℚ) / (Basin.of m e).den = (m + 1 / 2) * 2 ^ e := by
  refine (of_div_den (4 * m + 2) e).trans ?_
  push_cast
  ring

theorem low_of (hm : m ≠ 0) (e : Int) :
    ((Basin.of m e).low : ℚ) / (Basin.of m e).den = (m - reach m e) * 2 ^ e := by
  have hgap : ((if m == Nat.pow 2 52 && -1074 < e then 1 else 2 : Nat) : ℚ) = 4 * reach m e := by
    unfold reach
    by_cases h : m = Nat.pow 2 52 ∧ -1074 < e
    · rw [if_pos h, if_pos (by simpa using h)]
      norm_num
    · rw [if_neg h, if_neg (by simpa using h)]
      norm_num
  have hle : (if m == Nat.pow 2 52 && -1074 < e then 1 else 2) ≤ 4 * m := by
    split <;> omega
  refine (of_div_den (4 * m - if m == Nat.pow 2 52 && -1074 < e then 1 else 2) e).trans ?_
  rw [Nat.cast_sub hle, hgap]
  push_cast
  ring

/-- The interval holds the decimals that the number is nearest to. -/
theorem holds_iff (hm : m ≠ 0) :
    (Basin.of m e).holds digits k = true ↔ Nears m e (digits * 10 ^ k) := by
  have hden := den_of_pos m e
  have hclosed : (Basin.of m e).closed = (m % 2 == 0) := rfl
  unfold holds Nears
  dsimp only
  rw [hclosed, ← low_of hm, ← high_of]
  by_cases heven : m % 2 = 0
  · rw [if_pos heven, if_pos (by simpa using heven), Bool.and_eq_true, decide_eq_true_eq,
      decide_eq_true_eq, le_decimal_iff hden, decimal_le_iff hden]
  · rw [if_neg heven, if_neg (by simpa using heven), Bool.and_eq_true, decide_eq_true_eq,
      decide_eq_true_eq, ← not_le, ← not_le, le_decimal_iff hden, decimal_le_iff hden, not_le,
      not_le]

/-! ### The search -/

/-- What the grid offers lies in the interval. -/
theorem holds_of_onGrid? (h : b.onGrid? k = some digits) : b.holds digits k = true := by
  unfold onGrid? at h
  dsimp only at h
  split at h
  · rename_i hbelow habove
    cases h
    split
    · exact habove
    · exact hbelow
  · cases h
    assumption
  · cases h
    assumption
  · cases h

/-- The search ends at a decimal of the interval if one of the grids that it tries has a hit. -/
theorem holds_search {tries : Nat} (h : ∃ i < tries, b.onGrid? (k - i) ≠ none) :
    b.holds (b.search k tries).1 (b.search k tries).2 = true := by
  induction tries generalizing k with
  | zero =>
    obtain ⟨i, hi, -⟩ := h
    exact absurd hi (Nat.not_lt_zero i)
  | succ tries ih =>
    rw [search]
    split
    · rename_i hfound
      exact holds_of_onGrid? hfound
    · rename_i hnone
      obtain ⟨i, hi, hgrid⟩ := h
      cases i with
      | zero => exact absurd hnone (by simpa using hgrid)
      | succ i =>
        refine ih ⟨i, by omega, ?_⟩
        rwa [show k - 1 - (i : Int) = k - ((i + 1 : Nat) : Int) by omega]

/-- A grid whose step is at most a quarter of the step of the number has a hit, for its point below
the number is not further away than the interval reaches. -/
theorem onGrid?_ne_none (hm : m ≠ 0) (h : (10 : ℚ) ^ k ≤ 1 / 4 * 2 ^ e) :
    (Basin.of m e).onGrid? k ≠ none := by
  obtain ⟨below, hbelow⟩ : ∃ below, (Basin.of m e).value * Nat.pow 10 (-k).toNat /
    ((Basin.of m e).den * Nat.pow 10 k.toNat) = below := ⟨_, rfl⟩
  have hden := den_of_pos m e
  have hcell : 0 < (Basin.of m e).den * Nat.pow 10 k.toNat :=
    Nat.mul_pos hden (Nat.pow_pos (by decide))
  have hle : (below : ℚ) * 10 ^ k ≤ m * 2 ^ e := by
    rw [← value_of, ← decimal_le_iff hden, ← hbelow, Nat.mul_assoc,
      Nat.mul_comm (Nat.pow 10 k.toNat)]
    exact Nat.div_mul_le_self _ _
  have hlt : (m : ℚ) * 2 ^ e < ((below + 1 : Nat) : ℚ) * 10 ^ k := by
    rw [← value_of, ← not_le, ← decimal_le_iff hden, ← hbelow, not_le, Nat.mul_assoc,
      Nat.mul_comm (Nat.pow 10 k.toNat)]
    exact (Nat.div_lt_iff_lt_mul hcell).1 (Nat.lt_succ_self _)
  -- The point below is less than one step of the grid away.
  have hholds : (Basin.of m e).holds below k = true := by
    have hpow : (0 : ℚ) < 2 ^ e := by positivity
    have hreach : 1 / 4 * (2 : ℚ) ^ e ≤ reach m e * 2 ^ e := by
      gcongr
      exact le_reach
    rw [Nat.cast_add, Nat.cast_one, add_mul, one_mul] at hlt
    refine (holds_iff hm).2 (nears_of_lt ?_ ?_)
    · rw [sub_mul]
      linarith
    · rw [add_mul]
      linarith
  unfold onGrid?
  dsimp only
  rw [hbelow, hholds]
  cases (Basin.of m e).holds (below + 1) k <;> simp

/-! ### The decimal exponent -/

theorem ten_pow_le : ∀ n < 1024, Nat.pow 10 (n * 30103 / 100000) ≤ 10 * Nat.pow 2 n := by
  decide +kernel

theorem two_pow_le : ∀ n < 1075, Nat.pow 2 n ≤ Nat.pow 10 ((n * 30103 + 99999) / 100000) := by
  decide +kernel

/-- Ten to the power of the guess exceeds the power of two by less than a factor of ten. -/
theorem pow_guess_le {k : Int} (hlow : -1075 < k) (hhigh : k < 1024) :
    (10 : ℚ) ^ (k * 30103 / 100000 - 1) ≤ 2 ^ k := by
  rcases Int.lt_or_le k 0 with hneg | hpos
  · obtain ⟨n, rfl⟩ : ∃ n : Nat, k = -(n : Int) := ⟨k.natAbs, by omega⟩
    have hle := two_pow_le n (by omega)
    have hguess : -(n : Int) * 30103 / 100000 - 1 ≤
        -(((n * 30103 + 99999) / 100000 : Nat) : Int) := by omega
    calc (10 : ℚ) ^ (-(n : Int) * 30103 / 100000 - 1)
        ≤ 10 ^ (-(((n * 30103 + 99999) / 100000 : Nat) : Int)) := by
          gcongr
          norm_num
      _ ≤ 2 ^ (-(n : Int)) := by
          rw [zpow_neg, zpow_neg]
          gcongr
          exact_mod_cast hle
  · obtain ⟨n, rfl⟩ : ∃ n : Nat, k = n := ⟨k.natAbs, by omega⟩
    have hle : (10 : ℚ) ^ (((n * 30103 / 100000 : Nat)) : Int) ≤ 10 * 2 ^ (n : Int) := by
      exact_mod_cast ten_pow_le n (by omega)
    rw [zpow_sub₀ (by norm_num), zpow_one, div_le_iff₀ (by norm_num), mul_comm _ (10 : ℚ)]
    exact_mod_cast hle

/-- The search begins no higher than at the first digit of the number. -/
theorem pow_floorLog10_le (hm : m ≠ 0) (hs : Storable m e) :
    (10 : ℚ) ^ (Basin.of m e).floorLog10 ≤ m * 2 ^ e := by
  obtain ⟨b, hb⟩ : ∃ b, Basin.of m e = b := ⟨_, rfl⟩
  have hden : 0 < b.den := hb ▸ den_of_pos m e
  have hvalue : (b.value : ℚ) / b.den = m * 2 ^ e := hb ▸ value_of m e
  have hone : (1 : ℚ) ≤ m := by exact_mod_cast Nat.one_le_iff_ne_zero.2 hm
  have hpos : 0 < b.value := by
    have : (0 : ℚ) < m * 2 ^ e := by positivity
    refine Nat.pos_of_ne_zero fun h => ?_
    rw [h, Nat.cast_zero, zero_div] at hvalue
    exact absurd hvalue this.ne
  obtain ⟨hlow, hhigh⟩ := floorLog2_spec hpos hden
  rw [hvalue] at hlow hhigh
  have hless : Binary64.floorLog2 b.value b.den < 1024 := by
    have hbits : (m : ℚ) < 2 ^ 53 := by exact_mod_cast hs.2.2.1
    have hlt : (m : ℚ) * 2 ^ e < 2 ^ ((53 : Nat) + e) := by
      rw [zpow_add₀ two_ne_zero, zpow_natCast]
      gcongr
    have := lt_of_pow_lt (hlow.trans_lt hlt)
    have := hs.2.1
    omega
  have hmore : -1075 < Binary64.floorLog2 b.value b.den := by
    have hle : (2 : ℚ) ^ e ≤ m * 2 ^ e := le_mul_of_one_le_left (by positivity) hone
    have := lt_of_pow_lt (hle.trans_lt hhigh)
    have := hs.1
    omega
  have hatLeast (k : Int) :
      (decide (Nat.pow 10 k.toNat * b.den ≤ b.value * Nat.pow 10 (-k).toNat) = true) ↔
        (10 : ℚ) ^ k ≤ m * 2 ^ e := by
    rw [decide_eq_true_eq, ← hvalue, ← Nat.one_mul (Nat.pow 10 k.toNat), decimal_le_iff hden,
      Nat.cast_one, one_mul]
  rw [hb]
  unfold floorLog10
  dsimp only
  -- The search takes the first of two candidates that is not above the number; its guess never is.
  split
  · exact (hatLeast _).1 ‹_›
  · split
    · exact (hatLeast _).1 ‹_›
    · exact (pow_guess_le hmore hless).trans hlow

end Basin

/-- **The search ends at a decimal that the number is nearest to.** -/
theorem nears_search (hm : m ≠ 0) (hs : Storable m e) :
    Nears m e (((Basin.of m e).search (Basin.of m e).floorLog10 18).1 *
      10 ^ ((Basin.of m e).search (Basin.of m e).floorLog10 18).2) := by
  refine (Basin.holds_iff hm).1 (Basin.holds_search ⟨17, by decide, Basin.onGrid?_ne_none hm ?_⟩)
  have hpow : (0 : ℚ) < 2 ^ e := by positivity
  have hbits : (m : ℚ) ≤ 2 ^ 53 := by exact_mod_cast hs.2.2.1.le
  have hle := Basin.pow_floorLog10_le hm hs
  calc (10 : ℚ) ^ ((Basin.of m e).floorLog10 - ((17 : Nat) : Int))
      = 10 ^ (Basin.of m e).floorLog10 / 10 ^ 17 := by
        rw [zpow_sub₀ (by norm_num)]
        norm_cast
    _ ≤ 2 ^ 53 * 2 ^ e / 10 ^ 17 := by
      gcongr
      exact hle.trans (by gcongr)
    _ ≤ 1 / 4 * 2 ^ e := by
      rw [div_le_iff₀ (by norm_num)]
      linarith

end ProbeKit.Number
