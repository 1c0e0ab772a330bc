import Mathlib.Data.List.TakeWhile
import ProbeKit.Proofs.Json.Floats
import ProbeKit.Proofs.Number.Shortest

/-!
# Decimals that are read back

Every floating-point number is read from its own text (`exact_float`).  Digits that do not begin with
a zero can be written positionally or with an exponent, and either way they are read as one and the
same decimal (`reads_positional`, `reads_scientific`); and to the decimal that is written for a number
no other number of the format is nearer (`nears_shortestDigits`).
-/

namespace ProbeKit.Json

open Number Text

/-! ### Digits -/

section
variable {cs ds : List Char} {n : Nat}

theorem digitsNat_append (cs ds : List Char) :
    digitsNat (cs ++ ds) = 10 ^ ds.length * digitsNat cs + digitsNat ds := by
  rw [digitsNat_eq_ofDigitChars, digitsNat_eq_ofDigitChars, digitsNat_eq_ofDigitChars,
    Nat.ofDigitChars_append, Nat.ofDigitChars_eq_ofDigitChars_zero]

theorem digitsNat_replicate (n : Nat) : digitsNat (List.replicate n '0') = 0 := by
  rw [digitsNat_eq_ofDigitChars, Nat.ofDigitChars_replicate_zero, Nat.mul_zero]

/-- Zeros in front do not count. -/
theorem digitsNat_zeros_append (n : Nat) (ds : List Char) :
    digitsNat (List.replicate n '0' ++ ds) = digitsNat ds := by
  rw [digitsNat_append, digitsNat_replicate, Nat.mul_zero, Nat.zero_add]

/-- Each zero behind multiplies by ten. -/
theorem digitsNat_append_zeros (ds : List Char) (n : Nat) :
    digitsNat (ds ++ List.replicate n '0') = 10 ^ n * digitsNat ds := by
  rw [digitsNat_append, digitsNat_replicate, List.length_replicate, Nat.add_zero]

/-- Digits stand for less than a one with as many zeros. -/
theorem digitsNat_lt {ds : List Char} (h : ∀ c ∈ ds, c.isDigit = true) :
    digitsNat ds < 10 ^ ds.length := by
  induction ds with
  | nil => decide
  | cons d ds ih =>
    have hfirst : digitsNat [d] ≤ 9 := by
      have hd := h d List.mem_cons_self
      have hvalue : digitsNat [d] = 0 * 10 + (d.toNat - 48) := rfl
      simp only [Char.isDigit, Bool.and_eq_true, decide_eq_true_eq, ge_iff_le, UInt32.le_iff_toNat_le]
        at hd
      have hn : d.toNat = d.val.toNat := rfl
      have hnine : ('9' : Char).val.toNat = 57 := rfl
      omega
    have hothers := ih fun c hc => h c (List.mem_cons_of_mem _ hc)
    have hscaled := Nat.mul_le_mul_left (10 ^ ds.length) hfirst
    rw [show d :: ds = [d] ++ ds from rfl, digitsNat_append, List.length_append,
      List.length_singleton, Nat.add_comm 1, Nat.pow_succ]
    omega

/-- Digits that do not begin with a zero. -/
structure Leading (ds : List Char) : Prop where
  /-- There are digits only. -/
  isDigit : ∀ c ∈ ds, c.isDigit = true
  /-- There is a first one, and it is not zero. -/
  first : ∃ d rest, ds = d :: rest ∧ d ≠ '0'

theorem Leading.ne_nil (h : Leading ds) : ds ≠ [] := by
  obtain ⟨d, rest, rfl, -⟩ := h.first
  exact List.cons_ne_nil _ _

/-- The digits of a number are its significant digits and then zeros. -/
theorem exists_significantDigits (n : Nat) :
    ∃ zeros, Nat.toDigits 10 n = significantDigits n ++ List.replicate zeros '0' := by
  obtain ⟨ds, hds⟩ : ∃ ds, Nat.toDigits 10 n = ds := ⟨_, rfl⟩
  refine ⟨(ds.reverse.takeWhile (· == '0')).length, ?_⟩
  have hzeros : ds.reverse.takeWhile (· == '0') =
      List.replicate (ds.reverse.takeWhile (· == '0')).length '0' :=
    List.eq_replicate_of_mem fun c hc => by simpa using List.mem_takeWhile_imp hc
  have hsplit : ds.reverse.takeWhile (· == '0') ++ ds.reverse.dropWhile (· == '0') = ds.reverse :=
    List.takeWhile_append_dropWhile
  unfold significantDigits
  rw [hds, ← List.reverse_replicate, ← hzeros, ← List.reverse_append, hsplit, List.reverse_reverse]

theorem leading_significantDigits (hn : n ≠ 0) : Leading (significantDigits n) := by
  obtain ⟨zeros, hzeros⟩ := exists_significantDigits n
  -- A zero at the front would be the only digit.
  have hfirst (rest : List Char) : Nat.toDigits 10 n ≠ '0' :: rest := by
    intro heq
    have hvalue := digitsNat_toDigits n
    rw [heq, toDigits_eq_cons_zero heq] at hvalue
    exact hn hvalue.symm
  constructor
  · intro c hc
    exact isDigit_of_mem_toDigits (n := n) (hzeros ▸ List.mem_append_left _ hc)
  · rcases hds : significantDigits n with _ | ⟨d, rest⟩
    · rw [hds, List.nil_append] at hzeros
      cases zeros with
      | zero => exact absurd hzeros Nat.toDigits_ne_nil
      | succ zeros => exact absurd hzeros (hfirst _)
    · refine ⟨d, rest, rfl, ?_⟩
      rintro rfl
      rw [hds] at hzeros
      exact hfirst _ hzeros

/-! ### Reading digits -/

theorem span_digits {rest : List Char} (hds : ∀ c ∈ ds, c.isDigit = true)
    (hrest : ∀ c ∈ rest.head?, c.isDigit = false) :
    (ds ++ rest).takeWhile Char.isDigit = ds ∧ (ds ++ rest).dropWhile Char.isDigit = rest := by
  rw [List.takeWhile_append_of_pos hds, List.dropWhile_append_of_pos hds]
  cases rest with
  | nil => simp
  | cons c rest => simp [hrest c rfl]

theorem wholeDigits_leading {rest : List Char} (h : Leading ds)
    (hrest : ∀ c ∈ rest.head?, c.isDigit = false) : wholeDigits (ds ++ rest) = (ds, rest) := by
  obtain ⟨htake, hdrop⟩ := span_digits h.isDigit hrest
  obtain ⟨d, more, rfl, hd⟩ := h.first
  unfold wholeDigits
  split
  · rename_i heq
    exact absurd (List.cons.inj heq).1 hd
  · rw [htake, hdrop]

theorem fractionDigits_cons {rest : List Char} (hne : ds ≠ []) (hds : ∀ c ∈ ds, c.isDigit = true)
    (hrest : ∀ c ∈ rest.head?, c.isDigit = false) :
    fractionDigits ('.' :: (ds ++ rest)) = some (ds, rest) := by
  obtain ⟨d, more, rfl⟩ := List.exists_cons_of_ne_nil hne
  obtain ⟨htake, hdrop⟩ := span_digits (fun c hc => hds c (List.mem_cons_of_mem _ hc)) hrest
  rw [List.cons_append, fractionDigits, if_pos (hds d List.mem_cons_self), htake, hdrop]

theorem exponentPart_cons (negative : Bool) (hne : ds ≠ []) (hds : ∀ c ∈ ds, c.isDigit = true) :
    exponentPart ('e' :: (if negative then '-' else '+') :: ds) =
      some (if negative then -(digitsNat ds : Int) else digitsNat ds, []) := by
  have hspan := @span_digits ds [] hds (fun _ hc => nomatch hc)
  rw [List.append_nil] at hspan
  have hsign : takeSign ((if negative then '-' else '+') :: ds) = (negative, ds) := by
    cases negative <;> rfl
  have hsome : ¬ds.isEmpty = true := by simpa using hne
  rw [exponentPart, if_pos (by decide), hsign]
  dsimp only
  rw [hspan.1, hspan.2, if_neg hsome]

/-- An exponent is read back. -/
theorem exponentPart_exponentText (k : Int) :
    exponentPart ('e' :: exponentText k) = some (k, []) := by
  obtain ⟨ds, hds⟩ : ∃ ds, (if (Nat.toDigits 10 k.natAbs).length < 2 then
    '0' :: Nat.toDigits 10 k.natAbs else Nat.toDigits 10 k.natAbs) = ds := ⟨_, rfl⟩
  -- A zero in front of a single digit changes nothing.
  have hdigits : ds ≠ [] ∧ (∀ c ∈ ds, c.isDigit = true) ∧ digitsNat ds = k.natAbs := by
    subst hds
    split
    · refine ⟨List.cons_ne_nil _ _, fun c hc => ?_, ?_⟩
      · rcases List.mem_cons.1 hc with rfl | hc
        · rfl
        · exact isDigit_of_mem_toDigits hc
      · exact (digitsNat_zeros_append 1 _).trans (digitsNat_toDigits _)
    · exact ⟨Nat.toDigits_ne_nil, fun c hc => isDigit_of_mem_toDigits hc, digitsNat_toDigits _⟩
  obtain ⟨hne, hall, hvalue⟩ := hdigits
  have htext : exponentText k = (if decide (k < 0) then '-' else '+') :: ds := by
    unfold exponentText
    dsimp only
    rw [hds]
    simp
  rw [htext, exponentPart_cons _ hne hall, hvalue]
  congr 2
  simp only [decide_eq_true_eq]
  split <;> omega

/-! ### Numbers with a point or an exponent -/

/-- A text is read as the decimal `x`, in whichever way this is spelled. -/
def ReadsDecimal (cs : List Char) (x : ℚ) : Prop :=
  ∃ (digits : Nat) (exponent : Int), x = digits * 10 ^ exponent ∧ ∀ start negative,
    readUnsigned start negative cs = .ok (.float (Binary64.ofDecimal negative digits exponent), [])

/-- The decimal of some digits, of which the first stands for so many times `10 ^ k`. -/
def decimalOf (ds : List Char) (k : Int) : ℚ := digitsNat ds * 10 ^ (k + 1 - ds.length)

/-! ### Scientific notation -/

/-- **Scientific notation is read as its decimal.** -/
theorem reads_scientific (h : Leading ds) (k : Int) :
    ReadsDecimal (scientific ds k) (decimalOf ds k) := by
  obtain ⟨d, rest, rfl, hd⟩ := h.first
  have hdigit : d.isDigit = true := h.isDigit d List.mem_cons_self
  have hone : Leading [d] := ⟨fun c hc => List.mem_singleton.1 hc ▸ hdigit, d, [], rfl, hd⟩
  cases rest with
  | nil =>
    have hwhole : wholeDigits (scientific [d] k) = ([d], 'e' :: exponentText k) :=
      wholeDigits_leading hone fun c hc => by
        cases hc
        rfl
    refine ⟨digitsNat [d], k, ?_, fun start negative => ?_⟩
    · simp [decimalOf]
    · exact readUnsigned_eq_ok_iff.2
        (.exponent hwhole hone.ne_nil rfl (exponentPart_exponentText k))
  | cons c cs =>
    have hrest : ∀ x ∈ c :: cs, x.isDigit = true :=
      fun x hx => h.isDigit x (List.mem_cons_of_mem _ hx)
    have hwhole : wholeDigits (scientific (d :: c :: cs) k) =
        ([d], '.' :: (c :: cs ++ 'e' :: exponentText k)) :=
      wholeDigits_leading hone fun c hc => by
        cases hc
        rfl
    have hfraction : fractionDigits ('.' :: (c :: cs ++ 'e' :: exponentText k)) =
        some (c :: cs, 'e' :: exponentText k) :=
      fractionDigits_cons (List.cons_ne_nil _ _) hrest fun x hx => by
        cases hx
        rfl
    refine ⟨digitsNat (d :: c :: cs), k - (c :: cs).length, ?_, fun start negative => ?_⟩
    · rw [decimalOf]
      congr 2
      simp only [List.length_cons]
      omega
    · exact readUnsigned_eq_ok_iff.2
        (.both hwhole hone.ne_nil hfraction (exponentPart_exponentText k))

/-! ### Positional notation -/

theorem fractionDigits_point (hne : ds ≠ []) (hds : ∀ c ∈ ds, c.isDigit = true) :
    fractionDigits ('.' :: ds) = some (ds, []) := by
  have := @fractionDigits_cons ds [] hne hds (fun _ hc => nomatch hc)
  rwa [List.append_nil] at this

/-- Digits on both sides of the point. -/
theorem reads_point {whole : List Char} (hwhole : Leading whole) (hne : ds ≠ [])
    (hds : ∀ c ∈ ds, c.isDigit = true) :
    ReadsDecimal (whole ++ '.' :: ds) (digitsNat (whole ++ ds) * 10 ^ (-(ds.length : Int))) := by
  refine ⟨_, _, rfl, fun start negative => ?_⟩
  refine readUnsigned_eq_ok_iff.2 (.fraction (wholeDigits_leading hwhole fun c hc => ?_)
    hwhole.ne_nil (fractionDigits_point hne hds) rfl)
  cases hc
  rfl

/-- A zero, the point, more zeros and all the digits. -/
theorem reads_small (h : Leading ds) (zeros : Nat) :
    ReadsDecimal ('0' :: '.' :: (List.replicate zeros '0' ++ ds))
      (digitsNat ds * 10 ^ (-((zeros + ds.length : Nat) : Int))) := by
  have hdigits : ∀ c ∈ List.replicate zeros '0' ++ ds, c.isDigit = true := by
    intro c hc
    rcases List.mem_append.1 hc with hc | hc
    · rw [List.eq_of_mem_replicate hc]
      rfl
    · exact h.isDigit c hc
  have hlength : (List.replicate zeros '0' ++ ds).length = zeros + ds.length := by
    rw [List.length_append, List.length_replicate]
  have hvalue : digitsNat (['0'] ++ (List.replicate zeros '0' ++ ds)) = digitsNat ds :=
    (digitsNat_zeros_append 1 _).trans (digitsNat_zeros_append zeros ds)
  refine ⟨_, _, rfl, fun start negative => ?_⟩
  rw [← hvalue, ← hlength]
  exact readUnsigned_eq_ok_iff.2 (.fraction rfl (List.cons_ne_nil _ _)
    (fractionDigits_point (List.append_ne_nil_of_right_ne_nil _ h.ne_nil) hdigits) rfl)

/-- All the digits, more zeros, the point and one more zero. -/
theorem reads_large (h : Leading ds) (zeros : Nat) :
    ReadsDecimal (ds ++ List.replicate zeros '0' ++ '.' :: ['0'])
      (digitsNat ds * 10 ^ (zeros : Int)) := by
  have hwhole : Leading (ds ++ List.replicate zeros '0') := by
    obtain ⟨d, rest, rfl, hd⟩ := h.first
    refine ⟨fun c hc => ?_, d, _, rfl, hd⟩
    rcases List.mem_append.1 hc with hc | hc
    · exact h.isDigit c hc
    · rw [List.eq_of_mem_replicate hc]
      rfl
  have hread := reads_point hwhole (List.cons_ne_nil '0' []) fun c hc => by
    rw [List.mem_singleton.1 hc]
    rfl
  -- The zero behind the point takes back the power that it gives to the digits.
  have hten : digitsNat (ds ++ List.replicate zeros '0' ++ ['0']) =
      10 ^ (zeros + 1) * digitsNat ds := by
    rw [List.append_assoc]
    exact (congrArg (fun zeros => digitsNat (ds ++ zeros)) List.replicate_succ'.symm).trans
      (digitsNat_append_zeros ds (zeros + 1))
  have hvalue : (digitsNat (ds ++ List.replicate zeros '0' ++ ['0']) : ℚ) *
      10 ^ (-(((['0'] : List Char).length : Nat) : Int)) = digitsNat ds * 10 ^ (zeros : Int) := by
    rw [hten, List.length_singleton, Nat.cast_one, zpow_neg_one, zpow_natCast]
    push_cast
    ring
  rwa [hvalue] at hread

/-- **Positional notation is read as its decimal.** -/
theorem reads_positional (h : Leading ds) (k : Int) :
    ReadsDecimal (positional ds k) (decimalOf ds k) := by
  have hpos := List.length_pos_iff.2 h.ne_nil
  unfold positional decimalOf
  by_cases hk : k < 0
  · have hread := reads_small h ((-k).toNat - 1)
    rw [show -(((-k).toNat - 1 + ds.length : Nat) : Int) = k + 1 - ds.length by omega] at hread
    rwa [if_pos hk]
  · rw [if_neg hk]
    dsimp only
    rcases Nat.lt_or_ge (k.toNat + 1) ds.length with hlt | hge
    · -- The point stands between two digits.
      have hdrop : ds.drop (k.toNat + 1) ≠ [] := by
        simpa using hlt
      have hwhole : Leading (ds.take (k.toNat + 1)) := by
        obtain ⟨d, rest, rfl, hd⟩ := h.first
        exact ⟨fun c hc => h.isDigit c (List.mem_of_mem_take hc), d, _, rfl, hd⟩
      have hread := reads_point hwhole hdrop fun c hc => h.isDigit c (List.mem_of_mem_drop hc)
      rw [List.take_append_drop, List.length_drop,
        show -((ds.length - (k.toNat + 1) : Nat) : Int) = k + 1 - ds.length by omega] at hread
      rwa [show k.toNat + 1 - ds.length = 0 by omega, List.replicate_zero, List.append_nil,
        if_neg (by simpa using hlt)]
    · -- All the digits stand in front of the point, and zeros perhaps.
      have hread := reads_large h (k.toNat + 1 - ds.length)
      rw [show ((k.toNat + 1 - ds.length : Nat) : Int) = k + 1 - ds.length by omega] at hread
      rwa [List.take_of_length_le hge, if_pos (by simpa using hge)]

end

/-! ### The text of a number is read as it -/

section
variable {m : Nat} {e : Int} (hm : m ≠ 0) (hs : Storable m e)
include hm hs

/-- The digits that are written do not begin with a zero, and of all numbers of the format the one
that is written is nearest to their decimal. -/
theorem nears_shortestDigits : Leading (shortestDigits m e).1 ∧
    Nears m e (decimalOf (shortestDigits m e).1 (shortestDigits m e).2) := by
  have hnears := nears_search hm hs
  unfold shortestDigits
  dsimp only
  rcases hfound : (Basin.of m e).search (Basin.of m e).floorLog10 18 with ⟨digits, exponent⟩
  rw [hfound] at hnears
  dsimp only at hnears ⊢
  have hne : digits ≠ 0 := by
    rintro rfl
    have := hnears.pos hs hm
    rw [Nat.cast_zero, zero_mul] at this
    exact lt_irrefl _ this
  obtain ⟨zeros, hzeros⟩ := exists_significantDigits digits
  refine ⟨leading_significantDigits hne, ?_⟩
  have hvalue : (digits : ℚ) = digitsNat (significantDigits digits) * 10 ^ zeros := by
    have := digitsNat_toDigits digits
    rw [hzeros, digitsNat_append_zeros, Nat.mul_comm] at this
    exact_mod_cast this.symm
  have hplace : exponent + ((Nat.toDigits 10 digits).length : Int) - 1 + 1 -
      (significantDigits digits).length = zeros + exponent := by
    rw [hzeros, List.length_append, List.length_replicate]
    omega
  rwa [decimalOf, hplace, zpow_add₀ (by norm_num), zpow_natCast, ← mul_assoc, ← hvalue]

/-- What is written for a number without its sign is read as the number. -/
theorem readUnsigned_shortestDigits (start : List Char) (negative : Bool) :
    readUnsigned start negative (if -4 ≤ (shortestDigits m e).2 && (shortestDigits m e).2 < 16 then
      positional (shortestDigits m e).1 (shortestDigits m e).2
      else scientific (shortestDigits m e).1 (shortestDigits m e).2) =
        .ok (.float (.finite negative m e hs), []) := by
  obtain ⟨hleading, hnears⟩ := nears_shortestDigits hm hs
  generalize (shortestDigits m e).1 = ds at *
  generalize (shortestDigits m e).2 = k at *
  have hreads : ReadsDecimal (if -4 ≤ k && k < 16 then positional ds k else scientific ds k)
      (decimalOf ds k) := by
    split
    · exact reads_positional hleading k
    · exact reads_scientific hleading k
  obtain ⟨digits, exponent, hvalue, hread⟩ := hreads
  rw [hread, Binary64.ofDecimal_of_nears negative hs hm (hvalue ▸ hnears)]

end

/-- A sign in front of a number. -/
theorem readNumber_signed {cs : List Char} {negative : Bool} {j : Raw}
    (h : ∀ start, readUnsigned start negative cs = .ok (j, [])) :
    readNumber ((if negative then ['-'] else []) ++ cs) = .ok (j, []) := by
  cases negative with
  | true => exact h _
  | false =>
    obtain ⟨c, tail, rfl, hc⟩ := exists_digit_of_readUnsigned (h [])
    show readNumber (c :: tail) = _
    unfold readNumber
    split
    · rename_i heq
      rw [(List.cons.inj heq).1] at hc
      cases hc
    · exact h _

/-- What is written for a finite number is read as the number. -/
theorem readNumber_floatChars (negative : Bool) {m : Nat} {e : Int} (hs : Storable m e) :
    readNumber (floatChars (.finite negative m e hs)) =
      .ok (.float (.finite negative m e hs), []) := by
  unfold floatChars Binary64.toChars
  dsimp only
  split
  · rename_i hm
    obtain rfl : m = 0 := by simpa using hm
    obtain rfl : e = -1074 := hs.2.2.2.resolve_left (by decide)
    exact readNumber_signed fun start => rfl
  · rename_i hm
    exact readNumber_signed fun start =>
      readUnsigned_shortestDigits (by simpa using hm) hs start negative

/-- **Every floating-point number is read from its own text.** -/
theorem exact_float (x : Binary64) : Exact x := by
  intro room
  have hread : readChars? room.reading (line .unicode (.float x)).toList = .ok (.float x) := by
    rw [line, String.toList_ofList]
    show readChars? room.reading (floatChars x) = _
    cases x with
    | nan => rfl
    | infinite negative => cases negative <;> rfl
    | finite negative m e hs =>
      have hnumeric : ∀ c ∈ floatChars (.finite negative m e hs), isNumeric c = true :=
        fun c hc => isNumeric_of_mem_toChars (h := hs) hc
      -- The characters of numbers are no byte order mark.
      have hmark : ¬((floatChars (.finite negative m e hs)).head? ==
          some (Char.ofNat 0xFEFF)) = true := fun h =>
        absurd (hnumeric _ (List.mem_of_head? (beq_iff_eq.1 h))) (by decide)
      unfold readChars?
      rw [if_neg hmark, skipSpace_eq_self hnumeric, readValue_of_isNumeric hnumeric,
        readNumber_floatChars]
      rfl
  rw [read, hread]

end ProbeKit.Json
