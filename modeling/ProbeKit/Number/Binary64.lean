/-!
# Binary floating-point numbers

`Binary64` holds the numbers of the 64-bit binary format as sign, significand and exponent, in
the one form each value has there, so equal values are equal terms (the two zeros differ by their
sign).  Everything is exact integer arithmetic followed by one rounding: `ofRatio` is the nearest
number to a quotient, a tie going to the even significand, and reading decimals, converting
integers, adding and multiplying are all instances of it.
-/

namespace ProbeKit.Number

/-- `m * 2 ^ e` is in the form that the format stores: 53 bits, all of them in use unless the
exponent is the least one. -/
def Storable (m : Nat) (e : Int) : Prop :=
  -1074 ≤ e ∧ e ≤ 971 ∧ m < Nat.pow 2 53 ∧ (Nat.pow 2 52 ≤ m ∨ e = -1074)

instance (m : Nat) (e : Int) : Decidable (Storable m e) := by
  unfold Storable
  infer_instance

/-- A number of the 64-bit binary format. -/
inductive Binary64 where
  /-- The number `m * 2 ^ e`, or its negative. -/
  | finite (negative : Bool) (m : Nat) (e : Int) (storable : Storable m e)
  /-- Beyond the largest finite number. -/
  | infinite (negative : Bool)
  /-- No number. -/
  | nan
  deriving DecidableEq

namespace Binary64

theorem storable_zero : Storable 0 (-1074) := by decide

/-- A zero with a sign. -/
def zero (negative : Bool) : Binary64 := .finite negative 0 (-1074) storable_zero

instance : Inhabited Binary64 := ⟨zero false⟩

/-- `m * 2 ^ e` if it can be stored, and an infinity otherwise. -/
def ofParts (negative : Bool) (m : Nat) (e : Int) : Binary64 :=
  if h : Storable m e then .finite negative m e h else .infinite negative

/-! ### Rounding -/

/-- The integer nearest to `num / den`, a tie going to the even one. -/
def nearestEven (num den : Nat) : Nat :=
  let q := num / den
  let r := num % den
  if den < 2 * r || (2 * r == den && q % 2 == 1) then q + 1 else q

/-- The exponent of the greatest power of two that is at most `num / den`. -/
def floorLog2 (num den : Nat) : Int :=
  let k : Int := (num.log2 : Int) - (den.log2 : Int)
  let atLeast := if 0 ≤ k then den * Nat.pow 2 k.toNat ≤ num else den ≤ num * Nat.pow 2 (-k).toNat
  if atLeast then k else k - 1

/-- The number nearest to `num / den`, a tie going to the even significand. -/
def ofRatio (negative : Bool) (num den : Nat) : Binary64 :=
  if num == 0 then zero negative
  else
    -- The significand gets 53 bits, or fewer next to zero, where the exponent cannot go lower.
    let e := max (-1074) (floorLog2 num den - 52)
    let m := if 0 ≤ e then nearestEven num (den * Nat.pow 2 e.toNat)
      else nearestEven (num * Nat.pow 2 (-e).toNat) den
    -- Rounding up may reach the next power of two.
    if m == Nat.pow 2 53 then ofParts negative (Nat.pow 2 52) (e + 1) else ofParts negative m e

/-- The number nearest to `digits * 10 ^ exponent`.  Far outside the range of the format the
answer is known without computing the power. -/
def ofDecimal (negative : Bool) (digits : Nat) (exponent : Int) : Binary64 :=
  let size : Int := ((Nat.toDigits 10 digits).length : Int) + exponent
  if digits == 0 then zero negative
  else if 400 < size then .infinite negative
  else if size < -400 then zero negative
  else if 0 ≤ exponent then ofRatio negative (digits * Nat.pow 10 exponent.toNat) 1
  else ofRatio negative digits (Nat.pow 10 (-exponent).toNat)

/-- The number nearest to an integer. -/
def ofInt (n : Int) : Binary64 := ofRatio (decide (n < 0)) n.natAbs 1

/-! ### Comparison and arithmetic -/

/-- Whether a number is less than zero. -/
def isNegative : Binary64 → Bool
  | .finite negative m _ _ => negative && m != 0
  | .infinite negative => negative
  | .nan => false

/-- Whether a number equals zero. -/
def isZero : Binary64 → Bool
  | .finite _ m _ _ => m == 0
  | _ => false

/-- Whether a number equals one. -/
def isOne (x : Binary64) : Bool := x == ofInt 1

/-- The number with the opposite sign. -/
def neg : Binary64 → Binary64
  | .finite negative m e h => .finite (!negative) m e h
  | .infinite negative => .infinite (!negative)
  | .nan => .nan

/-- The integer `n` such that the number is `n * 2 ^ e`, for an exponent at most its own. -/
def scaled (negative : Bool) (m : Nat) (own e : Int) : Int :=
  let n : Int := m * Nat.pow 2 (own - e).toNat
  if negative then -n else n

/-- The number nearest to `n * 2 ^ e`; `sign` is the sign of a zero. -/
def ofScaled (n e : Int) (sign : Bool) : Binary64 :=
  if n == 0 then zero sign
  else if 0 ≤ e then ofRatio (decide (n < 0)) (n.natAbs * Nat.pow 2 e.toNat) 1
  else ofRatio (decide (n < 0)) n.natAbs (Nat.pow 2 (-e).toNat)

/-- The rounded sum. -/
def add : Binary64 → Binary64 → Binary64
  | .finite s m e _, .finite s' m' e' _ =>
    let low := min e e'
    ofScaled (scaled s m e low + scaled s' m' e' low) low (s && s')
  | .infinite s, .infinite s' => if s == s' then .infinite s else .nan
  | .nan, _ | _, .nan => .nan
  | .infinite s, _ | _, .infinite s => .infinite s

/-- The rounded product. -/
def mul : Binary64 → Binary64 → Binary64
  | .finite s m e _, .finite s' m' e' _ =>
    if m * m' == 0 then zero (s != s')
    else ofScaled (if s != s' then -((m * m' : Nat) : Int) else (m * m' : Nat)) (e + e') (s != s')
  | .nan, _ | _, .nan => .nan
  | .infinite s, .infinite s' => .infinite (s != s')
  | .infinite s, .finite s' m _ _ => if m == 0 then .nan else .infinite (s != s')
  | .finite s m _ _, .infinite s' => if m == 0 then .nan else .infinite (s != s')

end Binary64

end ProbeKit.Number
