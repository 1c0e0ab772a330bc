import ProbeKit.Number.Binary64

/-!
# Shortest decimals

A binary number is written with the fewest decimal digits that are read back as the same number,
and of those the nearest, the even ones of two that are equally near.  The reals that are read as
`m * 2 ^ e` form an interval around it, whose ends belong to it when `m` is even; for one digit,
two digits and so on, the two neighbours of the number on the decimal grid are tested against that
interval.
-/

namespace ProbeKit.Number

/-- The interval of reals that are read as one number, over a common denominator: its ends, the
number itself, and whether the ends belong to the interval. -/
structure Basin where
  /-- Numerator of the lower end. -/
  low : Nat
  /-- Numerator of the number. -/
  value : Nat
  /-- Numerator of the upper end. -/
  high : Nat
  /-- The common denominator. -/
  den : Nat
  /-- Whether the ends are read as the number too. -/
  closed : Bool

/-- The interval of `m * 2 ^ e`.  Below a power of two the neighbours are closer. -/
def Basin.of (m : Nat) (e : Int) : Basin :=
  let up := Nat.pow 2 e.toNat
  let down := Nat.pow 2 (-e).toNat
  -- Everything is taken four times, so that half a step, and half of half a step, are whole.
  let gap := if m == Nat.pow 2 52 && -1074 < e then 1 else 2
  { low := (4 * m - gap) * up, value := 4 * m * up, high := (4 * m + 2) * up, den := 4 * down
    closed := m % 2 == 0 }

/-- Whether `digits * 10 ^ exponent` lies in the interval. -/
def Basin.holds (b : Basin) (digits : Nat) (exponent : Int) : Bool :=
  let x := digits * Nat.pow 10 exponent.toNat * b.den
  let scale := Nat.pow 10 (-exponent).toNat
  if b.closed then b.low * scale ≤ x && x ≤ b.high * scale
  else b.low * scale < x && x < b.high * scale

/-- The greatest `k` such that `10 ^ k` is at most the number, from a guess that is off by at most
one. -/
def Basin.floorLog10 (b : Basin) : Int :=
  let guess : Int := Binary64.floorLog2 b.value b.den * 30103 / 100000
  let atLeast (k : Int) : Bool := Nat.pow 10 k.toNat * b.den ≤ b.value * Nat.pow 10 (-k).toNat
  if atLeast (guess + 1) then guess + 1
  else if atLeast guess then guess
  else guess - 1

/-- The neighbours of the number on the grid of multiples of `10 ^ exponent`, as far as they lie
in the interval; of two, the nearer, and of two equally near the even one. -/
def Basin.onGrid? (b : Basin) (exponent : Int) : Option Nat :=
  let num := b.value * Nat.pow 10 (-exponent).toNat
  let den := b.den * Nat.pow 10 exponent.toNat
  let below := num / den
  match b.holds below exponent, b.holds (below + 1) exponent with
  | true, true =>
    -- The remainder over the denominator says how far up the grid cell the number lies.
    let twice := 2 * (num % den)
    some (if den < twice || (den == twice && below % 2 == 1) then below + 1 else below)
  | true, false => some below
  | false, true => some (below + 1)
  | false, false => none

/-- The first grid with a hit, from the coarsest; `tries` more digits are tried. -/
def Basin.search (b : Basin) (exponent : Int) : Nat → Nat × Int
  | 0 => (b.value / b.den, 0)
  | tries + 1 =>
    match b.onGrid? exponent with
    | some digits => (digits, exponent)
    | none => b.search (exponent - 1) tries

/-- Drops the zeros at the end of the digits of `n`, most significant digit first. -/
def significantDigits (n : Nat) : List Char :=
  ((Nat.toDigits 10 n).reverse.dropWhile (· == '0')).reverse

/-- The shortest digits of `m * 2 ^ e` for `m` not zero, and the exponent of ten of the first. -/
def shortestDigits (m : Nat) (e : Int) : List Char × Int :=
  let b := Basin.of m e
  let (digits, exponent) := b.search b.floorLog10 18
  (significantDigits digits, exponent + ((Nat.toDigits 10 digits).length : Int) - 1)

/-- An exponent with its sign and at least two digits. -/
def exponentText (k : Int) : List Char :=
  let digits := Nat.toDigits 10 k.natAbs
  (if k < 0 then '-' else '+') :: (if digits.length < 2 then '0' :: digits else digits)

/-- Digits with the point after the first `places`, or after leading zeros, and at least one digit
on either side of it. -/
def positional (digits : List Char) (k : Int) : List Char :=
  if k < 0 then '0' :: '.' :: (List.replicate ((-k).toNat - 1) '0' ++ digits)
  else
    let places := k.toNat + 1
    let whole := digits.take places ++ List.replicate (places - digits.length) '0'
    let rest := digits.drop places
    whole ++ '.' :: (if rest.isEmpty then ['0'] else rest)

/-- Scientific notation, with a point only if there is more than one digit. -/
def scientific (digits : List Char) (k : Int) : List Char :=
  match digits with
  | [] => []
  | [d] => d :: 'e' :: exponentText k
  | d :: ds => d :: '.' :: (ds ++ 'e' :: exponentText k)

/-- How a number is written: positionally from `10 ^ -4` up to but not at `10 ^ 16`, with at least
one digit after the point, and with an exponent otherwise. -/
def Binary64.toChars : Binary64 → List Char
  | .nan => "nan".toList
  | .infinite negative => if negative then "-inf".toList else "inf".toList
  | .finite negative m e _ =>
    let sign := if negative then ['-'] else []
    if m == 0 then sign ++ "0.0".toList
    else
      let (digits, k) := shortestDigits m e
      sign ++ (if -4 ≤ k && k < 16 then positional digits k else scientific digits k)

/-- The text of a number. -/
def Binary64.text (x : Binary64) : String := String.ofList x.toChars

end ProbeKit.Number
