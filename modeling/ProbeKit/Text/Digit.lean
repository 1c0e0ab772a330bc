/-!
# Decimal digits

Unicode 14 has sixty-six sets of ten decimal digits.  `decimalDigit?` gives the value of a digit
of any of them, and `decimalNat?` reads a non-empty run of digits as a number.  Numbers of more than
`digitLimit` digits are neither read nor written where `TooManyDigits` is an error.
-/

namespace ProbeKit.Text

/-- The zeros of the sets of decimal digits outside ASCII. -/
def decimalZeros : Array Nat := #[
  0x660, 0x6f0, 0x7c0, 0x966, 0x9e6, 0xa66, 0xae6, 0xb66, 0xbe6, 0xc66, 0xce6, 0xd66, 0xde6, 0xe50,
  0xed0, 0xf20, 0x1040, 0x1090, 0x17e0, 0x1810, 0x1946, 0x19d0, 0x1a80, 0x1a90, 0x1b50, 0x1bb0,
  0x1c40, 0x1c50, 0xa620, 0xa8d0, 0xa900, 0xa9d0, 0xa9f0, 0xaa50, 0xabf0, 0xff10, 0x104a0, 0x10d30,
  0x11066, 0x110f0, 0x11136, 0x111d0, 0x112f0, 0x11450, 0x114d0, 0x11650, 0x116c0, 0x11730,
  0x118e0, 0x11950, 0x11c50, 0x11d50, 0x11da0, 0x16a60, 0x16ac0, 0x16b50, 0x1d7ce, 0x1d7d8,
  0x1d7e2, 0x1d7ec, 0x1d7f6, 0x1e140, 0x1e2f0, 0x1e950, 0x1fbf0]

/-- The value of a decimal digit of any script. -/
def decimalDigit? (c : Char) : Option Nat :=
  let n := c.toNat
  if 48 ≤ n && n ≤ 57 then some (n - 48)
  else if n < 0x660 then none
  else (decimalZeros.find? fun z => z ≤ n && n ≤ z + 9).map (n - ·)

/-- Whether a character is a decimal digit of any script. -/
def isDecimal (c : Char) : Bool := (decimalDigit? c).isSome

/-- The number that a list of digit values spells, the most significant first. -/
def ofDigits (base : Nat) (ds : List Nat) : Nat := ds.foldl (fun n d => n * base + d) 0

/-- The number spelled by a non-empty run of decimal digits of any scripts. -/
def decimalNat? (cs : List Char) : Option Nat :=
  if cs.isEmpty then none else (cs.mapM decimalDigit?).map (ofDigits 10)

/-! ### Long numbers -/

/-- How many digits a number may have to be read or written. -/
def digitLimit : Nat := 4300

/-- Whether an integer has too many digits to be written. -/
def overlong (n : Int) : Bool := decide (digitLimit < (Nat.toDigits 10 n.natAbs).length)

/-- A number is too long to be converted. -/
inductive TooManyDigits where
  /-- A text has so many digits. -/
  | reading (digits : Nat)
  /-- A number would be written with more digits than are allowed. -/
  | writing
  deriving DecidableEq

/-- What is wrong, in words. -/
def TooManyDigits.message : TooManyDigits → String
  | .reading digits =>
    s!"Exceeds the limit ({digitLimit} digits) for integer string conversion: value has " ++
      s!"{digits} digits; use sys.set_int_max_str_digits() to increase the limit"
  | .writing =>
    s!"Exceeds the limit ({digitLimit} digits) for integer string conversion; use " ++
      "sys.set_int_max_str_digits() to increase the limit"

end ProbeKit.Text
