import ProbeKit.Number.Binary64
import ProbeKit.Text.Blank
import ProbeKit.Text.Digit

/-!
# Numerals

Reading numbers that people type: digits of any script, single underscores between digits,
blanks around, a sign in front.  `readInt?` and `readFloat?` are `none` on anything else.
-/

namespace ProbeKit.Number

open Text

/-- Whether a character may surround a numeral: a blank that is no information separator. -/
def isMargin (c : Char) : Bool := isBlank c && !(0x1C ≤ c.toNat && c.toNat ≤ 0x1F)

/-- The characters between the margins. -/
def withoutMargins (cs : List Char) : List Char :=
  ((cs.dropWhile isMargin).reverse.dropWhile isMargin).reverse

/-- Decimal digits of other scripts as ASCII digits. -/
def asciiDigit (c : Char) : Char :=
  match decimalDigit? c with
  | some d => Char.ofNat (48 + d)
  | none => c

/-- Drops the underscores, provided that each stands between two digits. -/
def dropUnderscores : List Char → Option (List Char)
  | [] => some []
  | '_' :: _ => none
  | c :: '_' :: d :: cs =>
    if c.isDigit && d.isDigit then (dropUnderscores (d :: cs)).map (c :: ·) else none
  | [_, '_'] => none
  | c :: cs => (dropUnderscores cs).map (c :: ·)

/-- The characters of a numeral, without margins and underscores and with ASCII digits. -/
def numeralChars? (s : String) : Option (List Char) :=
  dropUnderscores (withoutMargins (s.toList.map asciiDigit))

/-- Splits off a sign; `true` stands for minus. -/
def takeSign : List Char → Bool × List Char
  | '-' :: cs => (true, cs)
  | '+' :: cs => (false, cs)
  | cs => (false, cs)

/-- The number that ASCII digits spell; zero for no digits. -/
def digitsNat (cs : List Char) : Nat := ofDigits 10 (cs.map fun c => c.toNat - 48)

/-- The integer that a text spells, if it has not too many digits. -/
def readInt? (s : String) : Option Int := do
  let (negative, digits) := takeSign (← numeralChars? s)
  if digits.isEmpty || !digits.all Char.isDigit || digitLimit < digits.length then none
  else some (if negative then -(digitsNat digits : Int) else digitsNat digits)

/-- The number that ASCII characters without a sign spell: digits with an optional point and an
optional exponent. -/
def unsignedFloat? (negative : Bool) (cs : List Char) : Option Binary64 :=
  let whole := cs.takeWhile Char.isDigit
  let afterWhole := cs.dropWhile Char.isDigit
  let (fraction, rest) :=
    match afterWhole with
    | '.' :: more => (more.takeWhile Char.isDigit, more.dropWhile Char.isDigit)
    | _ => ([], afterWhole)
  let digits := digitsNat (whole ++ fraction)
  let point : Int := -(fraction.length : Int)
  if whole.isEmpty && fraction.isEmpty then none
  else
    match rest with
    | [] => some (Binary64.ofDecimal negative digits point)
    | c :: more =>
      let (down, power) := takeSign more
      if (c == 'e' || c == 'E') && !power.isEmpty && power.all Char.isDigit then
        let k : Int := digitsNat power
        some (Binary64.ofDecimal negative digits ((if down then -k else k) + point))
      else none

/-- The number that a text spells; words for infinities and for no number are known. -/
def readFloat? (s : String) : Option Binary64 := do
  let (negative, cs) := takeSign (← numeralChars? s)
  let word := String.ofList (cs.map Char.toLower)
  if word == "inf" || word == "infinity" then some (.infinite negative)
  else if word == "nan" then some .nan
  else unsignedFloat? negative cs

end ProbeKit.Number
