import ProbeKit.Number.Shortest
import ProbeKit.Text.Layout
import ProbeKit.Text.Quoted

/-!
# Templates of lines

A template is a text with fields in it, such as `%(name)-14s`: a name in parentheses, perhaps flags,
a width and a precision, and a letter that says how the value is written.  `Template.fill?` puts
values in place of the fields.  A template with a field that has no value, or whose value cannot be
written in that way, cannot be filled at all.
-/

namespace ProbeKit

open Number Text

namespace Template

/-- The value of a field. -/
inductive Value where
  /-- A text. -/
  | text (s : String)
  /-- A number. -/
  | number (n : Nat)
  /-- Anything else, which is known by how it is shown. -/
  | other (shown : String)
  deriving DecidableEq

/-! ### Writing values -/

/-- A text in quotes that are all in ASCII. -/
def asciiQuoted (s : String) : String :=
  String.ofList <| (quoted s).toList.flatMap fun c =>
    let n := c.toNat
    if n < 0x80 then [c]
    else if n < 0x100 then '\\' :: 'x' :: hexDigits 2 n
    else if n < 0x10000 then '\\' :: 'u' :: hexDigits 4 n
    else '\\' :: 'U' :: hexDigits 8 n

/-- A number without a fraction, given by the sign of its base and its digits. -/
def wholeText (l : Layout) (base digits : List Char) : List Char :=
  l.number (l.signOf false ++ if l.full then base else []) digits

/-- Digits with a point behind the first `whole` of them; the point is left out where nothing
follows it, unless it has to be there. -/
def withPoint (pointed : Bool) (whole : Nat) (digits : List Char) : List Char :=
  let fraction := digits.drop whole
  digits.take whole ++ (if pointed || !fraction.isEmpty then '.' :: fraction else [])

/-- The digits of a number, `count + 1` of them, and the power of ten of the first; halves go to
the even neighbour. -/
def leading (count n : Nat) : List Char × Nat :=
  let digits := Nat.toDigits 10 n
  let power := digits.length - 1
  if power ≤ count then (digits ++ List.replicate (count - power) '0', power)
  else
    let unit := Nat.pow 10 (power - count)
    let (q, r) := (n / unit, n % unit)
    let q := if 2 * r > unit || (2 * r == unit && q % 2 == 1) then q + 1 else q
    let digits := Nat.toDigits 10 q
    (digits.take (count + 1), power + (digits.length - (count + 1)))

/-- Digits without the zeros at their end, but for the first `whole`. -/
def trimmed (whole : Nat) (digits : List Char) : List Char :=
  digits.take whole ++ ((digits.drop whole).reverse.dropWhile (· == '0')).reverse

/-- The digits of a number with a fraction, as the letter says: fixed, with a power of ten, or the
shorter of the two. -/
def fraction? (l : Layout) (letter : Char) (n : Nat) : Option (List Char) :=
  let precision := l.precision.getD 6
  match letter with
  | 'f' =>
    let digits := Nat.toDigits 10 n
    some (withPoint l.full digits.length (digits ++ List.replicate precision '0'))
  | 'e' =>
    let (digits, power) := leading precision n
    some (withPoint l.full 1 digits ++ 'e' :: exponentText power)
  | 'g' =>
    let (digits, power) := leading (precision - 1) n
    let fixed := power < Nat.max precision 1
    let places := if fixed then power + 1 else 1
    let digits := if l.full then digits else trimmed places digits
    some (withPoint l.full places digits ++ if fixed then [] else 'e' :: exponentText power)
  | _ => none

/-- A number as the letter of a field says. -/
def numberText? (l : Layout) (letter : Char) (n : Nat) : Option (List Char) :=
  match letter with
  | 'c' => some (l.widen [Char.ofNat n])
  | 'x' => some (wholeText l ['0', 'x'] (Nat.toDigits 16 n))
  | 'X' => some (wholeText l ['0', 'X'] ((Nat.toDigits 16 n).map Char.toUpper))
  | 'o' => some (wholeText l ['0', 'o'] (Nat.toDigits 8 n))
  | 'd' | 'i' | 'u' => some (wholeText l [] (Nat.toDigits 10 n))
  | 's' | 'r' | 'a' => some (l.text (Nat.toDigits 10 n))
  | _ => (fraction? l letter.toLower n).map fun cs =>
    { l with precision := none }.number (l.signOf false)
      (if letter.isUpper then cs.map Char.toUpper else cs)

/-- A value as the letter of a field says. -/
def valueText? (l : Layout) (letter : Char) : Value → Option (List Char)
  | .text s =>
    match letter with
    | 's' => some (l.text s.toList)
    | 'r' => some (l.text (quoted s).toList)
    | 'a' => some (l.text (asciiQuoted s).toList)
    | 'c' => if s.length == 1 then some (l.widen s.toList) else none
    | _ => none
  | .number n => numberText? l letter n
  | .other shown => if "sra".toList.contains letter then some (l.text shown.toList) else none

/-! ### Reading fields -/

/-- The name of a field up to the parenthesis that closes it, and what is behind it; parentheses
inside have to match.  The first argument counts those that are open. -/
def name? (opened : Nat) : List Char → Option (List Char × List Char)
  | [] => none
  | ')' :: cs =>
    match opened with
    | 0 => some ([], cs)
    | k + 1 => (name? k cs).map fun (name, rest) => (')' :: name, rest)
  | c :: cs =>
    (name? (if c == '(' then opened + 1 else opened) cs).map fun (name, rest) => (c :: name, rest)

/-- The layout of a field and its letter, and what is behind them.  A letter for the size of a
number may stand in front of the letter and says nothing. -/
def layout? (cs : List Char) : Option (Layout × Char × List Char) :=
  match Layout.read cs with
  | (l, size :: letter :: rest) =>
    if "hlL".toList.contains size then some (l, letter, rest) else some (l, size, letter :: rest)
  | (l, [letter]) => if "hlL".toList.contains letter then none else some (l, letter, [])
  | (_, []) => none

/-- A field behind its mark as it is written, and what is behind it. -/
def field? (values : String → Option Value) (cs : List Char) : Option (List Char × List Char) := do
  let (v, cs) ← match cs with
    | '(' :: more => do
      let (name, rest) ← name? 0 more
      pure (some (← values (String.ofList name)), rest)
    | _ => pure (none, cs)
  let (l, letter, rest) ← layout? cs
  if letter == '%' then return (['%'], rest)
  return (← valueText? l letter (← v), rest)

/-- A template with its fields filled; the first argument bounds their number. -/
def fillFrom (values : String → Option Value) : Nat → List Char → Option (List Char)
  | _, [] => some []
  | 0, _ => none
  | fuel + 1, '%' :: cs => do
    let (written, rest) ← field? values cs
    return written ++ (← fillFrom values fuel rest)
  | fuel + 1, c :: cs => (fillFrom values fuel cs).map (c :: ·)

/-- A template with its fields filled. -/
def fill? (values : String → Option Value) (template : String) : Option String :=
  (fillFrom values template.length template.toList).map String.ofList

end Template

end ProbeKit
