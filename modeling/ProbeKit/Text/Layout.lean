import ProbeKit.Text.Digit

/-!
# Layouts

How a value stands in a line: the least width, the side at which the value stands, and what a number
shows.  A layout is written as flags, a width and, behind a point, a precision.  `Layout.read` reads
one; `Layout.text` lays out a text and `Layout.number` a number that is given by its digits.
-/

namespace ProbeKit.Text

/-- How a value stands in a line. -/
structure Layout where
  /-- Whether the value stands at the left. -/
  left : Bool := false
  /-- Whether zeros stand in front of numbers. -/
  zeros : Bool := false
  /-- Whether numbers have a sign. -/
  sign : Bool := false
  /-- Whether numbers without a sign have a blank in its place. -/
  blank : Bool := false
  /-- Whether numbers show what they may leave out: their base, or the point and the zeros at the
  end. -/
  full : Bool := false
  /-- The least width. -/
  width : Nat := 0
  /-- The most characters of a text, or the fewest digits of a number. -/
  precision : Option Nat := none
  deriving DecidableEq, Inhabited

namespace Layout

/-! ### Reading -/

/-- The layout with a flag. -/
def withFlag (l : Layout) : Char → Option Layout
  | '-' => some { l with left := true }
  | '0' => some { l with zeros := true }
  | '+' => some { l with sign := true }
  | ' ' => some { l with blank := true }
  | '#' => some { l with full := true }
  | _ => none

/-- The layout with the flags in front of characters, and what is behind them. -/
def withFlags (l : Layout) : List Char → Layout × List Char
  | [] => (l, [])
  | c :: cs =>
    match l.withFlag c with
    | some l => l.withFlags cs
    | none => (l, c :: cs)

/-- The number in front of characters, zero without digits, and what is behind it. -/
def count (cs : List Char) : Nat × List Char :=
  let digits := cs.takeWhile Char.isDigit
  (ofDigits 10 (digits.map fun c => c.toNat - 48), cs.drop digits.length)

/-- The layout in front of characters, and what is behind it. -/
def read (cs : List Char) : Layout × List Char :=
  let (l, cs) := withFlags {} cs
  let (width, cs) := count cs
  match cs with
  | '.' :: cs =>
    let (precision, cs) := count cs
    ({ l with width, precision := some precision }, cs)
  | _ => ({ l with width }, cs)

/-! ### Laying out -/

/-- Characters widened by blanks. -/
def widen (l : Layout) (cs : List Char) : List Char :=
  let blanks := List.replicate (l.width - cs.length) ' '
  if l.left then cs ++ blanks else blanks ++ cs

/-- A text, cut to the precision. -/
def text (l : Layout) (cs : List Char) : List Char :=
  l.widen (match l.precision with
    | some n => cs.take n
    | none => cs)

/-- The sign of a number. -/
def signOf (l : Layout) (negative : Bool) : List Char :=
  if negative then ['-'] else if l.sign then ['+'] else if l.blank then [' '] else []

/-- A number given by its digits and what stands in front of them. -/
def number (l : Layout) (front digits : List Char) : List Char :=
  let digits := List.replicate (l.precision.getD 0 - digits.length) '0' ++ digits
  if l.zeros && !l.left then
    front ++ List.replicate (l.width - (front.length + digits.length)) '0' ++ digits
  else l.widen (front ++ digits)

end Layout

end ProbeKit.Text
