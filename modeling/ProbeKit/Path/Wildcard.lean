/-!
# Wildcards

In a wildcard `*` stands for any run of characters, `?` for any one character and brackets for
one character of a set.  A slash is a character like any other.  `Wildcard.parse` reads a pattern
and `Wildcard.covers` decides whether the whole of a text fits it; brackets that are not closed
stand for themselves, and a range whose ends are in the wrong order holds nothing.
-/

namespace ProbeKit

/-- One item of a set of characters. -/
structure CharRange where
  /-- The first character. -/
  first : Char
  /-- The last character. -/
  last : Char
  deriving DecidableEq

/-- One part of a wildcard. -/
inductive WildcardPart where
  /-- Any run of characters. -/
  | run
  /-- Any one character. -/
  | any
  /-- One character of a set, or of what is outside it. -/
  | oneOf (outside : Bool) (ranges : List CharRange)
  /-- A character that stands for itself. -/
  | char (c : Char)
  deriving DecidableEq

namespace Wildcard

/-! ### Sets -/

/-- The inside of brackets, from just behind the opening one; a closing bracket right at the
start, or right behind a leading `!`, belongs to the inside. -/
def bracketed? (cs : List Char) : Option (List Char) :=
  let mark := if cs.head? == some '!' then ['!'] else []
  let afterMark := cs.drop mark.length
  let lead := if afterMark.head? == some ']' then mark ++ [']'] else mark
  let rest := cs.drop lead.length
  if rest.contains ']' then some (lead ++ rest.takeWhile (· != ']')) else none

/-- Splits the inside of brackets at the hyphens that make ranges.  The first argument counts the
characters that cannot be such a hyphen: one at the start of a piece, two behind a hyphen. -/
def pieces (immune : Nat) (current : List Char) : List Char → List (List Char)
  | [] => [current]
  | c :: cs =>
    match immune with
    | k + 1 => pieces k (current ++ [c]) cs
    | 0 => if c == '-' then current :: pieces 2 [] cs else pieces 0 (current ++ [c]) cs

/-- A hyphen at the end makes no range and stands for itself. -/
def closePieces : List (List Char) → List (List Char)
  | [] => []
  | [piece, []] => [piece ++ ['-']]
  | piece :: rest => piece :: closePieces rest

/-- Drops the ranges whose ends are in the wrong order, from the last to the first. -/
def dropEmptyRanges : List (List Char) → List (List Char)
  | [] => []
  | piece :: rest =>
    match dropEmptyRanges rest with
    | [] => [piece]
    | next :: more =>
      if (piece.getLastD 'a').toNat > (next.headD 'a').toNat then
        (piece.dropLast ++ next.drop 1) :: more
      else piece :: next :: more

/-- A character of a set, or the mark of a range. -/
inductive SetMark where
  /-- A character. -/
  | char (c : Char)
  /-- The hyphen between the ends of a range. -/
  | range
  deriving DecidableEq

/-- The marks of pieces, a range between every two of them. -/
def marks : List (List Char) → List SetMark
  | [] => []
  | [piece] => piece.map .char
  | piece :: rest => piece.map .char ++ .range :: marks rest

/-- The set that marks stand for; the mark of a range that has no two ends is a hyphen. -/
def ranges : List SetMark → List CharRange
  | .char a :: .range :: .char b :: rest => ⟨a, b⟩ :: ranges rest
  | .char a :: rest => ⟨a, a⟩ :: ranges rest
  | .range :: rest => ⟨'-', '-'⟩ :: ranges rest
  | [] => []

/-- The part that the inside of brackets stands for; `!` in front means all other characters. -/
def setPart (inside : List Char) : WildcardPart :=
  let immune := if inside.head? == some '!' then 2 else 1
  match marks (dropEmptyRanges (closePieces (pieces immune [] inside))) with
  | .char '!' :: rest => .oneOf true (ranges rest)
  | all => .oneOf false (ranges all)

/-! ### Patterns -/

/-- The parts of a pattern; the first argument counts the characters that a set took. -/
def partsFrom : Nat → List Char → List WildcardPart
  | _, [] => []
  | taken + 1, _ :: cs => partsFrom taken cs
  | 0, '*' :: cs => .run :: partsFrom 0 cs
  | 0, '?' :: cs => .any :: partsFrom 0 cs
  | 0, '[' :: cs =>
    match bracketed? cs with
    | some inside => setPart inside :: partsFrom (inside.length + 1) cs
    | none => .char '[' :: partsFrom 0 cs
  | 0, c :: cs => .char c :: partsFrom 0 cs

/-- The parts of a pattern. -/
def parse (pattern : String) : List WildcardPart := partsFrom 0 pattern.toList

/-! ### Matching -/

/-- Whether a character fits a part that stands for one character. -/
def fits (c : Char) : WildcardPart → Bool
  | .run => false
  | .any => true
  | .oneOf outside ranges =>
    ranges.any (fun r => r.first.toNat ≤ c.toNat && c.toNat ≤ r.last.toNat) != outside
  | .char d => c == d

/-- For each end of a text, the longest first, whether some shorter end or itself is marked. -/
def spread : List Bool → List Bool
  | [] => []
  | b :: rest =>
    match spread rest with
    | [] => [b]
    | r :: more => (b || r) :: r :: more

/-- For each end of a text, the longest first, whether it fits the parts. -/
def fittingEnds : List WildcardPart → List Char → List Bool
  | [], cs => cs.map (fun _ => false) ++ [true]
  | .run :: parts, cs => spread (fittingEnds parts cs)
  | part :: parts, cs =>
    List.zipWith (fun c b => fits c part && b) cs ((fittingEnds parts cs).drop 1) ++ [false]

/-- Whether the whole of a text fits the parts. -/
def covers (parts : List WildcardPart) (text : String) : Bool :=
  (fittingEnds parts text.toList).headD false

end Wildcard

end ProbeKit
