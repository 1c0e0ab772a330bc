import ProbeKit.Text.Digit
import ProbeKit.Outside.Yaml.Problem

/-!
# Places in a YAML text

A cursor is a place in a text: what follows, and how many characters and lines came before.  Lines
may end in five ways, and texts keep only three of them (`Cursor.lineBreak`).  `toToken` passes the
blanks, comments and line ends between tokens.
-/

namespace ProbeKit.Outside.Yaml

open Text

/-! ### Characters -/

/-- Whether a character ends a line. -/
def isBreak (c : Char) : Bool :=
  c == '\n' || c == '\r' || c == '\x85' || c == '\u2028' || c == '\u2029'

/-- Whether a character is a blank, a tab or the end of a line. -/
def isGap (c : Char) : Bool := c == ' ' || c == '\t' || isBreak c

/-- Whether the next character is a blank, a tab or the end of a line or of the text. -/
def gapAhead : List Char → Bool
  | [] => true
  | c :: _ => isGap c

/-- Whether the next character is a blank or the end of a line or of the text. -/
def clearAhead : List Char → Bool
  | [] => true
  | c :: _ => c == ' ' || isBreak c

/-- Whether the line ends here. -/
def lineEndAhead : List Char → Bool
  | [] => true
  | c :: _ => isBreak c

/-- Whether the next character is among some. -/
def ahead (among : String) : List Char → Bool
  | [] => false
  | c :: _ => among.toList.contains c

/-- Whether a line of three dashes or dots begins here. -/
def separatorAhead (cs : List Char) : Bool :=
  (cs.take 3 == ['-', '-', '-'] || cs.take 3 == ['.', '.', '.']) && gapAhead (cs.drop 3)

/-- Whether a character may stand in a name. -/
def isNameChar (c : Char) : Bool := c.isAlphanum || c == '-' || c == '_'

/-- Whether a character may stand in a document at all. -/
def isAllowed (c : Char) : Bool :=
  let n := c.toNat
  n == 9 || n == 10 || n == 13 || (0x20 ≤ n && n ≤ 0x7E) || n == 0x85 ||
    (0xA0 ≤ n && n ≤ 0xD7FF) || (0xE000 ≤ n && n ≤ 0xFFFD) || 0x10000 ≤ n

/-- The value of a hexadecimal digit. -/
def hexDigit? (c : Char) : Option Nat :=
  if c.isDigit then some (c.toNat - 48)
  else if 'a' ≤ c && c ≤ 'f' then some (c.toNat - 87)
  else if 'A' ≤ c && c ≤ 'F' then some (c.toNat - 55)
  else none

/-- The number that some hexadecimal digits spell. -/
def hexNat? (ds : List Char) : Option Nat := (ds.mapM hexDigit?).map (ofDigits 16)

/-! ### A place in a text -/

/-- A place in a text. -/
structure Cursor where
  /-- What follows. -/
  rest : List Char
  /-- How many characters came before. -/
  index : Nat := 0
  /-- How many lines came before. -/
  line : Nat := 0
  /-- How many characters came before on the line. -/
  column : Nat := 0

namespace Cursor

/-- The place behind the next character. -/
def next (c : Cursor) : Cursor :=
  match c.rest with
  | [] => c
  | ch :: rest =>
    if isBreak ch && !(ch == '\r' && rest.head? == some '\n') then
      ⟨rest, c.index + 1, c.line + 1, 0⟩
    else if ch == '\uFEFF' then ⟨rest, c.index + 1, c.line, c.column⟩
    else ⟨rest, c.index + 1, c.line, c.column + 1⟩

/-- The place behind some more characters. -/
def forward (c : Cursor) : Nat → Cursor
  | 0 => c
  | n + 1 => c.next.forward n

/-- The characters in front that fit, and the place behind them. -/
def take (c : Cursor) (fits : Char → Bool) : List Char × Cursor :=
  let run := c.rest.takeWhile fits
  (run, c.forward run.length)

/-- The place behind the characters in front that fit. -/
def skip (c : Cursor) (fits : Char → Bool) : Cursor := (c.take fits).2

/-- The end of a line in front as it is kept in texts, and the place behind it. -/
def lineBreak (c : Cursor) : List Char × Cursor :=
  match c.rest with
  | '\r' :: '\n' :: _ => (['\n'], c.forward 2)
  | ch :: _ =>
    if ch == '\u2028' || ch == '\u2029' then ([ch], c.next)
    else if isBreak ch then (['\n'], c.next)
    else ([], c)
  | [] => ([], c)

/-- The place behind the blanks in front, as long as the column is below a bound. -/
def indentTo (bound : Nat) : Nat → Cursor → Cursor
  | 0, c => c
  | fuel + 1, c =>
    if c.column < bound && c.rest.head? == some ' ' then indentTo bound fuel c.next else c

end Cursor

/-! ### Blank space between tokens -/

/-- The place of the next token.  The flag says whether a line ended on the way; the second
argument bounds the number of lines. -/
def toToken (c : Cursor) (crossed : Bool) : Nat → Cursor × Bool
  | 0 => (c, crossed)
  | fuel + 1 =>
    let c := c.skip (· == ' ')
    let c := if c.rest.head? == some '#' then c.skip (!isBreak ·) else c
    match c.lineBreak with
    | ([], c) => (c, crossed)
    | (_, c) => toToken c true fuel

/-- The place behind a line that may only hold a comment from here on. -/
def commentLine (c : Cursor) : Except Problem Cursor :=
  let c := c.skip (· == ' ')
  let c := if c.rest.head? == some '#' then c.skip (!isBreak ·) else c
  if lineEndAhead c.rest then .ok c.lineBreak.2 else .error .malformed

end ProbeKit.Outside.Yaml
