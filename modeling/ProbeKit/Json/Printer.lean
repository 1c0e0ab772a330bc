import ProbeKit.Json.Limit
import ProbeKit.Number.Shortest
import ProbeKit.Text.Quoted

/-!
# Writing JSON

`layout` puts every item and member on a line of its own, two blanks deeper than the brackets;
`inlined` writes a value on one line.  A `Charset` says which characters of texts are written by
their code: the controls only, or everything outside ASCII as well.  Every value has a document;
`write` gives it unless the value is too large to be written.
-/

namespace ProbeKit.Json

open Number Text

/-- Which characters stand for themselves inside a text. -/
inductive Charset where
  /-- All but the quote, the backslash and the controls. -/
  | unicode
  /-- Of these, the printable ASCII characters only. -/
  | ascii
  deriving DecidableEq

/-- The escape of a 16-bit unit. -/
def unitEscape (n : Nat) : List Char := '\\' :: 'u' :: hexDigits 4 n

/-- A character inside a text. -/
def textChar (charset : Charset) (c : Char) : List Char :=
  let n := c.toNat
  if c == '"' then ['\\', '"']
  else if c == '\\' then ['\\', '\\']
  else if c == '\n' then ['\\', 'n']
  else if c == '\r' then ['\\', 'r']
  else if c == '\t' then ['\\', 't']
  else if n == 8 then ['\\', 'b']
  else if n == 12 then ['\\', 'f']
  else if n < 32 then unitEscape n
  else
    match charset with
    | .unicode => [c]
    | .ascii =>
      if n < 127 then [c]
      else if n < 0x10000 then unitEscape n
      else
        unitEscape (0xD800 + (n - 0x10000) / 0x400) ++ unitEscape (0xDC00 + (n - 0x10000) % 0x400)

/-- A text in quotes. -/
def textChars (charset : Charset) (s : String) : List Char :=
  '"' :: (s.toList.flatMap (textChar charset) ++ ['"'])

/-- The digits of an integer, with a sign if it is negative. -/
def intChars (n : Int) : List Char :=
  if n < 0 then '-' :: Nat.toDigits 10 n.natAbs else Nat.toDigits 10 n.natAbs

/-- A floating-point number; the values that are no decimals are written as words. -/
def floatChars : Binary64 → List Char
  | .nan => "NaN".toList
  | .infinite negative => if negative then "-Infinity".toList else "Infinity".toList
  | .finite s m e h => (Binary64.finite s m e h).toChars

/-- A value that is neither array nor object. -/
def scalarChars (charset : Charset) : Json → List Char
  | .null => "null".toList
  | .bool b => if b then "true".toList else "false".toList
  | .int n => intChars n
  | .float x => floatChars x
  | .str s => textChars charset s
  | .arr _ | .obj _ => []

/-- A line end and the indentation of the given depth. -/
def newline (depth : Nat) : List Char := '\n' :: List.replicate (2 * depth) ' '

mutual

/-- A value, spread over lines. -/
def layout (charset : Charset) (depth : Nat) : Json → List Char
  | .arr [] => ['[', ']']
  | .arr (item :: items) =>
    '[' :: (newline (depth + 1) ++ (layout charset (depth + 1) item ++
      (layoutItems charset (depth + 1) items ++ (newline depth ++ [']']))))
  | .obj [] => ['{', '}']
  | .obj ((name, value) :: members) =>
    '{' :: (newline (depth + 1) ++ (textChars charset name ++ (':' :: ' ' ::
      (layout charset (depth + 1) value ++
        (layoutMembers charset (depth + 1) members ++ (newline depth ++ ['}']))))))
  | .null => scalarChars charset .null
  | .bool b => scalarChars charset (.bool b)
  | .int n => scalarChars charset (.int n)
  | .float x => scalarChars charset (.float x)
  | .str s => scalarChars charset (.str s)

/-- The items after the first, each behind a comma. -/
def layoutItems (charset : Charset) (depth : Nat) : List Json → List Char
  | [] => []
  | item :: items =>
    ',' :: (newline depth ++ (layout charset depth item ++ layoutItems charset depth items))

/-- The members after the first, each behind a comma. -/
def layoutMembers (charset : Charset) (depth : Nat) : List (String × Json) → List Char
  | [] => []
  | (name, value) :: members =>
    ',' :: (newline depth ++ (textChars charset name ++ (':' :: ' ' ::
      (layout charset depth value ++ layoutMembers charset depth members))))

end

mutual

/-- A value on one line, with a blank after each comma and colon. -/
def inlined (charset : Charset) : Json → List Char
  | .arr [] => ['[', ']']
  | .arr (item :: items) => '[' :: (inlined charset item ++ (inlinedItems charset items ++ [']']))
  | .obj [] => ['{', '}']
  | .obj ((name, value) :: members) =>
    '{' :: (textChars charset name ++ (':' :: ' ' ::
      (inlined charset value ++ (inlinedMembers charset members ++ ['}']))))
  | .null => scalarChars charset .null
  | .bool b => scalarChars charset (.bool b)
  | .int n => scalarChars charset (.int n)
  | .float x => scalarChars charset (.float x)
  | .str s => scalarChars charset (.str s)

/-- The items after the first, each behind a comma. -/
def inlinedItems (charset : Charset) : List Json → List Char
  | [] => []
  | item :: items => ',' :: ' ' :: (inlined charset item ++ inlinedItems charset items)

/-- The members after the first, each behind a comma. -/
def inlinedMembers (charset : Charset) : List (String × Json) → List Char
  | [] => []
  | (name, value) :: members =>
    ',' :: ' ' :: (textChars charset name ++ (':' :: ' ' ::
      (inlined charset value ++ inlinedMembers charset members)))

end

/-- A document: the value spread over lines, and a line end after it. -/
def document (charset : Charset) (j : Json) : String :=
  String.ofList (layout charset 0 j ++ ['\n'])

/-- The document of a value that is not too large to be written. -/
def write (room : Room) (charset : Charset) (j : Json) : Except Limit String :=
  match j.limit? room.writing with
  | none => .ok (document charset j)
  | some limit => .error limit

/-- A value on one line. -/
def line (charset : Charset) (j : Json) : String := String.ofList (inlined charset j)

end ProbeKit.Json
