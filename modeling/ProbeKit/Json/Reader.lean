import ProbeKit.Json.Limit
import ProbeKit.Number.Numeral
import ProbeKit.Text.Letter

/-!
# Reading JSON

The reader is strict about commas, quotes and control characters, and accepts three words beyond
the standard: `NaN`, `Infinity` and `-Infinity`.  Its texts are lists of letters, for an escape can
spell a half of a surrogate pair that stands alone.  It stops at the first thing that is no JSON or
that is too large.  A refusal is a cause together with the place in the text, and says both in words
(`Refusal.message`).  The place is kept as the number of characters that were still to be read.
-/

namespace ProbeKit.Json

open Number Text

/-- Why a text is no JSON. -/
inductive Cause where
  /-- No value begins here. -/
  | value
  /-- No quoted member name begins here. -/
  | memberName
  /-- A member name is not followed by a colon. -/
  | colon
  /-- An item or member is not followed by a comma or the closing bracket. -/
  | comma
  /-- A control character stands in a text. -/
  | control
  /-- A text is not closed. -/
  | unterminated
  /-- A backslash stands before a character that it does not escape. -/
  | escape
  /-- The escape of a code has too few hexadecimal digits. -/
  | code
  /-- Something follows the value. -/
  | extra
  /-- The text begins with a byte order mark. -/
  | byteOrderMark
  deriving DecidableEq, Repr

/-- The wording of a cause. -/
def Cause.text : Cause → String
  | .value => "Expecting value"
  | .memberName => "Expecting property name enclosed in double quotes"
  | .colon => "Expecting ':' delimiter"
  | .comma => "Expecting ',' delimiter"
  | .control => "Invalid control character at"
  | .unterminated => "Unterminated string starting at"
  | .escape => "Invalid \\escape"
  | .code => "Invalid \\uXXXX escape"
  | .extra => "Extra data"
  | .byteOrderMark => "Unexpected UTF-8 BOM (decode using utf-8-sig)"

/-- A cause, and how many characters were left at its place. -/
structure Misread where
  /-- Why the text is refused. -/
  cause : Cause
  /-- The number of characters from the place to the end of the text. -/
  left : Nat
  deriving DecidableEq, Repr

/-- What stops the reader. -/
inductive Stop where
  /-- The text is no JSON. -/
  | refused (m : Misread)
  /-- A value is too large. -/
  | limit (l : Limit)
  deriving DecidableEq

/-- Refuses the text at the beginning of `cs`. -/
def refuse {α : Type} (cause : Cause) (cs : List Char) : Except Stop α :=
  .error (.refused ⟨cause, cs.length⟩)

/-- Goes one level down, if there is room. -/
def descend {α : Type} (limit : Limit) (levels : Nat) (inside : Nat → Except Stop α) :
    Except Stop α :=
  match levels with
  | 0 => .error (.limit limit)
  | levels + 1 => inside levels

/-- Whether a character may stand between tokens. -/
def isSpace (c : Char) : Bool := c == ' ' || c == '\t' || c == '\n' || c == '\r'

/-- The characters after leading space. -/
def skipSpace (cs : List Char) : List Char := cs.dropWhile isSpace

/-! ### Texts -/

/-- The value of a hexadecimal digit. -/
def hexValue? (c : Char) : Option Nat :=
  let n := c.toNat
  if 48 ≤ n && n ≤ 57 then some (n - 48)
  else if 97 ≤ n && n ≤ 102 then some (n - 87)
  else if 65 ≤ n && n ≤ 70 then some (n - 55)
  else none

/-- The value of four hexadecimal digits at the beginning, and the rest. -/
def hexUnit? : List Char → Option (Nat × List Char)
  | a :: b :: c :: d :: rest => do
    let n := ((← hexValue? a) * 16 + (← hexValue? b)) * 16 + (← hexValue? c)
    some (n * 16 + (← hexValue? d), rest)
  | _ => none

/-- The character that a single letter escapes to. -/
def escaped? : Char → Option Char
  | '"' => some '"'
  | '\\' => some '\\'
  | '/' => some '/'
  | 'b' => some (Char.ofNat 8)
  | 'f' => some (Char.ofNat 12)
  | 'n' => some '\n'
  | 'r' => some '\r'
  | 't' => some '\t'
  | _ => none

/-- A letter by its code: a character, or a lone half of a surrogate pair. -/
def unitLetter (n : Nat) : Letter :=
  if 0xD800 ≤ n && n ≤ 0xDFFF then .half n else .char (Char.ofNat n)

/-- The letter of an escaped code, given the digits after the letter `u`: a closing quote must be
able to follow, and two escaped halves of a surrogate pair are one character. -/
def readCode (digits : List Char) : Except Stop (Letter × List Char) :=
  let atLetter := 'u' :: digits
  if digits.length ≤ 4 then refuse .code atLetter
  else
    match hexUnit? digits with
    | none => refuse .code atLetter
    | some (high, rest) =>
      if 0xD800 ≤ high && high ≤ 0xDBFF && 6 < rest.length then
        match rest with
        | '\\' :: 'u' :: more =>
          match hexUnit? more with
          | none => refuse .code ('u' :: more)
          | some (low, rest') =>
            if 0xDC00 ≤ low && low ≤ 0xDFFF then
              .ok (.char (Char.ofNat (0x10000 + (high - 0xD800) * 0x400 + (low - 0xDC00))), rest')
            else .ok (unitLetter high, rest)
        | _ => .ok (unitLetter high, rest)
      else .ok (unitLetter high, rest)

/-- The letters up to the closing quote.  `opening` is how many characters were left at the opening
quote; `fuel` bounds the characters of the text. -/
def readChars (opening : Nat) : Nat → List Char → Except Stop (List Letter × List Char)
  | 0, _ => .error (.refused ⟨.unterminated, opening⟩)
  | _ + 1, [] => .error (.refused ⟨.unterminated, opening⟩)
  | _ + 1, '"' :: rest => .ok ([], rest)
  | _ + 1, ['\\'] => .error (.refused ⟨.unterminated, opening⟩)
  | fuel + 1, '\\' :: 'u' :: digits => do
    let (l, rest) ← readCode digits
    let (ls, rest) ← readChars opening fuel rest
    .ok (l :: ls, rest)
  | fuel + 1, '\\' :: letter :: rest =>
    match escaped? letter with
    | none => refuse .escape ('\\' :: letter :: rest)
    | some c => do
      let (ls, rest) ← readChars opening fuel rest
      .ok (.char c :: ls, rest)
  | fuel + 1, c :: rest =>
    if c.toNat ≤ 0x1F then refuse .control (c :: rest)
    else do
      let (ls, rest) ← readChars opening fuel rest
      .ok (.char c :: ls, rest)

theorem readChars_quote {opening fuel : Nat} {rest : List Char} :
    readChars opening (fuel + 1) ('"' :: rest) = .ok ([], rest) := by
  rw [readChars]

/-- A text, from the character after its opening quote. -/
def readText (cs : List Char) : Except Stop (List Letter × List Char) :=
  readChars (cs.length + 1) (cs.length + 1) cs

/-! ### Numbers -/

/-- The digits of the integer part: no digit may follow a zero at the front. -/
def wholeDigits : List Char → List Char × List Char
  | '0' :: rest => (['0'], rest)
  | cs => (cs.takeWhile Char.isDigit, cs.dropWhile Char.isDigit)

/-- The digits after a point, if at least one follows it. -/
def fractionDigits : List Char → Option (List Char × List Char)
  | '.' :: d :: rest =>
    if d.isDigit then some (d :: rest.takeWhile Char.isDigit, rest.dropWhile Char.isDigit) else none
  | _ => none

/-- The exponent, if the letter, a sign perhaps, and at least one digit are there. -/
def exponentPart : List Char → Option (Int × List Char)
  | c :: rest =>
    if c == 'e' || c == 'E' then
      let (down, rest) := takeSign rest
      let digits := rest.takeWhile Char.isDigit
      let k : Int := digitsNat digits
      if digits.isEmpty then none else some (if down then -k else k, rest.dropWhile Char.isDigit)
    else none
  | [] => none

/-- A value just read: its texts are lists of letters. -/
abbrev Raw : Type := Json (List Letter)

/-- A number without its sign; `start` is the place of the number.  Only an integer is too long with
too many digits. -/
def readUnsigned (start : List Char) (negative : Bool) (cs : List Char) :
    Except Stop (Raw × List Char) :=
  let (whole, rest) := wholeDigits cs
  if whole.isEmpty then refuse .value start
  else
    match fractionDigits rest, exponentPart ((fractionDigits rest).elim rest (·.2)) with
    | none, none =>
      let n : Int := digitsNat whole
      if digitLimit < whole.length then .error (.limit (.digits (.reading whole.length)))
      else .ok (.int (if negative then -n else n), rest)
    | some (fraction, rest), none =>
      .ok (.float (Binary64.ofDecimal negative (digitsNat (whole ++ fraction))
        (-(fraction.length : Int))), rest)
    | none, some (k, rest) => .ok (.float (Binary64.ofDecimal negative (digitsNat whole) k), rest)
    | some (fraction, _), some (k, rest) =>
      .ok (.float (Binary64.ofDecimal negative (digitsNat (whole ++ fraction))
        (k - fraction.length)), rest)

/-- A number. -/
def readNumber : List Char → Except Stop (Raw × List Char)
  | '-' :: rest => readUnsigned ('-' :: rest) true rest
  | cs => readUnsigned cs false cs

/-! ### Values -/

mutual

/-- A value at the beginning of the characters, with so many levels of arrays and objects; `fuel`
bounds the values still to be read. -/
def readValue (levels : Nat) : Nat → List Char → Except Stop (Raw × List Char)
  | 0, cs => refuse .value cs
  | fuel + 1, cs =>
    match cs with
    | '"' :: rest => do
      let (s, rest) ← readText rest
      .ok (.str s, rest)
    | '{' :: rest =>
      descend .deepObject levels fun levels =>
        match skipSpace rest with
        | '}' :: rest => .ok (.obj [], rest)
        | rest => do
          let (members, rest) ← readMembers levels fuel rest
          .ok (.obj (ofMembers members), rest)
    | '[' :: rest =>
      descend .deepArray levels fun levels =>
        match skipSpace rest with
        | ']' :: rest => .ok (.arr [], rest)
        | rest => do
          let (items, rest) ← readItems levels fuel rest
          .ok (.arr items, rest)
    | 'n' :: 'u' :: 'l' :: 'l' :: rest => .ok (.null, rest)
    | 't' :: 'r' :: 'u' :: 'e' :: rest => .ok (.bool true, rest)
    | 'f' :: 'a' :: 'l' :: 's' :: 'e' :: rest => .ok (.bool false, rest)
    | 'N' :: 'a' :: 'N' :: rest => .ok (.float .nan, rest)
    | 'I' :: 'n' :: 'f' :: 'i' :: 'n' :: 'i' :: 't' :: 'y' :: rest =>
      .ok (.float (.infinite false), rest)
    | '-' :: 'I' :: 'n' :: 'f' :: 'i' :: 'n' :: 'i' :: 't' :: 'y' :: rest =>
      .ok (.float (.infinite true), rest)
    | _ => readNumber cs

/-- The items up to the closing bracket. -/
def readItems (levels : Nat) : Nat → List Char → Except Stop (List Raw × List Char)
  | 0, cs => refuse .value cs
  | fuel + 1, cs => do
    let (item, rest) ← readValue levels fuel cs
    match skipSpace rest with
    | ']' :: rest => .ok ([item], rest)
    | ',' :: rest => do
      let (items, rest) ← readItems levels fuel (skipSpace rest)
      .ok (item :: items, rest)
    | rest => refuse .comma rest

/-- The members up to the closing bracket. -/
def readMembers (levels : Nat) :
    Nat → List Char → Except Stop (List (List Letter × Raw) × List Char)
  | 0, cs => refuse .memberName cs
  | fuel + 1, cs =>
    match cs with
    | '"' :: rest => do
      let (name, rest) ← readText rest
      match skipSpace rest with
      | ':' :: rest => do
        let (value, rest) ← readValue levels fuel (skipSpace rest)
        match skipSpace rest with
        | '}' :: rest => .ok ([(name, value)], rest)
        | ',' :: rest => do
          let (members, rest) ← readMembers levels fuel (skipSpace rest)
          .ok ((name, value) :: members, rest)
        | rest => refuse .comma rest
      | rest => refuse .colon rest
    | _ => refuse .memberName cs

end

theorem readValue_zero (levels : Nat) (cs : List Char) :
    readValue levels 0 cs = refuse .value cs := by
  rw [readValue]

/-- The one value of a text, with space around it. -/
def readChars? (levels : Nat) (cs : List Char) : Except Stop Raw :=
  if cs.head? == some (Char.ofNat 0xFEFF) then refuse .byteOrderMark cs
  else do
    let (value, rest) ← readValue levels (2 * cs.length + 2) (skipSpace cs)
    match skipSpace rest with
    | [] => .ok value
    | rest => refuse .extra rest

/-! ### Refusals in words -/

/-- A refused text: the cause, and the characters before its place. -/
structure Refusal where
  /-- Why the text is refused. -/
  cause : Cause
  /-- The characters before the place, in order. -/
  before : List Char

/-- The cause and the line, column and offset of its place. -/
def Refusal.message (r : Refusal) : String :=
  let lines := r.before.count '\n'
  let column := (r.before.reverse.takeWhile (· != '\n')).length
  s!"{r.cause.text}: line {lines + 1} column {column + 1} (char {r.before.length})"

/-- Why a text gives no value. -/
inductive Unreadable where
  /-- It is no JSON. -/
  | refused (r : Refusal)
  /-- Something in it is too large. -/
  | limit (l : Limit)

/-- The value of a text, or why there is none. -/
def read (room : Room) (s : String) : Except Unreadable Raw :=
  match readChars? room.reading s.toList with
  | .ok value => .ok value
  | .error (.refused m) => .error (.refused ⟨m.cause, s.toList.take (s.toList.length - m.left)⟩)
  | .error (.limit l) => .error (.limit l)

/-- The value of texts that are whole, if they are. -/
def Raw.whole? (j : Raw) : Option Json := if j.allTexts isWhole then some (j.map shown) else none

/-- The value of a text, if there is one and all its texts are whole. -/
def read? (room : Room) (s : String) : Option Json := (read room s).toOption.bind Raw.whole?

end ProbeKit.Json
