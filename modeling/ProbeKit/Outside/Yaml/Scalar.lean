import ProbeKit.Number.Numeral
import ProbeKit.Outside.Yaml.Problem

/-!
# YAML scalars

`Kind.ofPlain` says what kind of value a plain text looks like, and `Scalar.read` gives the value
that a text has as a kind.  Integers may be binary, octal, hexadecimal or in sixties; numbers with
a point may be in sixties too; points in time are checked against the calendar and not kept.
-/

namespace ProbeKit.Outside.Yaml

open Number Text

/-- The kinds of values that a tag can ask for. -/
inductive Kind where
  /-- Nothing. -/
  | null
  /-- A truth value. -/
  | bool
  /-- An integer. -/
  | int
  /-- A floating-point number. -/
  | float
  /-- A point in time. -/
  | moment
  /-- A text. -/
  | str
  /-- Bytes in base 64. -/
  | binary
  /-- A list. -/
  | items
  /-- A mapping. -/
  | members
  /-- A mapping that is a set. -/
  | set
  /-- A list of single members. -/
  | pairs
  /-- The members of another mapping. -/
  | merge
  /-- The value that a mapping has as a text. -/
  | default
  /-- A kind that has no values. -/
  | unknown
  deriving DecidableEq, Inhabited

/-! ### Shapes of plain texts -/

/-- Whether a character is a digit or an underscore. -/
def isLooseDigit (c : Char) : Bool := c.isDigit || c == '_'

/-- A text without a sign in front. -/
def unsigned (cs : List Char) : List Char := (takeSign cs).2

/-- Whether a list is not empty and its members fit. -/
def someAll (fits : Char → Bool) (cs : List Char) : Bool := !cs.isEmpty && cs.all fits

/-- Whether a text is a number below sixty of one or two digits. -/
def isSixtieth : List Char → Bool
  | [d] => d.isDigit
  | [t, d] => '0' ≤ t && t ≤ '5' && d.isDigit
  | _ => false

/-- Whether a text begins with a digit and goes on with digits and underscores. -/
def startsDigits (first : Char → Bool) : List Char → Bool
  | c :: cs => first c && cs.all isLooseDigit
  | [] => false

/-- Whether a text looks like an integer. -/
def looksInt (cs : List Char) : Bool :=
  let body := unsigned cs
  let nonZero (c : Char) : Bool := c.isDigit && c != '0'
  match body with
  | '0' :: 'b' :: ds => someAll (fun c => c == '0' || c == '1' || c == '_') ds
  | '0' :: 'x' :: ds =>
    someAll (fun c => c.isDigit || ('a' ≤ c && c ≤ 'f') || ('A' ≤ c && c ≤ 'F') || c == '_') ds
  | '0' :: ds => ds.all fun c => ('0' ≤ c && c ≤ '7') || c == '_'
  | _ =>
    match body.splitOn ':' with
    | [whole] => startsDigits nonZero whole
    | whole :: sixtieths => startsDigits nonZero whole && sixtieths.all isSixtieth
    | [] => false

/-- Whether a text is nothing or a signed exponent. -/
def isExponent : List Char → Bool
  | [] => true
  | e :: s :: ds => (e == 'e' || e == 'E') && (s == '+' || s == '-') && someAll Char.isDigit ds
  | _ => false

/-- Whether a text looks like a floating-point number. -/
def looksFloat (cs : List Char) : Bool :=
  let body := unsigned cs
  let word := String.ofList body
  let whole := body.takeWhile (· != '.')
  let fraction := (body.drop (whole.length + 1)).takeWhile isLooseDigit
  let rest := (body.drop (whole.length + 1)).dropWhile isLooseDigit
  if word == ".inf" || word == ".Inf" || word == ".INF" then true
  else if cs == ".nan".toList || cs == ".NaN".toList || cs == ".NAN".toList then true
  else if !body.contains '.' then false
  else
    match whole.splitOn ':' with
    | [[]] => cs.head? == some '.' && startsDigits Char.isDigit fraction && isExponent rest
    | [ds] => startsDigits Char.isDigit ds && isExponent rest
    | ds :: sixtieths => startsDigits Char.isDigit ds && sixtieths.all isSixtieth && rest.isEmpty
    | [] => false

/-! ### Points in time -/

/-- A point in time as it is written: a day, and perhaps a time with a zone. -/
structure Moment where
  /-- The year. -/
  year : Nat
  /-- The month. -/
  month : Nat
  /-- The day of the month. -/
  day : Nat
  /-- The hour, the minute and the second. -/
  time : Option (Nat × Nat × Nat) := none
  /-- The distance of the zone in minutes, if it is not zero by name. -/
  zone : Option Int := none

/-- A number of at least and at most so many digits in front, and what follows. -/
def digits? (least most : Nat) (cs : List Char) : Option (Nat × List Char) :=
  let ds := (cs.take most).takeWhile Char.isDigit
  if ds.length < least then none else some (digitsNat ds, cs.drop ds.length)

/-- What follows one of some characters. -/
def afterOneOf? (among : List Char) : List Char → Option (List Char)
  | c :: cs => if among.contains c then some cs else none
  | [] => none

/-- The zone at the end of a point in time. -/
def zone? (cs : List Char) : Option (Option Int) :=
  let rest := cs.dropWhile fun c => c == ' ' || c == '\t'
  match rest with
  | [] => if cs.isEmpty then some none else none
  | ['Z'] => some none
  | sign :: ds => do
    if sign != '+' && sign != '-' then none
    let (hours, rest) ← digits? 1 2 ds
    let minutes ←
      match rest with
      | [] => some 0
      | ':' :: ms => do
        let (minutes, rest) ← digits? 2 2 ms
        if rest.isEmpty then some minutes else none
      | _ => none
    let distance : Int := 60 * hours + minutes
    some (some (if sign == '-' then -distance else distance))

/-- The point in time that a text is written as; a day alone may ask for two digits each. -/
def moment? (least : Nat) (cs : List Char) : Option Moment := do
  let (year, rest) ← digits? 4 4 cs
  let (month, rest) ← digits? 1 2 (← afterOneOf? ['-'] rest)
  let (day, rest) ← digits? 1 2 (← afterOneOf? ['-'] rest)
  if rest.isEmpty then
    if least == 2 && cs.length != 10 then none else some { year, month, day }
  else
    let afterDay ← afterOneOf? ['T', 't', ' ', '\t'] rest
    let afterDay :=
      if (afterOneOf? ['T', 't'] rest).isSome then afterDay
      else afterDay.dropWhile fun c => c == ' ' || c == '\t'
    let (hour, rest) ← digits? 1 2 afterDay
    let (minute, rest) ← digits? 2 2 (← afterOneOf? [':'] rest)
    let (second, rest) ← digits? 2 2 (← afterOneOf? [':'] rest)
    let rest := match rest with
      | '.' :: more => more.dropWhile Char.isDigit
      | _ => rest
    return { year, month, day, time := some (hour, minute, second), zone := ← zone? rest }

/-- How many days a month has. -/
def daysIn (year month : Nat) : Nat :=
  if month == 2 then
    if year % 4 == 0 && (year % 100 != 0 || year % 400 == 0) then 29 else 28
  else if month == 4 || month == 6 || month == 9 || month == 11 then 30 else 31

/-- What is wrong with a point in time. -/
def Moment.problem? (m : Moment) : Option Problem :=
  if m.zone.any fun z => z ≤ -1440 || 1440 ≤ z then m.zone.map .zone
  else if m.year < 1 then some (.year m.year)
  else if m.month < 1 || 12 < m.month then some .month
  else if m.day < 1 || daysIn m.year m.month < m.day then some .day
  else
    match m.time with
    | none => none
    | some (hour, minute, second) =>
      if 23 < hour then some .hour
      else if 59 < minute then some .minute
      else if 59 < second then some .second
      else none

/-! ### Kinds of plain texts -/

/-- The words for true. -/
def trueWords : List String := ["yes", "Yes", "YES", "true", "True", "TRUE", "on", "On", "ON"]

/-- The words for false. -/
def falseWords : List String := ["no", "No", "NO", "false", "False", "FALSE", "off", "Off", "OFF"]

/-- The words for nothing. -/
def nullWords : List String := ["", "~", "null", "Null", "NULL"]

/-- The kind of value that a plain text looks like. -/
def Kind.ofPlain (text : String) : Kind :=
  let cs := text.toList
  if trueWords.contains text || falseWords.contains text then .bool
  else if nullWords.contains text then .null
  else if looksFloat cs then .float
  else if looksInt cs then .int
  else if (moment? 2 cs).isSome then .moment
  else if text == "<<" then .merge
  else if text == "=" then .default
  else .str

/-! ### Values -/

/-- A value that is neither list nor mapping. -/
inductive Scalar where
  /-- Nothing. -/
  | null
  /-- A truth value. -/
  | bool (b : Bool)
  /-- An integer. -/
  | int (n : Int)
  /-- A floating-point number. -/
  | float (x : Binary64)
  /-- A text. -/
  | str (s : String)
  /-- A point in time. -/
  | moment
  /-- Bytes. -/
  | bytes (bytes : List Nat)
  deriving Inhabited

/-- The digits of a number in a base up to sixteen. -/
def inBase (base : Nat) (cs : List Char) : Except Problem Nat :=
  let value (c : Char) : Option Nat :=
    let d :=
      if c.isDigit then c.toNat - 48
      else if 'a' ≤ c && c ≤ 'f' then c.toNat - 87
      else if 'A' ≤ c && c ≤ 'F' then c.toNat - 55
      else 16
    if d < base then some d else none
  if cs.isEmpty then .error (.integer base "")
  else
    match cs.mapM value with
    | some ds => .ok (ofDigits base ds)
    | none => .error (.integer base (String.ofList cs))

/-- The integer that a text spells. -/
def readInt (text : String) : Except Problem Int := do
  let cs := text.toList.filter (· != '_')
  if cs.isEmpty then throw .emptyNumber
  let (negative, body) := takeSign cs
  let n : Int ←
    match body with
    | [] => throw .emptyNumber
    | ['0'] => pure (0 : Int)
    | '0' :: 'b' :: ds => (inBase 2 ds).map Int.ofNat
    | '0' :: 'x' :: ds => (inBase 16 ds).map Int.ofNat
    | '0' :: _ => (inBase 8 body).map Int.ofNat
    | _ =>
      (body.splitOn ':').foldlM (fun n part =>
        if digitLimit < part.length then .error (.digits (.reading part.length))
        else
        match readInt? (String.ofList part) with
        | some d => .ok (n * 60 + d)
        | none => .error (.integer 10 (String.ofList part))) (0 : Int)
  return if negative then -n else n

/-- The sum of parts in sixties, the last part first; no weight may be beyond the numbers. -/
def sixties (sum : Binary64) (weight : Nat) : List Binary64 → Except Problem Binary64
  | [] => .ok sum
  | part :: rest =>
    match Binary64.ofInt weight with
    | .infinite _ => .error .hugeNumber
    | w => sixties (sum.add (part.mul w)) (weight * 60) rest

/-- The floating-point number that a text spells. -/
def readFloat (text : String) : Except Problem Binary64 := do
  let cs := (text.toList.filter (· != '_')).map Char.toLower
  if cs.isEmpty then throw .emptyNumber
  let (negative, body) := takeSign cs
  let number (part : List Char) : Except Problem Binary64 :=
    match readFloat? (String.ofList part) with
    | some x => .ok x
    | none => .error (.float (String.ofList part))
  let x ←
    if body == ".inf".toList then pure (Binary64.infinite false)
    else if body == ".nan".toList then pure Binary64.nan
    else
      match body.splitOn ':' with
      | [part] => number part
      | parts => do
        let parts ← parts.mapM number
        sixties (Binary64.zero false) 1 parts.reverse
  return if negative then x.neg else x

/-- The value of a character in base 64. -/
def sextet? (c : Char) : Option Nat :=
  if 'A' ≤ c && c ≤ 'Z' then some (c.toNat - 65)
  else if 'a' ≤ c && c ≤ 'z' then some (c.toNat - 71)
  else if c.isDigit then some (c.toNat + 4)
  else if c == '+' then some 62
  else if c == '/' then some 63
  else none

/-- The bytes that characters in base 64 stand for; other characters are passed over, and the
padding has to be complete.  The state is how many sextets of four were read, the bits that are
left, and how many marks of padding came since. -/
def fromBase64 (read left pads : Nat) : List Char → Option (List Nat)
  | [] => if read == 0 then some [] else none
  | c :: cs =>
    if c == '=' then
      if 2 ≤ read then if 4 ≤ read + pads + 1 then some [] else fromBase64 read left (pads + 1) cs
      else fromBase64 read left pads cs
    else
      match sextet? c with
      | none => fromBase64 read left pads cs
      | some v =>
        match read with
        | 0 => fromBase64 1 v 0 cs
        | 1 => (fromBase64 2 (v % 16) 0 cs).map ((left * 4 + v / 16) :: ·)
        | 2 => (fromBase64 3 (v % 4) 0 cs).map ((left * 16 + v / 4) :: ·)
        | _ => (fromBase64 0 0 0 cs).map ((left * 64 + v) :: ·)

/-- The value that a text has as a kind; a text is no value of a kind that has lists or
mappings. -/
def Scalar.read (kind : Kind) (text : String) : Except Problem Scalar :=
  match kind with
  | .null => .ok .null
  | .bool =>
    let word := text.toLower
    if ["yes", "true", "on"].contains word then .ok (.bool true)
    else if ["no", "false", "off"].contains word then .ok (.bool false)
    else .error (.truth word)
  | .int => (readInt text).map .int
  | .float => (readFloat text).map .float
  | .moment =>
    match moment? 1 text.toList with
    | some m =>
      match m.problem? with
      | some p => .error p
      | none => .ok .moment
    | none => .error .moment
  | .str => .ok (.str text)
  | .binary =>
    if text.toList.any fun c => 128 ≤ c.toNat then .error .malformed
    else
      match fromBase64 0 0 0 text.toList with
      | some found => .ok (.bytes found)
      | none => .error .malformed
  | _ => .error .malformed

end ProbeKit.Outside.Yaml
