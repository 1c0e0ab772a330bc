import ProbeKit.Outside.Shell.Arithmetic
import ProbeKit.Text.Layout

/-!
# Printing by a template

What `echo` and `printf` print.  A backslash and the characters behind it stand for another
character, and in a template of `printf` a percent sign begins a field that the next argument
fills.  A template is used again as long as arguments are left.
-/

namespace ProbeKit.Outside.Shell

namespace Template

/-- The character that a letter behind a backslash stands for. -/
def letters : List (Char × Char) :=
  [('a', '\x07'), ('b', '\x08'), ('f', '\x0c'), ('n', '\n'), ('r', '\r'), ('t', '\t'),
    ('v', '\x0b'), ('\\', '\\')]

/-- Whether a character is an octal digit. -/
def isOctal (c : Char) : Bool := c.isDigit && c != '8' && c != '9'

/-- The character of a number, which is that of its last byte. -/
def ofByte (n : Nat) : Char := Char.ofNat (n % 256)

/-- A text without its escapes, and whether it was cut off by `\c`.  Behind `\0`, as many digits
may follow as behind another octal digit.  The first argument counts the characters that were taken
already. -/
def unescape : Nat → List Char → List Char × Bool
  | _, [] => ([], false)
  | n + 1, _ :: rest => unescape n rest
  | 0, '\\' :: 'c' :: _ => ([], true)
  | 0, '\\' :: c :: rest =>
    let digits := (if c == '0' then rest.take 3 else (c :: rest).take 3).takeWhile isOctal
    let (char, taken) :=
      match letters.lookup c with
      | some d => ([d], 1)
      | none =>
        if c == '0' then ([ofByte (Expr.ofDigits 8 digits)], 1 + digits.length)
        else if isOctal c then ([ofByte (Expr.ofDigits 8 digits)], digits.length)
        else (['\\'], 0)
    let (text, cut) := unescape taken (c :: rest)
    (char ++ text, cut)
  | 0, c :: rest =>
    let (text, cut) := unescape 0 rest
    (c :: text, cut)

/-- What `echo` prints. -/
def echoed (words : List String) : List Char :=
  let (newline, words) :=
    match words with
    | "-n" :: rest => (false, rest)
    | _ => (true, words)
  let (text, cut) := unescape 0 (" ".intercalate words).toList
  if newline && !cut then text ++ ['\n'] else text

/-! ### Fields -/

/-- A field of a template. -/
structure Field where
  /-- How the argument stands. -/
  layout : Text.Layout
  /-- The kind of the field. -/
  kind : Char
  deriving Inhabited

/-- The field behind a percent sign. -/
def takeField? (cs : List Char) : Option (Field × List Char) :=
  match Text.Layout.read cs with
  | (layout, kind :: rest) => some (⟨layout, kind⟩, rest)
  | (_, []) => none

/-- A number in the layout of a field.  Digits that are asked for leave no room for other zeros. -/
def Field.number (f : Field) (front digits : List Char) : List Char :=
  { f.layout with zeros := f.layout.zeros && f.layout.precision.isNone }.number front digits

/-- The number that an argument is, and whether it is one. -/
def numberOf (word : String) : Int × Bool :=
  match word.toList with
  | '\'' :: c :: _ => (c.toNat, true)
  | '"' :: c :: _ => (c.toNat, true)
  | [] | ['\''] | ['"'] => (0, true)
  | _ =>
    match Expr.numberOf? word with
    | some n => (n, true)
    | none => (0, false)

/-- The digits of a number in a base. -/
def digitsOf (base : Nat) (upper : Bool) (n : Nat) : List Char :=
  let digits := Nat.toDigits base n
  if upper then digits.map Char.toUpper else digits

/-- What a field prints for an argument, whether the argument suits it, and whether nothing is to be
printed behind it. -/
def Field.fill (f : Field) (word : String) : List Char × Bool × Bool :=
  let (n, suits) := numberOf word
  let unsigned (base : Nat) (mark : List Char) (upper : Bool) :=
    (f.number (if f.layout.full && n ≠ 0 then mark else []) (digitsOf base upper (Expr.bits n)),
      suits, false)
  match f.kind with
  | 's' => (f.layout.text word.toList, true, false)
  | 'b' =>
    let (text, stop) := unescape 0 word.toList
    (f.layout.text text, true, stop)
  | 'c' => (f.layout.widen (word.toList.take 1), true, false)
  | 'd' | 'i' => (f.number (f.layout.signOf (n < 0)) (digitsOf 10 false n.natAbs), suits, false)
  | 'u' => unsigned 10 [] false
  | 'o' => unsigned 8 ['0'] false
  | 'x' => unsigned 16 ['0', 'x'] false
  | 'X' => unsigned 16 ['0', 'X'] true
  | _ => ([], false, true)

/-- What is printed. -/
structure Printed where
  /-- The text. -/
  text : List Char := []
  /-- The arguments that are left. -/
  rest : List String := []
  /-- The arguments that did not suit their fields. -/
  unsuited : List String := []
  /-- Whether nothing is to be printed any more. -/
  stopped : Bool := false

/-- Fills a template once.  The second argument counts the characters that were taken already. -/
def fillOnce (p : Printed) : Nat → List Char → Printed
  | _, [] => p
  | n + 1, _ :: rest => fillOnce p n rest
  | 0, '%' :: '%' :: rest => fillOnce { p with text := p.text ++ ['%'] } 1 ('%' :: rest)
  | 0, '%' :: rest =>
    match takeField? rest with
    | none => { p with unsuited := p.unsuited ++ ["%"], stopped := true }
    | some (f, after) =>
      let word := p.rest.headD ""
      let (text, suits, stopped) := f.fill word
      let unsuited := if suits then p.unsuited else p.unsuited ++ [word]
      let p : Printed := ⟨p.text ++ text, p.rest.drop 1, unsuited, stopped⟩
      if stopped then p else fillOnce p (rest.length - after.length) rest
  | 0, c :: rest => fillOnce { p with text := p.text ++ [c] } 0 rest

/-- Fills a template as often as there are arguments left that it takes. -/
def fillAll (template : List Char) : Nat → Printed → Printed
  | 0, p => p
  | k + 1, p =>
    let q := fillOnce p 0 template
    if q.stopped || q.rest.isEmpty || q.rest.length = p.rest.length then q
    else fillAll template k q

/-- What `printf` prints. -/
def printed (template : String) (words : List String) : Printed :=
  let (template, cut) := unescape 0 template.toList
  fillAll template (if cut then 1 else words.length + 1) { rest := words }

end Template

end ProbeKit.Outside.Shell
