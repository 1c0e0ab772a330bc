import ProbeKit.Outside.Shell.Word

/-!
# Arithmetic

The expressions between `$((` and `))`: whole numbers of sixty-four bits that wrap around, with
variables, assignments, comparisons and conditions.  `Expr.read` reads an expression and
`Expr.eval` gives its value and the variables that it sets.  A variable that is not set, or is
empty, counts as zero.
-/

namespace ProbeKit.Outside.Shell

/-- An operation on two numbers. -/
inductive Operation where
  | or | and | bitOr | bitXor | bitAnd | equal | unequal | less | atMost | greater | atLeast
  | shiftLeft | shiftRight | add | subtract | multiply | divide | remainder
  deriving DecidableEq, Inhabited

namespace Operation

/-- How an operation is written. -/
def text : Operation → String
  | .or => "||"
  | .and => "&&"
  | .bitOr => "|"
  | .bitXor => "^"
  | .bitAnd => "&"
  | .equal => "=="
  | .unequal => "!="
  | .less => "<"
  | .atMost => "<="
  | .greater => ">"
  | .atLeast => ">="
  | .shiftLeft => "<<"
  | .shiftRight => ">>"
  | .add => "+"
  | .subtract => "-"
  | .multiply => "*"
  | .divide => "/"
  | .remainder => "%"

/-- How tightly an operation binds. -/
def strength : Operation → Nat
  | .or => 1
  | .and => 2
  | .bitOr => 3
  | .bitXor => 4
  | .bitAnd => 5
  | .equal | .unequal => 6
  | .less | .atMost | .greater | .atLeast => 7
  | .shiftLeft | .shiftRight => 8
  | .add | .subtract => 9
  | .multiply | .divide | .remainder => 10

/-- All operations. -/
def all : List Operation :=
  [.or, .and, .bitOr, .bitXor, .bitAnd, .equal, .unequal, .less, .atMost, .greater, .atLeast,
    .shiftLeft, .shiftRight, .add, .subtract, .multiply, .divide, .remainder]

/-- Whether the operation can be joined with an assignment. -/
def assigns (o : Operation) : Bool :=
  [bitOr, bitXor, bitAnd, shiftLeft, shiftRight, add, subtract, multiply, divide,
    remainder].contains o

end Operation

/-- An expression. -/
inductive Expr where
  /-- A number. -/
  | number (n : Int)
  /-- The value of a variable. -/
  | variable (name : String)
  /-- A sign in front of an expression: `-`, `+`, `!` or `~`. -/
  | signed (sign : Char) (e : Expr)
  /-- An operation. -/
  | operation (o : Operation) (a b : Expr)
  /-- The second expression if the first is not zero, and else the third. -/
  | cond (test yes no : Expr)
  /-- A variable gets a value, or what an operation makes of its value. -/
  | assign (name : String) (o : Option Operation) (e : Expr)
  deriving Inhabited

namespace Expr

/-! ### Reading -/

/-- The longest sign at the front of a text. -/
def takeSign? (signs : List String) (cs : List Char) : Option (String × List Char) :=
  (signs.filter fun sign => sign.toList.isPrefixOf cs).foldl (fun best sign =>
    match best with
    | some (b, _) =>
      if b.length < sign.length then some (sign, cs.drop sign.length) else best
    | none => some (sign, cs.drop sign.length)) none

/-- The signs that stand between or behind expressions. -/
def signs : List String :=
  Operation.all.map Operation.text ++
    (Operation.all.filter Operation.assigns).map (fun o => o.text ++ "=") ++
    ["=", "!", "~", "?", ":", "(", ")"]

/-- The characters behind blanks. -/
def skip (cs : List Char) : List Char := cs.dropWhile fun c => Word.isBlank c || c == '\n'

/-- The value of a digit. -/
def digit (c : Char) : Nat :=
  if c.isDigit then c.toNat - 48 else if c.isUpper then c.toNat - 55 else c.toNat - 87

/-- The number that digits make in a base. -/
def ofDigits (base : Nat) (cs : List Char) : Nat := cs.foldl (fun n c => n * base + digit c) 0

/-- The number at the front of a text, in octal behind a zero and in hexadecimal behind `0x`. -/
def takeNumber? (cs : List Char) : Option (Nat × List Char) :=
  match cs.span (fun c => c.isAlphanum || c == '_') with
  | ([], _) => none
  | (c :: word, rest) =>
    let hex (d : Char) := d.isDigit || ('a'.toNat ≤ d.toNat && d.toNat ≤ 'f'.toNat) ||
      ('A'.toNat ≤ d.toNat && d.toNat ≤ 'F'.toNat)
    match c, word with
    | '0', 'x' :: digits | '0', 'X' :: digits =>
      if !digits.isEmpty && digits.all hex then some (ofDigits 16 digits, rest) else none
    | '0', digits =>
      if digits.all fun d => d.isDigit && d != '8' && d != '9' then some (ofDigits 8 digits, rest)
      else none
    | _, digits =>
      if c.isDigit && digits.all Char.isDigit then some (ofDigits 10 (c :: digits), rest)
      else none

/-- What is read next. -/
inductive Goal where
  /-- A whole expression. -/
  | whole
  /-- Operations that bind at least so tightly. -/
  | operations (strength : Nat)
  /-- An expression without operations outside parentheses. -/
  | single

/-- What a reader of expressions gives. -/
abbrev Found : Type := Option (Expr × List Char)

/-- The operation of an assignment behind a variable. -/
def assignment? (cs : List Char) : Option (Option Operation × List Char) :=
  match takeSign? signs (skip cs) with
  | some ("=", rest) => some (none, rest)
  | some (sign, rest) =>
    (Operation.all.find? fun o => o.assigns && sign == o.text ++ "=").map fun o => (some o, rest)
  | none => none

/-- Reads on behind a first expression as long as operations bind tightly enough. -/
def joinFrom (go : Goal → List Char → Found) (strength : Nat) : Nat → Expr → List Char → Found
  | 0, _, _ => none
  | k + 1, e, cs =>
    match takeSign? signs (skip cs) with
    | some (sign, rest) =>
      match Operation.all.find? fun o => sign == o.text && strength ≤ o.strength with
      | some o =>
        (go (.operations (o.strength + 1)) rest).bind fun (f, rest) =>
          joinFrom go strength k (.operation o e f) rest
      | none => some (e, cs)
    | none => some (e, cs)

/-- Reads an expression without operations outside parentheses. -/
def single (go : Goal → List Char → Found) (cs : List Char) : Found :=
  match skip cs with
  | '(' :: rest =>
    (go .whole rest).bind fun (e, rest) =>
      match skip rest with
      | ')' :: rest => some (e, rest)
      | _ => none
  | c :: rest =>
    if c == '-' || c == '+' || c == '!' || c == '~' then
      (go .single rest).map fun (e, rest) => (.signed c e, rest)
    else if Word.beginsName c then
      let (name, rest) := (c :: rest).span Word.inName
      some (.variable (String.ofList name), rest)
    else (takeNumber? (c :: rest)).map fun (n, rest) => (.number n, rest)
  | [] => none

/-- Reads what is wanted.  The first argument bounds the depth. -/
def readGoal : Nat → Goal → List Char → Found
  | 0, _, _ => none
  | k + 1, goal, cs =>
    let go := readGoal k
    match goal with
    | .single => single go cs
    | .operations strength =>
      (go .single cs).bind fun (e, rest) => joinFrom go strength (rest.length + 1) e rest
    | .whole =>
      let (name, rest) := (skip cs).span Word.inName
      match if Word.isName name then assignment? rest else none with
      | some (o, rest) =>
        (go .whole rest).map fun (e, rest) => (.assign (String.ofList name) o e, rest)
      | none =>
        (go (.operations 1) cs).bind fun (test, rest) =>
          match skip rest with
          | '?' :: rest =>
            (go .whole rest).bind fun (yes, rest) =>
              match skip rest with
              | ':' :: rest => (go .whole rest).map fun (no, rest) => (.cond test yes no, rest)
              | _ => none
          | _ => some (test, rest)

/-- The expression that a text is; an empty one is zero. -/
def read (cs : List Char) : Option Expr :=
  if (skip cs).isEmpty then some (.number 0)
  else
    match readGoal (4 * cs.length + 4) .whole cs with
    | some (e, rest) => if (skip rest).isEmpty then some e else none
    | none => none

/-! ### Values -/

/-- A number wrapped around to sixty-four bits. -/
def wrap (n : Int) : Int := Int.bmod n 18446744073709551616

/-- The bits of a number as a natural number. -/
def bits (n : Int) : Nat := (n % 18446744073709551616).toNat

/-- One for what is true and zero for what is not. -/
def truth (b : Bool) : Int := if b then 1 else 0

/-- The value of an operation; there is none for a division by zero. -/
def outcome? (o : Operation) (m n : Int) : Option Int :=
  match o with
  | .or => some (truth (m ≠ 0 || n ≠ 0))
  | .and => some (truth (m ≠ 0 && n ≠ 0))
  | .bitOr => some (wrap (bits m ||| bits n : Nat))
  | .bitXor => some (wrap (bits m ^^^ bits n : Nat))
  | .bitAnd => some (wrap (bits m &&& bits n : Nat))
  | .equal => some (truth (m = n))
  | .unequal => some (truth (m ≠ n))
  | .less => some (truth (m < n))
  | .atMost => some (truth (m ≤ n))
  | .greater => some (truth (m > n))
  | .atLeast => some (truth (m ≥ n))
  | .shiftLeft => some (wrap (m * (Nat.pow 2 (bits n % 64) : Nat)))
  | .shiftRight => some (Int.fdiv m (Nat.pow 2 (bits n % 64) : Nat))
  | .add => some (wrap (m + n))
  | .subtract => some (wrap (m - n))
  | .multiply => some (wrap (m * n))
  | .divide => if n = 0 then none else some (wrap (Int.tdiv m n))
  | .remainder => if n = 0 then none else some (wrap (Int.tmod m n))

/-- Variables that were set, the newest first. -/
abbrev Changes : Type := List (String × Int)

/-- The number that the value of a variable is. -/
def numberOf? (value : String) : Option Int :=
  let cs := (skip value.toList)
  let (negative, digits) :=
    match cs with
    | '-' :: rest => (true, rest)
    | '+' :: rest => (false, rest)
    | _ => (false, cs)
  if cs.isEmpty then some 0
  else
    match takeNumber? digits with
    | some (n, rest) =>
      if (skip rest).isEmpty then some (wrap (if negative then -(n : Int) else n)) else none
    | none => none

/-- The value of a variable. -/
def valueOf? (values : String → Option String) (changes : Changes) (name : String) : Option Int :=
  match changes.lookup name with
  | some n => some n
  | none => numberOf? ((values name).getD "")

/-- The value of an expression and the variables that are set by then.  There is none if a divisor
is zero or the value of a variable is no number. -/
def eval? (values : String → Option String) : Expr → Changes → Option (Int × Changes)
  | .number n, changes => some (wrap n, changes)
  | .variable name, changes => (valueOf? values changes name).map fun n => (n, changes)
  | .signed sign e, changes =>
    (eval? values e changes).map fun (n, changes) =>
      (if sign = '-' then wrap (-n)
        else if sign = '!' then truth (n = 0)
        else if sign = '~' then wrap (-n - 1)
        else n, changes)
  | .operation o a b, changes =>
    (eval? values a changes).bind fun (m, changes) =>
      if o = .or ∧ m ≠ 0 then some (1, changes)
      else if o = .and ∧ m = 0 then some (0, changes)
      else
        (eval? values b changes).bind fun (n, changes) =>
          (outcome? o m n).map fun value => (value, changes)
  | .cond test yes no, changes =>
    (eval? values test changes).bind fun (n, changes) =>
      if n ≠ 0 then eval? values yes changes else eval? values no changes
  | .assign name o e, changes =>
    (eval? values e changes).bind fun (n, changes) =>
      let value :=
        match o with
        | none => some n
        | some o => (valueOf? values changes name).bind fun m => outcome? o m n
      value.map fun value => (value, (name, value) :: changes)

end Expr

end ProbeKit.Outside.Shell
