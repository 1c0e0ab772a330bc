import ProbeKit.Outside.Shell.Arithmetic

/-!
# Conditions

What `test` and `[` decide: whether texts are empty or equal, how numbers compare, what a path
leads to, and what follows from these with `!`, `-a`, `-o` and parentheses.  Words that are no
condition are an error.
-/

namespace ProbeKit.Outside.Shell

namespace Condition

/-- Why words are no condition. -/
inductive Flaw where
  /-- A word stands where a sign should. -/
  | unexpected (word : String)
  /-- A sign has no word behind it. -/
  | lonely (sign : String)
  /-- A word should be a number. -/
  | noNumber (word : String)
  /-- A parenthesis does not end. -/
  | openParenthesis
  deriving DecidableEq

/-- What is wrong, in words. -/
def Flaw.message : Flaw → String
  | .unexpected word => word ++ ": unexpected operator"
  | .lonely sign => sign ++ ": argument expected"
  | .noNumber word => "Illegal number: " ++ word
  | .openParenthesis => "closing paren expected"

/-- The signs in front of one word. -/
def unarySigns : List String :=
  ["-n", "-z", "-e", "-f", "-d", "-s", "-r", "-w", "-x", "-L", "-h", "-b", "-c", "-p", "-S", "-t",
    "-u", "-g", "-k", "-O", "-G"]

/-- The signs between two words. -/
def binarySigns : List String :=
  ["=", "!=", "<", ">", "-eq", "-ne", "-gt", "-ge", "-lt", "-le", "-nt", "-ot", "-ef"]

/-- The number that a word is. -/
def number (word : String) : Except Flaw Int :=
  let cs := word.toList.filter fun c => !(Word.isBlank c || c == '\n')
  let (negative, digits) :=
    match cs with
    | '-' :: rest => (true, rest)
    | '+' :: rest => (false, rest)
    | _ => (false, cs)
  if digits.isEmpty || !digits.all Char.isDigit then .error (.noNumber word)
  else
    let n : Int := Expr.ofDigits 10 digits
    .ok (if negative then -n else n)

/-- Whether a condition of one word holds.  The first argument decides what a path leads to. -/
def unary (leads : Char → String → Bool) (sign word : String) : Bool :=
  match sign with
  | "-n" => word != ""
  | "-z" => word == ""
  | _ => leads ((sign.toList.drop 1).headD 'e') word

/-- Whether a condition of two words holds. -/
def binary (leads : Char → String → Bool) (same : String → String → Bool)
    (left sign right : String) :
    Except Flaw Bool :=
  let compare (holds : Int → Int → Bool) := do return holds (← number left) (← number right)
  match sign with
  | "=" => .ok (left == right)
  | "!=" => .ok (left != right)
  | "<" => .ok (decide (left < right))
  | ">" => .ok (decide (right < left))
  | "-eq" => compare fun m n => m = n
  | "-ne" => compare fun m n => m ≠ n
  | "-gt" => compare fun m n => m > n
  | "-ge" => compare fun m n => m ≥ n
  | "-lt" => compare fun m n => m < n
  | "-le" => compare fun m n => m ≤ n
  | "-ef" => .ok (same left right)
  | "-nt" => .ok (leads 'e' left && !leads 'e' right)
  | _ => .ok (leads 'e' right && !leads 'e' left)

/-- What is read next. -/
inductive Goal where
  /-- Conditions joined by `-o`. -/
  | some
  /-- Conditions joined by `-a`. -/
  | all
  /-- One condition, which may be turned around. -/
  | one

/-- Whether a word with others behind it is taken as a text though it looks like a sign. -/
def isText : List String → Bool
  | _ :: [] => true
  | _ :: sign :: word :: _ => binarySigns.contains sign && word != ")"
  | _ => false

/-- One condition without a sign in front that turns it around. -/
def single (leads : Char → String → Bool) (same : String → String → Bool)
    (go : Goal → List String → Except Flaw (Bool × List String)) (words : List String) :
    Except Flaw (Bool × List String) :=
  match words with
  | [] => .ok (false, [])
  | word :: rest =>
    if word == "(" && !isText words then do
      let (holds, rest) ← go .some rest
      match rest with
      | ")" :: rest => .ok (holds, rest)
      | _ => .error .openParenthesis
    else if unarySigns.contains word && !isText words then
      match rest with
      | operand :: rest => .ok (unary leads word operand, rest)
      | [] => .error (.lonely word)
    else
      match rest with
      | sign :: operand :: more =>
        if binarySigns.contains sign then
          (binary leads same word sign operand).map fun b => (b, more)
        else .ok (word != "", rest)
      | [sign] =>
        if binarySigns.contains sign then .error (.lonely sign) else .ok (word != "", rest)
      | _ => .ok (word != "", rest)

/-- Whether a condition at the front of words holds, and the words behind it.  The first argument
bounds the depth. -/
def decideFrom (leads : Char → String → Bool) (same : String → String → Bool) :
    Nat → Goal → List String → Except Flaw (Bool × List String)
  | 0, _, _ => .error .openParenthesis
  | k + 1, goal, words =>
    let go := decideFrom leads same k
    match goal with
    | .some => do
      let (a, rest) ← go .all words
      match rest with
      | "-o" :: rest => do
        let (b, rest) ← go .some rest
        return (a || b, rest)
      | _ => return (a, rest)
    | .all => do
      let (a, rest) ← go .one words
      match rest with
      | "-a" :: rest => do
        let (b, rest) ← go .all rest
        return (a && b, rest)
      | _ => return (a, rest)
    | .one =>
      match words with
      | "!" :: rest =>
        if isText words then single leads same go words
        else (go .one rest).map fun (a, rest) => (!a, rest)
      | _ => single leads same go words

/-- Whether the condition holds that words make.  Words left over are the fault of the word in front
of them. -/
def holds (leads : Char → String → Bool) (same : String → String → Bool) (words : List String) :
    Except Flaw Bool :=
  let whole : Except Flaw Bool := do
    let (holds, rest) ← decideFrom leads same (3 * words.length + 3) .some words
    if rest.isEmpty then return holds
    else throw (.unexpected (words[words.length - rest.length - 1]?.getD ""))
  match words with
  | [left, sign, right] =>
    if binarySigns.contains sign then binary leads same left sign right else whole
  | _ => whole

end Condition

end ProbeKit.Outside.Shell
