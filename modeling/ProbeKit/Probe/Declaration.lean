import ProbeKit.Probe.Basic
import ProbeKit.Text.Blank

/-!
# Declarations in source text

Two shapes of a call declare probes.  A *plain call* `.addProbe('name', 'int')` names its probe in
full.  A *counted call* `.addProbe('name' + i, 'int')` stands for a row of probes, one for each
number that the variable takes in the closest *counting loop* `for (var i = 0; i < 3; i++)` whose
header begins before the call.  Every recogniser takes the characters from some place on and
gives what it recognised with the characters behind it; `occurrences` applies one along a whole
text, from left to right and without overlaps, and `declaredProbes` is the result in source order,
unless a counting loop has a numeral that is too long to be read.
-/

namespace ProbeKit

open Text

namespace Declaration

/-! ### Pieces of text -/

/-- The characters after a fixed beginning. -/
def after? (start cs : List Char) : Option (List Char) :=
  if start.isPrefixOf cs then some (cs.drop start.length) else none

/-- The characters after one given character. -/
def afterChar? (c : Char) : List Char → Option (List Char)
  | d :: cs => if d == c then some cs else none
  | [] => none

/-- The longest identifier in front. -/
def identifier? : List Char → Option (List Char × List Char)
  | c :: cs =>
    if startsIdentifier c then
      some (c :: cs.takeWhile continuesIdentifier, cs.dropWhile continuesIdentifier)
    else none
  | [] => none

/-- A number, and how many digits spell it. -/
structure Numeral where
  /-- The number. -/
  value : Nat
  /-- How many digits there are, zeros in front among them. -/
  digits : Nat
  deriving DecidableEq, Inhabited

/-- What is wrong with a numeral of too many digits. -/
def Numeral.overlong? (n : Numeral) : Option TooManyDigits :=
  if n.digits ≤ digitLimit then none else some (.reading n.digits)

/-- The numeral that the longest run of digits in front is. -/
def number? (cs : List Char) : Option (Numeral × List Char) :=
  let run := cs.takeWhile isDecimal
  (decimalNat? run).map fun n => (⟨n, run.length⟩, cs.dropWhile isDecimal)

/-- Whether a character may enclose a literal. -/
def isQuote (c : Char) : Bool := c == '\'' || c == '"' || c == '`'

/-- The inside of a quoted literal in front; it stays on one line. -/
def literal? : List Char → Option (List Char × List Char)
  | q :: cs =>
    if isQuote q then
      let inside := cs.takeWhile fun c => c != q && c != '\n'
      (afterChar? q (cs.drop inside.length)).map fun rest => (inside, rest)
    else none
  | [] => none

/-- The identifier inside a quoted literal in front. -/
def quotedIdentifier? : List Char → Option (List Char × List Char)
  | q :: cs =>
    if isQuote q then do
      let (name, rest) ← identifier? cs
      return (name, ← afterChar? q rest)
    else none
  | [] => none

/-! ### Arguments -/

/-- What follows a comma, blanks around the comma allowed. -/
def afterComma? (cs : List Char) : Option (List Char) :=
  (afterChar? ',' (skipBlanks cs)).map skipBlanks

/-- Literals, each behind a comma, as many as there are; the first argument bounds their number. -/
def literalsAfter : Nat → List Char → List (List Char) × List Char
  | 0, cs => ([], cs)
  | fuel + 1, cs =>
    match (afterComma? cs).bind literal? with
    | some (text, rest) =>
      let (texts, rest) := literalsAfter fuel rest
      (text :: texts, rest)
    | none => ([], cs)

/-- The end of a bracketed list: perhaps a comma, and the bracket. -/
def listEnd? (cs : List Char) : Option (List Char) :=
  afterChar? ']' (skipBlanks ((afterComma? cs).getD cs))

/-- A list of literals in brackets. -/
def literalList? (cs : List Char) : Option (List (List Char) × List Char) := do
  let inside := skipBlanks (← afterChar? '[' cs)
  match literal? inside with
  | some (text, rest) =>
    let (texts, rest) := literalsAfter rest.length rest
    return (text :: texts, ← listEnd? rest)
  | none => return ([], ← afterChar? ']' inside)

/-- One argument: a literal or a bracketed list of literals. -/
def argument? (cs : List Char) : Option (List (List Char) × List Char) :=
  match literal? cs with
  | some (text, rest) => some ([text], rest)
  | none => literalList? cs

/-- Arguments, each behind a comma, as many as there are; the first argument bounds their
number. -/
def argumentsAfter : Nat → List Char → List (List Char) × List Char
  | 0, cs => ([], cs)
  | fuel + 1, cs =>
    match (afterComma? cs).bind argument? with
    | some (texts, rest) =>
      let (more, rest) := argumentsAfter fuel rest
      (texts ++ more, rest)
    | none => ([], cs)

/-- The types that a call lists, up to its closing parenthesis; literals that are no types are
passed over. -/
def types? (cs : List Char) : Option (List String × List Char) := do
  let (texts, rest) := argumentsAfter cs.length cs
  let rest ← afterChar? ')' (skipBlanks ((afterComma? rest).getD rest))
  return (texts.filterMap fun text => allowedType? (String.ofList text), rest)

/-! ### Calls -/

/-- What follows the opening parenthesis of a call that adds a probe. -/
def callStart? (cs : List Char) : Option (List Char) := do
  let rest ← (after? ".addProbe".toList cs).or (after? ".add_probe".toList cs)
  return skipBlanks (← afterChar? '(' (skipBlanks rest))

/-- A call that names its probe in full. -/
def plainCall? (cs : List Char) : Option (Probe × List Char) := do
  let (name, rest) ← quotedIdentifier? (← callStart? cs)
  let (types, rest) ← types? rest
  return (⟨String.ofList name, types⟩, rest)

/-- A call whose probes are numbered by a variable. -/
structure CountedCall where
  /-- What the names begin with. -/
  stem : String
  /-- The variable whose values end the names. -/
  counter : String
  /-- The types of the arguments. -/
  types : List String
  deriving DecidableEq, Inhabited

/-- A call whose probes are numbered by a variable. -/
def countedCall? (cs : List Char) : Option (CountedCall × List Char) := do
  let (stem, rest) ← quotedIdentifier? (← callStart? cs)
  let rest ← afterChar? '+' (skipBlanks rest)
  let (counter, rest) ← identifier? (skipBlanks rest)
  let (types, rest) ← types? rest
  return (⟨String.ofList stem, String.ofList counter, types⟩, rest)

/-! ### Loops -/

/-- The header of a loop that counts a variable up. -/
structure Loop where
  /-- The variable. -/
  counter : String
  /-- Its first value. -/
  first : Numeral
  /-- The value before which it stops. -/
  bound : Numeral
  /-- What the header says of a step. -/
  step : List Char
  deriving DecidableEq, Inhabited

/-- The words that may introduce the variable of a loop. -/
def introducers : List (List Char) :=
  ["var".toList, "let".toList, "const".toList, "int".toList, "unsigned".toList, "size_t".toList]

/-- The variable of a loop, with or without a word that introduces it. -/
def loopVariable? (cs : List Char) : Option (List Char × List Char) := do
  let (word, rest) ← identifier? cs
  if introducers.contains word then
    -- With nothing but blanks behind it the word is itself the variable.
    match rest with
    | c :: _ =>
      if isBlank c then (identifier? (skipBlanks rest)).or (some (word, rest))
      else some (word, rest)
    | [] => some (word, rest)
  else some (word, rest)

/-- The header of a loop that starts a variable at a number and bounds it by another. -/
def loop? (cs : List Char) : Option (Loop × List Char) := do
  let rest ← afterChar? '(' (skipBlanks (← after? "for".toList cs))
  let (counter, rest) ← loopVariable? (skipBlanks rest)
  let rest ← afterChar? '=' (skipBlanks rest)
  let (first, rest) ← number? (skipBlanks rest)
  let rest ← afterChar? ';' (skipBlanks rest)
  let rest ← after? counter (skipBlanks rest)
  let rest ← afterChar? '<' (skipBlanks rest)
  let (bound, rest) ← number? (skipBlanks rest)
  let rest := skipBlanks (← afterChar? ';' (skipBlanks rest))
  let step := rest.takeWhile (· != ')')
  let rest ← afterChar? ')' (rest.drop step.length)
  return (⟨String.ofList counter, first, bound, step⟩, rest)

/-- Whether text between blanks adds one to the variable: `++i`, `i++`, `i += 1` or
`i = i + 1`. -/
def addsOne (counter : List Char) (step : List Char) : Bool :=
  let step := trim step
  match after? ['+', '+'] step with
  | some rest => skipBlanks rest == counter
  | none =>
    match (identifier? step).map fun p => (p.1, skipBlanks p.2) with
    | none => false
    | some (name, rest) =>
      name == counter &&
        (rest == ['+', '+'] ||
          (after? ['+', '='] rest).any (fun rest => skipBlanks rest == ['1']) ||
          ((afterChar? '=' rest).bind fun rest => after? counter (skipBlanks rest)).any fun rest =>
            (afterChar? '+' (skipBlanks rest)).any fun rest => skipBlanks rest == ['1'])

/-- Whether a loop counts its variable up by one. -/
def Loop.counts (loop : Loop) : Bool := addsOne loop.counter.toList loop.step

/-- What is wrong with the first numeral of a loop that has too many digits. -/
def Loop.overlong? (loop : Loop) : Option TooManyDigits :=
  loop.first.overlong?.or loop.bound.overlong?

/-! ### Places in a text -/

/-- Every place where a recogniser finds something, from left to right; a place inside what was
found before is passed over.  The second argument counts the characters still to pass over and
the third is the place. -/
def occurrencesFrom {α : Type} (recognise : List Char → Option (α × List Char)) :
    Nat → Nat → List Char → List (Nat × α)
  | _, _, [] => []
  | passed + 1, place, _ :: cs => occurrencesFrom recognise passed (place + 1) cs
  | 0, place, c :: cs =>
    match recognise (c :: cs) with
    | some (found, rest) =>
      (place, found) :: occurrencesFrom recognise (cs.length - rest.length) (place + 1) cs
    | none => occurrencesFrom recognise 0 (place + 1) cs

/-- Every place of a text where a recogniser finds something, without overlaps. -/
def occurrences {α : Type} (recognise : List Char → Option (α × List Char)) (cs : List Char) :
    List (Nat × α) := occurrencesFrom recognise 0 0 cs

/-- The last of the counting loops for a variable that begin before a place; the loops are in
source order. -/
def closestLoop? (loops : List (Nat × Loop)) (counter : String) (place : Nat) : Option Loop :=
  ((loops.filter fun l => l.2.counter == counter && l.2.counts && l.1 < place).getLast?).map (·.2)

/-- The probes of a counted call, one for each value that its loop gives. -/
def CountedCall.probes (call : CountedCall) (loop : Loop) : List Probe :=
  (List.range' loop.first.value (loop.bound.value - loop.first.value)).map fun n =>
    ⟨call.stem ++ toString n, call.types⟩

/-- The probes of each plain call of a text, with its place. -/
def plainGroups (cs : List Char) : List (Nat × List Probe) :=
  (occurrences plainCall? cs).map fun p => (p.1, [p.2])

/-- The probes of each counted call of a text that a loop encloses, with its place. -/
def countedGroups (cs : List Char) : List (Nat × List Probe) :=
  let loops := occurrences loop? cs
  (occurrences countedCall? cs).filterMap fun (place, call) =>
    (closestLoop? loops call.counter place).map fun loop => (place, call.probes loop)

/-- The probes of each call, in the order of their places. -/
def groups (cs : List Char) : List (Nat × List Probe) :=
  (plainGroups cs ++ countedGroups cs).mergeSort fun a b => decide (a.1 ≤ b.1)

/-- What is wrong with the first numeral of too many digits in a counting loop of a text.  Every
counting loop is looked at, whether a call refers to it or not. -/
def obstacle? (cs : List Char) : Option TooManyDigits :=
  (occurrences loop? cs).findSome? fun l => if l.2.counts then l.2.overlong? else none

end Declaration

/-- The probes that a source text declares, in source order and with repetitions.  There is none
if a counting loop has a numeral of too many digits. -/
def declaredProbes (text : String) : Except TooManyDigits (List Probe) :=
  match Declaration.obstacle? text.toList with
  | some e => .error e
  | none => .ok ((Declaration.groups text.toList).flatMap (·.2))

end ProbeKit
