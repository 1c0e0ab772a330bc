import Mathlib.Data.List.Infix
import ProbeKit.Probe.Declaration

/-!
# Rendered declarations

A declaration can be written in many ways: blanks and line breaks may stand between any two of
its pieces, a name and a literal may be enclosed by any of the three quotes, types may be listed
one by one or in brackets, and a comma may trail.  `Declared` is a declaration together with one
way of writing it.  Each piece carries the proof that it is well formed, so whatever the type
holds is a proper declaration; `chars` is its text and `Declared.probes` is what it stands for.

`text` is a whole source: declarations with filler between them, where filler is any text that
has no beginning of a call or of a loop in it.
-/

namespace ProbeKit.Rendering

open Text Declaration

/-! ### Pieces of text -/

/-- Blanks, line breaks among them; perhaps none. -/
structure Gap where
  /-- The blanks. -/
  chars : List Char
  /-- They are nothing else. -/
  blank : ∀ c ∈ chars, isBlank c = true

/-- What surrounds a sign. -/
structure Around where
  /-- The blanks before the sign. -/
  before : Gap
  /-- The blanks behind it. -/
  after : Gap

/-- A sign with the blanks around it. -/
def Around.chars (around : Around) (sign : Char) : List Char :=
  around.before.chars ++ sign :: around.after.chars

/-- What stands between the last item of a list and the closing bracket. -/
inductive Ending
  /-- Blanks alone. -/
  | gap (gap : Gap)
  /-- A comma that trails. -/
  | comma (comma : Around)

/-- The text of an ending. -/
def Ending.chars : Ending → List Char
  | gap g => g.chars
  | comma around => around.chars ','

/-- The quotes. -/
inductive Quote
  /-- The single quote. -/
  | single
  /-- The double quote. -/
  | double
  /-- The back quote. -/
  | back

/-- The character of a quote. -/
def Quote.char : Quote → Char
  | single => '\''
  | double => '"'
  | back => '`'

/-- The beginnings of calls and loops. -/
def marks : List (List Char) := [".addProbe".toList, ".add_probe".toList, "for".toList]

/-- Whether no call and no loop begins in a text. -/
def MarkFree (cs : List Char) : Prop := ∀ mark ∈ marks, ¬ mark <:+: cs

instance (cs : List Char) : Decidable (MarkFree cs) := by unfold MarkFree; infer_instance

/-- Text that declares nothing. -/
structure Filler where
  /-- The text. -/
  chars : List Char
  /-- No call and no loop begins in it. -/
  free : MarkFree chars

/-- A quoted literal. -/
structure Literal where
  /-- The quote around it. -/
  quote : Quote
  /-- What is inside. -/
  inside : List Char
  /-- The quote stands only at the ends. -/
  own : quote.char ∉ inside
  /-- The literal stays on one line. -/
  line : '\n' ∉ inside
  /-- No call and no loop begins in it. -/
  free : MarkFree inside

/-- The text of a literal. -/
def Literal.chars (literal : Literal) : List Char :=
  literal.quote.char :: (literal.inside ++ [literal.quote.char])

/-- An identifier. -/
structure Name where
  /-- Its first character. -/
  head : Char
  /-- The others. -/
  tail : List Char
  /-- The first one may begin an identifier. -/
  starts : startsIdentifier head = true
  /-- The others may stand in an identifier. -/
  continues : ∀ c ∈ tail, continuesIdentifier c = true

/-- The text of an identifier. -/
def Name.chars (name : Name) : List Char := name.head :: name.tail

/-- A number in decimal digits of any scripts. -/
structure Numeral where
  /-- The digits. -/
  chars : List Char
  /-- There is at least one. -/
  nonempty : chars ≠ []
  /-- They are decimal digits. -/
  digits : ∀ c ∈ chars, isDecimal c = true

/-- The number. -/
def Numeral.value (numeral : Numeral) : Nat := ofDigits 10 (numeral.chars.filterMap decimalDigit?)

/-- What is read of a numeral. -/
def Numeral.spelled (numeral : Numeral) : Declaration.Numeral :=
  ⟨numeral.value, numeral.chars.length⟩

/-! ### Arguments -/

/-- A literal, or literals in brackets. -/
inductive Argument
  /-- A literal. -/
  | bare (literal : Literal)
  /-- Brackets around nothing. -/
  | empty (inside : Gap)
  /-- Brackets around literals, each but the first behind a comma. -/
  | listed (opening : Gap) (first : Literal) (more : List (Around × Literal)) (ending : Ending)

/-- Literals, each behind a comma. -/
def literalChars (more : List (Around × Literal)) : List Char :=
  more.flatMap fun item => item.1.chars ',' ++ item.2.chars

/-- The text of an argument. -/
def Argument.chars : Argument → List Char
  | bare literal => literal.chars
  | empty inside => '[' :: (inside.chars ++ [']'])
  | listed opening first more ending =>
    '[' :: (opening.chars ++ (first.chars ++ (literalChars more ++ (ending.chars ++ [']']))))

/-- The literals of an argument, in order. -/
def Argument.texts : Argument → List (List Char)
  | bare literal => [literal.inside]
  | empty _ => []
  | listed _ first more _ => first.inside :: more.map fun item => item.2.inside

/-- Arguments, each behind a comma. -/
def argumentChars (items : List (Around × Argument)) : List Char :=
  items.flatMap fun item => item.1.chars ',' ++ item.2.chars

/-- The arguments of a call, up to its closing parenthesis. -/
structure Arguments where
  /-- The arguments, each with the comma before it. -/
  items : List (Around × Argument)
  /-- What stands before the parenthesis. -/
  ending : Ending

/-- The text of the arguments, with the parenthesis. -/
def Arguments.chars (arguments : Arguments) : List Char :=
  argumentChars arguments.items ++ (arguments.ending.chars ++ [')'])

/-- The literals of all the arguments, in order. -/
def Arguments.texts (arguments : Arguments) : List (List Char) :=
  arguments.items.flatMap fun item => item.2.texts

/-- The types that the arguments name: those of the literals that are types. -/
def Arguments.types (arguments : Arguments) : List String :=
  arguments.texts.filterMap fun text => allowedType? (String.ofList text)

/-! ### Calls -/

/-- The beginning of a call, up to the quote behind the name. -/
structure Opening where
  /-- Whether an underscore joins the words of the method. -/
  snake : Bool
  /-- What surrounds the parenthesis. -/
  paren : Around
  /-- The quote around the name. -/
  quote : Quote
  /-- The name. -/
  name : Name

/-- The method that a call names, with the dot before it. -/
def Opening.method (opening : Opening) : List Char :=
  if opening.snake then ".add_probe".toList else ".addProbe".toList

/-- The text of the beginning of a call. -/
def Opening.chars (opening : Opening) : List Char :=
  opening.method ++ (opening.paren.chars '(' ++
    opening.quote.char :: (opening.name.chars ++ [opening.quote.char]))

/-- A call that names its probe in full. -/
structure SingleCall where
  /-- Its beginning. -/
  opening : Opening
  /-- Its arguments. -/
  arguments : Arguments

/-- The text of a call. -/
def SingleCall.chars (call : SingleCall) : List Char := call.opening.chars ++ call.arguments.chars

/-- The probe that a call declares. -/
def SingleCall.probe (call : SingleCall) : Probe :=
  ⟨String.ofList call.opening.name.chars, call.arguments.types⟩

/-- A call whose probes a variable numbers; their names begin with the name it opens with. -/
structure RowCall where
  /-- Its beginning. -/
  opening : Opening
  /-- What surrounds the plus sign. -/
  plus : Around
  /-- Its arguments. -/
  arguments : Arguments

/-- The text of a call whose probes a variable numbers. -/
def RowCall.chars (call : RowCall) (counter : Name) : List Char :=
  call.opening.chars ++ (call.plus.chars '+' ++ (counter.chars ++ call.arguments.chars))

/-- What a call whose probes a variable numbers says. -/
def RowCall.counted (call : RowCall) (counter : Name) : CountedCall :=
  ⟨String.ofList call.opening.name.chars, String.ofList counter.chars, call.arguments.types⟩

/-! ### Loops -/

/-- How a loop adds one to its variable. -/
inductive Step
  /-- The signs stand before the variable: `++i`. -/
  | prior (gap : Gap)
  /-- The signs stand behind it: `i++`. -/
  | posterior (gap : Gap)
  /-- One is added in place: `i += 1`. -/
  | added (left right : Gap)
  /-- The sum is assigned: `i = i + 1`. -/
  | assigned (equals plus : Around)

/-- The text of a step for a variable. -/
def Step.chars (counter : Name) : Step → List Char
  | prior gap => '+' :: '+' :: (gap.chars ++ counter.chars)
  | posterior gap => counter.chars ++ (gap.chars ++ ['+', '+'])
  | added left right => counter.chars ++ (left.chars ++ '+' :: '=' :: (right.chars ++ ['1']))
  | assigned equals plus =>
    counter.chars ++ (equals.chars '=' ++ (counter.chars ++ (plus.chars '+' ++ ['1'])))

/-- A word that introduces a variable, with the blanks that part them. -/
structure Introducer where
  /-- The word. -/
  word : List Char
  /-- It is one of those that may introduce a variable. -/
  known : word ∈ introducers
  /-- What parts it from the variable. -/
  gap : Gap
  /-- Something does. -/
  apart : gap.chars ≠ []

/-- The text of a variable, behind the word that introduces it if there is one. -/
def variableChars (introducer : Option Introducer) (counter : Name) : List Char :=
  match introducer with
  | none => counter.chars
  | some introducer => introducer.word ++ (introducer.gap.chars ++ counter.chars)

/-- The header of a loop that counts a variable up by one. -/
structure Header where
  /-- What surrounds the opening parenthesis. -/
  paren : Around
  /-- The word that introduces the variable. -/
  introducer : Option Introducer
  /-- The variable. -/
  counter : Name
  /-- What surrounds the sign of the assignment. -/
  assign : Around
  /-- The first value. -/
  first : Numeral
  /-- What surrounds the semicolon behind the first value. -/
  start : Around
  /-- What surrounds the sign of the comparison. -/
  less : Around
  /-- The value before which the loop stops. -/
  bound : Numeral
  /-- What surrounds the semicolon behind that value. -/
  stop : Around
  /-- The step. -/
  step : Step
  /-- What stands before the closing parenthesis. -/
  ending : Gap

/-- What a header says between the last semicolon and the closing parenthesis. -/
def Header.advance (header : Header) : List Char :=
  header.step.chars header.counter ++ header.ending.chars

/-- The text of a header. -/
def Header.chars (header : Header) : List Char :=
  "for".toList ++ (header.paren.chars '(' ++ (variableChars header.introducer header.counter ++
    (header.assign.chars '=' ++ (header.first.chars ++ (header.start.chars ';' ++
      (header.counter.chars ++ (header.less.chars '<' ++ (header.bound.chars ++
        (header.stop.chars ';' ++ (header.advance ++ [')']))))))))))

/-- The loop that a header opens. -/
def Header.loop (header : Header) : Declaration.Loop :=
  ⟨String.ofList header.counter.chars, header.first.spelled, header.bound.spelled, header.advance⟩

/-! ### Declarations -/

/-- A declaration and a way of writing it. -/
inductive Declared
  /-- A call that names its probe in full. -/
  | single (call : SingleCall)
  /-- A loop, and behind some filler a call whose probes its variable numbers. -/
  | row (header : Header) (filler : Filler) (call : RowCall)

/-- The text of a declaration. -/
def Declared.chars : Declared → List Char
  | single call => call.chars
  | row header filler call => header.chars ++ (filler.chars ++ call.chars header.counter)

/-- The probes that a declaration stands for: one, or one for each value of the variable. -/
def Declared.probes : Declared → List Probe
  | single call => [call.probe]
  | row header _ call =>
    (List.range' header.first.value (header.bound.value - header.first.value)).map fun n =>
      ⟨String.ofList call.opening.name.chars ++ toString n, call.arguments.types⟩

/-- The numerals of a declaration, in order. -/
def Declared.numerals : Declared → List Numeral
  | single _ => []
  | row header _ _ => [header.first, header.bound]

/-- A source text: declarations, each behind some filler, and filler at the end. -/
def text (declarations : List (Filler × Declared)) (last : Filler) : List Char :=
  (declarations.flatMap fun d => d.1.chars ++ d.2.chars) ++ last.chars

end ProbeKit.Rendering
