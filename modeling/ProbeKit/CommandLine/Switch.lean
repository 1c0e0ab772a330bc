import ProbeKit.Text.Digit
import ProbeKit.Text.Quoted

/-!
# Switches and operands

A command line is a list of words.  A word that begins with a hyphen is a switch, unless it is a
lone hyphen, looks like a negative number or has a blank in it; any other word is an operand.  A
long switch may be shortened as long as only one switch begins that way, short ones may be joined
behind one hyphen, and behind two bare hyphens every word is an operand.

`Grammar.read` sorts the words of a command line: the switches with their values, the operand, and
the words that the grammar does not know.
-/

namespace ProbeKit.CommandLine

open Text

/-! ### Grammars -/

/-- What can be chosen. -/
inductive Switch where
  /-- To be told what can be chosen. -/
  | help
  /-- To see records for troubleshooting. -/
  | verbose
  /-- To keep the journal in a file. -/
  | logFile
  /-- To scan the sources even beside an existing manifest. -/
  | rescan
  /-- To keep watching. -/
  | watch
  /-- To build in any case. -/
  | force
  deriving DecidableEq, Inhabited

namespace Switch

/-- The words for a switch. -/
def names : Switch → List String
  | .help => ["-h", "--help"]
  | .verbose => ["-v", "--verbose"]
  | .logFile => ["--log-file"]
  | .rescan => ["--rescan"]
  | .watch => ["--watch"]
  | .force => ["--force"]

/-- Whether a value belongs to a switch. -/
def takesValue : Switch → Bool
  | .logFile => true
  | _ => false

/-- A switch in messages. -/
def title (s : Switch) : String := "/".intercalate s.names

end Switch

/-- What the operand of a command line is. -/
inductive Operand where
  /-- A command with everything behind it. -/
  | command
  /-- At most one word. -/
  | atMostOne
  deriving DecidableEq

/-- What a command line may consist of. -/
structure Grammar where
  /-- The name of the program in messages. -/
  program : String
  /-- The switches. -/
  switches : List Switch
  /-- The operand. -/
  operand : Operand

/-! ### Refusals -/

/-- Why a command line is refused. -/
inductive Refusal where
  /-- A shortened switch may stand for several ones. -/
  | ambiguous (word : String) (names : List String)
  /-- A switch has a value that it does not take. -/
  | needlessValue (s : Switch) (value : String)
  /-- The value of a switch is missing. -/
  | missingValue (s : Switch)
  /-- There is no command. -/
  | noCommand
  /-- The command is none of those that there are. -/
  | unknownCommand (word : String) (commands : List String)
  /-- Some words are left over. -/
  | leftOver (words : List String)
  deriving DecidableEq

/-- Why a command line is refused, in words. -/
def Refusal.message : Refusal → String
  | .ambiguous word names =>
    "ambiguous option: " ++ word ++ " could match " ++ ", ".intercalate names
  | .needlessValue s value =>
    "argument " ++ s.title ++ ": ignored explicit argument " ++ quoted value
  | .missingValue s => "argument " ++ s.title ++ ": expected one argument"
  | .noCommand => "the following arguments are required: command"
  | .unknownCommand word commands =>
    "argument command: invalid choice: " ++ quoted word ++ " (choose from " ++
      ", ".intercalate (commands.map quoted) ++ ")"
  | .leftOver words => "unrecognized arguments: " ++ " ".intercalate words

/-- What ends the reading of a command line early. -/
inductive Stop where
  /-- Help was asked for. -/
  | help
  /-- The command line is refused in the name of a program. -/
  | refused (program : String) (reason : Refusal)
  deriving DecidableEq

/-! ### Words -/

/-- A switch in a command line, by the name that is meant and with the value in the same word. -/
structure Mention where
  /-- The switch. -/
  switch : Switch
  /-- The name. -/
  name : String
  /-- The value. -/
  value : Option String := none
  deriving DecidableEq, Inhabited

/-- A word of a command line. -/
inductive Word where
  /-- An operand. -/
  | plain (text : String)
  /-- The mark behind which all words are operands. -/
  | mark
  /-- A switch, if the grammar knows it. -/
  | switch (text : String) (mention : Option Mention)
  deriving DecidableEq, Inhabited

/-- The text of a word. -/
def Word.text : Word → String
  | .plain text => text
  | .mark => "--"
  | .switch text _ => text

/-- Whether a text looks like a negative number: a hyphen and digits, perhaps with a point. -/
def looksNegative (cs : List Char) : Bool :=
  match cs with
  | '-' :: rest =>
    let rest := if rest.getLast? == some '\n' then rest.dropLast else rest
    let whole := rest.takeWhile isDecimal
    match rest.dropWhile isDecimal with
    | [] => !whole.isEmpty
    | '.' :: fraction => !fraction.isEmpty && fraction.all isDecimal
    | _ => false
  | _ => false

/-- Whether a text has one hyphen in front, not two. -/
def isShort (name : String) : Bool := name.toList.take 2 != ['-', '-']

namespace Grammar

/-- The switches by all their names, in order. -/
def named (g : Grammar) : List (String × Switch) :=
  g.switches.flatMap fun s => s.names.map fun name => (name, s)

/-- The mentions of switches that a shortened or joined word may stand for. -/
def meanings (g : Grammar) (text : String) : List Mention :=
  let cs := text.toList
  if isShort text then
    g.named.filterMap fun (name, s) =>
      if name.toList == cs.take 2 then some ⟨s, name, some (String.ofList (cs.drop 2))⟩
      else if cs.isPrefixOf name.toList then some ⟨s, name, none⟩
      else none
  else
    let stem := cs.takeWhile (· != '=')
    let value := if cs.contains '=' then some (String.ofList (cs.drop (stem.length + 1))) else none
    g.named.filterMap fun (name, s) =>
      if stem.isPrefixOf name.toList then some ⟨s, name, value⟩ else none

/-- A switch that is named in full, perhaps with a value behind an equals sign. -/
def mention? (g : Grammar) (text : String) : Option Mention :=
  match g.named.lookup text with
  | some s => some ⟨s, text, none⟩
  | none =>
    let cs := text.toList
    let stem := cs.takeWhile (· != '=')
    if cs.contains '=' then
      (g.named.lookup (String.ofList stem)).map fun s =>
        ⟨s, String.ofList stem, some (String.ofList (cs.drop (stem.length + 1)))⟩
    else none

/-- The word that a text is, before any mark. -/
def word (g : Grammar) (text : String) : Except Refusal Word :=
  if text.toList.head? != some '-' || text == "-" then .ok (.plain text)
  else
    match g.mention? text with
    | some m => .ok (.switch text (some m))
    | none =>
      match g.meanings text with
      | [m] => .ok (.switch text (some m))
      | [] =>
        if looksNegative text.toList || text.toList.contains ' ' then .ok (.plain text)
        else .ok (.switch text none)
      | several => .error (.ambiguous text (several.map Mention.name))

/-- The words that texts are. -/
def words (g : Grammar) : List String → Except Refusal (List Word)
  | [] => .ok []
  | text :: rest =>
    if text == "--" then .ok (.mark :: rest.map .plain)
    else do return (← g.word text) :: (← g.words rest)

end Grammar

/-! ### Reading -/

/-- What was read of a command line. -/
structure Reading where
  /-- The switches with their values. -/
  switches : List (Switch × Option String) := []
  /-- The words of the operand, if there is one. -/
  operand : Option (List String) := none
  /-- The words that are left over. -/
  leftOver : List String := []
  deriving DecidableEq, Inhabited

/-- Where a reader of a command line stands. -/
inductive Place where
  /-- Anywhere. -/
  | free
  /-- Right behind the operand. -/
  | behindOperand
  /-- Where the value of a switch has to be. -/
  | atValue (s : Switch)
  deriving DecidableEq

namespace Grammar

/-- The switches that are joined with a short one, given the text behind it.  The value that is
missing in the result has to follow in the next word. -/
def joined (g : Grammar) (s : Switch) : List Char → Except Refusal (List (Switch × Option String))
  | [] => .ok [(s, none)]
  | c :: cs =>
    if s.takesValue then .ok [(s, some (String.ofList (c :: cs)))]
    else
      match g.named.lookup (String.ofList ['-', c]) with
      | some t => do return (s, none) :: (← g.joined t cs)
      | none => .error (.needlessValue s (String.ofList (c :: cs)))

/-- The switches that a word mentions. -/
def mentioned (g : Grammar) (m : Mention) : Except Refusal (List (Switch × Option String)) :=
  match m.value with
  | none => .ok [(m.switch, none)]
  | some value =>
    if m.switch.takesValue then .ok [(m.switch, some value)]
    else if isShort m.name && !value.isEmpty then g.joined m.switch value.toList
    else .error (.needlessValue m.switch value)

/-- The switch whose value has to follow, if the last one misses its value. -/
def awaiting (found : List (Switch × Option String)) : Option Switch :=
  match found.getLast? with
  | some (s, none) => if s.takesValue then some s else none
  | _ => none

/-- Reads words, given what was read before and the place. -/
def readFrom (g : Grammar) (r : Reading) : Place → List Word → Except Stop Reading
  | .atValue s, [] => .error (.refused g.program (.missingValue s))
  | .atValue s, .plain text :: rest =>
    g.readFrom { r with switches := r.switches ++ [(s, some text)] } .free rest
  | .atValue s, _ :: _ => .error (.refused g.program (.missingValue s))
  | _, [] => .ok r
  | _, .plain text :: rest =>
    match r.operand, g.operand with
    | none, .command => .ok { r with operand := some (text :: rest.map Word.text) }
    | none, .atMostOne => g.readFrom { r with operand := some [text] } .behindOperand rest
    | some _, _ => g.readFrom { r with leftOver := r.leftOver ++ [text] } .free rest
  | place, .mark :: rest =>
    match r.operand, g.operand with
    | none, .command =>
      if rest.isEmpty then .ok { r with leftOver := r.leftOver ++ [Word.mark.text] }
      else .ok { r with operand := some (Word.mark.text :: rest.map Word.text) }
    | none, .atMostOne => g.readFrom r .free rest
    | some _, _ =>
      if place = .behindOperand then g.readFrom r .free rest
      else g.readFrom { r with leftOver := r.leftOver ++ [Word.mark.text] } .free rest
  | _, .switch text none :: rest =>
    g.readFrom { r with leftOver := r.leftOver ++ [text] } .free rest
  | _, .switch _ (some m) :: rest =>
    match g.mentioned m with
    | .error reason => .error (.refused g.program reason)
    | .ok found =>
      if found.any (·.1 == .help) then .error .help
      else
        match awaiting found with
        | some s => g.readFrom { r with switches := r.switches ++ found.dropLast } (.atValue s) rest
        | none => g.readFrom { r with switches := r.switches ++ found } .free rest

/-- Reads a command line. -/
def read (g : Grammar) (texts : List String) : Except Stop Reading :=
  match g.words texts with
  | .error reason => .error (.refused g.program reason)
  | .ok words => g.readFrom {} .free words

end Grammar

end ProbeKit.CommandLine
