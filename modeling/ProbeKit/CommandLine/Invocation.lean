import ProbeKit.CommandLine.Switch
import ProbeKit.Journal.Basic
import ProbeKit.Path.Basic

/-!
# Invocations

An invocation is what a command line asks for: a command, the project that it is for, and what was
chosen.  Verbosity and the log file may be chosen in front of the command; everything else, and
verbosity too, behind it.
-/

namespace ProbeKit.CommandLine

/-- The commands. -/
inductive Command where
  /-- To build when a build is due. -/
  | build
  /-- To write the manifest. -/
  | emit
  deriving DecidableEq, Inhabited

namespace Command

/-- All commands. -/
def all : List Command := [.build, .emit]

/-- The word for a command. -/
def text : Command → String
  | .build => "build"
  | .emit => "emit"

/-- The command that a word stands for. -/
def ofString? (s : String) : Option Command := all.find? fun c => c.text == s

/-- What may stand behind a command. -/
def grammar (c : Command) : Grammar where
  program := Journal.programName ++ " " ++ c.text
  switches :=
    match c with
    | .build => [.help, .verbose, .rescan, .watch, .force]
    | .emit => [.help, .verbose, .rescan]
  operand := .atMostOne

end Command

/-- What may stand in front of a command, and the command. -/
def mainGrammar : Grammar where
  program := Journal.programName
  switches := [.help, .verbose, .logFile]
  operand := .command

/-- What a command line asks for. -/
structure Invocation where
  /-- The command. -/
  command : Command
  /-- The place of the project. -/
  path : String := "."
  /-- Whether records for troubleshooting are shown. -/
  verbose : Bool := false
  /-- The file that keeps the journal, if there is one. -/
  logFile : Option Path := none
  /-- Whether sources are scanned even beside an existing manifest. -/
  rescan : Bool := false
  /-- Whether to keep watching. -/
  watch : Bool := false
  /-- Whether to build in any case. -/
  force : Bool := false
  deriving DecidableEq, Inhabited

namespace Invocation

/-- Takes over a switch. -/
def choose (i : Invocation) (s : Switch × Option String) : Invocation :=
  match s with
  | (.help, _) => i
  | (.verbose, _) => { i with verbose := true }
  | (.logFile, value) => { i with logFile := value.map Path.ofString }
  | (.rescan, _) => { i with rescan := true }
  | (.watch, _) => { i with watch := true }
  | (.force, _) => { i with force := true }

/-- Refuses a command line in the name of the program. -/
def refuse {α : Type} (reason : Refusal) : Except Stop α :=
  .error (.refused mainGrammar.program reason)

/-- The command of an operand, with the words behind it. -/
def commandOf : Option (List String) → Except Stop (Command × List String)
  | some (word :: rest) =>
    match Command.ofString? word with
    | some c => .ok (c, rest)
    | none => refuse (.unknownCommand word (Command.all.map Command.text))
  | _ => refuse .noCommand

/-- What a command line asks for. -/
def read (texts : List String) : Except Stop Invocation := do
  let front ← mainGrammar.read texts
  let (command, rest) ← commandOf front.operand
  let behind ← command.grammar.read rest
  let leftOver := front.leftOver ++ behind.leftOver
  if !leftOver.isEmpty then refuse (.leftOver leftOver)
  let path := ((behind.operand.bind List.head?).getD ".")
  return (front.switches ++ behind.switches).foldl choose { command, path }

end Invocation

end ProbeKit.CommandLine
