import ProbeKit.CommandLine.Invocation
import ProbeKit.Json.Printer
import ProbeKit.Session.Loop
import ProbeKit.Settings.Loading

/-!
# Running a command line

A run reads the command line, sets up the journal, loads the settings of the project and carries
out the command in a session.  It ends with a status: that of the build command if that fails, one
for any other failure of the command, two for a command line that is refused.  Settings that are
wrong are reported; what goes wrong with the journal or with the settings file itself is not, and
is the ending of the run.
-/

namespace ProbeKit.CommandLine

/-- How a run ends. -/
inductive Ending where
  /-- With help. -/
  | helped
  /-- With the refusal of the command line. -/
  | refused (program : String) (reason : Refusal)
  /-- With a status. -/
  | exit (status : Int)
  /-- With a fault that nobody deals with. -/
  | escaped (f : Fault)

/-- What comes of a run, beside what it did to the desk. -/
structure Outcome where
  /-- How it ended. -/
  ending : Ending
  /-- What it printed. -/
  printed : String := ""

/-- What surrounds a run. -/
structure Surroundings where
  /-- What reads the settings file. -/
  reader : Setting.Reader
  /-- The home directory. -/
  home : Path
  /-- The environment. -/
  environment : Settings.Environment := []

namespace Invocation

/-- The name of the session. -/
def session (i : Invocation) : String := if i.watch then "watch" else i.command.text

/-- Sets up the journal. -/
def openJournal (i : Invocation) : Act Desk Unit := showJournal ⟨i.session, i.verbose⟩ i.logFile

/-! ### Commands -/

/-- What a written manifest prints. -/
def emittedLine (e : Workspace.Emitted) : String :=
  Json.line .ascii (.obj [("path", .str e.file.text), ("hash", .str e.digest)]) ++ "\n"

/-- What a build prints. -/
def builtLine : Option Session.OneBuild → String
  | some ⟨digest, false⟩ => "Probes already up to date (" ++ digest ++ ")\n"
  | _ => ""

/-- Writes the manifest. -/
def emit (s : Session) : Act Desk String := do
  let (made, s) := (Session.onWorkspace Workspace.emit).on s
  set s.desk
  return emittedLine (← Act.ofExcept id made)

/-- Carries out a task until everything has come to rest. -/
def carryOut (s : Session) (errand : Session.Errand) : Act Desk String := do
  let s := Session.loop.settle (s.addTask errand)
  set s.desk
  match s.tasks.getLast?.map Session.Task.stage with
  | some (.ended outcome) => return builtLine (← Act.ofExcept id outcome)
  | _ => throw .endless

/-- Carries out the command in a session, and gives what it prints. -/
def work (i : Invocation) (settings : Settings) : Act Desk String := do
  let s ← Session.openUp settings (i.rescan || i.watch) i.force
  match i.command with
  | .emit => emit s
  | .build => carryOut s (if i.watch then .watch [] else .once)

/-! ### Endings -/

/-- Shows a message on the console. -/
def complain (message : String) (d : Desk) : Desk := { d with shown := d.shown ++ message }

/-- A message of the program. -/
def complaint (message : String) : String := Journal.programName ++ ": " ++ message ++ "\n"

/-- Deals with a fault of the command. -/
def fail (i : Invocation) (f : Fault) (d : Desk) : Int × Desk :=
  match f with
  | .build _ status => (status, d.note ⟨.error, "", f.message⟩)
  | .manifest _ => (1, complain (complaint f.message) d)
  | .source _ => (1, complain (complaint f.message) d)
  | .endless => (130, complain (f.message ++ "\n") d)
  | _ =>
    (1, complain (Journal.programName ++ " " ++ i.command.text ++ " failed: " ++ f.message ++
      "\nRun with --verbose for more details.\n") d)

/-- Loads the settings of the project. -/
def loadSettings (i : Invocation) (around : Surroundings) : Act Desk Settings := do
  let disk := (← get).disk
  Act.ofExcept id <|
    Settings.load around.reader disk around.home around.environment (Path.ofString i.path)

/-- Runs an invocation. -/
def run (i : Invocation) (around : Surroundings) (d : Desk) : Outcome × Desk :=
  match (do i.openJournal; i.loadSettings around).on d with
  | (.error (.settings e), d) =>
    (⟨.exit 1, ""⟩, complain (complaint e.message) d)
  | (.error f, d) => (⟨.escaped f, ""⟩, d)
  | (.ok settings, d) =>
    match (i.work settings).on d with
    | (.ok printed, d) => (⟨.exit 0, printed⟩, d)
    | (.error f, d) =>
      let (status, d) := i.fail f d
      (⟨.exit status, ""⟩, d)

end Invocation

/-- A refused command line, in words. -/
def usageError (program : String) (reason : Refusal) : String :=
  program ++ ": error: " ++ reason.message

/-- The status of an ending. -/
def Ending.status : Ending → Int
  | .helped => 0
  | .refused _ _ => 2
  | .exit status => status
  | .escaped _ => 1

/-- Runs a command line. -/
def run (words : List String) (around : Surroundings) (d : Desk) : Outcome × Desk :=
  match Invocation.read words with
  | .ok i => i.run around d
  | .error .help => (⟨.helped, ""⟩, d)
  | .error (.refused program reason) =>
    (⟨.refused program reason, ""⟩, Invocation.complain (usageError program reason ++ "\n") d)

end ProbeKit.CommandLine
