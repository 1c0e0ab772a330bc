import ProbeKit.Fault
import ProbeKit.Journal.Basic
import ProbeKit.Text.Encoding

/-!
# The desk

Everything that a session works on and shares with the world around it: the disk, the clock, the
journal, the build tool and the observer of directories.  An action changes the desk and may end
in a fault; what it did before the fault stays done.
-/

namespace ProbeKit

/-- An action on a state.  The state stays changed when the action ends in a fault. -/
abbrev Act (σ α : Type) : Type := ExceptT Fault (StateM σ) α

namespace Act

/-- Runs an action. -/
def on {σ α : Type} (a : Act σ α) (s : σ) : Except Fault α × σ := Id.run ((ExceptT.run a).run s)

/-- Runs an action on a part of a state. -/
def within {σ τ α : Type} (get : σ → τ) (set : τ → σ → σ) (a : Act τ α) : Act σ α := do
  let (result, part) := a.on (get (← MonadState.get))
  modify (set part)
  match result with
  | .ok value => pure value
  | .error f => throw f

/-- Runs an action and gives its outcome. -/
def attempt {σ α : Type} (a : Act σ α) : Act σ (Except Fault α) := do
  let (result, s) := a.on (← MonadState.get)
  set s
  pure result

/-- The value of a computation without effects. -/
def ofExcept {σ ε α : Type} (wrap : ε → Fault) : Except ε α → Act σ α
  | .ok value => pure value
  | .error e => throw (wrap e)

end Act

/-! ### Files -/

namespace Disk

/-- Writes the text of a file. -/
def writeText (p : Path) (text : String) : Act Disk Unit := do
  match (← get).write p (Text.encode text) with
  | .ok d => set d
  | .error e => throw (.disk e)

/-- Makes sure that the directory of a file is there. -/
def makeRoom (p : Path) : Act Disk Unit := do
  match (← get).ensureDirectories p.parent with
  | .ok d => set d
  | .error e => throw (.disk e)

end Disk

/-! ### Builds and observers -/

/-- The build tool: what starting a command in a directory does to the disk, and the exit status
unless the command goes on running. -/
structure Tool where
  /-- Starts a command. -/
  start : List String → Path → Disk → Except StartError (Disk × Option Int)
  deriving Inhabited

/-- A build that was started. -/
structure BuildStart where
  /-- The command. -/
  command : List String
  /-- The directory that it runs in. -/
  directory : Path
  deriving DecidableEq, Inhabited

/-- A call on the observer of directories. -/
inductive ObserverCall where
  /-- Watch a directory and all below it. -/
  | schedule (directory : Path)
  /-- Start observing. -/
  | start
  /-- Stop observing. -/
  | stop
  /-- Wait until observing has ended. -/
  | join
  deriving DecidableEq

/-! ### The desk -/

/-- What a session works on. -/
structure Desk where
  /-- The disk. -/
  disk : Disk
  /-- The time, in ticks. -/
  now : Nat := 0
  /-- The time as the journal shows it, by the number of records that were made before. -/
  stamp : Nat → String := fun _ => ""
  /-- The journal. -/
  journal : List Record := []
  /-- How the journal is shown, and whether the file that the disk holds open is its log file. -/
  sink : Option (Console × Bool) := none
  /-- What the console has shown. -/
  shown : String := ""
  /-- How deep the values in files may be nested. -/
  room : Json.Room := .usual
  /-- The build tool. -/
  tool : Tool := default
  /-- The builds that were started. -/
  builds : List BuildStart := []
  /-- The calls on the observer. -/
  calls : List ObserverCall := []
  deriving Inhabited

namespace Desk

/-- The console and the log file of a record; there are none before any were set up, and for parts
of the program that are not below it. -/
def sinkOf (d : Desk) (r : Record) : Option (Console × Bool) :=
  d.sink.filter fun _ => Journal.belongs (d.journal.map (·.speaker)) r.speaker

/-- What the console shows of a record. -/
def consoleText (d : Desk) (r : Record) : String :=
  match d.sinkOf r with
  | none => r.bareLine
  | some (console, _) =>
    if console.shows r then (console.consoleLine? (d.stamp d.journal.length) r).getD "" else ""

/-- The disk once a record is in the log file, if it is shown there. -/
def logged (d : Desk) (r : Record) : Disk :=
  match d.sinkOf r with
  | some (console, true) =>
    if console.shows r then
      d.disk.appendHeld (Text.encode ((console.fileLine? (d.stamp d.journal.length) r).getD ""))
    else d.disk
  | _ => d.disk

/-- Enters a record in the journal, on the console and in the log file. -/
def note (r : Record) (d : Desk) : Desk :=
  { d with disk := d.logged r, shown := d.shown ++ d.consoleText r, journal := d.journal ++ [r] }

/-- Enters records in the journal. -/
def noteAll (records : List Record) (d : Desk) : Desk := records.foldl (fun d r => d.note r) d

/-- An action on the disk. -/
def onDisk {α : Type} (a : Act Disk α) : Act Desk α :=
  a.within Desk.disk fun disk d => { d with disk }

end Desk

/-- Shows the journal as a console says from now on, and in a log file, which is made at once.  Its
directory is made as the path says; the file itself is looked for where the path leads without
links. -/
def showJournal (console : Console) (file : Option Path) : Act Desk Unit := do
  if let some file := file then
    Desk.onDisk (Disk.makeRoom file)
    let d ← get
    let disk ← Act.ofExcept Fault.disk (d.disk.hold (d.disk.absolute file))
    set { d with disk }
  modify fun d => { d with sink := some (console, file.isSome) }

/-- Enters a record in the journal. -/
def note (level : Level) (speaker message : String) : Act Desk Unit :=
  modify (Desk.note ⟨level, speaker, message⟩)

/-- Enters records in the journal. -/
def noteAll (records : List Record) : Act Desk Unit := modify (Desk.noteAll records)

end ProbeKit
