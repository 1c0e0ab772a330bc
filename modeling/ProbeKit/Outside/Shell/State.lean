import ProbeKit.Outside.Shell.Job
import ProbeKit.Outside.Shell.Script

/-!
# The state of a shell

What a script works on while it runs: the disk, a working directory, variables, arguments and
functions, what its streams are bound to, and, once something has ended it, what that was.

A stream is bound to a file, to a text that is read, to whoever waits for what is printed, or to
nothing.  What is printed for someone who waits is kept in `caught`.
-/

namespace ProbeKit.Outside.Shell

/-- What a stream is bound to. -/
inductive Sink where
  /-- To nothing. -/
  | nowhere
  /-- To whoever waits for what is printed. -/
  | caught
  /-- To the file at a place. -/
  | file (place : List String)
  /-- To what is left of a text. -/
  | source (rest : ByteArray)
  deriving Inhabited

/-- A variable. -/
structure Variable where
  /-- The value, if it has one. -/
  value : Option String := none
  /-- Whether other programs see it. -/
  exported : Bool := false
  /-- Whether it cannot be changed. -/
  fixed : Bool := false
  deriving Inhabited

/-- What has ended a row of commands. -/
inductive Ending where
  /-- The shell ends. -/
  | exit
  /-- A signal ends the shell of a number. -/
  | signal (number pid : Nat)
  /-- So many loops end. -/
  | leave (loops : Nat)
  /-- The innermost loops end, and the one around them goes on with its next turn. -/
  | next (loops : Nat)
  /-- A function ends. -/
  | back
  deriving DecidableEq, Inhabited

/-- The state of a shell. -/
structure State where
  /-- The disk. -/
  disk : Disk
  /-- The working directory. -/
  here : Path
  /-- The name of the script. -/
  name : String := "sh"
  /-- The arguments. -/
  arguments : List String := []
  /-- The number of the shell. -/
  pid : Nat := 1000
  /-- The status of the last command. -/
  status : Nat := 0
  /-- What has ended the row of commands, if something has. -/
  ending : Option Ending := none
  /-- The signal that ended the last program, if one did. -/
  killer : Option Nat := none
  /-- The line of the command. -/
  line : Nat := 1
  /-- The variables. -/
  environment : List (String × Variable) := []
  /-- The variables of a function, as they were outside it. -/
  outside : List (String × Option Variable) := []
  /-- The functions. -/
  functions : List (String × Command) := []
  /-- What is done when a signal comes, or at the end. -/
  traps : List (String × String) := []
  /-- What streams are bound to. -/
  streams : List (Nat × Sink) := [(0, .source ByteArray.empty), (1, .nowhere), (2, .nowhere)]
  /-- What was printed for whoever waits. -/
  caught : ByteArray := ByteArray.empty
  /-- The status of the last script inside a word of the command. -/
  inner : Nat := 0
  /-- The number and the status of the last command that the script did not wait for. -/
  asideJob : Option (Nat × Nat) := none
  /-- Whether the first failure ends the script. -/
  strict : Bool := false
  /-- Whether a failure is of no matter at the moment. -/
  excused : Bool := false
  /-- Whether a variable without value is an error. -/
  careful : Bool := false
  /-- Whether wildcards stand for themselves. -/
  plainNames : Bool := false
  /-- In how many loops the command stands. -/
  loops : Nat := 0
  /-- Whether the command stands in a function. -/
  inFunction : Bool := false

namespace State

/-! ### Variables -/

/-- The value of a variable. -/
def get? (s : State) (name : String) : Option String :=
  (s.environment.lookup name).bind Variable.value

/-- Changes a variable. -/
def change (s : State) (name : String) (f : Variable → Variable) : State :=
  let new := f ((s.environment.lookup name).getD {})
  { s with environment := (name, new) :: s.environment.filter (·.1 != name) }

/-- Gives a variable a value, whether or not it can be changed. -/
def put (s : State) (name value : String) : State :=
  s.change name fun v => { v with value := some value }

/-- Makes a variable what it was. -/
def restore (s : State) (name : String) (old : Option Variable) : State :=
  let others := s.environment.filter (·.1 != name)
  { s with environment := match old with
      | some v => (name, v) :: others
      | none => others }

/-- The characters that separate fields. -/
def separators (s : State) : List Char :=
  match s.environment.lookup "IFS" with
  | some v => (v.value.getD "").toList
  | none => [' ', '\t', '\n']

/-! ### Streams -/

/-- Binds a stream. -/
def bind (s : State) (n : Nat) (sink : Sink) : State :=
  { s with streams := (n, sink) :: s.streams.filter (·.1 != n) }

/-- Makes a stream what it was. -/
def rebind (s : State) (n : Nat) (old : Option Sink) : State :=
  let others := s.streams.filter (·.1 != n)
  { s with streams := match old with
      | some sink => (n, sink) :: others
      | none => others }

/-- Prints bytes on a stream. -/
def print (s : State) (n : Nat) (bytes : ByteArray) : State :=
  match s.streams.lookup n with
  | some .caught => { s with caught := s.caught ++ bytes }
  | some (.file place) => { s with disk := s.disk.appendAt place bytes }
  | _ => s

/-- What can be read. -/
def input (s : State) : ByteArray :=
  match s.streams.lookup 0 with
  | some (.source rest) => rest
  | _ => ByteArray.empty

/-- Leaves a rest of what can be read. -/
def leave (s : State) (rest : ByteArray) : State :=
  match s.streams.lookup 0 with
  | some (.source _) => s.bind 0 (.source rest)
  | _ => s

/-- Complains. -/
def complain (s : State) (message : String) : State :=
  s.print 2 (Text.encode (s.name ++ s!": {s.line}: " ++ message ++ "\n"))

/-! ### Endings -/

/-- A command ends with a status. -/
def ended (s : State) (status : Nat) : State := { s with status }

/-- A command fails with a complaint. -/
def fail (s : State) (status : Nat) (message : String) : State := (s.complain message).ended status

/-- The shell ends with a status. -/
def exit (s : State) (status : Nat) : State := { s with status, ending := some .exit }

/-- The shell ends with a complaint. -/
def abort (s : State) (message : String) : State := (s.complain message).exit 2

/-- Whether commands still run. -/
def goesOn (s : State) : Bool := s.ending.isNone

/-! ### Shells inside a shell -/

/-- What remains once a copy of a shell has run: what it did to the disk, what it printed and read,
and its status.  A signal to another shell than the copy is not over yet. -/
def after (s copy : State) : State :=
  let streams := s.streams.map fun (n, sink) =>
    match sink, copy.streams.lookup n with
    | .source _, some (.source rest) => (n, .source rest)
    | _, _ => (n, sink)
  let ending :=
    match copy.ending with
    | some (.signal number pid) => some (Ending.signal number pid)
    | _ => none
  { s with disk := copy.disk, streams, caught := copy.caught, status := copy.status, ending }

/-- A copy of a shell that has not been ended and in which signals are not waited for. -/
def copied (s : State) : State :=
  { s with traps := s.traps.filter (·.2 == ""), ending := none, loops := 0 }

end State

end ProbeKit.Outside.Shell
