import ProbeKit.Desk
import ProbeKit.Outside.Shell.Run

/-!
# The build tool of the command line

It starts the programs that a shell knows, and a shell among them.  A program that is missing ends
with a status of its own, as if it had been started, and so does every program in a directory that
is not there; any other reason why a program cannot be started is an error.
-/

namespace ProbeKit.Outside.Shell

/-- The status of a program that is missing. -/
def missingStatus : Int := 127

/-- How many turns a loop may take, and how deep commands may stand in one another. -/
def patience : Nat := 100000

/-- The shell in which a program is started. -/
def State.starting (home : Path) (environment : List (String × String)) (here : Path)
    (disk : Disk) : State :=
  let given := ("HOME", home.text) :: ("PATH", "/usr/local/bin:/usr/bin:/bin") :: environment ++
    [("PWD", here.text)]
  { disk, here
    environment := given.map fun (name, value) =>
      (name, { value := some value, exported := true }) }

/-- Starts a program and waits for its end. -/
def start (home : Path) (environment : List (String × String)) (command : List String) (here : Path)
    (disk : Disk) : Except StartError (Disk × Int) :=
  let s := State.starting home environment here disk
  if command.any Disk.hasNull then .error .nullCharacter
  else if !disk.hasDirectory here then .ok (disk, missingStatus)
  else
    let name := command.headD ""
    match s.program name with
    | .error .missing => .ok (disk, missingStatus)
    | .error reason => .error (.refused reason name)
    | .ok _ =>
      let after := s.runProgram (State.run patience) (command.length + 1) command
      let status : Int :=
        match after.ending, after.killer with
        | some (.signal number _), _ => -number
        | _, some number => -number
        | _, none => after.status
      .ok (after.disk, status)

/-- The build tool. -/
def tool (home : Path) (environment : List (String × String)) : Tool where
  start := fun command here disk =>
    (start home environment command here disk).map fun (disk, status) => (disk, some status)

end ProbeKit.Outside.Shell
