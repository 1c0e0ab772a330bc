import ProbeKit.Journal.Template

/-!
# The journal

What a run says about itself is a list of records, each with a level and the part of the program
that speaks.  A `Console` says which records a session shows and how: on the console behind a
prefix that names the session, and in a log file with the time and the part that spoke.  The name
of a session is itself a template, whose fields each record fills in.

The parts of the program have names with dots in them, and what a part says is shown where the
nearest part above it says: `Journal.belongs` tells which parts are below the program.
-/

namespace ProbeKit

/-- How much a record matters. -/
inductive Level where
  /-- For troubleshooting. -/
  | debug
  /-- For information. -/
  | info
  /-- Something odd that was dealt with. -/
  | warning
  /-- A failure. -/
  | error
  /-- A failure that ends everything. -/
  | critical
  deriving DecidableEq, Inhabited

/-- The name of a level. -/
def Level.text : Level → String
  | .debug => "DEBUG"
  | .info => "INFO"
  | .warning => "WARNING"
  | .error => "ERROR"
  | .critical => "CRITICAL"

/-- The rank of a level. -/
def Level.rank : Level → Nat
  | .debug => 10
  | .info => 20
  | .warning => 30
  | .error => 40
  | .critical => 50

/-- One entry of the journal. -/
structure Record where
  /-- How much it matters. -/
  level : Level
  /-- The part of the program that speaks; empty for the program as a whole. -/
  speaker : String
  /-- What it says. -/
  message : String
  deriving DecidableEq, Inhabited

namespace Journal

/-- The name of the program. -/
def programName : String := "probegen"

/-- The full name of a part of the program. -/
def fullName (speaker : String) : String :=
  if speaker.isEmpty then programName else programName ++ "." ++ speaker

/-- The prefix of console lines; it names the session if that has a name. -/
def consolePrefix (session : String) : String :=
  if session.isEmpty then "[" ++ programName ++ "]"
  else "[" ++ programName ++ ":" ++ session ++ "]"

/-! ### Parts of the program -/

/-- The names above a name, both as reversed characters, the nearest first.  A name is cut at its
dots, but not at a dot that stands right in front of another cut. -/
def namesAbove : Nat → List Char → List (List Char)
  | 0, _ => []
  | fuel + 1, cs =>
    match cs.dropWhile (· != '.') with
    | '.' :: above => if above.isEmpty then [] else above :: namesAbove fuel above.tail
    | _ => []

/-- Whether a name is below the program: the nearest name above it that is known is the program's
or is below it.  The number bounds how many names are above each other. -/
def isBelow (known : List String) : Nat → String → Bool
  | 0, _ => false
  | fuel + 1, name =>
    name == programName ||
      ((((namesAbove name.length name.toList.reverse).map fun cs => String.ofList cs.reverse).find?
        fun above => above == programName || known.contains above).any (isBelow known fuel))

/-- Whether a part of the program is below the program, given the parts that have spoken. -/
def belongs (spoken : List String) (speaker : String) : Bool :=
  let name := fullName speaker
  isBelow (spoken.map fullName) (name.length + 1) name

end Journal

/-- The value of a field of a record that is shown with the time at which it was made. -/
def Record.field? (r : Record) (time : String) : String → Option Template.Value
  | "asctime" => some (.text time)
  | "name" => some (.text (Journal.fullName r.speaker))
  | "levelname" => some (.text r.level.text)
  | "levelno" => some (.number r.level.rank)
  | "message" | "msg" => some (.text r.message)
  | "threadName" => some (.text "MainThread")
  | "processName" => some (.text "MainProcess")
  | "exc_info" | "exc_text" | "stack_info" => some (.other "None")
  | "args" => some (.other "()")
  | _ => none

/-- How a session shows its records. -/
structure Console where
  /-- The name of the session, empty if it has none. -/
  session : String := ""
  /-- Whether records for troubleshooting are shown. -/
  verbose : Bool := false
  deriving DecidableEq, Inhabited

namespace Console

/-- Whether a record is shown. -/
def shows (c : Console) (r : Record) : Bool := c.verbose || r.level != .debug

/-- A record on the console, if the name of the session can be filled in. -/
def consoleLine? (c : Console) (time : String) (r : Record) : Option String :=
  (Template.fill? (r.field? time)
    (Journal.consolePrefix c.session ++ " %(levelname)s %(message)s")).map (· ++ "\n")

/-- A record in a log file, behind the time, if the name of the session can be filled in. -/
def fileLine? (c : Console) (time : String) (r : Record) : Option String :=
  (Template.fill? (r.field? time) ("%(asctime)s " ++
    (if c.session.isEmpty then "-" else c.session) ++
      " %(levelname)s %(name)s: %(message)s")).map (· ++ "\n")

end Console

/-- A record before any session is set up: only from warnings on, and bare. -/
def Record.bareLine (r : Record) : String :=
  if Level.warning.rank ≤ r.level.rank then r.message ++ "\n" else ""

end ProbeKit
