import ProbeKit.Disk.Basic
import ProbeKit.Text.Encoding

/-!
# Jobs

A job is what a utility is given: the words behind its name, a disk with a working directory, and
what it can read.  It comes to an outcome: the disk afterwards, what was printed, what was
complained about, and a status.

Most utilities take options and then do one thing for each of their operands.  `Options.read` sorts
the words, and `Job.forEach` goes through the operands; a complaint about one of them does not keep
the others from their turn.
-/

namespace ProbeKit.Outside.Shell

/-- What a utility is given. -/
structure Job where
  /-- The name of the utility. -/
  name : String
  /-- The words behind the name. -/
  words : List String := []
  /-- The disk. -/
  disk : Disk
  /-- The working directory. -/
  here : Path
  /-- What can be read. -/
  input : ByteArray := ByteArray.empty

/-- What a utility comes to. -/
structure Outcome where
  /-- The disk. -/
  disk : Disk
  /-- What is printed. -/
  output : ByteArray := ByteArray.empty
  /-- What is complained about, line by line. -/
  complaints : List String := []
  /-- The status. -/
  status : Nat := 0

/-! ### Options -/

/-- The words of a job, sorted. -/
structure Options where
  /-- The options without values. -/
  flags : List Char := []
  /-- The options with values. -/
  values : List (Char × String) := []
  /-- The words that are no options. -/
  operands : List String := []
  /-- The first option that is not known. -/
  unknown : Option String := none

/-- What options a utility knows. -/
structure Known where
  /-- The options without values. -/
  flags : String := ""
  /-- The options with values. -/
  values : String := ""
  /-- Long options, each with the letter that it stands for. -/
  long : List (String × Char) := []
  /-- Whether options may stand behind operands. -/
  anywhere : Bool := true

namespace Options

/-- Whether an option was given. -/
def has (o : Options) (c : Char) : Bool := o.flags.contains c

/-- The last value that was given for an option. -/
def value? (o : Options) (c : Char) : Option String :=
  (o.values.filter (·.1 == c)).getLast?.map (·.2)

/-- Reads the letters of a word that begins with a hyphen.  The flag of the result tells whether the
last letter needs the next word for its value. -/
def letters (known : Known) (o : Options) : List Char → Options × Option Char
  | [] => (o, none)
  | c :: rest =>
    if known.values.toList.contains c then
      if rest.isEmpty then (o, some c)
      else ({ o with values := o.values ++ [(c, String.ofList rest)] }, none)
    else if known.flags.toList.contains c then letters known { o with flags := o.flags ++ [c] } rest
    else ({ o with unknown := some (String.ofList [c]) }, none)

/-- Reads a long option. -/
def longWord (known : Known) (o : Options) (word : String) : Options :=
  let (name, value) := (word.toList.drop 2).span (· != '=')
  match known.long.lookup (String.ofList name) with
  | some c =>
    match value with
    | _ :: value => { o with values := o.values ++ [(c, String.ofList value)] }
    | [] => { o with flags := o.flags ++ [c] }
  | none => { o with unknown := some word }

/-- Sorts words. -/
def read (known : Known) : Options → List String → Options
  | o, [] => o
  | o, [word] =>
    match word.toList with
    | ['-', '-'] => o
    | '-' :: '-' :: _ => longWord known o word
    | '-' :: c :: cs =>
      match letters known o (c :: cs) with
      | (o, some c) => { o with unknown := some (String.ofList [c]) }
      | (o, none) => o
    | _ => { o with operands := o.operands ++ [word] }
  | o, word :: next :: rest =>
    match word.toList with
    | ['-', '-'] => { o with operands := o.operands ++ next :: rest }
    | '-' :: '-' :: _ => read known (longWord known o word) (next :: rest)
    | '-' :: c :: cs =>
      match letters known o (c :: cs) with
      | (o, some c) => read known { o with values := o.values ++ [(c, next)] } rest
      | (o, none) => read known o (next :: rest)
    | _ =>
      if known.anywhere then read known { o with operands := o.operands ++ [word] } (next :: rest)
      else { o with operands := o.operands ++ word :: next :: rest }

end Options

/-! ### Jobs -/

namespace Job

/-- The path that a name stands for.  A slash at the end asks for a directory. -/
def path (j : Job) (name : String) : Path :=
  let p := j.here.join name
  match name.toList.reverse with
  | '/' :: _ => if p.names.isEmpty then p else p.child ""
  | _ => p

/-- The path that a name stands for, whether or not there is a slash at its end. -/
def plainPath (j : Job) (name : String) : Path := j.here.join name

/-- Where a name leads; the empty name leads nowhere. -/
def locate (j : Job) (aim : Disk.Aim) (name : String) : Except Refused Disk.Spot :=
  if name == "" then .error .missing else j.disk.locateFor aim (j.path name)

/-- The node that a name leads to. -/
def node? (j : Job) (name : String) : Option Node :=
  if name == "" then none else j.disk.node? (j.path name)

/-- Whether a name leads to something. -/
def hasNode (j : Job) (name : String) : Bool := (j.node? name).isSome

/-- Whether a name leads to a directory. -/
def hasDirectory (j : Job) (name : String) : Bool := ((j.node? name).map Node.isDir).getD false

/-- The bytes of a file. -/
def read (j : Job) (name : String) : Except DiskError ByteArray :=
  if name == "" then .error (.refused .missing j.here) else j.disk.read (j.path name)

/-- Gives a file its bytes. -/
def write (j : Job) (name : String) (bytes : ByteArray) : Except DiskError Disk :=
  if name == "" then .error (.refused .missing j.here) else j.disk.write (j.path name) bytes

/-- A complaint. -/
def complaint (j : Job) (message : String) : String := j.name ++ ": " ++ message

/-- A name in straight quotes. -/
def quoted (name : String) : String := "'" ++ name ++ "'"

/-- A name as it is, or in straight quotes if a shell would not take it as it is. -/
def shown (name : String) : String :=
  let strange := " \t\n!\"$&'()*;<=>?[\\^\x60|".toList
  let first := name.toList.headD '#'
  if first == '#' || first == '~' || name.toList.any strange.contains then quoted name else name

/-- A name in curved quotes. -/
def curved (name : String) : String := "‘" ++ name ++ "’"

/-- The outcome of a job that does nothing. -/
def done (j : Job) : Outcome := { disk := j.disk }

/-- The outcome of a job that only prints. -/
def print (j : Job) (output : ByteArray) : Outcome := { disk := j.disk, output }

/-- The outcome of a job that only prints text. -/
def printText (j : Job) (cs : List Char) : Outcome := j.print (Text.encode (String.ofList cs))

/-- The outcome of a job that fails with a status. -/
def failWith (j : Job) (status : Nat) (message : String) : Outcome :=
  { disk := j.disk, complaints := [j.complaint message], status }

/-- The outcome of a job that fails. -/
def fail (j : Job) (message : String) : Outcome := j.failWith 1 message

/-- The outcome of a job whose words make no sense. -/
def refuse (j : Job) (message : String) : Outcome :=
  { disk := j.disk, status := 1
    complaints := [j.complaint message, "Try '" ++ j.name ++ " --help' for more information."] }

/-- Does something for every operand, one after the other. -/
def forEach (j : Job) (names : List String) (f : Job → String → Outcome) : Outcome :=
  names.foldl (fun (before : Outcome) name =>
    let after := f { j with disk := before.disk } name
    { disk := after.disk
      output := before.output ++ after.output
      complaints := before.complaints ++ after.complaints
      status := max before.status after.status }) j.done

/-- Does something with the options of a job, if all are known and there are operands enough. -/
def withOptions (j : Job) (known : Known) (least : Nat) (f : Options → Outcome) : Outcome :=
  let o := Options.read known {} j.words
  match o.unknown with
  | some word =>
    j.refuse ((if word.startsWith "--" then "unrecognized option " else "invalid option -- ") ++
      quoted word)
  | none =>
    if o.operands.isEmpty && 0 < least then
      j.refuse (if ["touch", "cp", "mv", "ln"].contains j.name then "missing file operand"
        else "missing operand")
    else
      match o.operands with
      | [name] =>
        if least = 2 then j.refuse ("missing destination file operand after " ++ quoted name)
        else f o
      | _ => f o

/-- The bytes of a file, or of what can be read if the name is a hyphen. -/
def bytesOf (j : Job) (name : String) : Except DiskError ByteArray :=
  if name == "-" then .ok j.input else j.read name

/-- A refusal in words. -/
def wordsOf : DiskError → String
  | .refused reason _ => reason.words
  | .linkLoop _ => Refused.words .tooManyLinks

end Job

end ProbeKit.Outside.Shell
