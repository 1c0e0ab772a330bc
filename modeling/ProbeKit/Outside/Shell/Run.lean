import ProbeKit.Outside.Shell.Builtin

/-!
# Running scripts

`State.run` runs a command.  Its first argument bounds how deep commands may stand in one another
and how often a loop may turn; a script that needs more ends with a status of its own.  All other
functions of this module are given the function that runs the commands inside a command.

A command ends with a status.  When a row of commands is to end early, the state says so in
`ending`, and whoever is meant takes it out: a loop, a function, or the shell.
-/

namespace ProbeKit.Outside.Shell

namespace State

/-! ### Scripts -/

/-- Runs the commands of a text. -/
def runText (go : Command → State → State) (text : List Char) (s : State) : State :=
  let script := Script.read text
  let s := if script.commands.isEmpty then s.ended 0 else s
  let s := script.commands.foldl (fun s c => if s.goesOn then go c s else s) s
  if script.faulty && s.goesOn then s.abort "Syntax error" else s

/-- Does what is to be done at the end. -/
def finish (go : Command → State → State) (s : State) : State :=
  match s.ending, s.traps.lookup "EXIT" with
  | some (.signal _ _), _ => s
  | _, some action =>
    let done := runText go action.toList
      { s with traps := s.traps.filter (·.1 != "EXIT"), ending := none }
    match done.ending with
    | some .exit => done
    | some (.signal _ _) => done
    | _ => { done with status := s.status, ending := s.ending }
  | _, none => s

/-- Runs a script inside a word, and gives what it prints without line ends at its end. -/
def substitute (go : Command → State → State) (text : List Char) (s : State) : State × List Char :=
  let copy := { (s.copied.bind 1 .caught) with caught := ByteArray.empty, excused := false }
  let copy := finish go (runText go text copy)
  let printed := (Utility.charsOf copy.caught).reverse.dropWhile (· == '\n') |>.reverse
  ({ s.after copy with caught := s.caught, status := s.status, inner := copy.status },
    printed)

/-! ### What streams are bound to -/

/-- Why a file cannot be opened. -/
def openingWords (making : Bool) : DiskError → String
  | .refused .missing _ => if making then "Directory nonexistent" else "No such file"
  | e => Job.wordsOf e

/-- The path that a name stands for. -/
def pathOf (s : State) (name : String) : Path :=
  Job.path { name := s.name, disk := s.disk, here := s.here } name

/-- Opens a file that is written, if it can be. -/
def openFor (s : State) (keeps : Bool) (name : String) : Except DiskError (State × Sink) := do
  let p := s.pathOf name
  if name == "" then throw (.refused .missing p)
  let old := if keeps then (s.disk.read? p).getD ByteArray.empty else ByteArray.empty
  let disk ← s.disk.write p old
  match disk.locate p with
  | .ok (.found place _) => return ({ s with disk }, .file place)
  | _ => return ({ s with disk }, .nowhere)

/-- Binds one stream.  The flag tells whether that went well. -/
def bindOne (run : List Char → State → State × List Char) (s : State) : Redirection → State × Bool
  | .document stream w =>
    let (s, marks) := expandWord run false w s
    (s.bind stream (.source (Text.encode (String.ofList (Mark.text marks)))), s.goesOn)
  | .file stream direction target =>
    let (s, name) := s.text run target
    let opened (making : Bool) (result : Except DiskError (State × Sink)) : State × Bool :=
      match result with
      | .ok (s, sink) => (s.bind stream sink, true)
      | .error e =>
        (s.fail 2 ("cannot " ++ (if making then "create " else "open ") ++ name ++ ": " ++
          openingWords making e), false)
    if !s.goesOn then (s, false)
    else if direction = .copy then
      if name == "-" then (s.rebind stream none, true)
      else
        match (number? name).bind fun n => s.streams.lookup n with
        | some sink => (s.bind stream sink, true)
        | none => (s.fail 2 (name ++ ": Bad file descriptor"), false)
    else if name == "/dev/null" then
      (s.bind stream (if direction = .read then .source ByteArray.empty else .nowhere), true)
    else if name == "/dev/stdout" then (s.rebind stream (s.streams.lookup 1), true)
    else if name == "/dev/stderr" then (s.rebind stream (s.streams.lookup 2), true)
    else
      match direction with
      | .read =>
        opened false <| if name == "" then .error (.refused .missing s.here)
          else (s.disk.read (s.pathOf name)).map fun bytes => (s, .source bytes)
      | .write => opened true (s.openFor false name)
      | _ => opened true (s.openFor true name)

/-- Binds streams, until one cannot be bound. -/
def bindAll (run : List Char → State → State × List Char) (bindings : List Redirection)
    (s : State) :
    State × Bool :=
  bindings.foldl (fun (s, well) b => if well then s.bindOne run b else (s, false)) (s, true)

/-- The stream of a redirection. -/
def streamOf : Redirection → Nat
  | .file stream _ _ => stream
  | .document stream _ => stream

/-- Makes streams what they were before they were bound. -/
def unbindAll (bindings : List Redirection) (before s : State) : State :=
  bindings.foldl (fun s b => s.rebind (streamOf b) (before.streams.lookup (streamOf b))) s

/-! ### Programs -/

/-- Runs a utility.  A utility that is part of the shell complains in the name of the shell. -/
def runJob (f : Job → Outcome) (own : Bool) (name : String) (words : List String) (s : State) :
    State :=
  let j : Job := { name, words, disk := s.disk, here := s.here, input := s.input }
  let o := f j
  let s := if Utility.readsInput j then s.leave ByteArray.empty else s
  let s := { s with disk := o.disk, status := o.status }
  if own then (o.complaints.foldl complain s).print 1 o.output
  else
    o.complaints.foldl (fun s line => s.print 2 (Text.encode (line ++ "\n"))) (s.print 1 o.output)

/-- The flags of a shell and the words behind them. -/
def shellFlags : List Char → List String → List Char × List String
  | flags, [] => (flags, [])
  | flags, word :: rest =>
    match word.toList with
    | ['-', '-'] => (flags, rest)
    | ['-', 'o'] => shellFlags (flags ++ [settingLetter (rest.headD "")]) (rest.drop 1)
    | '-' :: c :: cs => shellFlags (flags ++ c :: cs) rest
    | _ => (flags, word :: rest)
  termination_by _ words => words.length
  decreasing_by all_goals simp only [List.length_cons, List.length_drop]; omega

/-- Runs a shell inside a shell. -/
def runShell (go : Command → State → State) (words : List String) (s : State) : State :=
  let (flags, rest) := shellFlags [] words
  let child : State :=
    { disk := s.disk, here := s.here, pid := s.pid + 1, streams := s.streams, caught := s.caught
      environment := s.environment.filter fun v => v.2.exported
      traps := s.traps.filter (·.2 == "") }
  let child := flags.foldl (fun (child : State) c => child.setting true c) child
  let ends (script : List Char) (child : State) : State :=
    let child := finish go (runText go script child)
    let after := s.after child
    let killed (number : Nat) :=
      { after with status := 128 + number, killer := some number, ending := none }.print 2
        (Text.encode (((signalWords.lookup number).map (· ++ "\n")).getD ""))
    match child.ending with
    | some (.signal number pid) => if pid = child.pid then killed number else after
    | _ => after
  if flags.contains 'c' then
    match rest with
    | [] => s.fail 2 "-c requires an argument"
    | script :: names =>
      ends script.toList { child with name := names.headD "sh", arguments := names.drop 1 }
  else
    match rest with
    | [] => ends (Utility.charsOf s.input) (child.leave ByteArray.empty)
    | file :: arguments =>
      match s.disk.read (s.pathOf file) with
      | .ok bytes => ends (Utility.charsOf bytes) { child with name := file, arguments }
      | .error e => s.fail 2 ("cannot open " ++ file ++ ": " ++ openingWords false e)

/-- The programs that are no utilities: they run other programs, or tell about the shell. -/
def runners : List String :=
  ["sh", "dash", "bash", "env", "xargs", "nohup", "nice", "setsid", "timeout", "pwd", "kill",
    "printenv"]

/-- The directories of programs. -/
def programDirectories : List String := ["/bin/", "/usr/bin/", "/usr/local/bin/"]

/-- Whether there is a program of a name. -/
def isProgram (name : String) : Bool :=
  runners.contains name || (Utility.byName.lookup name).isSome

/-- The program that a name stands for, or why there is none.  A name with a slash is a path, and no
file of the disk can be run. -/
def program (s : State) (name : String) : Except Refused String :=
  if !name.toList.contains '/' then
    if isProgram name then .ok name
    else if name == "" || name == "." || name == ".." then .error .forbidden
    else if Disk.nameLimit < name.utf8ByteSize then .error .tooLong
    else .error .missing
  else
    match programDirectories.find? fun directory => name.startsWith directory with
    | some directory =>
      let name := String.ofList (name.toList.drop directory.length)
      if isProgram name then .ok name else .error .missing
    | none =>
      match s.disk.locate (s.pathOf name) with
      | .ok (.found _ _) => .error .forbidden
      | .ok (.free _) => .error .missing
      | .error reason => .error reason

/-- The listing of the variables that other programs see. -/
def environmentText (s : State) : String :=
  String.join <| (s.environment.filter fun v => v.2.exported).map fun v =>
    v.1 ++ "=" ++ v.2.value.getD "" ++ "\n"

/-- Runs a program.  The first argument bounds how many programs may run one another. -/
def runProgram (go : Command → State → State) : Nat → List String → State → State
  | 0, _, s => s.ended 127
  | _, [], s => s.ended 0
  | k + 1, word :: words, s =>
    match s.program word with
    | .error .missing | .error .notDirectory => s.fail 127 (word ++ ": not found")
    | .error reason =>
      s.fail (if reason = .forbidden && word != "" then 126 else 127) (word ++ ": " ++ reason.words)
    | .ok name =>
      match name with
      | "sh" | "dash" | "bash" => runShell go words s
      | "env" =>
        let words := if words.head? == some "-i" then words.drop 1 else words
        let (settings, command) := words.span fun word => word.toList.contains '='
        let inside := settings.foldl (fun s setting =>
          let (name, value) := setting.toList.span (· != '=')
          (s.put (String.ofList name) (String.ofList (value.drop 1))).change (String.ofList name)
            fun v => { v with exported := true }) s
        if command.isEmpty then (s.print 1 (Text.encode inside.environmentText)).ended 0
        else { runProgram go k command inside with environment := s.environment }
      | "xargs" =>
        let runs := (Utility.charsOf s.input).splitBy fun a b => a.isWhitespace == b.isWhitespace
        let pieces := runs.filter fun run => !(run.headD ' ').isWhitespace
        let (size, command) := match words with
          | "-n" :: n :: rest => (some (Utility.count n), rest)
          | word :: rest =>
            if word.startsWith "-n" then (some (Utility.count word), rest) else (none, words)
          | [] => (none, [])
        let command := if command.isEmpty then ["echo"] else command
        let groups := match size with
          | some n => Utility.groupsOf n (pieces.map String.ofList)
          | none => [pieces.map String.ofList]
        groups.foldl (fun s group =>
          let after := runProgram go k (command ++ group) s
          let status := if after.status = 0 || 125 < after.status then after.status else 123
          after.ended (max s.status status)) ((s.leave ByteArray.empty).ended 0)
      | "timeout" => runProgram go k (words.drop 1) s
      | "nohup" | "nice" | "setsid" => runProgram go k words s
      | "pwd" => (s.print 1 (Text.encode (s.here.text ++ "\n"))).ended 0
      | "printenv" =>
        match words.filterMap s.get? with
        | [] =>
          if words.isEmpty then (s.print 1 (Text.encode s.environmentText)).ended 0
          else s.ended 1
        | values => (s.print 1 (Text.encode (String.join (values.map (· ++ "\n"))))).ended 0
      | "kill" => s.kill words
      | _ =>
        match Utility.byName.lookup name with
        | some f => s.runJob f false name words
        | none => s.ended 127

/-! ### Simple commands -/

/-- Calls a function. -/
def call (go : Command → State → State) (body : Command) (words : List String) (s : State) :
    State :=
  let after := go body { s with arguments := words, outside := [], loops := 0, inFunction := true }
  let after := after.outside.foldr (fun (name, old) s => s.restore name old) after
  let ending := if after.ending = some .back then none else after.ending
  { after with arguments := s.arguments, outside := s.outside, loops := s.loops
               inFunction := s.inFunction, ending }

/-- Runs the commands of a file. -/
def runFile (go : Command → State → State) (name : String) (s : State) : State :=
  let cannot (words : String) := s.abort (".: cannot open " ++ name ++ ": " ++ words)
  if !name.toList.contains '/' then s.abort (".: " ++ name ++ ": not found")
  else
    match s.disk.read (s.pathOf name) with
    | .error e => cannot (openingWords false e)
    | .ok bytes =>
      let after := runText go (Utility.charsOf bytes) s
      if after.ending = some .back then { after with ending := none } else after

/-- Runs a program in place of the shell. -/
def replace (go : Command → State → State) (words : List String) (s : State) : State :=
  let after := runProgram go (words.length + 1) words s
  match after.killer with
  | some number => { after with ending := some (.signal number s.pid) }
  | none => if after.goesOn then after.exit after.status else after

/-- Sends signals, and does what is to be done when they come. -/
def signalAndAct (go : Command → State → State) (words : List String) (s : State) : State :=
  let actions := s.trappedActions words
  let after := s.kill words
  actions.foldl (fun s action =>
    if s.goesOn then
      let done := runText go action.toList s
      if done.goesOn then { done with status := s.status } else done
    else s) after

/-- Tells which command a name stands for. -/
def tellCommand (s : State) (name : String) : State :=
  if (s.functions.lookup name).isSome || specials.contains name || (builtin? name []).isSome ||
      ["eval", "exec", ".", "command", "echo", "printf", "test", "["].contains name then
    (s.print 1 (Text.encode (name ++ "\n"))).ended 0
  else
    match s.program name with
    | .ok program =>
      let shown := if name.toList.contains '/' then name else "/usr/bin/" ++ program
      (s.print 1 (Text.encode (shown ++ "\n"))).ended 0
    | .error _ => s.ended 127

/-- Runs a command by its words.  The first argument bounds how many of them may stand in front of
one another. -/
def perform (go : Command → State → State) : Nat → Bool → List String → State → State
  | 0, _, _, s => s
  | _, _, [], s => s.ended 0
  | k + 1, withFunctions, name :: words, s =>
    match name with
    | "eval" => runText go (" ".intercalate words).toList s
    | "exec" => if words.isEmpty then s.ended 0 else s.replace go words
    | "." =>
      match words with
      | file :: _ => runFile go file s
      | [] => s.ended 0
    | _ =>
      match if withFunctions && !specials.contains name then s.functions.lookup name else none with
      | some body => call go body words s
      | none =>
        match name, words with
        | "kill", _ => signalAndAct go words s
        | "command", "-v" :: words => s.tellCommand (words.headD "")
        | "command", "-p" :: words => perform go k false words s
        | "command", _ => perform go k false words s
        | "type", name :: _ => { s.tellCommand name with caught := s.caught }
        | _, _ =>
          match builtin? name words with
          | some f => f s
          | none =>
            let own := ["echo", "printf", "test", "["].contains name
            match if own then Utility.byName.lookup name else none with
            | some f => s.runJob f true name words
            | none => runProgram go (words.length + 1) (name :: words) s

/-- Gives variables values. -/
def assignAll (run : List Char → State → State × List Char) (values : List (String × Word))
    (exported : Bool) (s : State) : State :=
  values.foldl (fun s (name, w) =>
    if s.goesOn then
      let (s, text) := s.text run w
      if s.goesOn then
        let s := s.assign name text
        if exported then s.change name fun v => { v with exported := true } else s
      else s
    else s) s

/-- Runs a simple command. -/
def runSimple (go : Command → State → State) (line : Nat) (values : List (String × Word))
    (words : List Word) (bindings : List Redirection) (s : State) : State :=
  let run := substitute go
  let s := { s with line := max line 1, inner := 0, killer := none }
  let (s, fields) := s.fields run words
  if !s.goesOn then s
  else
    let special := (fields.head?.map specials.contains).getD false
    let (bound, well) := s.bindAll run bindings
    if !bound.goesOn then bound
    else if !well then
      let s := unbindAll bindings s bound
      if special then s.exit 2 else s
    else
      match fields with
      | [] =>
        let s := unbindAll bindings s (bound.assignAll run values false)
        if s.goesOn then s.ended s.inner else s
      | name :: words =>
        let ready := bound.assignAll run values (!special)
        if !ready.goesOn then ready
        else
          let after := perform go (words.length + 2) true (name :: words) ready
          let after := if special then after else
            values.foldl (fun after (name, _) => after.restore name (s.environment.lookup name))
              after
          if name == "exec" && words.isEmpty then after else unbindAll bindings s after

/-! ### Joined commands -/

/-- Ends a strict script that has failed. -/
def judged (s : State) : State :=
  if s.strict && !s.excused && s.goesOn && s.status ≠ 0 then s.exit s.status else s

/-- Runs a command whose failure is of no matter. -/
def runExcused (go : Command → State → State) (c : Command) (s : State) : State :=
  { go c { s with excused := true } with excused := s.excused }

/-- Runs commands each of which reads what the one before it prints. -/
def runPipeline (go : Command → State → State) : List Command → ByteArray → State → State
  | [], _, s => s
  | [c], input, s =>
    s.after (finish go (go c (s.copied.bind 0 (.source input))))
  | c :: rest, input, s =>
    let copy :=
      { ((s.copied.bind 0 (.source input)).bind 1 .caught) with caught := ByteArray.empty }
    let copy := finish go (go c copy)
    let s := { s with disk := copy.disk, ending := (s.after copy).ending }
    if s.goesOn then runPipeline go rest copy.caught s else s

/-- What a turn of a loop leaves, and whether it was the last. -/
def endTurn (s : State) : State × Bool :=
  match s.ending with
  | none => (s, false)
  | some (.leave n) => ({ s with ending := if n ≤ 1 then none else some (.leave (n - 1)) }, true)
  | some (.next n) =>
    if n ≤ 1 then ({ s with ending := none }, false)
    else ({ s with ending := some (.next (n - 1)) }, true)
  | _ => (s, true)

/-- Turns a loop.  The first argument bounds the number of turns, and the second is the status of
the turn before. -/
def turn (go : Command → State → State) (untilSuccess : Bool) (test body : Command) :
    Nat → Nat → State → State
  | 0, _, s => s.exit 2
  | k + 1, status, s =>
    let (s, last) := endTurn (runExcused go test s)
    if last then s
    else if (s.status = 0) = untilSuccess then s.ended status
    else
      let (s, last) := endTurn (go body s)
      if last then s else turn go untilSuccess test body k s.status s

/-- Turns a loop once for each word. -/
def turnEach (go : Command → State → State) (name : String) (body : Command) :
    List String → State → State
  | [], s => s
  | word :: rest, s =>
    let s := s.assign name word
    if !s.goesOn then s
    else
      let (s, last) := endTurn (go body s)
      if last then s else turnEach go name body rest s

/-- Runs the first command that has a pattern which a text fits. -/
def runChoice (go : Command → State → State) (text : String) :
    List (List Word × Command) → State → State
  | [], s => s.ended 0
  | (patterns, body) :: rest, s =>
    let (s, fits) := patterns.foldl (fun (s, fits) w =>
      if fits || !s.goesOn then (s, fits)
      else
        let (s, pattern) := s.pattern (substitute go) w
        (s, Wildcard.covers (Wildcard.parse pattern) text)) (s, false)
    if !s.goesOn then s else if fits then go body s else runChoice go text rest s

/-- Runs a command. -/
def run : Nat → Command → State → State
  | 0, _, s => s.exit 2
  | k + 1, c, s =>
    let go := run k
    match c with
    | .simple line values words bindings => (s.runSimple go line values words bindings).judged
    | .pipeline parts => (s.runPipeline go parts s.input).judged
    | .negated c =>
      let s := s.runExcused go c
      if s.goesOn then s.ended (if s.status = 0 then 1 else 0) else s
    | .both c d =>
      let s := s.runExcused go c
      if s.goesOn && s.status = 0 then go d s else s
    | .either c d =>
      let s := s.runExcused go c
      if s.goesOn && s.status ≠ 0 then go d s else s
    | .row commands =>
      commands.foldl (fun s c => if s.goesOn then go c s else s)
        (if commands.isEmpty then s.ended 0 else s)
    | .aside c =>
      let copy := { s.copied.bind 0 (.source ByteArray.empty) with excused := false }
      let copy := finish go (go c copy)
      { s.after copy with status := 0, asideJob := some (5000, copy.status) }
    | .subshell c => (s.after (finish go (go c s.copied))).judged
    | .cond test yes no =>
      let s := s.runExcused go test
      if !s.goesOn then s else if s.status = 0 then go yes s else go no s
    | .loop untilSuccess test body =>
      let after := turn go untilSuccess test body k 0 { s with loops := s.loops + 1 }
      { after with loops := s.loops }
    | .each name words body =>
      let (t, fields) := match words with
        | some words => s.fields (substitute go) words
        | none => (s, s.arguments)
      if !t.goesOn then t
      else
        let status := if fields.isEmpty then 0 else t.status
        let first := { t with loops := s.loops + 1, status }
        let after := turnEach go name body fields first
        { after with loops := s.loops }
    | .choice w branches =>
      let (s, text) := s.text (substitute go) w
      if s.goesOn then s.runChoice go text branches else s
    | .function name body =>
      { s with functions := (name, body) :: s.functions.filter (·.1 != name), status := 0 }
    | .bound line c bindings =>
      let s := { s with line }
      let (inside, well) := s.bindAll (substitute go) bindings
      if !inside.goesOn then inside
      else if !well then unbindAll bindings s inside
      else unbindAll bindings s (go c inside)

end State

end ProbeKit.Outside.Shell
