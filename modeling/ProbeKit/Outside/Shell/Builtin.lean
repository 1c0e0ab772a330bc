import ProbeKit.Outside.Shell.Expansion
import ProbeKit.Outside.Shell.Utility

/-!
# Commands of the shell itself

The commands that change the shell and so cannot be programs of their own: they go to another
directory, set variables and arguments, leave loops, functions and the shell, and send signals.
The special ones among them end the shell when they fail.
-/

namespace ProbeKit.Outside.Shell

/-! ### Signals -/

/-- The signals by name. -/
def signals : List (String × Nat) :=
  [("HUP", 1), ("INT", 2), ("QUIT", 3), ("ILL", 4), ("TRAP", 5), ("ABRT", 6), ("BUS", 7),
    ("FPE", 8), ("KILL", 9), ("USR1", 10), ("SEGV", 11), ("USR2", 12), ("PIPE", 13), ("ALRM", 14),
    ("TERM", 15),
    ("STKFLT", 16), ("CHLD", 17), ("CONT", 18), ("STOP", 19), ("TSTP", 20), ("TTIN", 21),
    ("TTOU", 22), ("URG", 23), ("XCPU", 24), ("XFSZ", 25), ("VTALRM", 26), ("PROF", 27),
    ("WINCH", 28), ("IO", 29), ("PWR", 30), ("SYS", 31)]

/-- What is said of a program that a signal has ended. -/
def signalWords : List (Nat × String) :=
  [(1, "Hangup"), (3, "Quit"), (4, "Illegal instruction"), (5, "Trace/breakpoint trap"),
    (6, "Aborted"), (7, "Bus error"), (8, "Floating point exception"), (9, "Killed"),
    (10, "User defined signal 1"), (11, "Segmentation fault"), (12, "User defined signal 2"),
    (14, "Alarm clock"), (15, "Terminated"), (16, "Stack fault"),
    (24, "CPU time limit exceeded"), (25, "File size limit exceeded"),
    (26, "Virtual timer expired"), (27, "Profiling timer expired"), (29, "I/O possible"),
    (30, "Power failure"), (31, "Bad system call")]

/-- The signals that end nothing. -/
def harmless : List Nat := [0, 17, 18, 19, 20, 21, 22, 23, 28]

/-- The number of a word of digits. -/
def number? (word : String) : Option Nat :=
  if word != "" && word.toList.all Char.isDigit then some (Expr.ofDigits 10 word.toList) else none

/-- The number of a signal, given by its number or its name. -/
def signal? (word : String) : Option Nat :=
  match number? word with
  | some n => if n ≤ 64 then some n else none
  | none =>
    let word := word.map Char.toUpper
    (signals.find? fun (name, _) => word == name || word == "SIG" ++ name).map (·.2)

/-- What is waited for under a word: the end, or a signal. -/
def occasion? (word : String) : Option String :=
  if word == "EXIT" || word == "0" then some "EXIT" else (signal? word).map toString

namespace State

/-- The number of a word, which must not be larger than thirty-one bits. -/
def smallNumber? (word : String) : Option Nat :=
  match number? word with
  | some n => if n ≤ 2147483647 then some n else none
  | none => none

/-! ### Directories -/

/-- The directory that a name leads to, as it is written. -/
def directoryOf (s : State) (name : String) : Path :=
  ⟨.root, Disk.withoutDots (s.here.join name).names⟩

/-- Goes to another directory. -/
def goTo (s : State) (name : String) (shown : Bool) : State :=
  let p := s.directoryOf name
  if s.disk.hasDirectory p then
    let old := s.here.text
    let s := { s with here := p, status := 0 }
    let s := (s.put "OLDPWD" old).put "PWD" p.text
    if shown then s.print 1 (Text.encode (p.text ++ "\n")) else s
  else s.fail 2 ("cd: can't cd to " ++ name)

/-- Goes to the directory that words name. -/
def changeDirectory (s : State) (words : List String) : State :=
  match words.filter fun word => word != "-P" && word != "-L" && word != "--" with
  | [] =>
    match s.get? "HOME" with
    | some home => s.goTo home false
    | none => s.ended 0
  | "-" :: _ => s.goTo ((s.get? "OLDPWD").getD s.here.text) true
  | name :: _ => if name == "" then s.ended 0 else s.goTo name false

/-! ### Variables -/

/-- Gives a variable a value, unless it cannot be changed. -/
def assign (s : State) (name value : String) : State :=
  if ((s.environment.lookup name).map Variable.fixed).getD false then
    s.abort (name ++ ": is read only")
  else s.put name value

/-- Marks variables, which may get a value at the same time. -/
def declare (s : State) (words : List String) (f : Variable → Variable) : State :=
  words.foldl (fun s word =>
    if !s.goesOn then s
    else
      let (name, value) := word.toList.span (· != '=')
      let name := String.ofList name
      if !Word.isName name.toList then s.abort (name ++ ": bad variable name")
      else
        let s := match value with
          | _ :: value => s.assign name (String.ofList value)
          | [] => s
        if s.goesOn then s.change name f else s) (s.ended 0)

/-- Forgets variables or functions. -/
def unset (s : State) (words : List String) : State :=
  match words with
  | "-f" :: names =>
    { s with functions := s.functions.filter fun f => !names.contains f.1, status := 0 }
  | _ =>
    (words.filter (· != "-v")).foldl (fun s name =>
      if !s.goesOn then s
      else if ((s.environment.lookup name).map Variable.fixed).getD false then
        s.abort ("unset: " ++ name ++ ": is read only")
      else { s with environment := s.environment.filter (·.1 != name) }) (s.ended 0)

/-- Keeps variables for the end of the function, so that it changes only its own. -/
def makeLocal (s : State) (words : List String) : State :=
  let names := words.map fun word => String.ofList (word.toList.takeWhile (· != '='))
  if !s.inFunction then s.abort "local: not in a function"
  else
    let outside := names.map (fun name => (name, s.environment.lookup name)) ++ s.outside
    { s with outside }.declare words id

/-! ### Settings -/

/-- Turns a setting on or off. -/
def setting (s : State) (on : Bool) (letter : Char) : State :=
  match letter with
  | 'e' => { s with strict := on }
  | 'u' => { s with careful := on }
  | 'f' => { s with plainNames := on }
  | _ => s

/-- The letter of a setting with a long name. -/
def settingLetter (name : String) : Char :=
  match name with
  | "errexit" => 'e'
  | "nounset" => 'u'
  | "noglob" => 'f'
  | _ => ' '

/-- Turns settings on and off and sets the arguments. -/
def configure (s : State) : List String → State
  | [] => s.ended 0
  | word :: rest =>
    match word.toList with
    | ['-', '-'] => { s with arguments := rest, status := 0 }
    | [sign, 'o'] =>
      if sign == '-' || sign == '+' then
        match rest with
        | name :: rest => configure (s.setting (sign == '-') (settingLetter name)) rest
        | [] => s.ended 0
      else { s with arguments := word :: rest, status := 0 }
    | '-' :: c :: cs => configure ((c :: cs).foldl (fun s c => s.setting true c) s) rest
    | '+' :: c :: cs => configure ((c :: cs).foldl (fun s c => s.setting false c) s) rest
    | _ => { s with arguments := word :: rest, status := 0 }

/-- Drops arguments at the front. -/
def shift (s : State) (words : List String) : State :=
  match smallNumber? (words.headD "1") with
  | none => s.abort ("shift: Illegal number: " ++ words.headD "")
  | some n =>
    if n ≤ s.arguments.length then { s with arguments := s.arguments.drop n, status := 0 }
    else s.abort "shift: can't shift that many"

/-! ### Leaving -/

/-- The status that a word asks for. -/
def statusOf (s : State) (command : String) (words : List String) (f : Nat → State → State) :
    State :=
  match words with
  | [] => f s.status s
  | word :: _ =>
    match smallNumber? word with
    | some n => f n s
    | none => s.abort (command ++ ": Illegal number: " ++ word)

/-- Leaves loops, or goes on with their next turn. -/
def leaveLoops (s : State) (command : String) (words : List String) (f : Nat → Ending) : State :=
  match smallNumber? (words.headD "1") with
  | some (n + 1) =>
    if s.loops = 0 then s.ended 0
    else { s with status := 0, ending := some (f (min (n + 1) s.loops)) }
  | _ => s.abort (command ++ ": Illegal number: " ++ words.headD "")

/-! ### Signals -/

/-- Sends a signal to a process.  Only the shell and those that wait for it are there. -/
def send (s : State) (number : Nat) (word : String) : State :=
  match number? word with
  | none => s.fail 2 ("kill: Illegal number: " ++ word)
  | some pid =>
    if 1000 ≤ pid && pid ≤ s.pid then
      match s.traps.lookup (toString number) with
      | some _ => s
      | none =>
        if harmless.contains number then s
        else { s with ending := some (.signal number pid) }
    else if (s.asideJob.map (·.1)) == some pid then s
    else s.fail 1 "kill: No such process"

/-- The signal and the processes that the words behind `kill` name. -/
def signalTargets (words : List String) : Option Nat × List String :=
  match words with
  | "-s" :: name :: rest => (signal? name, rest)
  | "--" :: rest => (some 15, rest)
  | word :: rest =>
    match word.toList with
    | '-' :: 's' :: c :: name => (signal? (String.ofList (c :: name)), rest)
    | '-' :: name => (signal? (String.ofList name), rest)
    | _ => (some 15, word :: rest)
  | [] => (none, [])

/-- Sends signals. -/
def kill (s : State) (words : List String) : State :=
  match signalTargets words with
  | (some number, pids) =>
    pids.foldl (fun s pid => if s.goesOn then s.send number pid else s) (s.ended 0)
  | (none, _) => s.fail 2 "kill: invalid signal number or name"

/-- What the shell does with the signals that it sends to itself. -/
def trappedActions (s : State) (words : List String) : List String :=
  match signalTargets words with
  | (some number, pids) =>
    (pids.filter fun pid => pid == toString s.pid).filterMap fun _ =>
      s.traps.lookup (toString number)
  | (none, _) => []

/-- Says what is done on an occasion. -/
def trap (s : State) (words : List String) : State :=
  let words := if words.head? == some "--" then words.drop 1 else words
  let set (action : Option String) (occasions : List String) : State :=
    occasions.foldl (fun s word =>
      match occasion? word with
      | none => s.fail 1 ("trap: " ++ word ++ ": bad trap")
      | some occasion =>
        let others := s.traps.filter (·.1 != occasion)
        { s with traps := match action with
            | some action => (occasion, action) :: others
            | none => others }) (s.ended 0)
  match words with
  | [] => s.ended 0
  | [word] => set none [word]
  | action :: occasions =>
    if action == "-" || (number? action).isSome then
      set none (if action == "-" then occasions else action :: occasions)
    else set (some action) occasions

/-! ### Reading -/

/-- The pieces of a line for so many variables: the last one takes the rest. -/
def readPieces (separators : List Char) : Nat → List Char → List (List Char)
  | 0, _ => []
  | n + 1, cs =>
    let isBlank (c : Char) := separators.contains c && (c == ' ' || c == '\t' || c == '\n')
    let cs := cs.dropWhile isBlank
    if n = 0 then [(cs.reverse.dropWhile isBlank).reverse]
    else
      let (piece, rest) := cs.span fun c => !separators.contains c
      let rest := rest.dropWhile isBlank
      let rest := match rest with
        | c :: more => if separators.contains c then more else rest
        | [] => []
      piece :: readPieces separators n rest

/-- Reads a line into variables. -/
def readLine (s : State) (words : List String) : State :=
  let raw := words.contains "-r"
  let names := words.filter fun word => !word.startsWith "-"
  let (line, rest) := (Utility.charsOf s.input).span (· != '\n')
  let s := s.leave (Text.encode (String.ofList (rest.drop 1)))
  let line := if raw then line else line.filter (· != '\\')
  let values := readPieces s.separators names.length line
  let s := (names.zip values).foldl (fun s (name, value) => s.put name (String.ofList value)) s
  s.ended (if rest.isEmpty then 1 else 0)

/-! ### All of them -/

/-- The special commands. -/
def specials : List String :=
  ["break", "continue", ":", "eval", "exec", "exit", "export", "readonly", "return", "set", "shift",
    "times", "trap", "unset", "."]

/-- What a command of the shell does, if there is one of the name. -/
def builtin? (name : String) (words : List String) : Option (State → State) :=
  match name with
  | ":" | "true" | "times" | "umask" | "ulimit" | "hash" | "alias" | "unalias" | "jobs" | "bg"
  | "fg" =>
    some fun s => s.ended 0
  | "false" => some fun s => s.ended 1
  | "cd" => some fun s => s.changeDirectory words
  | "pwd" => some fun s =>
    let p := if words.contains "-P" then (s.disk.resolve s.here).toOption.getD s.here else s.here
    (s.print 1 (Text.encode (p.text ++ "\n"))).ended 0
  | "exit" => some fun s => s.statusOf name words fun status s => s.exit (status % 256)
  | "return" => some fun s =>
    s.statusOf name words fun status s => { s with status, ending := some .back }
  | "break" => some fun s => s.leaveLoops name words .leave
  | "continue" => some fun s => s.leaveLoops name words .next
  | "export" => some fun s =>
    s.declare (words.filter (· != "-p")) fun v => { v with exported := true }
  | "readonly" =>
    some fun s => s.declare (words.filter (· != "-p")) fun v => { v with fixed := true }
  | "local" => some fun s => s.makeLocal words
  | "unset" => some fun s => s.unset words
  | "set" => some fun s => s.configure words
  | "shift" => some fun s => s.shift words
  | "kill" => some fun s => s.kill words
  | "trap" => some fun s => s.trap words
  | "read" => some fun s => s.readLine words
  | "wait" => some fun s =>
    s.ended <| match words, s.asideJob with
      | [], _ => 0
      | word :: _, some (pid, status) => if word == toString pid then status else 127
      | _, none => 127
  | _ => none

end State

end ProbeKit.Outside.Shell
