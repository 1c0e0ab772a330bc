import ProbeKit.Outside.Shell.Token

/-!
# Scripts

A script is a list of commands.  A simple command has words; the others join commands: in a row,
under a condition, in a loop, with the output of one as the input of the next.

`Script.read` reads a script.  A script is read line by line: where a line, with the lines that it
goes on in, is no list of commands, the commands before it still stand, and `faulty` is set.
-/

namespace ProbeKit.Outside.Shell

/-- What a stream of a command is bound to. -/
inductive Redirection where
  /-- A file, or another stream. -/
  | file (stream : Nat) (direction : Direction) (target : Word)
  /-- A text. -/
  | document (stream : Nat) (w : Word)
  deriving Inhabited

/-- A command. -/
inductive Command where
  /-- Values for variables, words, and what streams are bound to. -/
  | simple (line : Nat) (values : List (String × Word)) (words : List Word)
      (bindings : List Redirection)
  /-- Each command reads what the one before it prints. -/
  | pipeline (parts : List Command)
  /-- Fails when the command succeeds. -/
  | negated (c : Command)
  /-- The second command runs if the first succeeds. -/
  | both (c d : Command)
  /-- The second command runs if the first fails. -/
  | either (c d : Command)
  /-- Commands in a row. -/
  | row (commands : List Command)
  /-- The script does not wait for the command. -/
  | aside (c : Command)
  /-- What the command changes in the shell does not outlive it. -/
  | subshell (c : Command)
  /-- The first command decides which of the others runs. -/
  | cond (test yes no : Command)
  /-- The second command runs again and again as long as the first succeeds, or fails. -/
  | loop (untilSuccess : Bool) (test body : Command)
  /-- The command runs once for each field, or for each argument. -/
  | each (name : String) (words : Option (List Word)) (body : Command)
  /-- The first command with a pattern that the word fits. -/
  | choice (w : Word) (branches : List (List Word × Command))
  /-- The command gets a name. -/
  | function (name : String) (body : Command)
  /-- A command with what streams are bound to. -/
  | bound (line : Nat) (c : Command) (bindings : List Redirection)
  deriving Inhabited

namespace Command

/-! ### Pieces -/

/-- What a reader of commands gives: a value and the tokens that follow. -/
abbrev Found (α : Type) : Type := Option (α × List Token)

/-- The tokens behind the ends of lines. -/
def skipLines : List Token → List Token
  | .lineEnd :: rest => skipLines rest
  | tokens => tokens

/-- What follows a word that is nothing but the given text. -/
def afterWord? (text : String) : List Token → Option (List Token)
  | token :: rest => if token.bareText? = some text then some rest else none
  | [] => none

/-- The words that end a list of commands. -/
def closers : List String := ["then", "else", "elif", "fi", "do", "done", "esac", "\x7d"]

/-- Whether a list of commands ends here. -/
def atEnd : List Token → Bool
  | [] => true
  | .fault :: _ => false
  | .sign ")" :: _ => true
  | .sign ";;" :: _ => true
  | token :: _ => (token.bareText?.map closers.contains).getD false

/-- The variable and the value of a word that sets a variable. -/
def value? : Word → Option (String × Word)
  | .text false cs :: rest =>
    match cs.span (· != '=') with
    | (name, _ :: value) =>
      if Word.isName name then
        some (String.ofList name, if value.isEmpty then rest else .text false value :: rest)
      else none
    | _ => none
  | _ => none

/-- What a stream is bound to, if tokens say so. -/
def binding? : List Token → Found Redirection
  | .file stream direction :: .word _ w :: rest => some (.file stream direction w, rest)
  | .document stream w :: rest => some (.document stream w, rest)
  | _ => none

/-- What streams are bound to.  The first argument bounds the number of steps. -/
def takeBindings : Nat → List Token → List Redirection × List Token
  | 0, tokens => ([], tokens)
  | k + 1, tokens =>
    match binding? tokens with
    | none => ([], tokens)
    | some (b, rest) =>
      let (more, rest) := takeBindings k rest
      (b :: more, rest)

/-- The line of the first word. -/
def lineOf : List Token → Nat
  | .word line _ :: _ => line
  | _ :: rest => lineOf rest
  | [] => 1

/-- A command with what its streams are bound to. -/
def withBindings (line : Nat) (c : Command) (tokens : List Token) : Command × List Token :=
  match takeBindings tokens.length tokens with
  | ([], rest) => (c, rest)
  | (bindings, rest) => (.bound line c bindings, rest)

/-- A simple command.  The first argument bounds the number of steps. -/
def takeSimple : Nat → List (String × Word) → List Word → List Redirection → Nat → List Token →
    Found Command
  | 0, _, _, _, _, _ => none
  | k + 1, values, words, bindings, line, tokens =>
    match binding? tokens with
    | some (b, rest) => takeSimple k values words (bindings ++ [b]) line rest
    | none =>
      match tokens with
      | .word here w :: rest =>
        let line := if line = 0 then here else line
        match if words.isEmpty then value? w else none with
        | some value => takeSimple k (values ++ [value]) words bindings line rest
        | none => takeSimple k values (words ++ [w]) bindings line rest
      | .file _ _ :: _ => none
      | .fault :: _ => none
      | .sign "(" :: _ => none
      | _ =>
        if values.isEmpty && words.isEmpty && bindings.isEmpty then none
        else some (.simple line values words bindings, tokens)

/-- The words up to the end of a line or a semicolon. -/
def takeWords : List Token → Found (List Word)
  | .word _ w :: rest => (takeWords rest).map fun (ws, after) => (w :: ws, after)
  | .sign ";" :: rest => some ([], rest)
  | .lineEnd :: rest => some ([], rest)
  | _ => none

/-- The patterns of a branch, with a line between every two of them. -/
def takePatterns : List Token → Found (List Word)
  | .word _ w :: .sign "|" :: rest => (takePatterns rest).map fun (ws, after) => (w :: ws, after)
  | .word _ w :: .sign ")" :: rest => some ([w], rest)
  | _ => none

/-! ### Commands -/

/-- What is read next. -/
inductive Goal where
  /-- Commands in a row, over lines if `across` says so. -/
  | row (across : Bool)
  /-- Commands joined by conditions. -/
  | joined
  /-- Commands joined by pipes. -/
  | pipeline
  /-- One command. -/
  | command
  /-- What follows `if` or `elif`. -/
  | cond
  /-- The branches of a choice. -/
  | branches (w : Word)

/-- Reads on behind a first command as long as it is followed by a condition. -/
def joinFrom (go : Goal → List Token → Found Command) : Nat → Command → List Token → Found Command
  | 0, _, _ => none
  | k + 1, c, tokens =>
    match tokens with
    | .sign "&&" :: rest =>
      (go .pipeline (skipLines rest)).bind fun (d, rest) => joinFrom go k (.both c d) rest
    | .sign "||" :: rest =>
      (go .pipeline (skipLines rest)).bind fun (d, rest) => joinFrom go k (.either c d) rest
    | _ => some (c, tokens)

/-- Reads on behind a first command as long as it is followed by a pipe. -/
def pipeFrom (go : Goal → List Token → Found Command) :
    Nat → List Command → List Token → Found Command
  | 0, _, _ => none
  | k + 1, parts, tokens =>
    match tokens with
    | .sign "|" :: rest =>
      (go .command (skipLines rest)).bind fun (d, rest) => pipeFrom go k (parts ++ [d]) rest
    | _ =>
      match parts with
      | [c] => some (c, tokens)
      | _ => some (.pipeline parts, tokens)

/-- Reads commands joined by pipes. -/
def readPipe (go : Goal → List Token → Found Command) (tokens : List Token) : Found Command :=
  (go .command tokens).bind fun (c, rest) => pipeFrom go (rest.length + 1) [c] rest

/-- Reads commands in a row. -/
def rowFrom (go : Goal → List Token → Found Command) (across : Bool) :
    Nat → List Command → List Token → Found Command
  | 0, _, _ => none
  | k + 1, before, tokens =>
    let tokens := if across then skipLines tokens else tokens
    let stop := match tokens with
      | .lineEnd :: _ => true
      | _ => atEnd tokens
    if stop then some (.row before, tokens)
    else
      (go .joined tokens).bind fun (c, rest) =>
        match rest with
        | .sign ";" :: rest => rowFrom go across k (before ++ [c]) rest
        | .sign "&" :: rest => rowFrom go across k (before ++ [.aside c]) rest
        | .lineEnd :: _ => rowFrom go across k (before ++ [c]) rest
        | _ => if atEnd rest then some (.row (before ++ [c]), rest) else none

/-- Whether a command that was read as a row has commands. -/
def isFilled : Command → Bool
  | .row [] => false
  | _ => true

/-- Reads a row that is not empty up to a word. -/
def rowUntil (go : Goal → List Token → Found Command) (text : String) (tokens : List Token) :
    Found Command :=
  (go (.row true) tokens).bind fun (c, rest) =>
    if isFilled c then (afterWord? text rest).map fun rest => (c, rest) else none

/-- What follows `then`. -/
def afterThen (go : Goal → List Token → Found Command) (test : Command) (tokens : List Token) :
    Found Command :=
  (go (.row true) tokens).bind fun (yes, rest) =>
    if !isFilled yes then none
    else
      match (rest.head?.bind Token.bareText?, rest.drop 1) with
      | (some "fi", rest) => some (.cond test yes (.row []), rest)
      | (some "else", rest) =>
        (rowUntil go "fi" rest).map fun (no, rest) => (.cond test yes no, rest)
      | (some "elif", rest) => (go .cond rest).map fun (no, rest) => (.cond test yes no, rest)
      | _ => none

/-- The loop behind `for`. -/
def eachLoop (go : Goal → List Token → Found Command) : List Token → Found Command
  | .word _ w :: rest =>
    match w.bareText? with
    | none => none
    | some name =>
      let behind (words : Option (List Word)) (rest : List Token) : Found Command :=
        ((afterWord? "do" (skipLines rest)).bind (rowUntil go "done")).map fun (body, rest) =>
          (.each name words body, rest)
      if !Word.isName name.toList then none
      else
        match afterWord? "in" (skipLines rest) with
        | some rest => (takeWords rest).bind fun (words, rest) => behind (some words) rest
        | none =>
          match rest with
          | .sign ";" :: rest => behind none rest
          | _ => behind none rest
  | _ => none

/-- One command that is not simple, if tokens begin one; `none` if they do not. -/
def compound? (go : Goal → List Token → Found Command) (tokens : List Token) :
    Option (Found Command) :=
  match tokens with
  | .sign "(" :: rest =>
    some <| (go (.row true) rest).bind fun (c, rest) =>
      match rest with
      | .sign ")" :: rest => if isFilled c then some (.subshell c, rest) else none
      | _ => none
  | token :: rest =>
    match token.bareText? with
    | some "\x7b" => some (rowUntil go "\x7d" rest)
    | some "if" => some (go .cond rest)
    | some "while" =>
      some <| (rowUntil go "do" rest).bind fun (test, rest) =>
        (rowUntil go "done" rest).map fun (body, rest) => (.loop false test body, rest)
    | some "until" =>
      some <| (rowUntil go "do" rest).bind fun (test, rest) =>
        (rowUntil go "done" rest).map fun (body, rest) => (.loop true test body, rest)
    | some "for" => some (eachLoop go rest)
    | some "case" =>
      match rest with
      | .word _ w :: rest =>
        some <| (afterWord? "in" (skipLines rest)).bind fun rest => go (.branches w) rest
      | _ => some none
    | some word => if closers.contains word || word == "!" then some none else none
    | none => none
  | [] => none

/-- The name of a function, if tokens begin one, and what follows the parentheses. -/
def functionName? : List Token → Option (String × List Token)
  | .word _ w :: .sign "(" :: .sign ")" :: rest => w.bareText?.map fun name => (name, rest)
  | _ => none

/-- Reads what is wanted.  The first argument bounds the depth and the number of steps. -/
def readGoal : Nat → Goal → List Token → Found Command
  | 0, _, _ => none
  | k + 1, goal, tokens =>
    let go := readGoal k
    match goal with
    | .row across => rowFrom go across (tokens.length + 1) [] tokens
    | .joined => (go .pipeline tokens).bind fun (c, rest) => joinFrom go (rest.length + 1) c rest
    | .pipeline =>
      match afterWord? "!" tokens with
      | some rest => (readPipe go rest).map fun (c, rest) => (.negated c, rest)
      | none => readPipe go tokens
    | .command =>
      match functionName? tokens with
      | some (name, rest) =>
        (go .command (skipLines rest)).map fun (body, rest) => (.function name body, rest)
      | none =>
        match compound? go tokens with
        | some found => found.map fun (c, rest) => withBindings (lineOf tokens) c rest
        | none => takeSimple (tokens.length + 1) [] [] [] 0 tokens
    | .cond => (rowUntil go "then" tokens).bind fun (test, rest) => afterThen go test rest
    | .branches w =>
      let tokens := skipLines tokens
      match afterWord? "esac" tokens with
      | some rest => some (.choice w [], rest)
      | none =>
        let tokens := match tokens with
          | .sign "(" :: rest => rest
          | _ => tokens
        (takePatterns tokens).bind fun (patterns, rest) =>
          (go (.row true) rest).bind fun (body, rest) =>
            let others :=
              match rest with
              | .sign ";;" :: rest => go (.branches w) rest
              | _ => (afterWord? "esac" rest).map fun rest => (.choice w [], rest)
            others.map fun (c, rest) =>
              match c with
              | .choice _ branches => (.choice w ((patterns, body) :: branches), rest)
              | _ => (c, rest)

end Command

/-- A script. -/
structure Script where
  /-- The commands. -/
  commands : List Command := []
  /-- Whether something that is no command follows them. -/
  faulty : Bool := false
  deriving Inhabited

namespace Script

/-- Reads the commands of a script line by line.  The first argument bounds the number of lines. -/
def readLines (depth : Nat) : Nat → List Command → List Token → Script
  | 0, before, _ => ⟨before, true⟩
  | k + 1, before, tokens =>
    match Command.skipLines tokens with
    | [] => ⟨before, false⟩
    | tokens =>
      match Command.readGoal depth (.row false) tokens with
      | some (c, []) => ⟨before ++ [c], false⟩
      | some (c, .lineEnd :: rest) => readLines depth k (before ++ [c]) rest
      | _ => ⟨before, true⟩

/-- Reads a script. -/
def read (text : List Char) : Script :=
  let tokens := Token.read text
  readLines (8 * tokens.length + 8) (tokens.length + 1) [] tokens

end Script

end ProbeKit.Outside.Shell
