import ProbeKit.Outside.Shell.Word

/-!
# Tokens of a script

A script is cut into words, signs between commands, signs for files and line ends.  What stands
between the lines behind `<<` and its end mark is taken out of the script when the sign is met.
The tokens end with `fault` where a quotation does not end.
-/

namespace ProbeKit.Outside.Shell

/-- What is done with the file behind a sign. -/
inductive Direction where
  /-- It is read. -/
  | read
  /-- It is emptied and written. -/
  | write
  /-- It is written at its end. -/
  | append
  /-- It is read and kept. -/
  | keep
  /-- It is the number of another stream, whose place is taken over. -/
  | copy
  deriving DecidableEq, Inhabited

/-- A token. -/
inductive Token where
  /-- A word, with the number of its line. -/
  | word (line : Nat) (w : Word)
  /-- A sign between commands. -/
  | sign (text : String)
  /-- The end of a line. -/
  | lineEnd
  /-- A sign for a file, with the number of the stream; the word behind it names the file. -/
  | file (stream : Nat) (direction : Direction)
  /-- A text that is read in place of a file. -/
  | document (stream : Nat) (w : Word)
  /-- Something that does not end. -/
  | fault
  deriving Inhabited

namespace Token

/-- The word of a token, if it is nothing but text outside quotes. -/
def bareText? : Token → Option String
  | .word _ w => w.bareText?
  | _ => none

/-! ### Texts in a script -/

/-- The lines in front of an end mark and what follows it.  The end of the script is an end, too. -/
def linesUntil (mark : List Char) (strip : Bool) :
    List (List Char) → List (List Char) × List (List Char)
  | [] => ([], [])
  | line :: rest =>
    let line := if strip then line.dropWhile (· == '\t') else line
    if line = mark then ([], rest)
    else
      let (lines, after) := linesUntil mark strip rest
      (line :: lines, after)

/-- Takes the text up to an end mark out of the lines behind the one that is being read. -/
def takeDocument (mark : List Char) (strip : Bool) (cs : List Char) : List Char × List Char :=
  match cs.span (· != '\n') with
  | (_, []) => ([], cs)
  | (line, _ :: below) =>
    let below := match below.reverse with
      | '\n' :: shorter => shorter.reverse
      | _ => below
    let (lines, after) := linesUntil mark strip (below.splitOn '\n')
    (lines.flatMap (· ++ ['\n']), line ++ '\n' :: ['\n'].intercalate after)

/-! ### Reading -/

/-- The sign for a file at the front of a text. -/
def takeDirection? : List Char → Option (Direction × Nat × List Char)
  | '<' :: '>' :: rest => some (.keep, 0, rest)
  | '<' :: '&' :: rest => some (.copy, 0, rest)
  | '<' :: rest => some (.read, 0, rest)
  | '>' :: '>' :: rest => some (.append, 1, rest)
  | '>' :: '&' :: rest => some (.copy, 1, rest)
  | '>' :: '|' :: rest => some (.write, 1, rest)
  | '>' :: rest => some (.write, 1, rest)
  | _ => none

/-- The sign between commands at the front of a text. -/
def takeSign? : List Char → Option (String × List Char)
  | '&' :: '&' :: rest => some ("&&", rest)
  | '|' :: '|' :: rest => some ("||", rest)
  | ';' :: ';' :: rest => some (";;", rest)
  | '&' :: rest => some ("&", rest)
  | '|' :: rest => some ("|", rest)
  | ';' :: rest => some (";", rest)
  | '(' :: rest => some ("(", rest)
  | ')' :: rest => some (")", rest)
  | _ => none

/-- The number of a stream that stands right in front of a sign for a file. -/
def takeStream? : List Char → Option (Nat × List Char)
  | c :: d :: rest =>
    if c.isDigit && (d == '<' || d == '>') then some (c.toNat - '0'.toNat, d :: rest) else none
  | _ => none

/-- The tokens of a text from a line on.  The first argument bounds the number of steps; more of
them than there are characters is enough. -/
def readFrom : Nat → Nat → List Char → List Token
  | 0, _, _ => []
  | _ + 1, _, [] => []
  | k + 1, line, c :: rest =>
    let go := readFrom k
    let (stream, cs) :=
      match takeStream? (c :: rest) with
      | some (stream, cs) => (some stream, cs)
      | none => (none, c :: rest)
    let document (strip : Bool) (rest : List Char) :=
      match Word.read (rest.dropWhile Word.isBlank) with
      | none => [.fault]
      | some (mark, rest) =>
        let (body, rest) := takeDocument mark.textOf strip rest
        match if mark.hasQuotes then some [.text true body] else Word.ofDocument body with
        | none => [.fault]
        | some w => .document (stream.getD 0) w :: go line rest
    if Word.isBlank c then go line rest
    else if c == '\n' then .lineEnd :: go (line + 1) rest
    else if c == '#' then go line (rest.dropWhile (· != '\n'))
    else
      match c, rest with
      | '\\', '\n' :: more => go (line + 1) more
      | _, _ =>
        match cs with
        | '<' :: '<' :: '-' :: rest => document true rest
        | '<' :: '<' :: rest => document false rest
        | _ =>
          match takeDirection? cs with
          | some (direction, own, rest) => .file (stream.getD own) direction :: go line rest
          | none =>
            match takeSign? cs with
            | some (text, rest) => .sign text :: go line rest
            | none =>
              match Word.read cs with
              | none => [.fault]
              | some (w, rest) =>
                .word line w :: go (line + (cs.take (cs.length - rest.length)).count '\n') rest

/-- The tokens of a script. -/
def read (script : List Char) : List Token := readFrom (script.length + 1) 1 script

end Token

end ProbeKit.Outside.Shell
