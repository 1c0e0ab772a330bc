import ProbeKit.Path.Wildcard
import ProbeKit.Outside.Shell.Arithmetic
import ProbeKit.Outside.Shell.State
import ProbeKit.Outside.Shell.Utility.Texts

/-!
# Expansion

What words stand for when a command runs.  Each part of a word gives marked characters, which tell
whether they were quoted, and gaps, at which one field ends and another begins.  `State.fields`
makes fields of them and puts the names of files in place of wildcards; `State.text` takes them as
one text.

Running the scripts inside words is left to a function that is given.  It may change the state, as
the rules of parameters may; a rule that fails ends the shell.
-/

namespace ProbeKit.Outside.Shell

/-- A piece of what a word stands for. -/
inductive Mark where
  /-- A character. -/
  | char (c : Char) (quoted : Bool)
  /-- Quotes, which make a field even if nothing is inside them. -/
  | quotes
  /-- The end of a field. -/
  | gap
  deriving DecidableEq, Inhabited

namespace Mark

/-- The characters of marks; a gap is a blank. -/
def text (marks : List Mark) : List Char :=
  marks.filterMap fun mark =>
    match mark with
    | .char c _ => some c
    | .quotes => none
    | .gap => some ' '

/-- Characters, all quoted or all not. -/
def ofChars (quoted : Bool) (cs : List Char) : List Mark := cs.map (Mark.char · quoted)

/-- Fields, from the last mark to the first.  Each is kept unless it is empty. -/
def split (marks : List Mark) : List (List Mark) :=
  let (last, fields) := marks.foldr (fun mark (now, fields) =>
    match mark with
    | .gap => ([], if now.isEmpty then fields else now :: fields)
    | mark => (mark :: now, fields)) (([], []) : List Mark × List (List Mark))
  if last.isEmpty then fields else last :: fields

/-- The pattern that marks make: a character that is quoted stands for itself. -/
def pattern (marks : List Mark) : String :=
  String.ofList <| marks.flatMap fun mark =>
    match mark with
    | .char c true => if c == '*' || c == '?' || c == '[' then ['[', c, ']'] else [c]
    | .char c false => [c]
    | .quotes => []
    | .gap => [' ']

/-- Whether marks hold a wildcard. -/
def hasWildcard (marks : List Mark) : Bool :=
  marks.any fun mark => mark = .char '*' false || mark = .char '?' false || mark = .char '[' false

end Mark

namespace State

/-! ### Parameters -/

/-- The value of a parameter that is a single text. -/
def valueOf? (s : State) (name : String) : Option String :=
  match name with
  | "?" => some (toString s.status)
  | "$" => some (toString s.pid)
  | "#" => some (toString s.arguments.length)
  | "!" => s.asideJob.map fun job => toString job.1
  | "-" => some ((if s.strict then "e" else "") ++ (if s.plainNames then "f" else "") ++
      (if s.careful then "u" else ""))
  | "0" => some s.name
  | _ =>
    match name.toList with
    | c :: _ => if c.isDigit then s.arguments[Utility.count name - 1]? else s.get? name
    | [] => none

/-- The marks of a value that is not quoted.  A separator ends a field, and one that is no blank
makes a field even if nothing stands in front of it; the flag tells whether that is so. -/
def splitValue (separators : List Char) : Bool → List Char → List Mark
  | _, [] => []
  | fresh, c :: cs =>
    if !separators.contains c then .char c false :: splitValue separators false cs
    else if c == ' ' || c == '\t' || c == '\n' then .gap :: splitValue separators fresh cs
    else (if fresh then [.quotes, .gap] else [.gap]) ++ splitValue separators true cs

/-- How a value becomes marks. -/
structure Manner where
  /-- Whether it is quoted. -/
  quoted : Bool
  /-- Whether separators in it end fields. -/
  splits : Bool

/-- The marks of a value. -/
def marksOf (s : State) (m : Manner) (value : List Char) : List Mark :=
  if m.quoted then .quotes :: Mark.ofChars true value
  else if m.splits then splitValue s.separators true value
  else Mark.ofChars false value

/-- The marks of all arguments. -/
def argumentMarks (s : State) (m : Manner) (apart : Bool) : List Mark :=
  if m.quoted && !apart then
    let between := s.separators.take 1
    .quotes :: Mark.ofChars true (between.intercalate (s.arguments.map String.toList))
  else [Mark.gap].intercalate (s.arguments.map fun word => s.marksOf m word.toList)

/-! ### Rules -/

/-- The shortest or longest front, or back, of a text that fits a pattern is taken away. -/
def withoutMatch (pattern : String) (front longest : Bool) (cs : List Char) : List Char :=
  let parts := Wildcard.parse pattern
  let lengths := List.range (cs.length + 1)
  let lengths := if longest then lengths.reverse else lengths
  let piece (n : Nat) := if front then cs.take n else cs.drop (cs.length - n)
  match lengths.find? fun n => Wildcard.covers parts (String.ofList (piece n)) with
  | some n => if front then cs.drop n else cs.take (cs.length - n)
  | none => cs

/-- Whether a parameter counts as having a value. -/
def hasValue (value : Option String) (evenIfEmpty : Bool) : Bool :=
  match value with
  | some "" => !evenIfEmpty
  | some _ => true
  | none => false

mutual

/-- What a part of a word stands for.  The first argument runs a script and gives what it prints;
the flag tells whether fields may end inside the word. -/
def expandPart (run : List Char → State → State × List Char) (splits : Bool) :
    WordPart → State → State × List Mark
  | .text quoted cs, s => (s, (if quoted then [.quotes] else []) ++ Mark.ofChars quoted cs)
  | .script quoted text, s =>
    let (s, printed) := run text s
    (s, s.marksOf ⟨quoted, splits⟩ printed)
  | .arithmetic quoted w, s =>
    let (s, marks) := expandWord run false w s
    match (Expr.read (Mark.text marks)).bind fun e => e.eval? s.get? [] with
    | none => (s.abort ("arithmetic expression: " ++ String.ofList (Mark.text marks)), [])
    | some (n, changes) =>
      let s := changes.foldr (fun (name, value) s => s.put name (toString value)) s
      (s, s.marksOf ⟨quoted, splits⟩ (toString n).toList)
  | .parameter quoted name rule w, s =>
    let m : Manner := ⟨quoted, splits⟩
    let isAll := name == "@" || name == "*"
    let value := if isAll then
        if s.arguments.isEmpty then none else some (" ".intercalate s.arguments)
      else s.valueOf? name
    let marks :=
      if isAll then s.argumentMarks m (name == "@") else s.marksOf m (value.getD "").toList
    let cut (front longest : Bool) :=
      let (s, pattern) := expandWord run false w s
      (s, s.marksOf m
        (withoutMatch (Mark.pattern pattern) front longest (value.getD "").toList))
    let mayBeMissing := isAll || (name == "!" && rule = .value)
    if s.careful && value.isNone && rule.needsValue && !mayBeMissing then
      (s.abort (name ++ ": parameter not set"), [])
    else match rule with
    | .value => (s, marks)
    | .length => (s, s.marksOf m (toString (value.getD "").length).toList)
    | .fallback evenIfEmpty =>
      if hasValue value evenIfEmpty then (s, marks) else expandWord run splits w s
    | .alternative evenIfEmpty =>
      if hasValue value evenIfEmpty then expandWord run splits w s
      else (s, if quoted then [.quotes] else [])
    | .assign evenIfEmpty =>
      if hasValue value evenIfEmpty then (s, marks)
      else
        let (s, marks) := expandWord run false w s
        let new := String.ofList (Mark.text marks)
        (s.put name new, s.marksOf m new.toList)
    | .demand evenIfEmpty =>
      if hasValue value evenIfEmpty then (s, marks)
      else
        let (s, marks) := expandWord run false w s
        let reason :=
          if !marks.isEmpty then String.ofList (Mark.text marks)
          else if evenIfEmpty then "parameter not set or null"
          else "parameter not set"
        (s.abort (name ++ ": " ++ reason), [])
    | .cutFront longest => cut true longest
    | .cutBack longest => cut false longest
    | .unknown => (s.abort "Bad substitution", [])

/-- What a word stands for. -/
def expandWord (run : List Char → State → State × List Char) (splits : Bool) :
    List WordPart → State → State × List Mark
  | [], s => (s, [])
  | part :: rest, s =>
    let (s, marks) := expandPart run splits part s
    if s.goesOn then
      let (s, more) := expandWord run splits rest s
      (s, marks ++ more)
    else (s, [])

end

/-- A word with the home directory in place of a tilde at its front. -/
def withHome (s : State) (w : Word) : Word :=
  match w with
  | .text false ('~' :: cs) :: rest =>
    if (cs.isEmpty && rest.isEmpty) || cs.head? == some '/' then
      match s.get? "HOME" with
      | some home => .text true home.toList :: .text false cs :: rest
      | none => w
    else w
  | _ => w

/-! ### Names of files -/

/-- A name of a pattern for paths. -/
inductive NamePart where
  /-- A name. -/
  | name (cs : List Char)
  /-- All names that fit; those that begin with a dot are left out unless the pattern does. -/
  | wildcard (dotted : Bool) (parts : List WildcardPart)

/-- The names of a pattern. -/
def nameParts (marks : List Mark) : List NamePart :=
  let isSlash (mark : Mark) : Bool := mark = .char '/' true || mark = .char '/' false
  (marks.splitOnP isSlash).map fun part =>
    if Mark.hasWildcard part then
      .wildcard ((Mark.text part).head? == some '.') (Wildcard.parse (Mark.pattern part))
    else .name (Mark.text part)

/-- The names of files that fit, from a directory on, which is given by the text in front. -/
def namesFrom (s : State) : List NamePart → List Char → List (List Char)
  | [], front => [front]
  | .name cs :: rest, front =>
    let whole := front ++ cs
    if rest.isEmpty then
      let found := match s.disk.locateFor .entry (s.here.join (String.ofList whole)) with
        | .ok (.found _ _) => true
        | _ => false
      if found then [whole] else []
    else namesFrom s rest (whole ++ ['/'])
  | .wildcard dotted parts :: rest, front =>
    let directory := s.here.join (String.ofList front)
    let names := (if dotted then [".", ".."] else []) ++ s.disk.namesIn directory
    (names.filter fun name =>
      Wildcard.covers parts name && (dotted || !name.startsWith ".") &&
        (rest.isEmpty || s.disk.hasDirectory (directory.join name))).flatMap fun name =>
          namesFrom s rest (front ++ name.toList ++ if rest.isEmpty then [] else ['/'])

/-- The names of files that a field stands for, in order; the field itself if there are none. -/
def filesOf (s : State) (marks : List Mark) : List String :=
  let plain := String.ofList (Mark.text marks)
  if s.plainNames || !Mark.hasWildcard marks then [plain]
  else
    match namesFrom s (nameParts marks) [] with
    | [] => [plain]
    | names => Text.sorted (names.map String.ofList)

/-! ### Words -/

/-- The fields that words stand for. -/
def fields (run : List Char → State → State × List Char) (words : List Word) (s : State) :
    State × List String :=
  words.foldl (fun (s, before) w =>
    if s.goesOn then
      let (s, marks) := expandWord run true (s.withHome w) s
      (s, before ++ (Mark.split marks).flatMap s.filesOf)
    else (s, before)) (s, [])

/-- The one text that a word stands for. -/
def text (run : List Char → State → State × List Char) (w : Word) (s : State) : State × String :=
  let (s, marks) := expandWord run false (s.withHome w) s
  (s, String.ofList (Mark.text marks))

/-- The pattern that a word stands for. -/
def pattern (run : List Char → State → State × List Char) (w : Word) (s : State) : State × String :=
  let (s, marks) := expandWord run false (s.withHome w) s
  (s, Mark.pattern marks)

end State

end ProbeKit.Outside.Shell
