import ProbeKit.Outside.Shell.Utility.Texts

/-!
# Editing lines

The utility that edits texts line by line.  A script is a list of edits, each for the lines that its
range selects: lines by number, the last line, or lines in which a pattern occurs.
-/

namespace ProbeKit.Outside.Shell.Utility

/-- What selects a line. -/
inductive LineMark where
  /-- Its number. -/
  | number (n : Nat)
  /-- That it is the last one. -/
  | final
  /-- A pattern. -/
  | pattern (alternatives : List Alternative)

/-- What is done with a line. -/
inductive Action where
  /-- Pieces are replaced; an ampersand stands for the piece. -/
  | replace (alternatives : List Alternative) (new : List Char) (every anyCase shown : Bool)
  /-- It is left out. -/
  | delete
  /-- It is shown once more. -/
  | print
  /-- It is the last one. -/
  | quit

/-- An edit. -/
structure Edit where
  /-- Where it begins. -/
  first : Option LineMark := none
  /-- Where it ends, if it is for more lines than one. -/
  last : Option LineMark := none
  /-- Whether it is for all other lines. -/
  elsewhere : Bool := false
  /-- What is done. -/
  action : Action

namespace Edit

/-! ### Reading -/

/-- The text up to a mark; a backslash in front of the mark goes away. -/
def takeUntil? (mark : Char) : List Char → Option (List Char × List Char)
  | [] => none
  | '\\' :: c :: rest =>
    (takeUntil? mark rest).map fun (text, after) =>
      (if c == mark then (c :: text, after) else ('\\' :: c :: text, after))
  | c :: rest =>
    if c == mark then some ([], rest)
    else (takeUntil? mark rest).map fun (text, after) => (c :: text, after)

/-- The mark of a line at the front of a text. -/
def takeLineMark? (style : PatternStyle) : List Char → Option (LineMark × List Char)
  | '$' :: rest => some (.final, rest)
  | '/' :: rest =>
    (takeUntil? '/' rest).map fun (text, after) => (.pattern (Pattern.read style text), after)
  | c :: rest =>
    if c.isDigit then
      let (digits, after) := (c :: rest).span Char.isDigit
      some (.number (Expr.ofDigits 10 digits), after)
    else none
  | [] => none

/-- The action at the front of a text. -/
def takeAction? (style : PatternStyle) : List Char → Option (Action × List Char)
  | 'd' :: rest => some (.delete, rest)
  | 'p' :: rest => some (.print, rest)
  | 'q' :: rest => some (.quit, rest)
  | 's' :: mark :: rest => do
    let (pattern, rest) ← takeUntil? mark rest
    let (new, rest) ← takeUntil? mark rest
    let (flags, rest) := rest.span fun c => c == 'g' || c == 'i' || c == 'I' || c == 'p'
    let anyCase := flags.contains 'i' || flags.contains 'I'
    let every := flags.contains 'g'
    return (.replace (Pattern.read style pattern) new every anyCase (flags.contains 'p'), rest)
  | _ => none

/-- Whether a character separates edits. -/
def separates (c : Char) : Bool := c == ';' || c == '\n' || c == ' ' || c == '\t'

/-- The edits of a script.  The first argument bounds the number of steps. -/
def readFrom (style : PatternStyle) : Nat → List Char → Option (List Edit)
  | 0, _ => none
  | k + 1, cs =>
    let cs := cs.dropWhile separates
    if cs.isEmpty then some []
    else do
      let (first, cs) := match takeLineMark? style cs with
        | some (mark, rest) => (some mark, rest)
        | none => (none, cs)
      let (last, cs) ← match first, cs with
        | some _, ',' :: rest =>
          (takeLineMark? style rest).map fun (mark, rest) => (some mark, rest)
        | _, _ => some (none, cs)
      let cs := cs.dropWhile (· == ' ')
      let (elsewhere, cs) := match cs with
        | '!' :: rest => (true, rest)
        | _ => (false, cs)
      let (action, cs) ← takeAction? style cs
      if !(cs.head?.map separates).getD true then none
      else
        let more ← readFrom style k cs
        return ⟨first, last, elsewhere, action⟩ :: more

/-! ### Editing -/

/-- Whether a mark selects a line. -/
def marks (line : List Char) (number : Nat) (isLast : Bool) : LineMark → Bool
  | .number n => n = number
  | .final => isLast
  | .pattern alternatives => Pattern.occursIn false alternatives line

/-- Whether an edit is for a line, and whether its range goes on behind it.  The flag tells whether
the range has begun. -/
def selects (e : Edit) (begun : Bool) (line : List Char) (number : Nat) (isLast : Bool) :
    Bool × Bool :=
  match e.first, e.last with
  | none, _ => (!e.elsewhere, false)
  | some first, none => (marks line number isLast first != e.elsewhere, false)
  | some first, some last =>
    if begun then
      let past : Bool := match last with
        | .number n => n < number
        | _ => false
      if past then (marks line number isLast first != e.elsewhere, false)
      else (!e.elsewhere, !marks line number isLast last)
    else if marks line number isLast first then
      let single : Bool := match last with
        | .number n => n ≤ number
        | .final => isLast
        | .pattern _ => false
      (!e.elsewhere, !single)
    else (e.elsewhere, false)

/-- The text in place of a piece. -/
def filled (piece : List Char) : List Char → List Char
  | '\\' :: 'n' :: rest => '\n' :: filled piece rest
  | '\\' :: c :: rest => c :: filled piece rest
  | '&' :: rest => piece ++ filled piece rest
  | c :: rest => c :: filled piece rest
  | [] => []

/-- What becomes of a line: what is shown before it, the line unless it was left out, whether it is
the last, and which ranges go on. -/
def editLine (number : Nat) (isLast : Bool) : List (Edit × Bool) → List Char →
    List (List Char) × Option (List Char) × Bool × List Bool
  | [], line => ([], some line, false, [])
  | (e, begun) :: rest, line =>
    let (chosen, goesOn) := e.selects begun line number isLast
    let goOn (line : List Char) (before : List (List Char)) :=
      let (shown, kept, stops, opens) := editLine number isLast rest line
      (before ++ shown, kept, stops, goesOn :: opens)
    if !chosen then goOn line []
    else
      match e.action with
      | .delete => ([], none, false, goesOn :: rest.map (·.2))
      | .print => goOn line [line]
      | .quit => ([], some line, true, goesOn :: rest.map (·.2))
      | .replace alternatives new every anyCase shown =>
        let (line, found) :=
          Pattern.replace anyCase every alternatives (fun piece => filled piece new) line
        goOn line (if shown && found then [line] else [])

/-- Edits lines.  The numbers of the lines begin behind the given one. -/
def editLines (quiet : Bool) (edits : List Edit) : List Bool → Nat → List (List Char) → List Char
  | _, _, [] => []
  | opens, before, line :: rest =>
    let (shown, kept, stops, opens) :=
      editLine (before + 1) rest.isEmpty (edits.zip opens) (bareLine line)
    let ending := line.drop (bareLine line).length
    let printed := shown.flatMap (· ++ ['\n']) ++
      (match kept with
        | some kept => if quiet then [] else kept ++ ending
        | none => [])
    printed ++ if stops then [] else editLines quiet edits opens (before + 1) rest

end Edit

/-- Edits texts line by line. -/
def edit (j : Job) : Outcome :=
  let words := j.words.map fun word => if word == "-i" then "--in-place" else word
  let known : Known :=
    ⟨"nErsuz", "ef", [("in-place", 'i'), ("quiet", 'n'), ("expression", 'e')], true⟩
  let o := Options.read known {} words
  let style := if o.has 'E' || o.has 'r' then PatternStyle.extended else .basic
  let given := o.values.filterMap fun (c, text) => if c == 'e' then some text else none
  let (script, names) :=
    if given.isEmpty then (o.operands.headD "", o.operands.drop 1)
    else ("\n".intercalate given, o.operands)
  match o.unknown, Edit.readFrom style (script.length + 1) script.toList with
  | some word, _ => j.fail ("invalid option -- " ++ Job.quoted word)
  | none, none => j.fail "-e expression #1, char 1: unknown command"
  | none, some edits =>
    let edited (cs : List Char) : List Char :=
      Edit.editLines (o.has 'n') edits (edits.map fun _ => false) 0 (linesOf cs)
    if o.has 'i' then
      j.forEach names fun j name =>
        match j.read name with
        | .ok bytes =>
          -- A new file takes the place of the old one.
          let bytes := Text.encode (String.ofList (edited (charsOf bytes)))
          { disk := j.disk.place (j.path name) (.file bytes) }
        | .error (.refused .isDirectory _) =>
          j.failWith 4 ("couldn't edit " ++ name ++ ": not a regular file")
        | .error e => j.failWith 2 ("can't read " ++ name ++ ": " ++ Job.wordsOf e)
    else
      let names := if names.isEmpty then ["-"] else names
      let found := names.filterMap fun name => (j.bytesOf name).toOption
      let complaints := names.filterMap fun name =>
        match j.bytesOf name with
        | .ok _ => none
        | .error e => some (j.complaint ("can't read " ++ name ++ ": " ++ Job.wordsOf e))
      { disk := j.disk, complaints, status := if complaints.isEmpty then 0 else 2
        output := Text.encode (String.ofList (edited (found.flatMap charsOf))) }

end ProbeKit.Outside.Shell.Utility
