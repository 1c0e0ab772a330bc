import ProbeKit.Outside.Shell.Word

/-!
# Patterns for lines

The patterns of `grep`: a pattern is one alternative or several, and an alternative is a row of
items that may be tied to the beginning and the end of a line.  An item stands for one character,
or for as many as there are.
-/

namespace ProbeKit.Outside.Shell

/-- What a character has to be. -/
inductive Atom where
  /-- A given one. -/
  | char (c : Char)
  /-- Any. -/
  | any
  /-- In one of the ranges, or in none of them. -/
  | oneOf (outside : Bool) (ranges : List (Char × Char))
  deriving DecidableEq

/-- An item of a pattern. -/
structure Item where
  /-- What a character has to be. -/
  atom : Atom
  /-- Whether there may be no such character. -/
  optional : Bool := false
  /-- Whether there may be many such characters. -/
  repeated : Bool := false
  deriving DecidableEq

/-- A row of items. -/
structure Alternative where
  /-- Whether it begins where the line begins. -/
  fromStart : Bool := false
  /-- Whether it ends where the line ends. -/
  toEnd : Bool := false
  /-- The items. -/
  items : List Item := []

/-- How a pattern is written. -/
inductive PatternStyle where
  /-- Every character stands for itself. -/
  | plain
  /-- Repetition other than by a star, and alternatives, need a backslash. -/
  | basic
  /-- They need none. -/
  | extended
  deriving DecidableEq

namespace Pattern

/-! ### Reading -/

/-- The ranges of named classes of characters. -/
def classes : List (String × List (Char × Char)) :=
  [("alpha", [('a', 'z'), ('A', 'Z')]), ("digit", [('0', '9')]),
    ("alnum", [('a', 'z'), ('A', 'Z'), ('0', '9')]),
    ("upper", [('A', 'Z')]), ("lower", [('a', 'z')]),
    ("space", [(' ', ' '), ('\t', '\r')]), ("blank", [(' ', ' '), ('\t', '\t')]),
    ("punct", [('!', '/'), (':', '@'), ('[', '\x60'), ('\x7b', '~')]),
    ("xdigit", [('0', '9'), ('a', 'f'), ('A', 'F')])]

/-- The ranges inside brackets and what follows them.  The first argument bounds the number of
steps; the flag tells whether something stands inside already. -/
def takeRanges? : Nat → Bool → List Char → Option (List (Char × Char) × List Char)
  | 0, _, _ => none
  | _ + 1, true, ']' :: rest => some ([], rest)
  | k + 1, _, '[' :: ':' :: rest =>
    let (name, after) := rest.span (· != ':')
    match classes.lookup (String.ofList name), after with
    | some ranges, ':' :: ']' :: after =>
      (takeRanges? k true after).map fun (more, after) => (ranges ++ more, after)
    | _, _ => none
  | k + 1, _, a :: '-' :: b :: rest =>
    if b == ']' then
      (takeRanges? k true ('-' :: b :: rest)).map fun (more, after) => ((a, a) :: more, after)
    else (takeRanges? k true rest).map fun (more, after) => ((a, b) :: more, after)
  | k + 1, _, a :: rest =>
    (takeRanges? k true rest).map fun (more, after) => ((a, a) :: more, after)
  | _ + 1, _, [] => none

/-- An item with what the characters behind it say about it. -/
def repeatedItem (style : PatternStyle) (atom : Atom) : List Char → Item × List Char
  | '*' :: rest => (⟨atom, true, true⟩, rest)
  | '\\' :: '+' :: rest =>
    if style = .basic then (⟨atom, false, true⟩, rest)
    else (⟨atom, false, false⟩, '\\' :: '+' :: rest)
  | '\\' :: '?' :: rest =>
    if style = .basic then (⟨atom, true, false⟩, rest)
    else (⟨atom, false, false⟩, '\\' :: '?' :: rest)
  | '+' :: rest =>
    if style = .extended then (⟨atom, false, true⟩, rest) else (⟨atom, false, false⟩, '+' :: rest)
  | '?' :: rest =>
    if style = .extended then (⟨atom, true, false⟩, rest) else (⟨atom, false, false⟩, '?' :: rest)
  | rest => (⟨atom, false, false⟩, rest)

/-- The atom at the front of a text. -/
def takeAtom (cs : List Char) : Atom × List Char :=
  match cs with
  | '.' :: rest => (.any, rest)
  | '\\' :: c :: rest => (.char c, rest)
  | '[' :: '^' :: rest =>
    match takeRanges? (rest.length + 1) false rest with
    | some (ranges, after) => (.oneOf true ranges, after)
    | none => (.char '[', '^' :: rest)
  | '[' :: rest =>
    match takeRanges? (rest.length + 1) false rest with
    | some (ranges, after) => (.oneOf false ranges, after)
    | none => (.char '[', rest)
  | c :: rest => (.char c, rest)
  | [] => (.any, [])

/-- Reads the alternatives of a text, given the alternative so far.  The first argument bounds the
number of steps. -/
def readFrom (style : PatternStyle) : Nat → Alternative → List Char → List Alternative
  | 0, a, _ => [a]
  | _ + 1, a, [] => [a]
  | k + 1, a, c :: rest =>
    let next (rest : List Char) := a :: readFrom style k {} rest
    match c, rest with
    | '^', _ =>
      if a.items.isEmpty && !a.fromStart then readFrom style k { a with fromStart := true } rest
      else readFrom style k { a with items := a.items ++ [⟨.char '^', false, false⟩] } rest
    | '$', [] => [{ a with toEnd := true }]
    | '$', '|' :: more =>
      if style = .extended then { a with toEnd := true } :: readFrom style k {} more
      else readFrom style k { a with items := a.items ++ [⟨.char '$', false, false⟩] } rest
    | '$', '\\' :: '|' :: more => { a with toEnd := true } :: readFrom style k {} more
    | '|', _ =>
      if style = .extended then next rest
      else readFrom style k { a with items := a.items ++ [⟨.char '|', false, false⟩] } rest
    | '\\', '|' :: more =>
      if style = .basic then next more
      else readFrom style k { a with items := a.items ++ [⟨.char '|', false, false⟩] } more
    | _, _ =>
      let (atom, after) :=
        if c == '*' && a.items.isEmpty then (Atom.char '*', rest) else takeAtom (c :: rest)
      let (item, after) := repeatedItem style atom after
      readFrom style k { a with items := a.items ++ [item] } after

/-- The alternatives of a pattern. -/
def read (style : PatternStyle) (cs : List Char) : List Alternative :=
  match style with
  | .plain => [{ items := cs.map fun c => ⟨.char c, false, false⟩ }]
  | _ => readFrom style (cs.length + 1) {} cs

/-! ### Fitting -/

/-- Whether a character is what it has to be. -/
def Atom.fits (anyCase : Bool) (a : Atom) (c : Char) : Bool :=
  let same (c : Char) :=
    match a with
    | .char d => c == d
    | .any => true
    | .oneOf outside ranges =>
      ranges.any (fun (first, last) => first.toNat ≤ c.toNat && c.toNat ≤ last.toNat) != outside
  same c || (anyCase && (same c.toLower || same c.toUpper))

/-- What is left once as many characters as possible were taken and the rest was dealt with. -/
def takeMany (fits : Char → Bool) (rest : List Char → Option (List Char)) :
    List Char → Option (List Char)
  | [] => rest []
  | c :: cs => if fits c then (takeMany fits rest cs).or (rest (c :: cs)) else rest (c :: cs)

/-- What is left of a text behind items, if they fit its front. -/
def restBehind (anyCase toEnd : Bool) : List Item → List Char → Option (List Char)
  | [], cs => if toEnd && !cs.isEmpty then none else some cs
  | item :: items, cs =>
    let fits := Atom.fits anyCase item.atom
    let once (rest : List Char → Option (List Char)) :=
      match cs with
      | c :: cs => if fits c then rest cs else none
      | [] => none
    let behind := restBehind anyCase toEnd items
    match item.repeated, item.optional with
    | true, true => takeMany fits behind cs
    | true, false => once (takeMany fits behind)
    | false, true => (once behind).or (behind cs)
    | false, false => once behind

/-- What is left behind the longest piece at the front of a text that fits.  The flag tells whether
the text begins where its line does. -/
def restBehindAny? (anyCase atStart : Bool) (alternatives : List Alternative) (cs : List Char) :
    Option (List Char) :=
  (alternatives.filterMap fun a =>
    if a.fromStart && !atStart then none else restBehind anyCase a.toEnd a.items cs).foldl
      (fun best rest =>
        match best with
        | some b => if rest.length < b.length then some rest else best
        | none => some rest) none

/-- Whether one of the alternatives fits somewhere in a text. -/
def occursFrom (anyCase : Bool) (alternatives : List Alternative) : Bool → List Char → Bool
  | atStart, [] => (restBehindAny? anyCase atStart alternatives []).isSome
  | atStart, c :: cs =>
    (restBehindAny? anyCase atStart alternatives (c :: cs)).isSome ||
      occursFrom anyCase alternatives false cs

/-- Whether one of the alternatives fits somewhere in a line. -/
def occursIn (anyCase : Bool) (alternatives : List Alternative) (line : List Char) : Bool :=
  occursFrom anyCase alternatives true line

/-- A line with something else in place of the first piece that fits, or of every one, and whether
there is such a piece.  The first argument bounds the number of steps. -/
def replaceFrom (anyCase every : Bool) (alternatives : List Alternative)
    (new : List Char → List Char) : Nat → Bool → List Char → List Char × Bool
  | 0, _, cs => (cs, false)
  | k + 1, atStart, cs =>
    let goOn (cs : List Char) := replaceFrom anyCase every alternatives new k false cs
    match restBehindAny? anyCase atStart alternatives cs, cs with
    | some rest, _ =>
      let piece := cs.take (cs.length - rest.length)
      if !every then (new piece ++ rest, true)
      else
        match piece, rest with
        | [], c :: more => (new piece ++ c :: (goOn more).1, true)
        | [], [] => (new piece, true)
        | _, [] => (new piece, true)
        | _, _ => (new piece ++ (goOn rest).1, true)
    | none, c :: more =>
      let (line, found) := goOn more
      (c :: line, found)
    | none, [] => ([], false)

/-- A line with something else in place of the first piece that fits, or of every one. -/
def replace (anyCase every : Bool) (alternatives : List Alternative) (new : List Char → List Char)
    (line : List Char) : List Char × Bool :=
  replaceFrom anyCase every alternatives new (line.length + 1) true line

end Pattern

end ProbeKit.Outside.Shell
