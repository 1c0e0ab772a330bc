import ProbeKit.Outside.Yaml.Cursor

/-!
# YAML texts without quotes

A plain text runs on over blanks and line ends until a colon before a gap, a comment, a line that
is not deep enough, or, inside brackets, a mark of the brackets.
-/

namespace ProbeKit.Outside.Yaml

/-- The part of a plain text in front that holds no blanks. -/
def plainRun (bracketed : Bool) : List Char → List Char
  | [] => []
  | ch :: rest =>
    if isGap ch || (ch == ':' && (gapAhead rest || (bracketed && ahead ",[]\x7b\x7d" rest))) ||
        (bracketed && ahead ",?[]\x7b\x7d" [ch]) then []
    else ch :: plainRun bracketed rest

/-- The empty lines and blanks behind a line of a plain text; nothing if the document ends
there. -/
def plainLines (c : Cursor) : Nat → Option (List Char) × Cursor
  | 0 => (some [], c)
  | fuel + 1 =>
    match c.rest with
    | ' ' :: _ => plainLines c.next fuel
    | _ =>
      match c.lineBreak with
      | ([], c) => (some [], c)
      | (b, c) =>
        if separatorAhead c.rest then (none, c)
        else
          let (more, c) := plainLines c fuel
          (more.map (b ++ ·), c)

/-- The blank space behind a part of a plain text, with the line ends in it folded, and whether a
line ended; it is empty if the text ends there. -/
def plainGap (c : Cursor) : List Char × Bool × Cursor :=
  let (blanks, c) := c.take (· == ' ')
  match c.lineBreak with
  | ([], c) => (blanks, false, c)
  | (lineEnd, c) =>
    if separatorAhead c.rest then ([], true, c)
    else
      match plainLines c (c.rest.length + 1) with
      | (none, c) => ([], true, c)
      | (some breaks, c) =>
        let joint := if lineEnd != ['\n'] then lineEnd else if breaks.isEmpty then [' '] else []
        (joint ++ breaks, true, c)

/-- A plain text inside the given indentation, after a gap.  The flag says whether the last gap
had a line end in it, so that a key may follow. -/
def plainText (bracketed : Bool) (indent : Int) (gap : List Char) (crossed : Bool) (c : Cursor) :
    Nat → List Char × Bool × Cursor
  | 0 => ([], crossed, c)
  | fuel + 1 =>
    let run := plainRun bracketed c.rest
    if c.rest.head? == some '#' || run.isEmpty then ([], crossed, c)
    else
      let (gap', crossed', c) := plainGap (c.forward run.length)
      -- The gap belongs to the text only if the text goes on behind it.
      if gap'.isEmpty || c.rest.head? == some '#' || (!bracketed && (c.column : Int) < indent + 1)
      then (gap ++ run, crossed', c)
      else
        let (more, crossed'', c) := plainText bracketed indent gap' crossed' c fuel
        (gap ++ run ++ more, crossed'', c)

end ProbeKit.Outside.Yaml
