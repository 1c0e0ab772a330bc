import ProbeKit.Outside.Yaml.Cursor
import ProbeKit.Outside.Yaml.Token

/-!
# YAML texts in blocks

A text in a block is made of the lines at least as deep as its first one.  Its line ends are kept,
or folded into blanks where two lines of equal standing meet, and marks at its start say what
happens to the line ends behind its last line.
-/

namespace ProbeKit.Outside.Yaml

/-- What happens to the line ends at the end of a block. -/
inductive Chomping where
  /-- One is kept. -/
  | clip
  /-- None is kept. -/
  | strip
  /-- All are kept. -/
  | keep
  deriving DecidableEq

/-- The mark for the line ends at the end of a block. -/
def chomping? : List Char → Option Chomping
  | '+' :: _ => some .keep
  | '-' :: _ => some .strip
  | _ => none

/-- The mark for the indentation of a block. -/
def indentMark? : List Char → Option Nat
  | c :: _ => if c.isDigit then some (c.toNat - 48) else none
  | [] => none

/-- The marks behind the start of a block: what happens to the last line ends, and how deep the
block is. -/
def blockMarks (c : Cursor) : Except Problem (Chomping × Option Nat × Cursor) := do
  let (chomping, depth, c) :=
    match chomping? c.rest with
    | some k =>
      match indentMark? c.next.rest with
      | some n => (k, some n, c.forward 2)
      | none => (k, none, c.next)
    | none =>
      match indentMark? c.rest with
      | some n =>
        match chomping? c.next.rest with
        | some k => (k, some n, c.forward 2)
        | none => (Chomping.clip, some n, c.next)
      | none => (Chomping.clip, none, c)
  if depth == some 0 || !clearAhead c.rest then throw .malformed
  return (chomping, depth, c)

/-- The empty lines in front of a block, with the greatest column that their blanks reach. -/
def leadingLines (c : Cursor) (deepest : Nat) : Nat → List Char × Nat × Cursor
  | 0 => ([], deepest, c)
  | fuel + 1 =>
    match c.rest with
    | ' ' :: _ => leadingLines c.next (max deepest c.next.column) fuel
    | _ =>
      match c.lineBreak with
      | ([], c) => ([], deepest, c)
      | (b, c) =>
        let (more, deepest, c) := leadingLines c deepest fuel
        (b ++ more, deepest, c)

/-- The empty lines inside a block of the given depth. -/
def emptyLines (depth : Nat) (c : Cursor) : Nat → List Char × Cursor
  | 0 => ([], c)
  | fuel + 1 =>
    match (c.indentTo depth c.rest.length).lineBreak with
    | ([], c) => ([], c)
    | (b, c) =>
      let (more, c) := emptyLines depth c fuel
      (b ++ more, c)

/-- The lines of a block, given the empty lines before them: the text up to the end of the last
line, that line end, and the empty lines behind it. -/
def blockLines (folded : Bool) (depth : Nat) (breaks : List Char) (c : Cursor) :
    Nat → List Char × List Char × List Char × Cursor
  | 0 => ([], [], breaks, c)
  | fuel + 1 =>
    if c.column == depth && !c.rest.isEmpty then
      let flush := !ahead " \t" c.rest
      let (text, c) := c.take (!isBreak ·)
      let (lineEnd, c) := c.lineBreak
      let (breaks', c) := emptyLines depth c c.rest.length
      if c.column == depth && !c.rest.isEmpty then
        -- Only between two lines that begin at the edge of the block is the line end folded.
        let joint :=
          if folded && lineEnd == ['\n'] && flush && !ahead " \t" c.rest then
            if breaks'.isEmpty then [' '] else []
          else lineEnd
        let (more, last, tail, c) := blockLines folded depth breaks' c fuel
        (breaks ++ text ++ joint ++ more, last, tail, c)
      else (breaks ++ text, lineEnd, breaks', c)
    else ([], [], breaks, c)

/-- The text of a block, from its mark on, inside the given indentation. -/
def blockText (folded : Bool) (indent : Int) (c : Cursor) : Except Problem (Token × Cursor) := do
  let (chomping, depth, c) ← blockMarks c.next
  let c ← commentLine c
  -- A block is at least one column deeper than what holds it.
  let least := max 1 (indent + 1).toNat
  let (breaks, depth, c) :=
    match depth with
    | none =>
      let (breaks, deepest, c) := leadingLines c 0 c.rest.length
      (breaks, max least deepest, c)
    | some n =>
      let depth := least + n - 1
      let (breaks, c) := emptyLines depth c c.rest.length
      (breaks, depth, c)
  let (text, lineEnd, tail, c) := blockLines folded depth breaks c (c.rest.length + 1)
  let text := match chomping with
    | .strip => text
    | .clip => text ++ lineEnd
    | .keep => text ++ lineEnd ++ tail
  return (.scalar (String.ofList text) false, c)

end ProbeKit.Outside.Yaml
