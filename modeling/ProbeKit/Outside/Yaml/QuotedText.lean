import ProbeKit.Outside.Yaml.Cursor

/-!
# YAML texts in quotes

Inside double quotes a backslash begins an escape; inside single quotes two quotes stand for one.
In both, a line end with the blanks around it is folded into one blank, or into the empty lines
behind it.
-/

namespace ProbeKit.Outside.Yaml

/-- The character that a one-letter escape stands for. -/
def escaped? : Char → Option Char
  | '0' => some '\x00'
  | 'a' => some '\x07'
  | 'b' => some '\x08'
  | 't' => some '\t'
  | '\t' => some '\t'
  | 'n' => some '\n'
  | 'v' => some '\x0B'
  | 'f' => some '\x0C'
  | 'r' => some '\r'
  | 'e' => some '\x1B'
  | ' ' => some ' '
  | '"' => some '"'
  | '\\' => some '\\'
  | '/' => some '/'
  | 'N' => some '\x85'
  | '_' => some '\xA0'
  | 'L' => some '\u2028'
  | 'P' => some '\u2029'
  | _ => none

/-- How many digits the code of an escape has. -/
def codeLength? : Char → Option Nat
  | 'x' => some 2
  | 'u' => some 4
  | 'U' => some 8
  | _ => none

/-- The character with a code. -/
def charOfCode (n : Nat) : Except Problem Char :=
  if n < 0x110000 then .ok (Char.ofNat n)
  else if n < 0x80000000 then .error .codePoint
  else .error .hugeCodePoint

/-- The empty lines inside quotes. -/
def quotedLines (c : Cursor) : Nat → Except Problem (List Char × Cursor)
  | 0 => .ok ([], c)
  | fuel + 1 =>
    if separatorAhead c.rest then .error .malformed
    else
      match (c.skip fun ch => ch == ' ' || ch == '\t').lineBreak with
      | ([], c) => .ok ([], c)
      | (b, c) => do
        let (more, c) ← quotedLines c fuel
        return (b ++ more, c)

/-- A stretch of blank space inside quotes, with the line ends in it folded. -/
def quotedGap (c : Cursor) : Except Problem (List Char × Cursor) := do
  let (blanks, c) := c.take fun ch => ch == ' ' || ch == '\t'
  match c.rest with
  | [] => throw .malformed
  | ch :: _ =>
    if isBreak ch then do
      let (lineEnd, c) := c.lineBreak
      let (breaks, c) ← quotedLines c (c.rest.length + 1)
      let joint := if lineEnd != ['\n'] then lineEnd else if breaks.isEmpty then [' '] else []
      return (joint ++ breaks, c)
    else return (blanks, c)

/-- The text inside double quotes, from behind the opening one to behind the closing one. -/
def doubleQuoted (c : Cursor) : Nat → Except Problem (List Char × Cursor)
  | 0 => .error .malformed
  | fuel + 1 =>
    match c.rest with
    | [] => .error .malformed
    | '"' :: _ => .ok ([], c.next)
    | '\\' :: rest =>
      match rest with
      | [] => .error .malformed
      | e :: digits =>
        match escaped? e, codeLength? e with
        | some ch, _ => do
          let (more, c) ← doubleQuoted (c.forward 2) fuel
          return (ch :: more, c)
        | none, some n =>
          match hexNat? (digits.take n) with
          | some code =>
            if digits.length < n then .error .malformed
            else do
              let ch ← charOfCode code
              let (more, c) ← doubleQuoted (c.forward (2 + n)) fuel
              return (ch :: more, c)
          | none => .error .malformed
        | none, none =>
          -- An escaped line end is left out, and only the empty lines behind it stay.
          if isBreak e then do
            let c := c.next.lineBreak.2
            let (breaks, c) ← quotedLines c (c.rest.length + 1)
            let (more, c) ← doubleQuoted c fuel
            return (breaks ++ more, c)
          else .error .malformed
    | ch :: _ =>
      if isGap ch then do
        let (gap, c) ← quotedGap c
        let (more, c) ← doubleQuoted c fuel
        return (gap ++ more, c)
      else do
        let (more, c) ← doubleQuoted c.next fuel
        return (ch :: more, c)

/-- The text inside single quotes, from behind the opening one to behind the closing one. -/
def singleQuoted (c : Cursor) : Nat → Except Problem (List Char × Cursor)
  | 0 => .error .malformed
  | fuel + 1 =>
    match c.rest with
    | [] => .error .malformed
    | '\'' :: '\'' :: _ => do
      let (more, c) ← singleQuoted (c.forward 2) fuel
      return ('\'' :: more, c)
    | '\'' :: _ => .ok ([], c.next)
    | ch :: _ =>
      if isGap ch then do
        let (gap, c) ← quotedGap c
        let (more, c) ← singleQuoted c fuel
        return (gap ++ more, c)
      else do
        let (more, c) ← singleQuoted c.next fuel
        return (ch :: more, c)

end ProbeKit.Outside.Yaml
