import ProbeKit.Outside.Yaml.BlockText
import ProbeKit.Outside.Yaml.PlainText
import ProbeKit.Outside.Yaml.QuotedText
import ProbeKit.Outside.Yaml.Tag

/-!
# Scanning YAML text

`Tokens.ofText` cuts a text into tokens.  Indentation becomes tokens that open and close blocks,
and the mark of a key is put in front of a token only when the colon behind it is reached: until
then the token is a *candidate*, one for each level of brackets, and a candidate lapses at the end
of its line.

Where a text is wrong the tokens before that place are still given, as far as nothing can be put in
front of them any more: whoever reads them may find another fault first.
-/

namespace ProbeKit.Outside.Yaml

/-- A token that becomes a key if a colon follows on its line. -/
structure Candidate where
  /-- The number of the token. -/
  number : Nat
  /-- Whether nothing but a key may stand here. -/
  required : Bool
  /-- Where the token begins. -/
  start : Cursor

/-- The state of a scan. -/
structure Scan where
  /-- The place in the text. -/
  cursor : Cursor
  /-- How many brackets and braces are open. -/
  level : Nat := 0
  /-- The column of the current block. -/
  indent : Int := -1
  /-- The columns of the blocks around it. -/
  outer : List Int := []
  /-- Whether a key may begin here. -/
  keyAllowed : Bool := true
  /-- The candidates, by their levels. -/
  candidates : List (Nat × Candidate) := []
  /-- The tokens so far, the last first. -/
  tokens : List Token := []

namespace Scan

/-- Adds a token. -/
def push (s : Scan) (t : Token) : Scan := { s with tokens := t :: s.tokens }

/-- Puts a token in front of the one with a number. -/
def insert (s : Scan) (number : Nat) (t : Token) : Scan :=
  -- The tokens are kept last first, so the later ones stand in front.
  let later := s.tokens.length - number
  { s with tokens := s.tokens.take later ++ t :: s.tokens.drop later }

/-- Drops the candidates whose line has ended. -/
def dropLapsed (s : Scan) : Except Problem Scan :=
  let lapsed (k : Candidate) : Bool :=
    k.start.line != s.cursor.line || s.cursor.index > k.start.index + 1024
  if s.candidates.any fun k => k.2.required && lapsed k.2 then .error .malformed
  else .ok { s with candidates := s.candidates.filter fun k => !lapsed k.2 }

/-- Drops the candidate of the current level. -/
def dropCandidate (s : Scan) : Except Problem Scan :=
  if (s.candidates.lookup s.level).any (·.required) then .error .malformed
  else .ok { s with candidates := s.candidates.filter (·.1 != s.level) }

/-- Makes the next token a candidate if a key may begin here. -/
def offerKey (s : Scan) : Except Problem Scan :=
  if s.keyAllowed then do
    let required := s.level == 0 && s.indent == s.cursor.column
    let s ← s.dropCandidate
    return { s with candidates := (s.level, ⟨s.tokens.length, required, s.cursor⟩) :: s.candidates }
  else .ok s

/-- Closes the blocks that are deeper than a column, given the columns around the current one. -/
def closeBlocks (column : Int) (s : Scan) : List Int → Scan
  | [] => s
  | outer :: rest =>
    if column < s.indent then
      closeBlocks column { s.push .blockEnd with indent := outer, outer := rest } rest
    else s

/-- Closes the blocks that are deeper than a column, outside brackets. -/
def unwind (s : Scan) (column : Int) : Scan :=
  if s.level == 0 then closeBlocks column s s.outer else s

/-- Opens a block at a column unless it is open, with a token in front of the one with the
number. -/
def openBlock (s : Scan) (column : Nat) (number : Nat) (t : Token) : Scan :=
  if s.indent < column then
    { s.insert number t with indent := column, outer := s.indent :: s.outer }
  else s

/-- Adds a token of some characters. -/
def mark (s : Scan) (length : Nat) (t : Token) : Scan :=
  { s.push t with cursor := s.cursor.forward length }

/-- Adds a token that was read up to a place. -/
def took (s : Scan) (t : Token × Cursor) : Scan := { s.push t.1 with cursor := t.2 }

/-- The end of the text. -/
def finish (s : Scan) : Except Problem Scan := do
  let s ← (s.unwind (-1)).dropCandidate
  return s.push .textEnd

/-- A mark between documents. -/
def documentMark (s : Scan) (t : Token) : Except Problem Scan := do
  let s ← (s.unwind (-1)).dropCandidate
  return { s.mark 3 t with keyAllowed := false }

/-- A directive. -/
def takeDirective (s : Scan) : Except Problem Scan := do
  let s ← (s.unwind (-1)).dropCandidate
  return { s.took (← directive s.cursor) with keyAllowed := false }

/-- An opening bracket or brace. -/
def openFlow (s : Scan) (t : Token) : Except Problem Scan := do
  let s ← s.offerKey
  return { s.mark 1 t with level := s.level + 1, keyAllowed := true }

/-- A closing bracket or brace. -/
def closeFlow (s : Scan) (t : Token) : Except Problem Scan := do
  let s ← s.dropCandidate
  return { s.mark 1 t with level := s.level - 1, keyAllowed := false }

/-- A comma. -/
def takeComma (s : Scan) : Except Problem Scan := do
  let s ← s.dropCandidate
  return { s.mark 1 .comma with keyAllowed := true }

/-- The dash of an item. -/
def takeDash (s : Scan) : Except Problem Scan := do
  if s.level == 0 && !s.keyAllowed then throw .malformed
  let s := if s.level == 0 then s.openBlock s.cursor.column s.tokens.length .blockItems else s
  let s ← s.dropCandidate
  return { s.mark 1 .dash with keyAllowed := true }

/-- The mark of a key. -/
def takeKey (s : Scan) : Except Problem Scan := do
  if s.level == 0 && !s.keyAllowed then throw .malformed
  let s := if s.level == 0 then s.openBlock s.cursor.column s.tokens.length .blockMembers else s
  let s ← s.dropCandidate
  return { s.mark 1 .key with keyAllowed := s.level == 0 }

/-- The mark of a value; what stands before it becomes a key if it is a candidate. -/
def takeValue (s : Scan) : Except Problem Scan :=
  match s.candidates.lookup s.level with
  | some k =>
    -- The mark of the key goes first, so that the start of a block comes in front of it.
    let s := { s with candidates := s.candidates.filter (·.1 != s.level) }
    let s := s.insert k.number .key
    let s := if s.level == 0 then s.openBlock k.start.column k.number .blockMembers else s
    .ok { s.mark 1 .value with keyAllowed := false }
  | none => do
    -- The key is empty, or it was announced by its own mark.
    if s.level == 0 && !s.keyAllowed then throw .malformed
    let s := if s.level == 0 then s.openBlock s.cursor.column s.tokens.length .blockMembers else s
    let s ← s.dropCandidate
    return { s.mark 1 .value with keyAllowed := s.level == 0 }

/-- A token that may be a key and was read by a reader. -/
def takeNode (s : Scan) (read : Cursor → Except Problem (Token × Cursor)) :
    Except Problem Scan := do
  let s ← s.offerKey
  return { s.took (← read s.cursor) with keyAllowed := false }

/-- A text in a block. -/
def takeBlockText (s : Scan) (folded : Bool) : Except Problem Scan := do
  let s ← s.dropCandidate
  return { s.took (← blockText folded s.indent s.cursor) with keyAllowed := true }

/-- A plain text. -/
def takePlain (s : Scan) : Except Problem Scan := do
  let s ← s.offerKey
  let (text, crossed, c) :=
    plainText (s.level != 0) s.indent [] false s.cursor (s.cursor.rest.length + 1)
  return { s.took (.scalar (String.ofList text) true, c) with keyAllowed := crossed }

/-- Whether a plain text begins here. -/
def startsPlain (bracketed : Bool) : List Char → Bool
  | [] => false
  | c :: rest =>
    !(isGap c || "-?:,[]\x7b\x7d#&*!|>\x27\"%@\x60".toList.contains c) ||
      (!gapAhead rest && (c == '-' || (!bracketed && (c == '?' || c == ':'))))

/-- The token at the current place. -/
def takeToken (s : Scan) (ch : Char) (rest : List Char) : Except Problem Scan :=
  let c := s.cursor
  let lineStart := c.column == 0
  if ch == '%' && lineStart then s.takeDirective
  else if ch == '-' && lineStart && separatorAhead c.rest then s.documentMark .documentStart
  else if ch == '.' && lineStart && separatorAhead c.rest then s.documentMark .documentEnd
  else if ch == '[' then s.openFlow .openBracket
  else if ch == '{' then s.openFlow .openBrace
  else if ch == ']' then s.closeFlow .closeBracket
  else if ch == '}' then s.closeFlow .closeBrace
  else if ch == ',' then s.takeComma
  else if ch == '-' && gapAhead rest then s.takeDash
  else if ch == '?' && (s.level != 0 || gapAhead rest) then s.takeKey
  else if ch == ':' && (s.level != 0 || gapAhead rest) then s.takeValue
  else if ch == '*' then
    s.takeNode fun c => (anchorName c).map fun (name, c) => (.alias name, c)
  else if ch == '&' then
    s.takeNode fun c => (anchorName c).map fun (name, c) => (.anchor name, c)
  else if ch == '!' then s.takeNode tag
  else if ch == '|' && s.level == 0 then s.takeBlockText false
  else if ch == '>' && s.level == 0 then s.takeBlockText true
  else if ch == '\'' then
    s.takeNode fun c => (singleQuoted c.next (c.rest.length + 1)).map fun (text, c) =>
      (.scalar (String.ofList text) false, c)
  else if ch == '"' then
    s.takeNode fun c => (doubleQuoted c.next (c.rest.length + 1)).map fun (text, c) =>
      (.scalar (String.ofList text) false, c)
  else if startsPlain (s.level != 0) c.rest then s.takePlain
  else .error .malformed

/-- Takes the next token.  The flag says whether the text is at its end. -/
def step (s : Scan) : Except Problem (Bool × Scan) := do
  -- A line end allows a key outside brackets; inside them only a bracket or a comma does.
  let (cursor, crossed) := toToken s.cursor false (s.cursor.rest.length + 1)
  let s := { s with cursor, keyAllowed := s.keyAllowed || (crossed && s.level == 0) }
  let s ← s.dropLapsed
  let s := s.unwind s.cursor.column
  match s.cursor.rest with
  | [] => return (true, ← s.finish)
  | ch :: rest => return (false, ← (← s.takeToken ch rest).dropLapsed)

/-- The tokens in front of all candidates. -/
def settled (s : Scan) : List Token :=
  match (s.candidates.map (·.2.number)).min? with
  | some number => s.tokens.reverse.take number
  | none => s.tokens.reverse

end Scan

/-- The tokens of a text. -/
structure Tokens where
  /-- The tokens, up to the place where the text is wrong. -/
  tokens : List Token
  /-- What is wrong behind them, if anything is. -/
  problem : Option Problem

namespace Tokens

/-- Takes tokens to the end of the text or to the first place that is wrong; the argument bounds
their number. -/
def ofScan (s : Scan) : Nat → Tokens
  | 0 => ⟨s.settled, none⟩
  | fuel + 1 =>
    match s.step with
    | .error p => ⟨s.settled, some p⟩
    | .ok (true, s) => ⟨s.tokens.reverse, none⟩
    | .ok (false, s) => ofScan s fuel

/-- The tokens of a text; a mark of the byte order in front is passed over. -/
def ofText (text : String) : Tokens :=
  let cs := text.toList
  if !cs.all isAllowed then ⟨[], some .malformed⟩
  else
    let start : Cursor := ⟨cs, 0, 0, 0⟩
    let start := if cs.head? == some '\uFEFF' then start.next else start
    ofScan { cursor := start } (cs.length + 1)

end Tokens

end ProbeKit.Outside.Yaml
