/-!
# Words of a command

A command line is cut into words at blanks.  Single quotes keep everything inside them; double
quotes keep everything but the backslash, which takes away the meaning of a quote or a backslash
behind it; outside quotes a backslash takes away the meaning of any character.
-/

namespace ProbeKit.Command

/-- Why a text is no command line. -/
inductive WordsError where
  /-- A quotation does not end. -/
  | openQuotation
  /-- Nothing follows a backslash. -/
  | openEscape
  deriving DecidableEq

/-- What is wrong, in words. -/
def WordsError.message : WordsError → String
  | .openQuotation => "No closing quotation"
  | .openEscape => "No escaped character"

/-- Whether a character separates words. -/
def isSeparator (c : Char) : Bool := c == ' ' || c == '\t' || c == '\r' || c == '\n'

/-- Where a reader of words stands. -/
inductive WordsMode where
  /-- Outside quotes. -/
  | bare
  /-- Inside single quotes. -/
  | single
  /-- Inside double quotes. -/
  | double
  /-- Behind a backslash outside quotes. -/
  | escape
  /-- Behind a backslash inside double quotes. -/
  | doubleEscape
  deriving DecidableEq

/-- The words of characters, given the word so far; `none` stands for no word. -/
def wordsFrom : WordsMode → Option (List Char) → List Char → Except WordsError (List (List Char))
  | .bare, word, [] => .ok word.toList
  | .single, _, [] => .error .openQuotation
  | .double, _, [] => .error .openQuotation
  | .escape, _, [] => .error .openEscape
  | .doubleEscape, _, [] => .error .openEscape
  | .bare, word, c :: cs =>
    if isSeparator c then (wordsFrom .bare none cs).map (word.toList ++ ·)
    else if c == '\\' then wordsFrom .escape (some (word.getD [])) cs
    else if c == '\'' then wordsFrom .single (some (word.getD [])) cs
    else if c == '"' then wordsFrom .double (some (word.getD [])) cs
    else wordsFrom .bare (some (word.getD [] ++ [c])) cs
  | .single, word, c :: cs =>
    if c == '\'' then wordsFrom .bare word cs
    else wordsFrom .single (some (word.getD [] ++ [c])) cs
  | .double, word, c :: cs =>
    if c == '"' then wordsFrom .bare word cs
    else if c == '\\' then wordsFrom .doubleEscape word cs
    else wordsFrom .double (some (word.getD [] ++ [c])) cs
  | .escape, word, c :: cs => wordsFrom .bare (some (word.getD [] ++ [c])) cs
  | .doubleEscape, word, c :: cs =>
    let kept := if c == '"' || c == '\\' then [c] else ['\\', c]
    wordsFrom .double (some (word.getD [] ++ kept)) cs

/-- The words of a command line. -/
def words (line : String) : Except WordsError (List String) :=
  (wordsFrom .bare none line.toList).map fun ws => ws.map String.ofList

end ProbeKit.Command
