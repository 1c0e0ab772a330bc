/-!
# Words of a script

A word is a list of parts.  A part is text, or it stands for text that is only known when the
script runs: the value of a parameter, what another script prints, the value of an expression.
Quotes are gone once a word is read; each part tells whether it stood inside them.

`Word.read` reads the word that begins a text and gives what follows it.  It fails only if a
quotation, a pair of braces or a pair of parentheses does not end.
-/

namespace ProbeKit.Outside.Shell

/-- What is made of the value of a parameter.  Where `evenIfEmpty` is set, an empty value counts as
no value. -/
inductive Rule where
  /-- The value itself. -/
  | value
  /-- How many characters the value has. -/
  | length
  /-- The word, if there is no value. -/
  | fallback (evenIfEmpty : Bool)
  /-- The word, if there is no value; it is the value from then on. -/
  | assign (evenIfEmpty : Bool)
  /-- The word, if there is a value. -/
  | alternative (evenIfEmpty : Bool)
  /-- A failure, if there is no value. -/
  | demand (evenIfEmpty : Bool)
  /-- The value without what fits the word at its front. -/
  | cutFront (longest : Bool)
  /-- The value without what fits the word at its back. -/
  | cutBack (longest : Bool)
  /-- A failure: there is no such rule. -/
  | unknown
  deriving DecidableEq, Inhabited

/-- Whether a rule is of no use without a value, though it does not say so. -/
def Rule.needsValue : Rule → Bool
  | .value | .length | .cutFront _ | .cutBack _ => true
  | _ => false

/-- A part of a word. -/
inductive WordPart where
  /-- Text. -/
  | text (quoted : Bool) (cs : List Char)
  /-- A parameter, with a word for the rules that need one. -/
  | parameter (quoted : Bool) (name : String) (rule : Rule) (word : List WordPart)
  /-- What a script prints. -/
  | script (quoted : Bool) (cs : List Char)
  /-- The value of an expression. -/
  | arithmetic (quoted : Bool) (word : List WordPart)
  deriving Inhabited

/-- A word. -/
abbrev Word : Type := List WordPart

namespace Word

/-- A word with one more character in front. -/
def consChar (quoted : Bool) (c : Char) (w : Word) : Word :=
  match w with
  | .text q cs :: rest => if q = quoted then .text q (c :: cs) :: rest else .text quoted [c] :: w
  | _ => .text quoted [c] :: w

/-- The text of a word that is nothing but text outside quotes. -/
def bareText? : Word → Option String
  | [.text false cs] => some (String.ofList cs)
  | _ => none

/-- The text of a word that is nothing but text. -/
def textOf (w : Word) : List Char :=
  w.flatMap fun part =>
    match part with
    | .text _ cs => cs
    | _ => []

/-- Whether some part of a word stood inside quotes. -/
def hasQuotes (w : Word) : Bool :=
  w.any fun part =>
    match part with
    | .text quoted _ => quoted
    | _ => false

/-! ### Characters -/

/-- Whether a character may begin a name. -/
def beginsName (c : Char) : Bool := c.isAlpha || c == '_'

/-- Whether a character may stand in a name. -/
def inName (c : Char) : Bool := c.isAlphanum || c == '_'

/-- Whether a text is a name. -/
def isName (cs : List Char) : Bool :=
  match cs with
  | [] => false
  | c :: rest => beginsName c && rest.all inName

/-- Whether a character separates words. -/
def isBlank (c : Char) : Bool := c == ' ' || c == '\t'

/-- Whether a character ends a word that is not quoted. -/
def endsWord (c : Char) : Bool :=
  isBlank c || c == '\n' || c == ';' || c == '&' || c == '|' || c == '<' || c == '>' || c == '(' ||
    c == ')'

/-! ### Where a reader stands -/

/-- Where a reader of words stands. -/
inductive Setting where
  /-- Outside quotes. -/
  | bare
  /-- Inside double quotes. -/
  | double
  /-- Inside braces, which may themselves be inside double quotes. -/
  | braces (quoted : Bool)
  /-- In a text of its own, in which quotes stand for themselves. -/
  | document
  deriving DecidableEq

namespace Setting

/-- Whether what is read counts as quoted. -/
def isQuoted : Setting → Bool
  | .bare => false
  | .double => true
  | .braces quoted => quoted
  | .document => true

/-- Whether a text may end here. -/
def mayEnd : Setting → Bool
  | .bare => true
  | .document => true
  | _ => false

/-- Whether a character ends what is read. -/
def endsAt (c : Char) : Setting → Bool
  | .bare => endsWord c
  | .double => c == '"'
  | .braces _ => c == '\x7d'
  | .document => false

/-- Whether a backslash takes away the meaning of a character. -/
def escapes (c : Char) : Setting → Bool
  | .bare => true
  | .double => c == '$' || c == '\x60' || c == '"' || c == '\\'
  | .braces quoted => !quoted || c == '$' || c == '\x60' || c == '"' || c == '\\' || c == '\x7d'
  | .document => c == '$' || c == '\x60' || c == '\\'

/-- Whether quotes have their meaning. -/
def hasDoubleQuotes : Setting → Bool
  | .bare => true
  | .braces _ => true
  | _ => false

/-- Whether single quotes have their meaning. -/
def hasSingleQuotes : Setting → Bool
  | .bare => true
  | .braces quoted => !quoted
  | _ => false

end Setting

/-! ### What stands inside parentheses -/

/-- What is left of an expression up to the two parentheses that end it.  The first argument counts
the parentheses that are open. -/
def takeExpression? : Nat → List Char → Option (List Char × List Char)
  | _, [] => none
  | 0, ')' :: ')' :: rest => some ([], rest)
  | 0, ')' :: _ => none
  | n + 1, ')' :: rest => (takeExpression? n rest).map fun (e, after) => (')' :: e, after)
  | n, '(' :: rest => (takeExpression? (n + 1) rest).map fun (e, after) => ('(' :: e, after)
  | n, c :: rest => (takeExpression? n rest).map fun (e, after) => (c :: e, after)

/-- Where a reader of a script inside parentheses stands. -/
inductive Inside where
  /-- Outside quotes. -/
  | bare
  /-- Inside single quotes. -/
  | single
  /-- Inside double quotes. -/
  | double
  /-- Behind a backslash. -/
  | escape (quoted : Bool)
  deriving DecidableEq

/-- What is left of a script up to the parenthesis that ends it. -/
def takeScript? : Inside → Nat → List Char → Option (List Char × List Char)
  | _, _, [] => none
  | .bare, 0, ')' :: rest => some ([], rest)
  | .bare, n, c :: rest =>
    let (inside, depth) :=
      if c == '\'' then (Inside.single, n)
      else if c == '"' then (.double, n)
      else if c == '\\' then (.escape false, n)
      else if c == '(' then (.bare, n + 1)
      else if c == ')' then (.bare, n - 1)
      else (.bare, n)
    (takeScript? inside depth rest).map fun (s, after) => (c :: s, after)
  | .single, n, c :: rest =>
    (takeScript? (if c == '\'' then .bare else .single) n rest).map fun (s, after) =>
      (c :: s, after)
  | .double, n, c :: rest =>
    let inside := if c == '"' then Inside.bare else if c == '\\' then .escape true else .double
    (takeScript? inside n rest).map fun (s, after) => (c :: s, after)
  | .escape quoted, n, c :: rest =>
    (takeScript? (if quoted then .double else .bare) n rest).map fun (s, after) => (c :: s, after)

/-- What is left of a script up to the backquote that ends it.  A backslash in front of a dollar
sign, a backquote or another backslash goes away, and inside quotes also one in front of a double
quote. -/
def takeBackquoted? (quoted : Bool) : List Char → Option (List Char × List Char)
  | [] => none
  | '\x60' :: rest => some ([], rest)
  | '\\' :: c :: rest =>
    let kept :=
      if c == '$' || c == '\x60' || c == '\\' || (quoted && c == '"') then [c] else ['\\', c]
    (takeBackquoted? quoted rest).map fun (s, after) => (kept ++ s, after)
  | c :: rest => (takeBackquoted? quoted rest).map fun (s, after) => (c :: s, after)

/-! ### Parameters -/

/-- Whether a character alone names a parameter. -/
def isSpecial (c : Char) : Bool := "@*#?-$!".toList.contains c

/-- The name of a parameter at the front of a text.  Outside braces a name of digits has only one
of them. -/
def takeName? (inBraces : Bool) : List Char → Option (List Char × List Char)
  | [] => none
  | c :: rest =>
    if beginsName c then some ((c :: rest).span inName)
    else if c.isDigit then
      if inBraces then some ((c :: rest).span Char.isDigit) else some ([c], rest)
    else if isSpecial c then some ([c], rest)
    else none

/-- The rule behind the name of a parameter. -/
def takeRule : List Char → Rule × List Char
  | ':' :: '-' :: rest => (.fallback true, rest)
  | ':' :: '=' :: rest => (.assign true, rest)
  | ':' :: '+' :: rest => (.alternative true, rest)
  | ':' :: '?' :: rest => (.demand true, rest)
  | '-' :: rest => (.fallback false, rest)
  | '=' :: rest => (.assign false, rest)
  | '+' :: rest => (.alternative false, rest)
  | '?' :: rest => (.demand false, rest)
  | '#' :: '#' :: rest => (.cutFront true, rest)
  | '#' :: rest => (.cutFront false, rest)
  | '%' :: '%' :: rest => (.cutBack true, rest)
  | '%' :: rest => (.cutBack false, rest)
  | '\x7d' :: rest => (.value, '\x7d' :: rest)
  | rest => (.unknown, rest)

/-- The name of a parameter inside braces and its rule. -/
def takeBraced (cs : List Char) : String × Rule × List Char :=
  let counted :=
    match cs with
    | '#' :: rest =>
      match takeName? true rest with
      | some (name, '\x7d' :: more) => some (String.ofList name, Rule.length, '\x7d' :: more)
      | _ => none
    | _ => none
  counted.getD <|
    match takeName? true cs with
    | some (name, rest) => (String.ofList name, takeRule rest)
    | none => ("", .unknown, cs)

/-! ### Reading -/

/-- What stands behind a dollar sign.  The first argument reads on in a setting. -/
def readDollar (go : Setting → List Char → Option (Word × List Char)) (quoted : Bool)
    (cs : List Char) : Option (WordPart × List Char) :=
  let script (rest : List Char) :=
    (takeScript? .bare 0 rest).map fun (s, after) => (WordPart.script quoted s, after)
  match cs with
  | '(' :: '(' :: rest =>
    match takeExpression? 0 rest with
    | some (e, after) => (go .document e).map fun (w, _) => (.arithmetic quoted w, after)
    | none => script ('(' :: rest)
  | '(' :: rest => script rest
  | '\x7b' :: rest =>
    let (name, rule, rest) := takeBraced rest
    (go (.braces quoted) rest).map fun (w, after) => (.parameter quoted name rule w, after)
  | _ =>
    match takeName? false cs with
    | some (name, rest) => some (.parameter quoted (String.ofList name) .value [], rest)
    | none => some (.text quoted ['$'], cs)

/-- Reads up to the end of a setting.  The first argument bounds the number of steps; more of them
than there are characters is enough. -/
def readIn : Nat → Setting → List Char → Option (Word × List Char)
  | 0, _, _ => none
  | _ + 1, setting, [] => if setting.mayEnd then some ([], []) else none
  | k + 1, setting, c :: rest =>
    let go := readIn k
    let quoted := setting.isQuoted
    let behind (w : Word) (rest : List Char) :=
      (go setting rest).map fun (v, after) => (w ++ v, after)
    let plain (quoted : Bool) (c : Char) (rest : List Char) :=
      (go setting rest).map fun (w, after) => (consChar quoted c w, after)
    if setting.endsAt c then some ([], if setting = .bare then c :: rest else rest)
    else if c == '\\' then
      match rest with
      | [] => plain quoted '\\' []
      | '\n' :: more => go setting more
      | d :: more => if setting.escapes d then plain true d more else plain quoted '\\' rest
    else if c == '\'' && setting.hasSingleQuotes then
      match rest.span (· != '\'') with
      | (inner, _ :: more) => behind [.text true inner] more
      | (_, []) => none
    else if c == '"' && setting.hasDoubleQuotes then
      (go .double rest).bind fun (inner, more) =>
        behind (if inner.isEmpty then [.text true []] else inner) more
    else if c == '$' then (readDollar go quoted rest).bind fun (part, more) => behind [part] more
    else if c == '\x60' then
      (takeBackquoted? quoted rest).bind fun (s, more) => behind [.script quoted s] more
    else plain quoted c rest

/-- The word at the front of a text and what follows it. -/
def read (cs : List Char) : Option (Word × List Char) := readIn (cs.length + 1) .bare cs

/-- The word that the whole of a text makes in which quotes stand for themselves. -/
def ofDocument (cs : List Char) : Option Word := (readIn (cs.length + 1) .document cs).map (·.1)

end Word

end ProbeKit.Outside.Shell
