import ProbeKit.Outside.Shell.Condition
import ProbeKit.Outside.Shell.Utility.Edit
import ProbeKit.Outside.Shell.Utility.Files

/-!
# Utilities

The utilities by name, each a function from jobs to outcomes.
-/

namespace ProbeKit.Outside.Shell.Utility

/-! ### Conditions -/

/-- Whether a path leads to what a letter asks for. -/
def leads (j : Job) (kind : Char) (name : String) : Bool :=
  let node? := j.node? name
  let there := node?.isSome
  match kind with
  | 'f' => there && !(node?.map Node.isDir).getD false
  | 'd' => (node?.map Node.isDir).getD false
  | 's' =>
    match node? with
    | some (.file bytes) => bytes.size ≠ 0
    | some _ => true
    | none => false
  | 'L' | 'h' =>
    match j.locate .entry name with
    | .ok (.found _ (.link _)) => true
    | _ => false
  | 'x' => (node?.map Node.isDir).getD false
  | 'e' | 'r' | 'w' | 'O' | 'G' => there
  | _ => false

/-- Whether two names lead to the same place. -/
def leadsAlike (j : Job) (left right : String) : Bool :=
  match j.locate .target left, j.locate .target right with
  | .ok (.found a _), .ok (.found b _) => a = b
  | _, _ => false

/-- Decides a condition. -/
def test (j : Job) : Outcome :=
  let decided (words : List String) : Outcome :=
    match Condition.holds (leads j) (leadsAlike j) words with
    | .ok holds => { disk := j.disk, status := if holds then 0 else 1 }
    | .error flaw => j.failWith 2 flaw.message
  if j.name == "[" then
    if j.words.getLast? == some "]" then decided j.words.dropLast else j.failWith 2 "missing ]"
  else decided j.words

/-! ### Printing -/

/-- Prints words. -/
def echo (j : Job) : Outcome := j.printText (Template.echoed j.words)

/-- Prints words by a template. -/
def printf (j : Job) : Outcome :=
  match j.words with
  | "--" :: template :: words | template :: words =>
    let p := Template.printed template words
    { j.printText p.text with
      status := if p.unsuited.isEmpty then 0 else 1
      complaints := p.unsuited.map fun word => j.complaint (word ++ ": expected numeric value") }
  | [] => j.failWith 2 "usage: printf format [arg ...]"

/-- Prints the value of an operation on two numbers, or of a comparison of two texts. -/
def expression (j : Job) : Outcome :=
  let print (value : String) : Outcome :=
    { j.printText (value.toList ++ ['\n']) with
      status := if value == "" || value == "0" then 1 else 0 }
  match j.words with
  | [value] => print value
  | [left, sign, right] =>
    let o := Operation.all.find? fun o => (if sign == "=" then "==" else sign) == o.text
    match o, Expr.numberOf? left, Expr.numberOf? right with
    | some o, some m, some n =>
      match Expr.outcome? o m n with
      | some value => print (toString value)
      | none => j.failWith 2 "division by zero"
    | some .equal, _, _ => print (if left == right then "1" else "0")
    | some .unequal, _, _ => print (if left == right then "0" else "1")
    | some _, _, _ => j.failWith 2 "non-integer argument"
    | none, _, _ => j.failWith 2 "syntax error"
  | _ => j.failWith 2 "syntax error"

/-! ### All utilities -/

/-- Does nothing, well. -/
def succeed (j : Job) : Outcome := j.done

/-- Does nothing, badly. -/
def failQuietly (j : Job) : Outcome := { disk := j.disk, status := 1 }

/-- The utilities by name. -/
def byName : List (String × (Job → Outcome)) :=
  [("true", succeed), ("false", failQuietly), ("sleep", succeed), ("sync", succeed),
    ("date", succeed), ("test", test), ("[", test), ("echo", echo), ("printf", printf),
    ("touch", touch), ("mkdir", makeDirectories),
    ("rmdir", removeDirectories), ("rm", remove), ("unlink", remove), ("mv", move), ("cp", copy),
    ("ln", link), ("chmod", mark), ("chown", mark), ("cat", cat), ("head", head), ("tail", tail),
    ("tee", tee), ("wc", wordCounts), ("sort", sort), ("uniq", uniq), ("seq", seq),
    ("tr", replaceLetters), ("cut", cut), ("grep", grep), ("cmp", compare), ("diff", compare),
    ("sha256sum", digest), ("basename", baseName), ("dirname", directoryName), ("ls", list),
    ("readlink", readLink), ("realpath", realPath), ("find", find), ("truncate", truncate),
    ("expr", expression), ("sed", edit), ("tac", reversed), ("rev", mirrored)]

/-- The utilities that read what can be read unless they are given files. -/
def readers : List String :=
  ["cat", "head", "tail", "tee", "wc", "sort", "uniq", "tr", "cut", "grep", "sed", "tac", "rev",
    "sha256sum"]

/-- Whether a job takes what can be read. -/
def readsInput (j : Job) : Bool :=
  readers.contains j.name && (j.words.contains "-" || !j.words.any fun word => j.hasNode word)

end ProbeKit.Outside.Shell.Utility
