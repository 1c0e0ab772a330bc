import ProbeKit.Digest.Sha256
import ProbeKit.Outside.Shell.Job
import ProbeKit.Outside.Shell.Pattern
import ProbeKit.Outside.Shell.Template
import ProbeKit.Text.Order

/-!
# Utilities for texts

Utilities that print what files hold or what can be read: whole, in part, counted, sorted, cut or
searched.
-/

namespace ProbeKit.Outside.Shell.Utility

/-! ### Lines -/

/-- The characters of bytes; bytes that are no text stand for the characters of their numbers. -/
def charsOf (bytes : ByteArray) : List Char :=
  match Text.decode? bytes with
  | some s => s.toList
  | none => bytes.toList.map fun b => Char.ofNat b.toNat

/-- The lines of a text, each with its end. -/
def linesOf (cs : List Char) : List (List Char) :=
  cs.foldr (fun c lines =>
    if c == '\n' then ['\n'] :: lines
    else
      match lines with
      | line :: rest => (c :: line) :: rest
      | [] => [[c]]) []

/-- A line without its end. -/
def bareLine (line : List Char) : List Char :=
  match line.reverse with
  | '\n' :: rest => rest.reverse
  | _ => line

/-- A line with an end. -/
def ended (line : List Char) : List Char := bareLine line ++ ['\n']

/-- The names of a job, or the hyphen for what can be read. -/
def sources (o : Options) : List String := if o.operands.isEmpty then ["-"] else o.operands

/-- Prints what comes of the bytes of every source. -/
def overSources (j : Job) (names : List String) (describe : String → String)
    (f : Job → String → ByteArray → Outcome) : Outcome :=
  j.forEach names fun j name =>
    match j.bytesOf name with
    | .ok bytes => f j name bytes
    | .error e =>
      match e with
      | .refused .isDirectory _ => j.fail (Job.shown name ++ ": " ++ Refused.words .isDirectory)
      | _ => j.fail (describe name ++ ": " ++ Job.wordsOf e)

/-- All characters of all sources, if each can be read. -/
def allChars (j : Job) (names : List String) : Except String (List Char) :=
  names.foldlM (fun cs name =>
    match j.bytesOf name with
    | .ok bytes => .ok (cs ++ charsOf bytes)
    | .error e => .error (Job.shown name ++ ": " ++ Job.wordsOf e)) []

/-- Prints what comes of all characters of all sources. -/
def overAll (j : Job) (names : List String) (f : List Char → List Char) : Outcome :=
  match allChars j names with
  | .ok cs => j.printText (f cs)
  | .error message => j.fail message

/-! ### Whole and in part -/

/-- A number filled up to a width. -/
def padded (width n : Nat) : List Char :=
  let digits := Nat.toDigits 10 n
  List.replicate (width - digits.length) ' ' ++ digits

/-- Prints files one after the other. -/
def cat (j : Job) : Outcome :=
  j.withOptions ⟨"uvetsbnAET", "", [], true⟩ 0 fun o =>
    if o.has 'n' then
      overAll j (sources o) fun cs =>
        ((linesOf cs).zipIdx 1).flatMap fun (line, n) => padded 6 n ++ '\t' :: line
    else overSources j (sources o) Job.shown fun j _ bytes => j.print bytes

/-- Prints lines from the last to the first. -/
def reversed (j : Job) : Outcome :=
  j.withOptions {} 0 fun o => overAll j (sources o) fun cs => (linesOf cs).reverse.flatten

/-- Prints each line from its last character to its first. -/
def mirrored (j : Job) : Outcome :=
  j.withOptions {} 0 fun o => overAll j (sources o) fun cs =>
    (linesOf cs).flatMap fun line =>
      (bareLine line).reverse ++ if line.getLast? == some '\n' then ['\n'] else []

/-- A hyphen and a number stand for that number of lines. -/
def withLineCount (words : List String) : List String :=
  match words with
  | word :: rest =>
    match word.toList with
    | '-' :: c :: cs =>
      if c.isDigit && cs.all Char.isDigit then "-n" :: String.ofList (c :: cs) :: rest else words
    | _ => words
  | [] => []

/-- Prints a part of files.  The function cuts a list to a count, given as a word. -/
def part (j : Job) (cutLines : String → List (List Char) → List (List Char))
    (cutBytes : String → List UInt8 → List UInt8) : Outcome :=
  let j := { j with words := withLineCount j.words }
  j.withOptions ⟨"qv", "nc", [("lines", 'n'), ("bytes", 'c')], true⟩ 0 fun o =>
    let headed := 1 < o.operands.length && !o.has 'q'
    let describe (name : String) := "cannot open " ++ Job.quoted name ++ " for reading"
    let outcome := overSources j (sources o) describe fun j name bytes =>
      let cut : ByteArray :=
        match o.value? 'c' with
        | some count => ⟨(cutBytes count bytes.toList).toArray⟩
        | none =>
          let lines := cutLines ((o.value? 'n').getD "10") (linesOf (charsOf bytes))
          Text.encode (String.ofList lines.flatten)
      let head :=
        if headed then
          (if o.operands.head? == some name then "" else "\n") ++ "==> " ++ name ++ " <==\n"
        else ""
      j.print (Text.encode head ++ cut)
    outcome

/-- The number that a word is. -/
def count (word : String) : Nat := Expr.ofDigits 10 (word.toList.filter Char.isDigit)

/-- The front of a list: so many, or all but so many. -/
def front {α : Type} (word : String) (xs : List α) : List α :=
  if word.startsWith "-" then xs.take (xs.length - count word) else xs.take (count word)

/-- The end of a list: so many, or from a number on. -/
def back {α : Type} (word : String) (xs : List α) : List α :=
  if word.startsWith "+" then xs.drop (count word - 1) else xs.drop (xs.length - count word)

/-- Prints the front of files. -/
def head (j : Job) : Outcome := part j front front

/-- Prints the end of files. -/
def tail (j : Job) : Outcome := part j back back

/-- Prints what can be read, and writes it into files. -/
def tee (j : Job) : Outcome :=
  j.withOptions ⟨"ai", "", [("append", 'a')], true⟩ 0 fun o =>
    let outcome := j.forEach o.operands fun j name =>
      let old :=
        if o.has 'a' then (j.read name).toOption.getD ByteArray.empty else ByteArray.empty
      match j.write name (old ++ j.input) with
      | .ok disk => { disk }
      | .error e => j.fail (name ++ ": " ++ Job.wordsOf e)
    { outcome with output := j.input }

/-- Groups of so many items, the last one perhaps smaller. -/
def groupsOf {α : Type} (size : Nat) (xs : List α) : List (List α) :=
  (List.range ((xs.length + size - 1) / size)).map fun k => (xs.drop (k * size)).take size

/-! ### Counting and sorting -/

/-- The number of words of a text. -/
def wordCount (cs : List Char) : Nat :=
  (cs.splitBy fun a b => a.isWhitespace == b.isWhitespace).countP fun run =>
    !(run.headD ' ').isWhitespace

/-- Counts lines, words, characters and bytes. -/
def wordCounts (j : Job) : Outcome :=
  j.withOptions
    ⟨"lwcm", "", [("lines", 'l'), ("words", 'w'), ("bytes", 'c'), ("chars", 'm')], true⟩ 0
    fun o =>
      let all := o.flags.isEmpty
      let kinds := "lwmc".toList.filter fun c => (all && c != 'm') || o.has c
      let names := sources o
      let counts (bytes : ByteArray) : List Nat := kinds.map fun kind =>
        let cs := charsOf bytes
        if kind == 'l' then cs.count '\n'
        else if kind == 'w' then wordCount cs
        else if kind == 'm' then cs.length
        else bytes.size
      let sizes := names.map fun name => ((j.bytesOf name).toOption.getD ByteArray.empty).size
      let total := sizes.foldl (· + ·) 0
      let width :=
        if kinds.length = 1 && names.length = 1 then 1
        else if names.contains "-" then 7
        else (Nat.toDigits 10 total).length
      let line (numbers : List Nat) (name : String) :=
        [' '].intercalate (numbers.map (padded width)) ++
          (if name == "-" && o.operands.isEmpty then [] else ' ' :: name.toList) ++ ['\n']
      let outcome := overSources j names Job.shown fun j name bytes =>
        j.printText (line (counts bytes) name)
      if names.length ≤ 1 then outcome
      else
        let sums := names.foldl (fun sums name =>
          match j.bytesOf name with
          | .ok bytes => List.zipWith (· + ·) sums (counts bytes)
          | .error _ => sums) (kinds.map fun _ => 0)
        { outcome with output := outcome.output ++ Text.encode (String.ofList (line sums "total")) }

/-- The number at the front of a line. -/
def leadingNumber (line : String) : Int :=
  let cs := line.toList.dropWhile Word.isBlank
  match cs with
  | '-' :: rest => -(Expr.ofDigits 10 (rest.takeWhile Char.isDigit) : Int)
  | _ => Expr.ofDigits 10 (cs.takeWhile Char.isDigit)

/-- Sorts lines. -/
def sort (j : Job) : Outcome :=
  j.withOptions ⟨"nrusfbd", "kt", [("reverse", 'r'), ("unique", 'u')], true⟩ 0 fun o =>
    overAll j (sources o) fun cs =>
      let lines := (linesOf cs).map fun line => String.ofList (bareLine line)
      let atMost (s t : String) : Bool :=
        if o.has 'n' && leadingNumber s != leadingNumber t then leadingNumber s < leadingNumber t
        else Text.atMost s t
      let sorted := lines.mergeSort fun s t => if o.has 'r' then atMost t s else atMost s t
      let kept := if o.has 'u' then sorted.eraseDups else sorted
      kept.flatMap fun line => line.toList ++ ['\n']

/-- Joins lines that stand below one another and are the same. -/
def uniq (j : Job) : Outcome :=
  j.withOptions ⟨"cdui", "fsw", [("count", 'c')], true⟩ 0 fun o =>
    overAll j ((sources o).take 1) fun cs =>
      let groups := ((linesOf cs).map ended).splitBy (· == ·)
      (groups.filter fun group =>
        (!o.has 'd' || 1 < group.length) && (!o.has 'u' || group.length = 1)).flatMap fun group =>
          (if o.has 'c' then padded 7 group.length ++ [' '] else []) ++ group.headD []

/-- Prints numbers in a row. -/
def seq (j : Job) : Outcome :=
  let isNumber (word : String) :=
    match word.toList with
    | '-' :: c :: rest => c.isDigit && rest.all Char.isDigit
    | c :: rest => c.isDigit && rest.all Char.isDigit
    | [] => false
  let (separator, words) :=
    match j.words with
    | "-s" :: separator :: words => (separator, words)
    | word :: words =>
      if word.startsWith "-s" then (String.ofList (word.toList.drop 2), words)
      else ("\n", word :: words)
    | [] => ("\n", [])
  match words.find? fun word => !isNumber word with
  | some word => j.refuse ("invalid floating point argument: " ++ Job.quoted word)
  | none =>
    let row (first step last : Int) : List Char :=
      let length : Nat := if step = 0 then 0 else (Int.fdiv (last - first) step + 1).toNat
      let numbers := (List.range length).map fun (k : Nat) => toString (first + step * k)
      if numbers.isEmpty then [] else (separator.intercalate numbers).toList ++ ['\n']
    match words.map leadingNumber with
    | [last] => j.printText (row 1 1 last)
    | [first, last] => j.printText (row first 1 last)
    | [first, step, last] => j.printText (row first step last)
    | _ => j.refuse "missing operand"

/-! ### Cutting and searching -/

/-- The characters of a set: ranges, escapes and named classes. -/
def setOf : Nat → List Char → List Char
  | 0, _ => []
  | _ + 1, [] => []
  | k + 1, c :: rest =>
    let span (first last : Char) :=
      (List.range (last.toNat + 1 - first.toNat)).map fun n => Char.ofNat (first.toNat + n)
    match c, rest with
    | '[', ':' :: more =>
      let (name, after) := more.span (· != ':')
      match Pattern.classes.lookup (String.ofList name) with
      | some ranges =>
        (ranges.mergeSort fun a b => a.1.toNat ≤ b.1.toNat).flatMap (fun (a, b) => span a b) ++
          setOf k (after.drop 2)
      | none => c :: setOf k rest
    | '\\', d :: more => (Template.letters.lookup d).getD d :: setOf k more
    | a, '-' :: b :: more => span a b ++ setOf k more
    | _, _ => c :: setOf k rest

/-- Replaces or removes characters. -/
def replaceLetters (j : Job) : Outcome :=
  j.withOptions ⟨"dscC", "", [("delete", 'd')], true⟩ 1 fun o =>
    let set (n : Nat) :=
      (o.operands[n]?.map fun word => setOf (word.length + 1) word.toList).getD []
    let inSet (c : Char) := (set 0).contains c != (o.has 'c' || o.has 'C')
    let last := (set 1).getLast?
    let replaced (c : Char) : Char :=
      if !inSet c then c
      else if o.has 'c' || o.has 'C' then last.getD c
      else
        let pairs := (set 0).zip (set 1 ++ List.replicate (set 0).length (last.getD c))
        (pairs.reverse.lookup c).getD c
    let squeezed (only : Char → Bool) (cs : List Char) :=
      (cs.splitBy (· == ·)).flatMap fun run => if only (run.headD ' ') then run.take 1 else run
    let cs := charsOf j.input
    if o.has 'd' then j.printText (cs.filter fun c => !inSet c)
    else if o.operands.length < 2 then
      if o.has 's' then j.printText (squeezed inSet cs) else j.refuse "missing operand"
    else
      let cs := cs.map replaced
      j.printText (if o.has 's' then squeezed (fun c => (set 1).contains c) cs else cs)

/-- Whether a list of ranges such as `1,3-5` holds a number. -/
def inRanges (ranges : String) (n : Nat) : Bool :=
  (ranges.splitOn ",").any fun range =>
    match range.splitOn "-" with
    | [one] => n = count one
    | [first, last] => count first ≤ n && (last == "" || n ≤ count last)
    | _ => false

/-- Cuts parts out of lines. -/
def cut (j : Job) : Outcome :=
  j.withOptions ⟨"sn", "dfcb", [("delimiter", 'd'), ("fields", 'f')], true⟩ 0 fun o =>
    overAll j (sources o) fun cs =>
      (linesOf cs).flatMap fun line =>
        let line := bareLine line
        let chosen {α : Type} (ranges : String) (xs : List α) : List α :=
          (xs.zipIdx.filter fun x => inRanges ranges (x.2 + 1)).map (·.1)
        match (o.value? 'c').or (o.value? 'b'), o.value? 'f' with
        | some ranges, _ => chosen ranges line ++ ['\n']
        | none, some ranges =>
          let mark := (((o.value? 'd').bind fun d => d.toList.head?).getD '\t')
          if line.contains mark then
            [mark].intercalate (chosen ranges (line.splitOn mark)) ++ ['\n']
          else if o.has 's' then []
          else line ++ ['\n']
        | none, none => []

/-- Prints the lines in which a pattern occurs. -/
def grep (j : Job) : Outcome :=
  let known : Known := ⟨"qcvnilLFEGswxohH", "em",
    [("quiet", 'q'), ("count", 'c'), ("invert-match", 'v'), ("ignore-case", 'i'),
      ("fixed-strings", 'F'), ("extended-regexp", 'E')], true⟩
  let o := Options.read known {} j.words
  let (pattern, names) :=
    match o.value? 'e' with
    | some pattern => (some pattern, o.operands)
    | none => (o.operands.head?, o.operands.drop 1)
  match o.unknown, pattern with
  | some word, _ => j.failWith 2 ("invalid option -- " ++ Job.quoted word)
  | none, none => j.failWith 2 "missing pattern"
  | none, some pattern =>
    let style := if o.has 'F' then .plain else if o.has 'E' then .extended else PatternStyle.basic
    let alternatives := (pattern.splitOn "\n").flatMap fun line => Pattern.read style line.toList
    let alternatives := if o.has 'x' then
        alternatives.map fun a => { a with fromStart := true, toEnd := true }
      else alternatives
    let names := if names.isEmpty then ["-"] else names
    let found (cs : List Char) : List (List Char × Nat) :=
      ((linesOf cs).zipIdx 1).filter fun line =>
        Pattern.occursIn (o.has 'i') alternatives (bareLine line.1) != o.has 'v'
    let results := names.map fun name => (name, (j.bytesOf name).map fun b => found (charsOf b))
    let named := (1 < names.length && !o.has 'h') || o.has 'H'
    let shown (name : String) (lines : List (List Char × Nat)) : List Char :=
      let label := if named then name.toList ++ [':'] else []
      if o.has 'q' then []
      else if o.has 'l' then if lines.isEmpty then [] else name.toList ++ ['\n']
      else if o.has 'L' then if lines.isEmpty then name.toList ++ ['\n'] else []
      else if o.has 'c' then label ++ Nat.toDigits 10 lines.length ++ ['\n']
      else lines.flatMap fun line =>
        label ++ (if o.has 'n' then Nat.toDigits 10 line.2 ++ [':'] else []) ++ ended line.1
    let output := results.flatMap fun (name, result) =>
      match result with
      | .ok lines => shown name lines
      | .error _ => []
    let any := results.any fun (_, result) => (result.toOption.map fun l => !l.isEmpty).getD false
    let complaints := results.filterMap fun (name, result) =>
      match result with
      | .error e => if o.has 's' then none else some (j.complaint (name ++ ": " ++ Job.wordsOf e))
      | .ok _ => none
    let failed := results.any fun (_, result) => result.toOption.isNone
    { disk := j.disk, output := Text.encode (String.ofList output), complaints
      status := if failed && !(any && o.has 'q') then 2 else if any then 0 else 1 }

/-! ### Comparing and hashing -/

/-- Tells whether two files are the same. -/
def compare (j : Job) : Outcome :=
  let known : Known :=
    ⟨"sqlbuarNw", "", [("silent", 's'), ("quiet", 's'), ("brief", 'q')], true⟩
  let o := Options.read known {} j.words
  match o.operands with
  | [left, right] =>
    match j.bytesOf left, j.bytesOf right with
    | .ok a, .ok b =>
      if a == b then j.done
      else
        { disk := j.disk, status := 1
          output := Text.encode <|
            if o.has 'q' then "Files " ++ left ++ " and " ++ right ++ " differ\n" else "" }
    | .error e, _ => j.failWith 2 (left ++ ": " ++ Job.wordsOf e)
    | _, .error e => j.failWith 2 (right ++ ": " ++ Job.wordsOf e)
  | _ => j.failWith 2 "missing operand"

/-- Prints the digests of files. -/
def digest (j : Job) : Outcome :=
  j.withOptions ⟨"bt", "", [], true⟩ 0 fun o =>
    overSources j (sources o) Job.shown fun j name bytes =>
      j.printText ((Digest.hexDigestOf bytes).toList ++ [' ', ' '] ++ name.toList ++ ['\n'])

/-! ### Names -/

/-- Prints the last name of paths, without an ending if one is given. -/
def baseName (j : Job) : Outcome :=
  j.withOptions ⟨"az", "s", [], false⟩ 1 fun o =>
    let (names, ending) :=
      match o.value? 's', o.has 'a', o.operands with
      | some ending, _, names => (names, ending)
      | none, false, [name, ending] => ([name], ending)
      | none, _, names => (names, "")
    j.printText <| names.flatMap fun name =>
      let last := (Path.namesOf name.toList).getLastD (if name.startsWith "/" then "/" else name)
      let cut :=
        if last != ending && last.endsWith ending then
          last.toList.take (last.length - ending.length)
        else last.toList
      cut ++ ['\n']

/-- Prints the directories of paths. -/
def directoryName (j : Job) : Outcome :=
  j.withOptions ⟨"z", "", [], true⟩ 1 fun o =>
    j.printText <| o.operands.flatMap fun name =>
      let dropSlashes (cs : List Char) := (cs.reverse.dropWhile (· == '/')).reverse
      let cs := name.toList
      let above := dropSlashes ((dropSlashes cs).reverse.dropWhile (· != '/')).reverse
      let result :=
        if !above.isEmpty then above
        else if cs.head? == some '/' then ['/']
        else ['.']
      result ++ ['\n']

/-- Lists files and directories. -/
def list (j : Job) : Outcome :=
  let known : Known := ⟨"1aAdpFRrtUlhsi", "", [("all", 'a'), ("almost-all", 'A')], true⟩
  let o := Options.read known {} j.words
  match o.unknown with
  | some word => j.failWith 2 ("invalid option -- " ++ Job.quoted word)
  | none =>
    let names := if o.operands.isEmpty then ["."] else Text.sorted o.operands
    let order (names : List String) :=
      if o.has 'r' then (Text.sorted names).reverse else Text.sorted names
    let isDirectory (name : String) := !o.has 'd' && j.hasDirectory name
    let isEntry (name : String) :=
      match j.locate .entry name with
      | .ok (.found _ _) => true
      | _ => false
    let missing := names.filter fun name => !isEntry name && !isDirectory name
    let files := names.filter fun name => !missing.contains name && !isDirectory name
    let directories := names.filter isDirectory
    let inside (name : String) : List String :=
      let entries := (j.disk.namesIn (j.path name)).filter fun entry =>
        o.has 'a' || o.has 'A' || !entry.startsWith "."
      order (if o.has 'a' then "." :: ".." :: entries else entries)
    let marked (directory entry : String) : String :=
      if (o.has 'p' || o.has 'F') && j.disk.hasDirectory ((j.path directory).join entry) then
        entry ++ "/"
      else entry
    let fileLines := (order files).map fun name => name ++ "\n"
    let headed := 1 < o.operands.length
    let deep (name : String) : List String :=
      let below := ((j.node? name).map Node.directories).getD []
      let visible := below.filter fun names =>
        names.all fun entry => o.has 'a' || o.has 'A' || !entry.startsWith "."
      (visible.mergeSort Text.listAtMost).map fun names => "/".intercalate (name :: names)
    let headed := headed || o.has 'R'
    let shown := (order directories).flatMap fun name => if o.has 'R' then deep name else [name]
    let blocks := shown.map fun name =>
      (if headed then name ++ ":\n" else "") ++
        String.join ((inside name).map fun entry => marked name entry ++ "\n")
    let blocks := (if fileLines.isEmpty then [] else [String.join fileLines]) ++ blocks
    { disk := j.disk, output := Text.encode ("\n".intercalate blocks)
      complaints := missing.map fun name =>
        j.complaint ("cannot access " ++ Job.quoted name ++ ": " ++ Refused.words .missing)
      status := if missing.isEmpty then 0 else 2 }

/-- Prints where links lead. -/
def readLink (j : Job) : Outcome :=
  j.withOptions ⟨"fnemqsz", "", [("canonicalize", 'f')], true⟩ 1 fun o =>
    j.forEach o.operands fun j name =>
      if o.has 'f' || o.has 'e' || o.has 'm' then
        match j.disk.resolve (j.path name) with
        | .ok p => j.printText (p.text.toList ++ ['\n'])
        | .error _ => { disk := j.disk, status := 1 }
      else
        match j.locate .entry name with
        | .ok (.found _ (.link target)) =>
          j.printText (target.toList ++ if o.has 'n' then [] else ['\n'])
        | _ => { disk := j.disk, status := 1 }

/-- Prints paths without links. -/
def realPath (j : Job) : Outcome :=
  j.withOptions ⟨"emqs", "", [], true⟩ 1 fun o =>
    j.forEach o.operands fun j name =>
      match j.disk.resolve (j.path name) with
      | .ok p =>
        if j.disk.hasDirectory p.parent then j.printText (p.text.toList ++ ['\n'])
        else j.fail (name ++ ": " ++ Refused.words .missing)
      | .error e => j.fail (name ++ ": " ++ Job.wordsOf e)

end ProbeKit.Outside.Shell.Utility
