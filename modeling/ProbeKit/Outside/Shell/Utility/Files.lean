import ProbeKit.Path.Wildcard
import ProbeKit.Outside.Shell.Job

/-!
# Utilities for files

Utilities that make, copy, move and remove files, directories and links.  An entry that is to be
made where a directory stands goes into the directory, under its own last name.
-/

namespace ProbeKit.Outside.Shell.Utility

/-! ### Making -/

/-- Makes empty files where there are none. -/
def touch (j : Job) : Outcome :=
  j.withOptions ⟨"acfhm", "drt", [("no-create", 'c')], true⟩ 1 fun o =>
    j.forEach o.operands fun j name =>
      if j.hasNode name then j.done
      else
        match j.write name ByteArray.empty with
        | .ok disk => if o.has 'c' then j.done else { disk }
        | .error e =>
          if o.has 'c' then j.done
          else if name.endsWith "/" then
            j.fail ("setting times of " ++ Job.quoted name ++ ": " ++ Refused.words .missing)
          else j.fail ("cannot touch " ++ Job.quoted name ++ ": " ++ Job.wordsOf e)

/-- The shortest front of a name that leads to something that is no directory. -/
def firstObstacle (j : Job) (name : String) : String :=
  let pieces := name.splitOn "/"
  let fronts := (List.range pieces.length).map fun n => "/".intercalate (pieces.take (n + 1))
  (fronts.find? fun front =>
    j.disk.hasNode (j.plainPath front) && !j.disk.hasDirectory (j.plainPath front)).getD name

/-- Makes directories. -/
def makeDirectories (j : Job) : Outcome :=
  j.withOptions ⟨"pv", "m", [("parents", 'p')], true⟩ 1 fun o =>
    j.forEach o.operands fun j name =>
      let p := j.plainPath name
      let refused (reason : Refused) :=
        j.fail ("cannot create directory " ++ Job.curved name ++ ": " ++ reason.words)
      if name == "" then refused .missing
      else if o.has 'p' then
        match j.disk.ensureDirectories p with
        | .ok disk => { disk }
        | .error (.refused reason _) =>
          let name := firstObstacle j name
          j.fail ("cannot create directory " ++ Job.curved name ++ ": " ++ reason.words)
        | .error _ => refused .tooManyLinks
      else
        match j.disk.makeDirectory p with
        | .ok disk =>
          let said :=
            if o.has 'v' then "mkdir: created directory " ++ Job.quoted name ++ "\n" else ""
          { disk, output := Text.encode said }
        | .error reason => refused reason

/-- The name that an entry gets in a directory. -/
def lastName (name : String) : String :=
  (Path.namesOf name.toList).getLastD (if name.startsWith "/" then "/" else ".")

/-- Where an entry goes that is brought to a target, and how the place is called. -/
def destination (j : Job) (asIs : Bool) (source target : String) : Path × String :=
  if !asIs && j.hasDirectory target then
    let name := lastName source
    if name == "." then (j.plainPath target, target)
    else
      ((j.plainPath target).child name,
        (if target.endsWith "/" then target else target ++ "/") ++ name)
  else (j.path target, target)

/-- Brings every source to a target, which has to be a directory if there are several. -/
def bringAll (j : Job) (o : Options) (bring : Job → String → String → Outcome) : Outcome :=
  let (sources, target) :=
    match o.value? 't' with
    | some target => (o.operands, target)
    | none => (o.operands.dropLast, o.operands.getLastD "")
  let several := 1 < sources.length || (o.value? 't').isSome
  if several && !j.hasDirectory target then
    j.fail ("target " ++ Job.quoted target ++ ": " ++
      Refused.words (if j.hasNode target then .notDirectory else .missing))
  else j.forEach sources fun j source => bring j source target

/-- Makes links. -/
def link (j : Job) : Outcome :=
  j.withOptions ⟨"sfnvrT", "t", [("symbolic", 's'), ("force", 'f')], true⟩ 1 fun o =>
    let o := match o.operands with
      | [target] => { o with operands := [target, "."] }
      | _ => o
    bringAll j o fun j source target =>
      let (p, called) :=
        if o.has 'n' && (match j.disk.locateFor .entry (j.plainPath target) with
          | .ok (.found _ (.link _)) => true
          | _ => false) then (j.plainPath target, target)
        else destination j (o.has 'T') source target
      let kind := if o.has 's' then "symbolic link " else "hard link "
      let refused (words : String) :=
        let leading := if source == "" then " -> " ++ Job.quoted source else ""
        j.fail ("failed to create " ++ kind ++ Job.quoted called ++ leading ++ ": " ++ words)
      let node : Except Outcome Node :=
        if o.has 's' then .ok (Node.link source)
        else
          match j.locate .entry source with
          | .ok (.found _ (.dir _)) =>
            .error (j.fail (source ++ ": hard link not allowed for directory"))
          | .ok (.found _ node) => .ok node
          | .ok (.free _) => .error (j.fail ("failed to access " ++ Job.quoted source ++ ": " ++
              Refused.words .missing))
          | .error reason => .error (j.fail ("failed to access " ++ Job.quoted source ++ ": " ++
              reason.words))
      match node with
      | .error outcome => outcome
      | .ok node =>
        match j.disk.locateFor .entry p with
        | .ok (.free place) =>
          if source == "" then refused (Refused.words .missing)
          else { disk := j.disk.putAt place node }
        | .ok (.found place old) =>
          if o.has 'f' && !old.isDir then { disk := j.disk.putAt place node }
          else refused (Refused.words .taken)
        | .error reason => refused reason.words

/-! ### Removing -/

/-- Removes files, links and, if asked to, directories with all that is in them. -/
def remove (j : Job) : Outcome :=
  let known : Known :=
    ⟨"rRfidv", "", [("recursive", 'r'), ("force", 'f'), ("dir", 'd')], true⟩
  j.withOptions known (if (Options.read known {} j.words).has 'f' then 0 else 1) fun o =>
    j.forEach o.operands fun j name =>
      let refused (words : String) := j.fail ("cannot remove " ++ Job.quoted name ++ ": " ++ words)
      let last := (name.toList.splitOn '/').filter (!·.isEmpty) |>.getLastD []
      if (o.has 'r' || o.has 'R' || o.has 'd') && (last == ['.'] || last == ['.', '.']) then
        j.fail ("refusing to remove '.' or '..' directory: skipping " ++ Job.quoted name)
      else
        match j.locate .entry name with
        | .ok (.found place (.dir entries)) =>
          if o.has 'r' || o.has 'R' then { disk := j.disk.eraseAt place }
          else if o.has 'd' then
            if entries.isEmpty then { disk := j.disk.eraseAt place }
            else refused "Directory not empty"
          else refused (Refused.words .isDirectory)
        | .ok (.found place _) =>
          let said := if o.has 'v' then "removed " ++ Job.quoted name ++ "\n" else ""
          { disk := j.disk.eraseAt place, output := Text.encode said }
        | .ok (.free _) => if o.has 'f' then j.done else refused (Refused.words .missing)
        | .error reason =>
          if o.has 'f' && (reason = .missing || reason = .notDirectory) then j.done
          else refused reason.words

/-- Removes empty directories. -/
def removeDirectories (j : Job) : Outcome :=
  j.withOptions ⟨"pv", "", [("parents", 'p')], true⟩ 1 fun o =>
    j.forEach o.operands fun j name =>
      let refused (words : String) :=
        j.fail ("failed to remove " ++ Job.quoted name ++ ": " ++ words)
      match j.locate .entry name with
      | .ok (.found place (.dir [])) => { disk := j.disk.eraseAt place }
      | .ok (.found _ (.dir _)) => refused "Directory not empty"
      | .ok (.found _ _) => refused (Refused.words .notDirectory)
      | .ok (.free _) => refused (Refused.words .missing)
      | .error reason => refused reason.words

/-! ### Moving and copying -/

/-- Moves one entry. -/
def moveOne (o : Options) (j : Job) (source target : String) : Outcome :=
  match j.locate .entry source with
  | .ok (.found place node) =>
    let (p, called) := destination j (o.has 'T') source target
    let p : Path := if node.isDir then ⟨p.anchor, p.names.filter (· != "")⟩ else p
    let moved (there : List String) : Outcome :=
      let said := if o.has 'v' then
          "renamed " ++ Job.quoted source ++ " -> " ++ Job.quoted called ++ "\n"
        else ""
      { disk := j.disk.moveTo place there node, output := Text.encode said }
    let cannot (words : String) :=
      j.fail ("cannot move " ++ Job.quoted source ++ " to " ++ Job.quoted called ++ ": " ++ words)
    let last := lastName source
    let busy := last == "." || last == ".."
    let inside (there : List String) : Outcome :=
      if busy then cannot "Device or resource busy"
      else if place.isPrefixOf there then
        j.fail ("cannot move " ++ Job.quoted source ++ " to a subdirectory of itself, " ++
          Job.quoted called)
      else moved there
    match if target == "" then .error .missing else j.disk.locateFor .entry p with
    | .ok (.free there) => inside there
    | .ok (.found there old) =>
      if place = there then
        j.fail (Job.quoted source ++ " and " ++ Job.quoted called ++ " are the same file")
      else if o.has 'n' then j.done
      else if node.isDir && !old.isDir then
        j.fail ("cannot overwrite non-directory " ++ Job.quoted called ++ " with directory " ++
          Job.quoted source)
      else if !node.isDir && old.isDir then
        j.fail ("cannot overwrite directory " ++ Job.quoted called ++ " with non-directory")
      else if old.isDir && !old.entries.isEmpty && !busy && !place.isPrefixOf there then
        cannot "Directory not empty"
      else inside there
    | .error reason =>
      let asksForDirectory := p.names.getLast? == some "" && reason = .missing && target != ""
      cannot (Refused.words (if asksForDirectory then .notDirectory else reason))
  | .ok (.free _) => j.fail ("cannot stat " ++ Job.quoted source ++ ": " ++ Refused.words .missing)
  | .error reason => j.fail ("cannot stat " ++ Job.quoted source ++ ": " ++ reason.words)

/-- Moves entries. -/
def move (j : Job) : Outcome :=
  j.withOptions ⟨"fnuviT", "tS", [("force", 'f'), ("no-clobber", 'n')], true⟩ 2 fun o =>
    bringAll j o (moveOne o)

/-- Copies one entry. -/
def copyOne (o : Options) (j : Job) (source target : String) : Outcome :=
  let whole := o.has 'r' || o.has 'R' || o.has 'a'
  let keepsLinks := (whole && !o.has 'L' && !o.has 'H') || o.has 'P' || o.has 'd'
  let cannotStat (words : String) := j.fail ("cannot stat " ++ Job.quoted source ++ ": " ++ words)
  match j.locate (if keepsLinks then .entry else .target) source with
  | .ok (.free _) => cannotStat (Refused.words .missing)
  | .error reason => cannotStat reason.words
  | .ok (.found place node) =>
    let (p, called) := destination j (o.has 'T') source target
    let cannot (what words : String) :=
      j.fail ("cannot create " ++ what ++ " " ++ Job.quoted called ++ ": " ++ words)
    let same :=
      j.fail (Job.quoted source ++ " and " ++ Job.quoted called ++ " are the same file")
    if node.isDir && !whole then
      j.fail ("-r not specified; omitting directory " ++ Job.quoted source)
    else if node.isDir then
      let p : Path := ⟨p.anchor, p.names.filter (· != "")⟩
      match if target == "" then .error .missing else j.disk.locate p with
      | .ok (.found there old) =>
        if !old.isDir then
          j.fail ("cannot overwrite non-directory " ++ Job.quoted called ++ " with directory " ++
            Job.quoted source)
        else if place = there then same
        else if place.isPrefixOf there then
          j.fail ("cannot copy a directory, " ++ Job.quoted source ++ ", into itself, " ++
            Job.quoted called)
        else { disk := { j.disk with top := j.disk.top.put there (node.overlay old) } }
      | .ok (.free there) =>
        if place.isPrefixOf there then
          let disk := { j.disk with top := j.disk.top.put there node }
          { disk, status := 1
            complaints := [j.complaint ("cannot copy a directory, " ++ Job.quoted source ++
              ", into itself, " ++ Job.quoted called)] }
        else { disk := { j.disk with top := j.disk.top.put there node } }
      | .error reason => cannot "directory" reason.words
    else
      match node with
      | .link _ =>
        match if target == "" then .error .missing else j.disk.locateFor .entry p with
        | .ok (.found there old) =>
          if place = there then same
          else if o.has 'n' then j.done
          else if old.isDir then
            j.fail ("cannot overwrite directory " ++ Job.quoted called ++ " with non-directory")
          else { disk := j.disk.putAt there node }
        | .ok (.free there) => { disk := j.disk.putAt there node }
        | .error reason => cannot "symbolic link" reason.words
      | _ =>
        let bytes := match node with
          | .file bytes => bytes
          | _ => ByteArray.empty
        let copied (disk : Disk) : Outcome :=
          let said :=
            if o.has 'v' then Job.quoted source ++ " -> " ++ Job.quoted called ++ "\n" else ""
          { disk, output := Text.encode said }
        match if target == "" then .error .missing else j.disk.locate p with
        | .ok (.found there old) =>
          if place = there then same
          else if o.has 'n' then j.done
          else if old.isDir then
            j.fail ("cannot overwrite directory " ++ Job.quoted called ++ " with non-directory " ++
              Job.quoted source)
          else copied { j.disk with top := j.disk.top.put there (.file bytes) }
        | .ok (.free there) =>
          match j.disk.locateFor .entry p with
          | .ok (.found entry _) =>
            if o.has 'f' then { disk := j.disk.putAt entry (.file bytes) }
            else j.fail ("not writing through dangling symlink " ++ Job.quoted called)
          | _ => copied { j.disk with top := j.disk.top.put there (.file bytes) }
        | .error reason =>
          let asksForDirectory := p.names.getLast? == some "" && reason = .missing
          cannot "regular file" (Refused.words (if asksForDirectory then .notDirectory else reason))

/-- Copies entries. -/
def copy (j : Job) : Outcome :=
  j.withOptions
    ⟨"rRafdPLHnpvuT", "t", [("recursive", 'r'), ("archive", 'a'), ("force", 'f')], true⟩ 2
    fun o => bringAll j o (copyOne o)

/-- Cuts files to a size, or fills them up with null bytes. -/
def truncate (j : Job) : Outcome :=
  j.withOptions ⟨"c", "s", [("size", 's'), ("no-create", 'c')], true⟩ 1 fun o =>
    match (o.value? 's').map fun word => (word.toList.all Char.isDigit, word.toNat?.getD 0) with
    | some (true, size) =>
      j.forEach o.operands fun j name =>
        if o.has 'c' && !j.hasNode name then j.done
        else
          let old := ((j.read name).toOption.getD ByteArray.empty).toList.take size
          match j.write name ⟨(old ++ List.replicate (size - old.length) 0).toArray⟩ with
          | .ok disk => { disk }
          | .error e =>
            j.fail ("cannot open " ++ Job.quoted name ++ " for writing: " ++ Job.wordsOf e)
    | _ => j.refuse "you must specify either '--size' or '--reference'"

/-- Whether a node passes the tests that words name. -/
def passes (name : String) (node : Node) : List String → Bool
  | "-name" :: pattern :: rest =>
    Wildcard.covers (Wildcard.parse pattern) name && passes name node rest
  | "-type" :: kind :: rest =>
    (match node with
      | .file _ => kind == "f"
      | .dir _ => kind == "d"
      | .link _ => kind == "l") && passes name node rest
  | _ :: rest => passes name node rest
  | [] => true

/-- Lists what is below directories, and removes it if asked to. -/
def find (j : Job) : Outcome :=
  let isPlace (word : String) := !word.startsWith "-" && word != "!" && word != "("
  let (places, tests) := j.words.span isPlace
  let places := if places.isEmpty then ["."] else places
  let chosen (j : Job) (place : String) : List (List String) :=
    match j.locate .entry place with
    | .ok (.found _ top) =>
      (([], top) :: top.descendants).filterMap fun (names, node) =>
        if passes (names.getLastD (lastName place)) node tests then some names else none
    | _ => []
  j.forEach places fun j place =>
    if !j.hasNode place then
      j.fail ("‘" ++ place ++ "’: " ++ Refused.words .missing)
    else
      let names := chosen j place
      if tests.contains "-delete" then
        { disk := names.foldr (fun names d =>
            d.remove ⟨(j.path place).anchor, (j.path place).names ++ names⟩) j.disk }
      else
        let front := if place.endsWith "/" then place else place ++ "/"
        { disk := j.disk
          output := Text.encode <| String.join <| names.map fun names =>
            (if names.isEmpty then place else front ++ "/".intercalate names) ++ "\n" }

/-! ### Marks -/

/-- Sets marks of files, of which nothing is kept; only what is not there is complained about. -/
def mark (j : Job) : Outcome :=
  j.withOptions ⟨"Rvcfrwx", "", [], true⟩ 1 fun o =>
    let names := if o.has 'r' || o.has 'w' || o.has 'x' then o.operands else o.operands.drop 1
    if names.isEmpty then
      j.refuse ("missing operand after " ++ Job.curved (o.operands.headD ""))
    else
      j.forEach names fun j name =>
        if j.hasNode name then j.done
        else j.fail ("cannot access " ++ Job.quoted name ++ ": " ++ Refused.words .missing)

end ProbeKit.Outside.Shell.Utility
