import ProbeKit.Desk
import ProbeKit.Number.Binary64
import ProbeKit.Watch.Event

/-!
# Watching directories

A front end turns notices about files into events: a file was added, changed or removed.  Notices
that come before it is ready wait in a backlog and are delivered, in order, once it is.

A *raw* notice names files that were renamed, perhaps by their names alone.  Each file that may be
meant is looked at after a delay, and again a number of times while it is not there.  One timer runs
for each file, and it ends in one event unless the watching ends before it or the file can no
longer be resolved.
-/

namespace ProbeKit

open Number

/-! ### Time -/

/-- How many ticks a second has: one for the smallest floating-point number. -/
def ticksPerSecond : Nat := Nat.pow 2 1074

/-- A number of seconds in ticks; nothing if it has no end.  What is no number is no time. -/
def ticks? : Binary64 → Option Nat
  | .finite negative m e _ => some (if negative then 0 else m * Nat.pow 2 (e + 1074).toNat)
  | .infinite negative => if negative then some 0 else none
  | .nan => some 0

/-- A file that is to be looked at. -/
structure Timer where
  /-- The file. -/
  path : Path
  /-- How often it was looked at. -/
  attempt : Nat
  /-- When it is to be looked at, unless never. -/
  due : Option Nat
  /-- The number of the timer, in the order in which timers are set. -/
  number : Nat
  deriving DecidableEq, Inhabited

/-! ### The front end -/

/-- What a front end sees of the world. -/
structure Sight where
  /-- The disk. -/
  disk : Disk
  /-- The time. -/
  now : Nat
  /-- Whether a path names a file of interest. -/
  accepts : Path → Except Fault Bool
  /-- Whether a path is known. -/
  tracks : Path → Except Fault Bool

/-- A front end. -/
structure FrontEnd where
  /-- The directories that are watched. -/
  roots : List Path
  /-- The delay before a file is looked at, in ticks; without an end if there is none. -/
  delay : Option Nat
  /-- How often a file that is not there is looked at again. -/
  maxRetries : Nat
  /-- Whether events are delivered. -/
  ready : Bool := false
  /-- The notices that wait. -/
  backlog : List Notice := []
  /-- The files that are to be looked at. -/
  timers : List Timer := []
  /-- Whether the observer runs. -/
  observing : Bool := false
  /-- The number of the next timer. -/
  nextNumber : Nat := 0
  deriving Inhabited

namespace FrontEnd

/-- The files that are to be looked at, in order. -/
def pending (f : FrontEnd) : List Path := Path.sorted (f.timers.map (·.path))

/-- What keeps observing from its beginning: a root that cannot be looked at. -/
def obstacle? (f : FrontEnd) (disk : Disk) : Option Fault :=
  f.roots.findSome? fun root =>
    match disk.look root with
    | .error e => some (.disk e)
    | .ok _ => none

/-- The roots up to one that cannot be looked at. -/
def rootsSeen (f : FrontEnd) (disk : Disk) : List Path :=
  f.roots.takeWhile fun root => (disk.look root).isOk

/-- The roots that are directories now. -/
def directories (f : FrontEnd) (disk : Disk) : List Path :=
  (f.rootsSeen disk).filter disk.hasDirectory

/-- The calls that begin observing. -/
def startCalls (f : FrontEnd) (disk : Disk) : List ObserverCall :=
  (f.directories disk).map .schedule ++ if (f.obstacle? disk).isSome then [] else [.start]

/-- What the journal says of roots that are not there. -/
def missingRecords (f : FrontEnd) (disk : Disk) : List Record :=
  ((f.rootsSeen disk).filter fun root => !disk.hasDirectory root).map fun root =>
    ⟨.debug, "watcher", "Source directory " ++ root.text ++ " does not exist; not watching"⟩

/-- What the journal says once observing has begun. -/
def watchingRecord (f : FrontEnd) (disk : Disk) : Record :=
  ⟨.info, "watcher", s!"Watching {(f.directories disk).length} source directories"⟩

/-- The calls that end observing, if it had begun. -/
def stopCalls (f : FrontEnd) : List ObserverCall := if f.observing then [.stop, .join] else []

/-- A bound for the number of turns until all timers have ended, and of the moments at which they
are due. -/
def patience (f : FrontEnd) : Nat := (f.timers.length + 1) * (f.maxRetries + 2)

/-! ### Raw notices -/

/-- The paths that a name may stand for: under every root, in full or by its last name. -/
def options (f : FrontEnd) (name : String) : List Path :=
  let p := Path.ofString name
  if p.isAbsolute then [p]
  else
    let full := f.roots.map (· ++ p)
    if p.name == name then full else full ++ f.roots.map fun root => root.join p.name

/-- Adds the files of interest among paths to those that were found. -/
def gather (s : Sight) (found : List Path) : List Path → Except Fault (List Path)
  | [] => .ok found
  | p :: rest => do
    let p ← (s.disk.resolve p).mapError Fault.disk
    -- What was found is not judged again, so a file counts once under all its names.
    if found.contains p then gather s found rest
    else if ← s.accepts p then gather s (found ++ [p]) rest
    else gather s found rest

/-- The files of interest that names may stand for, each once. -/
def candidates (f : FrontEnd) (s : Sight) (names : List String) : Except Fault (List Path) :=
  gather s [] (names.flatMap f.options)

/-- Sets a timer for a file. -/
def setTimer (f : FrontEnd) (s : Sight) (p : Path) (attempt : Nat) : FrontEnd :=
  { f with
    timers := f.timers ++ [⟨p, attempt, f.delay.map (s.now + ·), f.nextNumber⟩]
    nextNumber := f.nextNumber + 1 }

/-- Sets timers for files that have none. -/
def setTimers (f : FrontEnd) (s : Sight) (paths : List Path) : FrontEnd :=
  paths.foldl (fun f p => if f.timers.any (·.path == p) then f else f.setTimer s p 0) f

/-! ### Notices -/

/-- The events of a notice that names files, up to a name that cannot be resolved. -/
def events (s : Sight) (kind : EventKind) : List String → List Event × Option Fault
  | [] => ([], none)
  | name :: rest =>
    match (s.disk.resolve (Path.ofString name)).mapError Fault.disk with
    | .error e => ([], some e)
    | .ok p =>
      match s.accepts p with
      | .error e => ([], some e)
      | .ok accepted =>
        let (more, fault) := events s kind rest
        (if accepted then ⟨kind, p⟩ :: more else more, fault)

/-- Takes a notice: the events that it makes now, and what stopped it. -/
def take (f : FrontEnd) (s : Sight) (n : Notice) : FrontEnd × List Event × Option Fault :=
  if !f.ready then ({ f with backlog := f.backlog ++ [n] }, [], none)
  else if n.kind = .raw then
    match f.candidates s n.names with
    | .ok paths => (f.setTimers s paths, [], none)
    | .error e => (f, [], some e)
  else
    let (made, fault) := events s n.kind n.names
    (f, made, fault)

/-- Takes notices one after the other, up to one that is stopped. -/
def takeAll (f : FrontEnd) (s : Sight) : List Notice → FrontEnd × List Event × Option Fault
  | [] => (f, [], none)
  | n :: rest =>
    match f.take s n with
    | (f, made, some e) => (f, made, some e)
    | (f, made, none) =>
      let (f, more, fault) := f.takeAll s rest
      (f, made ++ more, fault)

/-- Becomes ready and takes the notices that waited. -/
def openUp (f : FrontEnd) (s : Sight) : FrontEnd × List Event × Option Fault :=
  { f with ready := true, backlog := [] }.takeAll s f.backlog

/-- Stops: no timer stays and no event is delivered until the next start. -/
def stop (f : FrontEnd) : FrontEnd := { f with timers := [], ready := false, observing := false }

/-! ### Timers -/

/-- The timers that are due, in the order of their times and then of their numbers. -/
def dueTimers (f : FrontEnd) (now : Nat) : List Timer :=
  (f.timers.filter fun t => t.due.any (· ≤ now)).mergeSort fun a b =>
    a.due.getD 0 < b.due.getD 0 || (a.due == b.due && a.number ≤ b.number)

/-- The time of the next timer. -/
def nextDue? (f : FrontEnd) : Option Nat := (f.timers.filterMap (·.due)).min?

/-- Looks at a file: the event, unless the file is to be looked at again, and what the journal says
of it. -/
def look (f : FrontEnd) (s : Sight) (t : Timer) : FrontEnd × List Event × List Record :=
  -- The timer is gone before the look, so that the file may get a new one.
  let f := { f with timers := f.timers.filter (·.number != t.number) }
  match (s.disk.look t.path).mapError Fault.disk, s.tracks t.path with
  | .error _, _ | _, .error _ => (f, [], [])
  | .ok node, .ok tracked =>
    match EventKind.ofLook (node.any Node.isFile) tracked (f.maxRetries - t.attempt : Int) with
    | none => (f.setTimer s t.path (t.attempt + 1), [], [])
    | some kind =>
      (f, [⟨kind, t.path⟩],
        [⟨.debug, "watcher",
          "Resolved rename for " ++ t.path.text ++ " as " ++ kind.text ++
            s!" after {t.attempt} retries"⟩])

/-- Lets a timer fire, unless it was stopped. -/
def fire (f : FrontEnd) (s : Sight) (number : Nat) : FrontEnd × List Event × List Record :=
  match f.timers.find? (·.number == number) with
  | some t => f.look s t
  | none => (f, [], [])

end FrontEnd

end ProbeKit
