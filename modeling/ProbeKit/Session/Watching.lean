import ProbeKit.Session.Basic

/-!
# Watching in a session

While a front end watches, every event is applied to the workspace and asks for a build if it
changes the manifest; an event that fails ends the watching with its fault.  When watching begins
the sources are scanned, and a build is asked for if one is due.
-/

namespace ProbeKit.Session

/-! ### Events -/

/-- Applies an event and asks for a build if the manifest changed.  The flag says whether it
did. -/
def handle (e : Event) : Act Session Bool := do
  let changed ← onWorkspace (Workspace.absorb e)
  if changed then modify fun s => s.requestBuild.2
  return changed

/-- Takes an event of the front end; a fault ends the watching. -/
def onEvent (s : Session) (e : Event) : Session :=
  match (handle e).on s with
  | (.ok _, s) => s
  | (.error f, s) => s.fail f

/-- Scans everything as watching begins, and asks for a build if one is due. -/
def onReady : Act Session Unit := do
  let report ← onWorkspace do
    let m ← Workspace.currentManifest true
    Workspace.compareAll m
  if report.due then modify fun s => s.requestBuild.2
  else
    onWorkspace <| Workspace.say .info "orchestrator" <|
      "Manifest up to date (" ++ report.digest ++ "); waiting for changes"

/-! ### The front end -/

/-- What the front end sees. -/
def sight (s : Session) : Sight :=
  { disk := s.desk.disk
    now := s.desk.now
    accepts := s.workspace.scanner.accepts s.desk.disk
    tracks := fun p => (s.workspace.scanner.tracks s.desk.disk p).mapError Fault.disk }

/-- Changes the front end, if there is one. -/
def withFront (s : Session) (change : FrontEnd → FrontEnd) : Session :=
  { s with front := s.front.map change }

/-- Adds calls on the observer. -/
def called (s : Session) (calls : List ObserverCall) : Session :=
  s.withDesk { s.desk with calls := s.desk.calls ++ calls }

/-- Takes over what the front end made of notices. -/
def deliver (made : FrontEnd × List Event × Option Fault) : Act Session Unit := do
  modify fun s => made.2.1.foldl onEvent { s with front := some made.1 }
  if let some f := made.2.2 then throw f

/-- Hands a notice to the front end, if there is one. -/
def dispatch (n : Notice) : Act Session Unit := do
  let s ← get
  if let some front := s.front then deliver (front.take s.sight n)

/-- The front end that settings ask for. -/
def makeFront : Act Session FrontEnd := do
  let w := (← get).workspace
  let roots ← Act.ofExcept Fault.disk (w.scanner.roots.mapM w.desk.disk.resolve)
  return { roots, delay := ticks? w.settings.settleDelay, maxRetries := w.settings.maxRetries }

/-- Begins to observe.  The early notices come meanwhile. -/
def observe (front : FrontEnd) (early : List Notice) : Act Session Unit := do
  let disk := (← get).desk.disk
  modify fun s =>
    let number := s.frontNumber + 1
    let s :=
      { s with
        front := some front
        frontNumber := number
        connected := if (front.directories disk).isEmpty then s.connected else some number }
    (s.called (front.startCalls disk)).noted (front.missingRecords disk)
  if let some f := front.obstacle? disk then throw f
  early.forM dispatch
  modify fun s =>
    (s.withFront fun front => { front with observing := true }).noted [front.watchingRecord disk]

/-- Starts watching: observing begins, everything is scanned, and then the notices that came early
are taken. -/
def start (early : List Notice) : Act Session Unit := do
  if (← get).front.isSome then throw .alreadyWatching
  modify fun s => { s with signal := some {} }
  observe (← makeFront) early
  onReady
  let s ← get
  if let some front := s.front then deliver (front.openUp s.sight)

/-- Stops watching and tells who waits for that. -/
def stop (s : Session) : Session :=
  match s.front with
  | none => s.resolve (.ok ())
  | some front => ({ s with front := none }.called front.stopCalls).resolve (.ok ())

/-- Lets a timer of the front end fire. -/
def fire (s : Session) (number : Nat) : Session :=
  match s.front with
  | none => s
  | some front =>
    let (front, events, records) := front.fire s.sight number
    events.foldl onEvent ({ s with front := some front }.noted records)

/-- Takes a report of the file system.  The flag says whether reports reach any front end. -/
def report (s : Session) (r : NativeReport) : Bool × Session :=
  match s.connected with
  | none => (false, s)
  | some number => (true, { s with ready := s.ready ++ r.notice?.toList.map (.notice number) })

/-- The sources that names may stand for; nothing if there is no front end. -/
def candidates? (s : Session) (names : List String) : Option (Except Fault (List Path)) :=
  s.front.map fun front => front.candidates s.sight names

/-- The files that are to be looked at; nothing if there is no front end. -/
def pending? (s : Session) : Option (List Path) := s.front.map FrontEnd.pending

end ProbeKit.Session
