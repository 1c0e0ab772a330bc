import ProbeKit.Proofs.Session.Turns
import ProbeKit.Proofs.Workspace.Calls

/-!
# The course of a session that watches

A fresh session is asked to watch, and from then on anything may happen in any order: what is ready
goes on, notices come in, timers fire, commands end, someone stops the watching, and the world
changes around it (`Course.Step`).  A course remembers what came of everything that may fail
(`Session.Chronicle`), be it the beginning of the watching, the handling of an event or a run of the
scheduler.  A turn of the loop takes a few such steps (`Course.steps_turn`), and so a session that is
driven by its loop follows a course (`Course.steps_advance`).
-/

namespace ProbeKit

open Act Session

namespace Session

/-! ### What may fail -/

/-- A part of a session that watches, with an outcome of its own. -/
inductive Part where
  /-- Observing begins. -/
  | setup
  /-- Everything is scanned, and a build is asked for if one is due. -/
  | seeding
  /-- The notices that came early are taken. -/
  | replay
  /-- An event is handled. -/
  | handler
  /-- A run of the scheduler. -/
  | build
  deriving DecidableEq

/-- What came of the parts of a session, the oldest first. -/
abbrev Chronicle : Type := List (Part × Except Fault Unit)

/-- Begins to observe, as the first part of a start. -/
def setUp (early : List Notice) : Act Session Unit := do
  if (← get).front.isSome then throw .alreadyWatching
  modify fun s => { s with signal := some {} }
  observe (← makeFront) early

/-- Takes the notices that came early, as the last part of a start. -/
def replay : Act Session Unit := do
  let s ← get
  if let some front := s.front then deliver (front.openUp s.sight)

theorem start_eq (early : List Notice) :
    start early = setUp early >>= fun _ => onReady >>= fun _ => replay := by
  unfold start setUp replay
  simp only [bind_assoc]
  congr 1
  funext s
  split
  · rfl
  · have hinner := funext fun _ : Unit =>
      bind_assoc makeFront (fun front => observe front early) fun _ => onReady >>= fun _ => replay
    exact ((bind_assoc _ _ _).trans (congrArg _ hinner)).symm

/-- What comes of handling events one after the other. -/
def handled : Session → List Event → Chronicle
  | _, [] => []
  | s, e :: rest =>
    (.handler, ((handle e).on s).1.map fun _ => ()) :: handled (s.onEvent e) rest

/-- What comes of the events that the front end makes of a notice. -/
def noticed (s : Session) (n : Notice) : Chronicle :=
  match s.front with
  | none => []
  | some front =>
    let made := front.take s.sight n
    { s with front := some made.1 }.handled made.2.1

/-- What comes of the events of a timer. -/
def timed (s : Session) (number : Nat) : Chronicle :=
  match s.front with
  | none => []
  | some front =>
    let made := front.fire s.sight number
    ({ s with front := some made.1 }.noted made.2.2).handled made.2.1

/-- What comes of the notices that came early. -/
def replayed (s : Session) : Chronicle :=
  match s.front with
  | none => [(.replay, .ok ())]
  | some front =>
    let made := front.openUp s.sight
    { s with front := some made.1 }.handled made.2.1 ++ [(.replay, (replay.on s).1)]

/-- What comes of the beginning of a task to watch. -/
def begun (s : Session) (early : List Notice) : Chronicle :=
  match (setUp early).on s with
  | (.error f, _) => [(.setup, .error f)]
  | (.ok (), s) =>
    match onReady.on s with
    | (.error f, _) => [(.setup, .ok ()), (.seeding, .error f)]
    | (.ok (), s) => [(.setup, .ok ()), (.seeding, .ok ())] ++ s.replayed

/-- What came of the last run, if it has ended. -/
def lastRun (s : Session) : Chronicle :=
  match s.scheduler.run with
  | .ended outcome => [(.build, outcome)]
  | _ => []

/-- What comes of going on with something. -/
def recorded (s : Session) : Job → Chronicle
  | .beginTask number =>
    match s.tasks[number]?.map Task.errand with
    | some (.watch early) => s.begun early
    | _ => []
  | .beginRun => s.beginRun.lastRun
  | .buildEnded build status => (s.buildEnded build status).lastRun
  | .notice front n => if s.frontNumber = front then s.noticed n else []
  | .timer front number => if s.frontNumber = front then s.timed number else []
  | .runEnded _ _ | .stopped _ _ => []

/-- Whether something comes from outside and may go on at any time. -/
def Job.isOutside : Job → Bool
  | .notice _ _ | .timer _ _ => true
  | _ => false

end Session

/-! ### Courses -/

/-- The course of a session up to some moment. -/
structure Course where
  /-- What came of what may fail. -/
  chronicle : Chronicle := []
  /-- What the turn still has to go on with. -/
  agenda : List Job := []
  /-- The session. -/
  session : Session

namespace Course

/-- All that is to go on, in this turn or in the next one. -/
def jobs (c : Course) : List Job := c.agenda ++ c.session.ready

/-- The course after something has gone on. -/
def carryOn (c : Course) (job : Job) : Course :=
  { c with
    chronicle := c.chronicle ++ c.session.recorded job
    session := c.session.perform job }

/-- What may happen next. -/
inductive Step : Course → Course → Prop where
  /-- A turn takes up what is ready. -/
  | takeUp (c : Course) :
    Step c
      { c with
        agenda := c.agenda ++ c.session.ready
        session := { c.session with ready := [] } }
  /-- Something that was taken up goes on. -/
  | perform (c : Course) {before after : List Job} {job : Job}
    (hagenda : c.agenda = before ++ job :: after) :
    Step c ({ c with agenda := before ++ after }.carryOn job)
  /-- A notice comes in or a timer fires. -/
  | hear (c : Course) {job : Job} (houtside : job.isOutside = true) : Step c (c.carryOn job)
  /-- The file system reports something. -/
  | report (c : Course) (r : NativeReport) : Step c { c with session := (c.session.report r).2 }
  /-- The build command ends. -/
  | endBuild (c : Course) (status : Int) :
    Step c { c with session := (c.session.endBuild status).2 }
  /-- Someone stops the watching. -/
  | stop (c : Course) : Step c { c with session := c.session.stop }
  /-- The world changes.  Only the observer belongs to the session alone. -/
  | around (c : Course) {w : Workspace} (hcalls : Workspace.SameCalls c.session.workspace w) :
    Step c { c with session := { c.session with workspace := w } }

/-- A session has just been opened and is asked to watch, which is its only task. -/
def first (w : Workspace) (early : List Notice) : Course :=
  { session := ({ workspace := w } : Session).addTask (.watch early) }

/-- The courses of a session that is asked to watch. -/
def Reached (w : Workspace) (early : List Notice) (c : Course) : Prop :=
  Relation.ReflTransGen Step (first w early) c

/-! ### Turns -/

/-- What was taken up goes on, one after the other. -/
theorem steps_agenda (agenda : List Job) (past : Chronicle) (s : Session) :
    ∃ past',
      Relation.ReflTransGen Step ⟨past, agenda, s⟩ ⟨past', [], agenda.foldl Session.perform s⟩ := by
  induction agenda generalizing past s with
  | nil => exact ⟨past, .refl⟩
  | cons job rest ih =>
    obtain ⟨past', hsteps⟩ := ih (past ++ s.recorded job) (s.perform job)
    have hfirst := @Step.perform ⟨past, job :: rest, s⟩ [] rest job rfl
    exact ⟨past', .head hfirst hsteps⟩

theorem steps_outside (jobs : List Job) (houtside : ∀ job ∈ jobs, job.isOutside = true)
    (past : Chronicle) (s : Session) :
    ∃ past', Relation.ReflTransGen Step ⟨past, [], s⟩ ⟨past', [], jobs.foldl Session.perform s⟩ := by
  induction jobs generalizing past s with
  | nil => exact ⟨past, .refl⟩
  | cons job rest ih =>
    obtain ⟨past', hsteps⟩ := ih (fun job hjob => houtside job (List.mem_cons_of_mem _ hjob))
      (past ++ s.recorded job) (s.perform job)
    exact ⟨past', .head (.hear ⟨past, [], s⟩ (houtside job List.mem_cons_self)) hsteps⟩

/-- **A turn of the loop is made of steps.** -/
theorem steps_turn (past : Chronicle) (s : Session) :
    ∃ past', Relation.ReflTransGen Step ⟨past, [], s⟩ ⟨past', [], s.turn⟩ := by
  obtain ⟨past₁, hready⟩ := steps_agenda s.ready past { s with ready := [] }
  -- The timers of a turn come behind all that was ready.
  have houtside : ∀ job ∈ s.dueJobs, job.isOutside = true := by
    intro job hjob
    obtain ⟨t, -, rfl⟩ := List.mem_map.1 hjob
    rfl
  obtain ⟨past₂, htimers⟩ := steps_outside s.dueJobs houtside past₁
    (s.ready.foldl Session.perform { s with ready := [] })
  refine ⟨past₂, ?_⟩
  unfold Session.turn
  rw [List.foldl_append]
  exact .head (.takeUp ⟨past, [], s⟩) (hready.trans htimers)

theorem steps_turns (n : Nat) (past : Chronicle) (s : Session) :
    ∃ past', Relation.ReflTransGen Step ⟨past, [], s⟩ ⟨past', [], Session.loop.turns n s⟩ := by
  induction n generalizing past s with
  | zero => exact ⟨past, .refl⟩
  | succ n ih =>
    unfold Loop.turns
    split
    · obtain ⟨past₁, hturn⟩ := steps_turn past s
      obtain ⟨past₂, hturns⟩ := ih past₁ s.turn
      exact ⟨past₂, hturn.trans hturns⟩
    · exact ⟨past, .refl⟩

/-- To the session the time is a part of the world. -/
theorem step_atTime (now : Nat) (past : Chronicle) (s : Session) :
    Step ⟨past, [], s⟩ ⟨past, [], Session.loop.atTime now s⟩ :=
  .around ⟨past, [], s⟩ (w := { s.workspace with desk := { s.desk with now } }) rfl

theorem steps_passing (moment n : Nat) (past : Chronicle) (s : Session) :
    ∃ past', Relation.ReflTransGen Step ⟨past, [], s⟩
      ⟨past', [], Session.loop.passing moment n s⟩ := by
  induction n generalizing past s with
  | zero => exact ⟨past, .single (step_atTime moment past s)⟩
  | succ n ih =>
    unfold Loop.passing
    split
    · rename_i due _
      split
      · obtain ⟨past₁, hsettle⟩ := steps_turns _ past (Session.loop.atTime due s)
        obtain ⟨past₂, hpassing⟩ := ih past₁ (Session.loop.settle (Session.loop.atTime due s))
        exact ⟨past₂, (hsettle.head (step_atTime due past s)).trans hpassing⟩
      · exact ⟨past, .single (step_atTime moment past s)⟩
    · exact ⟨past, .single (step_atTime moment past s)⟩

/-- **A session that is driven by its loop follows a course**, however far it is driven. -/
theorem steps_advance (moment : Nat) (past : Chronicle) (s : Session) :
    ∃ past', Relation.ReflTransGen Step ⟨past, [], s⟩
      ⟨past', [], Session.loop.advance moment s⟩ := by
  obtain ⟨past₁, hsettle⟩ := steps_turns (Session.loop.patience s) past s
  obtain ⟨past₂, hpassing⟩ := steps_passing moment
    (Session.loop.patience (Session.loop.settle s)) past₁ (Session.loop.settle s)
  exact ⟨past₂, hsettle.trans hpassing⟩

end Course

end ProbeKit
