import ProbeKit.Proofs.Session.Handling

/-!
# Starting to watch

A start calls the observer, scans everything and takes the notices that came early, and it may fail in
each of the three.  However far it comes, the calls on the observer and the front end belong together
(`Session.Observed`), so that a stop leaves no observer behind, and whatever fails on the way is told
of (`Course.Untouched.start`).
-/

namespace ProbeKit

open Act Session
open Workspace (SameCalls)

namespace FrontEnd

/-! ### What a front end never changes by itself -/

theorem observing_setTimers (f : FrontEnd) (s : Sight) (paths : List Path) :
    (f.setTimers s paths).observing = f.observing := by
  unfold setTimers
  induction paths generalizing f with
  | nil => rfl
  | cons p rest ih =>
    rw [List.foldl_cons, ih]
    split
    · rfl
    · rfl

theorem observing_take (f : FrontEnd) (s : Sight) (n : Notice) :
    (f.take s n).1.observing = f.observing := by
  unfold take
  split
  · rfl
  split
  · split
    · exact observing_setTimers f s _
    · rfl
  · rfl

theorem observing_takeAll (f : FrontEnd) (s : Sight) (notices : List Notice) :
    (f.takeAll s notices).1.observing = f.observing := by
  induction notices generalizing f with
  | nil => rfl
  | cons n rest ih =>
    have hfirst := observing_take f s n
    unfold takeAll
    rcases htake : f.take s n with ⟨g, made, _ | e⟩
    all_goals rw [htake] at hfirst
    · exact (ih g).trans hfirst
    · exact hfirst

theorem observing_openUp (f : FrontEnd) (s : Sight) : (f.openUp s).1.observing = f.observing :=
  observing_takeAll _ s f.backlog

theorem observing_fire (f : FrontEnd) (s : Sight) (number : Nat) :
    (f.fire s number).1.observing = f.observing := by
  unfold fire
  split
  · unfold look
    dsimp only
    split
    · rfl
    · rfl
    · split
      · rfl
      · rfl
  · rfl

end FrontEnd

namespace Session

variable {s t : Session} {before : List ObserverCall}

/-! ### The observer -/

/-- How the observer was called by a front end, if there still is one. -/
inductive Observed (before : List ObserverCall) : Option FrontEnd → List ObserverCall → Prop where
  /-- Directories may be scheduled, but observing has not begun and never will. -/
  | idle (directories : List Path) :
    Observed before none (before ++ directories.map .schedule)
  /-- Directories are scheduled, but observing has not begun. -/
  | scheduled {front : FrontEnd} (hobserving : front.observing = false) (directories : List Path) :
    Observed before (some front) (before ++ directories.map .schedule)
  /-- Observing has begun. -/
  | started {front : FrontEnd} (hobserving : front.observing = true) (directories : List Path) :
    Observed before (some front) (before ++ directories.map .schedule ++ [.start])
  /-- Observing has begun and ended. -/
  | joined (directories : List Path) :
    Observed before none (before ++ directories.map .schedule ++ [.start, .stop, .join])

/-- A front end that goes on observing, or does not, may have changed otherwise. -/
theorem Observed.withFront {front front' : FrontEnd} {calls : List ObserverCall}
    (h : Observed before (some front) calls) (hobserving : front'.observing = front.observing) :
    Observed before (some front') calls := by
  cases h with
  | scheduled hfirst directories => exact .scheduled (hobserving.trans hfirst) directories
  | started hfirst directories => exact .started (hobserving.trans hfirst) directories

theorem Observed.kept (h : Observed before s.front s.desk.calls) (hkept : Kept s t) :
    Observed before t.front t.desk.calls := by
  have hcalls : t.desk.calls = s.desk.calls := hkept.calls
  rw [hkept.front, hcalls]
  exact h

/-- A stop leaves no front end and ends the watching. -/
theorem exists_stop (s : Session) :
    ∃ w, s.stop = ({ s with workspace := w, front := none } : Session).resolve (.ok ()) := by
  unfold stop
  cases hfront : s.front with
  | none =>
    refine ⟨s.workspace, congrArg (resolve · (.ok ())) ?_⟩
    rw [← hfront]
  | some front => exact ⟨_, rfl⟩

theorem front_stop (s : Session) : s.stop.front = none := by
  obtain ⟨w, hstop⟩ := exists_stop s
  rw [hstop]
  exact (kept_resolve _ _).front

theorem tasks_stop (s : Session) : s.stop.tasks = s.tasks := by
  obtain ⟨w, hstop⟩ := exists_stop s
  rw [hstop]
  exact (kept_resolve _ _).tasks

theorem isSome_verdict_stop (h : s.signal ≠ none) : s.stop.verdict.isSome := by
  obtain ⟨w, hstop⟩ := exists_stop s
  rw [hstop]
  exact isSome_verdict_resolve (s := { s with workspace := w, front := none }) h _

/-- **A stop ends what a front end has begun.** -/
theorem Observed.stop (h : Observed before s.front s.desk.calls) :
    Observed before none s.stop.desk.calls := by
  cases hfront : s.front with
  | none =>
    have hstop : s.stop = s.resolve (.ok ()) := by
      unfold Session.stop
      rw [hfront]
    have hobserved := h.kept (kept_resolve s (.ok ()))
    rw [(kept_resolve s _).front, hfront] at hobserved
    rw [hstop]
    exact hobserved
  | some front =>
    have hstop : s.stop = ({ s with front := none }.called front.stopCalls).resolve (.ok ()) := by
      unfold Session.stop
      rw [hfront]
    have hcalls : s.stop.desk.calls = s.desk.calls ++ front.stopCalls := by
      rw [hstop]
      exact (kept_resolve _ _).calls
    rw [hcalls]
    rw [hfront] at h
    -- What is undone depends on whether the observer was started, or only scheduled.
    generalize s.desk.calls = calls at h
    cases h with
    | scheduled hobserving directories =>
      rw [FrontEnd.stopCalls, hobserving, if_neg Bool.false_ne_true, List.append_nil]
      exact .idle directories
    | started hobserving directories =>
      rw [FrontEnd.stopCalls, hobserving, if_pos rfl, List.append_assoc]
      exact .joined directories

/-! ### Beginning to observe -/

theorem on_dispatch_of_not_ready {front : FrontEnd} (hfront : s.front = some front)
    (hready : front.ready = false) (n : Notice) :
    (dispatch n).on s =
      (.ok (), { s with front := some { front with backlog := front.backlog ++ [n] } }) := by
  unfold dispatch
  rw [on_get_bind, hfront]
  dsimp only
  rw [FrontEnd.take, hready]
  rfl

/-- What comes while observing begins has to wait. -/
theorem on_forM_dispatch_of_not_ready {front : FrontEnd} (hfront : s.front = some front)
    (hready : front.ready = false) (early : List Notice) :
    (early.forM dispatch).on s =
      (.ok (), { s with front := some { front with backlog := front.backlog ++ early } }) := by
  induction early generalizing s front with
  | nil =>
    rw [List.append_nil, ← hfront]
    rfl
  | cons n rest ih =>
    have hrest := ih (s := { s with front := some { front with backlog := front.backlog ++ [n] } })
      rfl hready
    show (dispatch n >>= fun _ => rest.forM dispatch).on s = _
    rw [on_bind_of_ok (on_dispatch_of_not_ready hfront hready n), hrest, List.append_assoc]
    rfl

/-- The session once the observer knows of the directories. -/
def approach (s : Session) (front : FrontEnd) : Session :=
  let number := s.frontNumber + 1
  let connected :=
    if (front.directories s.desk.disk).isEmpty then s.connected else some number
  ({ s with front := some front, frontNumber := number, connected }.called
    (front.startCalls s.desk.disk)).noted (front.missingRecords s.desk.disk)

/-- The session once observing has begun, with what came meanwhile. -/
def observing (s : Session) (front : FrontEnd) (early : List Notice) : Session :=
  let opened := { front with backlog := front.backlog ++ early, observing := true }
  { s.approach front with front := some opened }.noted [front.watchingRecord s.desk.disk]

theorem on_observe {front : FrontEnd} (hready : front.ready = false) (early : List Notice)
    (s : Session) :
    (observe front early).on s =
      match front.obstacle? s.desk.disk with
      | some f => (.error f, s.approach front)
      | none => (.ok (), s.observing front early) := by
  have hearly := on_forM_dispatch_of_not_ready (s := s.approach front) rfl hready early
  unfold observe
  rw [on_get_bind, on_modify_bind]
  cases hobstacle : front.obstacle? s.desk.disk with
  | some f => rfl
  | none => exact on_bind_of_ok hearly _

theorem calls_approach (s : Session) (front : FrontEnd) :
    (s.approach front).desk.calls = s.desk.calls ++ front.startCalls s.desk.disk :=
  Desk.calls_noteAll _ _

theorem calls_observing (s : Session) (front : FrontEnd) (early : List Notice) :
    (s.observing front early).desk.calls = s.desk.calls ++ front.startCalls s.desk.disk :=
  (Desk.calls_noteAll _ _).trans (s.calls_approach front)

/-- A session has begun to observe, or has tried to. -/
structure SetUp (s t : Session) : Prop where
  /-- The tasks stay. -/
  tasks : t.tasks = s.tasks
  /-- So does the scheduler. -/
  scheduler : t.scheduler = s.scheduler
  /-- So do the commands that run. -/
  running : t.running = s.running
  /-- Nothing has become ready. -/
  ready : t.ready = s.ready
  /-- Watching has not ended, and nobody waits for it yet. -/
  signal : t.signal = some {}
  /-- The observer was called as the front end says. -/
  observed : Observed s.desk.calls t.front t.desk.calls

theorem setUp_approach {front : FrontEnd} {f : Fault} (hnew : front.observing = false)
    (hobstacle : front.obstacle? s.desk.disk = some f) (hsignal : s.signal = some {}) :
    SetUp s (s.approach front) := by
  refine ⟨rfl, rfl, rfl, rfl, hsignal, ?_⟩
  rw [calls_approach, FrontEnd.startCalls, hobstacle, Option.isSome_some, if_pos rfl,
    List.append_nil]
  exact .scheduled hnew _

theorem setUp_observing {front : FrontEnd} (hobstacle : front.obstacle? s.desk.disk = none)
    (hsignal : s.signal = some {}) (early : List Notice) : SetUp s (s.observing front early) := by
  refine ⟨rfl, rfl, rfl, rfl, hsignal, ?_⟩
  rw [calls_observing, FrontEnd.startCalls, hobstacle, Option.isSome_none,
    if_neg Bool.false_ne_true, ← List.append_assoc]
  exact .started rfl _

/-- Without its directories there is no front end, and a new one neither observes nor is ready. -/
theorem on_makeFront (s : Session) :
    (∃ f, makeFront.on s = (.error f, s)) ∨
      ∃ front, makeFront.on s = (.ok front, s) ∧ front.ready = false ∧ front.observing = false := by
  unfold makeFront
  rw [on_get_bind]
  dsimp only
  rcases s.workspace.scanner.roots.mapM s.workspace.desk.disk.resolve with e | roots
  · exact .inl ⟨.disk e, rfl⟩
  · exact .inr ⟨_, rfl, rfl, rfl⟩

theorem setUp_makeFront (hfront : s.front = none) (hsignal : s.signal = some {})
    (early : List Notice) :
    SetUp s ((makeFront >>= fun front => observe front early).on s).2 ∧
      (((makeFront >>= fun front => observe front early).on s).1 = .ok () →
        ((makeFront >>= fun front => observe front early).on s).2.front ≠ none) := by
  rcases on_makeFront s with ⟨f, hmade⟩ | ⟨front, hmade, hready, hnew⟩
  · -- There is nothing to call the observer for.
    rw [on_bind_of_error hmade]
    refine ⟨⟨rfl, rfl, rfl, rfl, hsignal, ?_⟩, fun h => by cases h⟩
    have hidle : Observed s.desk.calls none (s.desk.calls ++ [].map .schedule) := .idle []
    rw [List.map_nil, List.append_nil, ← hfront] at hidle
    exact hidle
  rw [on_bind_of_ok hmade, on_observe hready]
  cases hobstacle : front.obstacle? s.desk.disk with
  | some f => exact ⟨setUp_approach hnew hobstacle hsignal, fun h => by cases h⟩
  | none => exact ⟨setUp_observing hobstacle hsignal early, fun _ hnone => by cases hnone⟩

theorem on_setUp_of_front (hfront : s.front = none) (early : List Notice) :
    (setUp early).on s =
      (makeFront >>= fun front => observe front early).on { s with signal := some {} } := by
  have hnone : ¬s.front.isSome = true := by
    rw [hfront]
    exact Bool.false_ne_true
  unfold setUp
  rw [on_get_bind]
  dsimp only
  rw [if_neg hnone]
  rfl

/-- **The beginning of a start goes well, or it leaves a fault behind.** -/
theorem on_setUp (hfront : s.front = none) (early : List Notice) :
    SetUp s ((setUp early).on s).2 ∧
      (((setUp early).on s).1 = .ok () → ((setUp early).on s).2.front ≠ none) := by
  obtain ⟨hsetUp, hobserves⟩ :=
    setUp_makeFront (s := { s with signal := some {} }) hfront rfl early
  rw [on_setUp_of_front hfront]
  exact ⟨⟨hsetUp.tasks, hsetUp.scheduler, hsetUp.running, hsetUp.ready, hsetUp.signal,
    hsetUp.observed⟩, hobserves⟩

/-! ### Scanning everything and taking what came early -/

/-- Scanning everything fails, or it asks for a build at most. -/
theorem on_onReady (s : Session) :
    ∃ w, SameCalls s.workspace w ∧
      ((∃ f, onReady.on s = (.error f, { s with workspace := w })) ∨
        onReady.on s = (.ok (), { s with workspace := w }) ∨
        onReady.on s = (.ok (), ({ s with workspace := w } : Session).requestBuild.2)) := by
  let scan : Act Workspace Detector.Report := do
    let m ← Workspace.currentManifest true
    Workspace.compareAll m
  have hscan : Relates SameCalls scan :=
    relates_bind (Workspace.ignores_sameCalls.relates_currentManifest true)
      Workspace.ignores_sameCalls.relates_compareAll
  have hcalls := hscan s.workspace
  have hwithin := on_within Session.workspace (fun workspace s => { s with workspace }) scan s
  unfold onReady
  rcases hresult : scan.on s.workspace with ⟨f | report, w⟩
  all_goals
    rw [hresult] at hcalls hwithin
    change SameCalls s.workspace w at hcalls
  · exact ⟨w, hcalls, .inl ⟨f, on_bind_of_error hwithin _⟩⟩
  rw [on_bind_of_ok (a := onWorkspace scan) hwithin]
  cases hdue : report.due with
  | true => exact ⟨w, hcalls, .inr (.inr rfl)⟩
  | false =>
    have hsaid := Workspace.ignores_sameCalls.relates_say .info "orchestrator"
      ("Manifest up to date (" ++ report.digest ++ "); waiting for changes") w
    exact ⟨_, hcalls.trans hsaid, .inr (.inl rfl)⟩

/-- Taking what came early is handling its events, whether or not it is stopped half-way. -/
theorem on_replay {front : FrontEnd} (hfront : s.front = some front) :
    (replay.on s).2 =
      (front.openUp s.sight).2.1.foldl onEvent
        { s with front := some (front.openUp s.sight).1 } := by
  unfold replay
  rw [on_get_bind, hfront]
  show ((deliver (front.openUp s.sight)).on s).2 = _
  generalize front.openUp s.sight = made
  obtain ⟨front', events, fault⟩ := made
  cases fault <;> rfl

/-- All parts of a start went well, and whatever failed came later. -/
structure Started (past : Chronicle) : Prop where
  /-- The start has come to its end. -/
  done : ∀ part ∈ [Part.setup, .seeding, .replay], (part, .ok ()) ∈ past
  /-- None of its parts has failed. -/
  well : ∀ part f, (part, .error f) ∈ past → part = .handler ∨ part = .build

theorem Started.append {past more : Chronicle} (h : Started past)
    (hmore : ∀ entry ∈ more, entry.1 = .handler ∨ entry.1 = .build) : Started (past ++ more) := by
  refine ⟨fun part hpart => List.mem_append_left _ (h.done part hpart), fun part f hf => ?_⟩
  rcases List.mem_append.1 hf with hf | hf
  · exact h.well part f hf
  · exact hmore _ hf

theorem part_of_mem_handled {events : List Event} {entry : Part × Except Fault Unit}
    (h : entry ∈ s.handled events) : entry.1 = .handler := by
  induction events generalizing s with
  | nil => cases h
  | cons e rest ih =>
    rcases List.mem_cons.1 h with rfl | h
    · rfl
    · exact ih h

theorem mem_replayed (s : Session) : (.replay, (replay.on s).1) ∈ s.replayed := by
  unfold replayed
  cases hfront : s.front with
  | none =>
    have hnothing : replay.on s = (.ok (), s) := by
      unfold replay
      rw [on_get_bind, hfront]
      rfl
    rw [hnothing]
    exact List.mem_singleton_self _
  | some front => exact List.mem_append_right _ (List.mem_singleton_self _)

/-- What came early may fail in its events or as a whole. -/
theorem of_mem_replayed {entry : Part × Except Fault Unit} (h : entry ∈ s.replayed) :
    entry.1 = .handler ∨ entry = (.replay, (replay.on s).1) := by
  have hlast := mem_replayed s
  unfold replayed at h hlast
  split at h
  · rename_i hfront
    rw [hfront] at hlast
    rw [List.mem_singleton.1 h]
    exact .inr (List.mem_singleton.1 hlast).symm
  · rcases List.mem_append.1 h with h | h
    · exact .inl (part_of_mem_handled h)
    · exact .inr (List.mem_singleton.1 h)

/-- What came early goes well as a whole if the start has come to its end. -/
theorem started_replayed (hok : (replay.on s).1 = .ok ()) :
    Started ([(.setup, .ok ()), (.seeding, .ok ())] ++ s.replayed) := by
  have hlast := mem_replayed s
  rw [hok] at hlast
  refine ⟨fun part hpart => ?_, fun part f hf => ?_⟩
  · simp only [List.mem_cons, List.not_mem_nil, or_false] at hpart
    rcases hpart with rfl | rfl | rfl
    · exact List.mem_append_left _ List.mem_cons_self
    · exact List.mem_append_left _ (List.mem_cons_of_mem _ List.mem_cons_self)
    · exact List.mem_append_right _ hlast
  · rcases List.mem_append.1 hf with hf | hf
    · simp at hf
    · rcases of_mem_replayed hf with hpart | hwhole
      · exact .inl hpart
      · rw [hok] at hwhole
        cases hwhole

end Session

namespace Course

variable {c : Course} {waiter : Option Nat}

/-- No build was asked for, and nothing has failed. -/
structure Untouched (c : Course) : Prop where
  /-- Nothing is on record. -/
  chronicle : c.chronicle = []
  /-- The scheduler is a new one. -/
  scheduler : c.session.scheduler = {}
  /-- No command runs. -/
  running : c.session.running = []
  /-- Nothing is to go on of a run. -/
  work : c.work = []
  /-- Nobody is told of the end of a run. -/
  news : ∀ who outcome, .runEnded who outcome ∉ c.jobs

theorem Untouched.sound (h : c.Untouched) (hverdict : c.session.verdict = none) : c.Sound := by
  have hrun : c.session.scheduler.run = .none := congrArg Scheduler.run h.scheduler
  have hnothing {entry : Part × Except Fault Unit} : entry ∉ c.chronicle := by
    rw [h.chronicle]
    exact List.not_mem_nil
  refine ⟨⟨fun hpending => ?_, fun outcome hended => ?_, fun who outcome hjob => ?_, fun f hf => ?_,
    fun f hf => ?_, fun f hf => ?_, fun hstopped => ?_⟩, .rest ?_ (fun hpending => ?_) h.work
    h.running⟩
  · rw [hrun] at hpending
    cases hpending
  · rw [hrun] at hended
    cases hended
  · exact absurd hjob (h.news who outcome)
  · exact absurd hf hnothing
  · exact absurd hf hnothing
  · rw [hverdict] at hf
    cases hf
  · rw [hverdict] at hstopped
    cases hstopped
  · exact congrArg Scheduler.building h.scheduler
  · rw [hrun] at hpending
    cases hpending

/-- A session that begins to observe has not built anything. -/
theorem Untouched.of_setUp (h : c.Untouched) {t : Session} (hsetUp : SetUp c.session t) :
    Untouched { c with session := t } := by
  have hjobs : Course.jobs { c with session := t } = c.jobs :=
    congrArg (c.agenda ++ ·) hsetUp.ready
  refine ⟨h.chronicle, hsetUp.scheduler.trans h.scheduler, hsetUp.running.trans h.running, ?_, ?_⟩
  · exact (congrArg (List.filter Job.isWork) hjobs).trans h.work
  · rw [hjobs]
    exact h.news

/-- **Where nothing has happened watching may begin.** -/
theorem Untouched.open_setUp (h : c.Untouched) (hfront : c.session.front = none)
    (hturns : c.turns = []) (early : List Notice) :
    Open none
      { c with
        chronicle := [(.setup, ((setUp early).on c.session).1)]
        session := ((setUp early).on c.session).2 } := by
  obtain ⟨hsetUp, -⟩ := on_setUp hfront early
  generalize (setUp early).on c.session = result at hsetUp
  obtain ⟨outcome, t⟩ := result
  have hsame := h.of_setUp hsetUp
  have hverdict : t.verdict = none := by
    rw [verdict, show t.signal = _ from hsetUp.signal]
    rfl
  have hopen : Open none { c with session := t } := by
    refine ⟨hsame.sound hverdict, ⟨{}, hsetUp.signal, rfl, ?_⟩, fun number hlistens => ?_,
      fun number => hsame.news _⟩
    · exact (congrArg (List.filter Job.isTurn) (congrArg (c.agenda ++ ·) hsetUp.ready)).trans hturns
    · rw [hsame.scheduler] at hlistens
      cases hlistens
  have happend := hopen.append [(.setup, outcome)] (fun f hf => ?_) fun f hf => ?_
  · rw [show c.chronicle ++ [(.setup, outcome)] = [(.setup, outcome)] by
      rw [h.chronicle, List.nil_append]] at happend
    exact happend
  · cases List.mem_singleton.1 hf
  · cases List.mem_singleton.1 hf

/-- Scanning everything asks for a build at most. -/
theorem Open.onReady (h : Open waiter c) :
    Open waiter { c with session := (Session.onReady.on c.session).2 } ∧
      Kept c.session (Session.onReady.on c.session).2 := by
  obtain ⟨w, hcalls, hready⟩ := on_onReady c.session
  have hfirst : Kept c.session { c.session with workspace := w } := ⟨rfl, rfl, hcalls⟩
  rcases hready with ⟨f, hfails⟩ | hdone | hasked
  · rw [hfails]
    exact ⟨h.withWorkspace w, hfirst⟩
  · rw [hdone]
    exact ⟨h.withWorkspace w, hfirst⟩
  · rw [hasked]
    exact ⟨(h.withWorkspace w).requestBuild, hfirst.trans (kept_requestBuild _)⟩

/-- What came early is handled, or it ends the watching. -/
theorem Open.replay (h : Open waiter c) {before : List ObserverCall}
    (hfront : c.session.front ≠ none)
    (hobserved : Observed before c.session.front c.session.desk.calls) :
    Open waiter
        { c with
          chronicle := c.chronicle ++ c.session.replayed
          session := (Session.replay.on c.session).2 } ∧
      (Session.replay.on c.session).2.tasks = c.session.tasks ∧
      (Session.replay.on c.session).2.front ≠ none ∧
      Observed before (Session.replay.on c.session).2.front
        (Session.replay.on c.session).2.desk.calls := by
  obtain ⟨front, hsome⟩ := Option.ne_none_iff_exists'.1 hfront
  -- Opening up the front end hands over what came early, and each of those events is handled.
  have hset := h.withFront hfront (some (front.openUp c.session.sight).1)
  obtain ⟨hopen, hkept⟩ := hset.onEvents (Option.some_ne_none _) (front.openUp c.session.sight).2.1
  have hreplayed : c.session.replayed =
      { c.session with front := some (front.openUp c.session.sight).1 }.handled
        (front.openUp c.session.sight).2.1 ++ [(.replay, (Session.replay.on c.session).1)] := by
    rw [replayed, hsome]
  rw [hreplayed, ← List.append_assoc, on_replay hsome]
  refine ⟨hopen.append _ (fun f hf => ?_) fun f hf => ?_, hkept.tasks, ?_, ?_⟩
  · cases List.mem_singleton.1 hf
  · cases List.mem_singleton.1 hf
  · rw [hkept.front]
    exact Option.some_ne_none _
  · rw [hsome] at hobserved
    exact Observed.kept (s := { c.session with front := some (front.openUp c.session.sight).1 })
      (hobserved.withFront (front.observing_openUp c.session.sight)) hkept

/-- What becomes of a session that begins to watch. -/
structure Begun (c : Course) (outcome : Except Fault Unit) (c' : Course) : Prop where
  /-- Watching has begun. -/
  opened : Open none c'
  /-- The tasks stay. -/
  tasks : c'.session.tasks = c.session.tasks
  /-- The observer was called as the front end says. -/
  observed : Observed c.session.desk.calls c'.session.front c'.session.desk.calls
  /-- A start that went well did so in all its parts. -/
  started : outcome = .ok () → c'.session.front ≠ none ∧ Started c'.chronicle
  /-- A fault that ends the start comes from one of its parts. -/
  blamed : ∀ f, outcome = .error f → ∃ part, (part, .error f) ∈ c'.chronicle

/-- **A start begins to watch, and whatever fails on the way is told of.** -/
theorem Untouched.start (h : c.Untouched) (hnone : c.session.front = none) (hturns : c.turns = [])
    (early : List Notice) :
    Begun c ((Session.start early).on c.session).1
      { c with
        chronicle := c.session.begun early
        session := ((Session.start early).on c.session).2 } := by
  have hsetUp := h.open_setUp hnone hturns early
  obtain ⟨hset, hfront⟩ := on_setUp hnone early
  rw [start_eq]
  unfold begun
  -- The start is three parts, and each of them may fail: the setup, the first scan, and the replay.
  rcases hfirst : (setUp early).on c.session with ⟨f | ⟨⟩, s₁⟩
  all_goals rw [hfirst] at hsetUp hset hfront
  · rw [on_bind_of_error hfirst]
    refine ⟨hsetUp, hset.tasks, hset.observed, fun hok => ?_, fun g hg => ?_⟩
    · cases hok
    · cases hg
      exact ⟨.setup, List.mem_singleton_self _⟩
  rw [on_bind_of_ok hfirst]
  obtain ⟨hseeded, hkept⟩ := hsetUp.onReady
  have htasks := hkept.tasks.trans hset.tasks
  have hobserved := hset.observed.kept hkept
  dsimp only at hseeded hkept htasks hobserved ⊢
  rcases hsecond : onReady.on s₁ with ⟨f | ⟨⟩, s₂⟩
  all_goals rw [hsecond] at hseeded hkept htasks hobserved
  · rw [on_bind_of_error hsecond]
    refine ⟨hseeded.append [(.seeding, .error f)] (fun g hg => ?_) fun g hg => ?_, htasks,
      hobserved, fun hok => ?_, fun g hg => ?_⟩
    · cases List.mem_singleton.1 hg
    · cases List.mem_singleton.1 hg
    · cases hok
    · cases hg
      exact ⟨.seeding, List.mem_cons_of_mem _ (List.mem_singleton_self _)⟩
  rw [on_bind_of_ok hsecond]
  have hfront₂ : s₂.front ≠ none := by
    rw [hkept.front]
    exact hfront rfl
  obtain ⟨hopen, htasks', hfront₃, hobserved'⟩ := (hseeded.append_ok .seeding).replay hfront₂ hobserved
  refine ⟨hopen, htasks'.trans htasks, hobserved', fun hok => ⟨hfront₃, started_replayed hok⟩,
    fun f hf => ?_⟩
  have hlast := mem_replayed s₂
  rw [hf] at hlast
  exact ⟨.replay, List.mem_append_right _ hlast⟩

end Course

end ProbeKit
