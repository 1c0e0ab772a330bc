import ProbeKit.Proofs.Session.Blame

/-!
# Handling events without forgetting a failure

From the moment when a session has made the signal on which the task waits (`Course.Open`), an event
asks for a build at most or ends the watching (`Course.Open.onEvent`), and so do all the events of a
notice or of a timer (`Course.Open.onEvents`).  Nothing of this touches the task, the front end or
the observer (`Session.kept_onEvent`).
-/

namespace ProbeKit

open Act Session
open Workspace (SameCalls)

namespace Session

variable {s : Session}

theorem kept_requestBuild (s : Session) : Kept s s.requestBuild.2 := by
  cases hbuilding : s.scheduler.building with
  | false =>
    rw [Watched.requestBuild_of_rest hbuilding]
    exact ⟨rfl, rfl, .refl _⟩
  | true =>
    rw [Watched.requestBuild_of_pending hbuilding]
    exact ⟨rfl, rfl, s.desk.calls_noteAll _⟩

/-! ### Ending the watching -/

theorem resolve_of_verdict {outcome : Except Fault Unit} (h : s.verdict = some outcome)
    (other : Except Fault Unit) : s.resolve other = s := by
  unfold resolve
  rcases hsignal : s.signal with _ | ⟨_ | first, waiter⟩
  · rfl
  · rw [verdict, hsignal] at h
    cases h
  · rfl

theorem resolve_of_open {waiter : Option Nat} (h : s.signal = some ⟨none, waiter⟩)
    (outcome : Except Fault Unit) :
    s.resolve outcome =
      { s with
        signal := some ⟨some outcome, waiter⟩
        ready := s.ready ++ waiter.toList.map (.stopped · outcome) } := by
  unfold resolve
  rw [h]
  cases waiter with
  | none =>
    rw [Option.toList_none, List.map_nil, List.append_nil]
  | some number => rfl

/-- Watching that has begun is over afterwards. -/
theorem isSome_verdict_resolve (h : s.signal ≠ none) (outcome : Except Fault Unit) :
    (s.resolve outcome).verdict.isSome := by
  rcases hsignal : s.signal with _ | ⟨_ | first, waiter⟩
  · exact absurd hsignal h
  · rw [resolve_of_open hsignal]
    rfl
  · have hverdict : s.verdict = some first := by rw [verdict, hsignal]; rfl
    rw [resolve_of_verdict hverdict, hverdict]
    rfl

theorem kept_resolve (s : Session) (outcome : Except Fault Unit) : Kept s (s.resolve outcome) := by
  rcases hsignal : s.signal with _ | ⟨_ | first, waiter⟩
  · unfold resolve
    rw [hsignal]
    exact .refl s
  · rw [resolve_of_open hsignal]
    exact ⟨rfl, rfl, .refl _⟩
  · have hverdict : s.verdict = some first := by rw [verdict, hsignal]; rfl
    rw [resolve_of_verdict hverdict]
    exact .refl s

/-! ### Events -/

/-- An event either fails, or it is taken and asks for a build if the manifest has changed. -/
theorem on_handle (s : Session) (e : Event) :
    (handle e).on s =
      match (Workspace.absorb e).on s.workspace with
      | (.error f, w) => (.error f, { s with workspace := w })
      | (.ok false, w) => (.ok false, { s with workspace := w })
      | (.ok true, w) => (.ok true, ({ s with workspace := w } : Session).requestBuild.2) := by
  unfold handle
  rw [on_bind, onWorkspace, on_within]
  rcases (Workspace.absorb e).on s.workspace with ⟨f | _ | _, w⟩
  · rfl
  · rfl
  · rfl

theorem kept_onEvent (s : Session) (e : Event) : Kept s (s.onEvent e) := by
  have hcalls := Workspace.ignores_sameCalls.relates_absorb e s.workspace
  unfold onEvent
  rw [on_handle]
  rcases h : (Workspace.absorb e).on s.workspace with ⟨f | _ | _, w⟩
  all_goals
    rw [h] at hcalls
    have hfirst : Kept s { s with workspace := w } := ⟨rfl, rfl, hcalls⟩
  · exact hfirst.trans (kept_resolve _ _)
  · exact hfirst
  · exact hfirst.trans (kept_requestBuild _)

end Session

namespace Course

variable {c : Course} {t : Session} {waiter : Option Nat}

/-- Watching has begun, and nobody but the session waits for the builds. -/
structure Open (waiter : Option Nat) (c : Course) : Prop extends Sound c where
  /-- Who waits for the end of the watching is told of it once. -/
  signal : ∃ signal, c.session.signal = some signal ∧ signal.waiter = waiter ∧
    c.turns = signal.turns
  /-- No task waits for the end of a run. -/
  listeners : ∀ number, .task number ∉ c.session.scheduler.listeners
  /-- No task is told of it. -/
  untold : ∀ number outcome, .runEnded (.task number) outcome ∉ c.jobs

theorem Open.append (h : Open waiter c) (more : Chronicle) (hbuild : ∀ f, (.build, .error f) ∉ more)
    (hhandler : ∀ f, (.handler, .error f) ∈ more → ∃ g, c.session.verdict = some (.error g)) :
    Open waiter { c with chronicle := c.chronicle ++ more } :=
  ⟨⟨h.toTold.append hbuild hhandler, h.phase⟩, h.signal, h.listeners, h.untold⟩

/-- What went well changes nothing. -/
theorem Open.append_ok (h : Open waiter c) (part : Part) :
    Open waiter { c with chronicle := c.chronicle ++ [(part, .ok ())] } := by
  refine h.append _ (fun f hf => ?_) fun f hf => ?_
  · cases List.mem_singleton.1 hf
  · cases List.mem_singleton.1 hf

theorem Open.withWorkspace (h : Open waiter c) (w : Workspace) :
    Open waiter { c with session := { c.session with workspace := w } } :=
  ⟨⟨⟨h.told, h.recorded, h.news, h.heard, h.handled, h.blamed, h.stopped⟩, h.phase⟩, h.signal,
    h.listeners, h.untold⟩

/-- Watching has not been stopped while there is a front end. -/
theorem Open.withFront (h : Open waiter c) (hfront : c.session.front ≠ none)
    (front : Option FrontEnd) : Open waiter { c with session := { c.session with front } } :=
  ⟨⟨⟨h.told, h.recorded, h.news, h.heard, h.handled, h.blamed,
    fun hstopped => absurd (h.stopped hstopped) hfront⟩, h.phase⟩, h.signal, h.listeners, h.untold⟩

/-- A request while a run goes on asks for one more cycle. -/
theorem Open.requestBuild_of_building (h : Open waiter c)
    (hbuilding : c.session.scheduler.building = true) :
    Open waiter { c with session := c.session.requestBuild.2 } := by
  rw [Watched.requestBuild_of_pending hbuilding]
  refine ⟨⟨⟨h.told, h.recorded, h.news, h.heard, h.handled, h.blamed, h.stopped⟩, ?_⟩, h.signal,
    h.listeners, h.untold⟩
  cases h.phase with
  | rest building =>
    rw [hbuilding] at building
    cases building
  | start _ run work running => exact .start rfl run work running
  | command _ run owner command => exact .command rfl run owner command

/-- A request while none goes on begins a run. -/
theorem Open.requestBuild_of_not_building (h : Open waiter c)
    (hbuilding : c.session.scheduler.building = false) :
    Open waiter { c with session := c.session.requestBuild.2 } := by
  rw [Watched.requestBuild_of_rest hbuilding]
  have hjobs : Course.jobs { c with session := { c.session with
      scheduler := { c.session.scheduler with
        building := true, run := .pending, listeners := [.session] }
      ready := c.session.ready ++ [.beginRun] } } = c.jobs ++ [.beginRun] := jobs_of_ready rfl rfl
  refine ⟨⟨⟨fun _ => List.mem_singleton_self _, fun outcome hended => ?_, fun who outcome hjob => ?_,
    fun f hf => ?_, h.handled, h.blamed, h.stopped⟩, ?_⟩, ?_, fun number hlistens => ?_,
    fun number outcome hjob => ?_⟩
  · cases hended
  · rw [hjobs] at hjob
    rcases List.mem_append.1 hjob with hjob | hjob
    · exact h.news who outcome hjob
    · cases List.mem_singleton.1 hjob
  · rw [hjobs]
    exact (h.heard f hf).imp_right (List.mem_append_left _)
  · -- Nothing else was to go on of a run.
    cases h.phase with
    | rest _ _ work running =>
      refine .start rfl rfl ?_ running
      rw [Course.work, hjobs, List.filter_append, show c.jobs.filter Job.isWork = [] from work]
      rfl
    | start building =>
      rw [hbuilding] at building
      cases building
    | command building =>
      rw [hbuilding] at building
      cases building
  · obtain ⟨signal, hsignal, hwaiter, hturns⟩ := h.signal
    refine ⟨signal, hsignal, hwaiter, ?_⟩
    rw [turns, hjobs, List.filter_append]
    exact (List.append_nil _).trans hturns
  · cases List.mem_singleton.1 hlistens
  · rw [hjobs] at hjob
    rcases List.mem_append.1 hjob with hjob | hjob
    · exact h.untold number outcome hjob
    · cases List.mem_singleton.1 hjob

/-- A request begins a run, or it asks for one more cycle of the run that goes on. -/
theorem Open.requestBuild (h : Open waiter c) :
    Open waiter { c with session := c.session.requestBuild.2 } := by
  cases hbuilding : c.session.scheduler.building with
  | true => exact h.requestBuild_of_building hbuilding
  | false => exact h.requestBuild_of_not_building hbuilding

/-- What ends the watching first counts, and who waits is told of it. -/
theorem Open.resolve_of_none (h : Open waiter c) (hnone : c.session.verdict = none)
    (outcome : Except Fault Unit) (more : Chronicle)
    (hblame : ∀ f, outcome = .error f → ∃ part, (part, .error f) ∈ c.chronicle ++ more)
    (hhandler : ∀ f, (.handler, .error f) ∈ more → ∃ g, outcome = .error g)
    (hfront : outcome = .ok () → c.session.front = none) :
    Open waiter { c with chronicle := c.chronicle ++ more, session := c.session.resolve outcome } := by
  obtain ⟨⟨verdict, waiter'⟩, hsignal, rfl, hturns⟩ := h.signal
  obtain rfl : verdict = none := by
    rw [Session.verdict, hsignal] at hnone
    exact hnone
  rw [resolve_of_open hsignal]
  have hjobs : Course.jobs { c with
      chronicle := c.chronicle ++ more
      session := { c.session with
        signal := some ⟨some outcome, waiter'⟩
        ready := c.session.ready ++ waiter'.toList.map (.stopped · outcome) } } =
      c.jobs ++ waiter'.toList.map (.stopped · outcome) := jobs_of_ready rfl rfl
  -- What is new among the jobs is the turn of the waiter, so the listeners of a run hear nothing
  -- new.
  have hold {who : Listener} {result : Except Fault Unit}
      (hjob : .runEnded who result ∈ c.jobs ++ waiter'.toList.map (Job.stopped · outcome)) :
      .runEnded who result ∈ c.jobs := by
    rcases List.mem_append.1 hjob with hjob | hjob
    · exact hjob
    · obtain ⟨number, -, heq⟩ := List.mem_map.1 hjob
      cases heq
  refine ⟨⟨⟨h.told, fun result hended => ?_, fun who result hjob => ?_, fun _ _ => .inl rfl,
    fun f hf => ?_, fun f hf => ?_, fun hstopped => ?_⟩, ?_⟩, ⟨_, rfl, rfl, ?_⟩, h.listeners,
    fun number result hjob => ?_⟩
  · exact List.mem_append_left _ (h.recorded result hended)
  · rw [hjobs] at hjob
    exact List.mem_append_left _ (h.news who result (hold hjob))
  · rcases List.mem_append.1 hf with hf | hf
    · obtain ⟨g, hg⟩ := h.handled f hf
      rw [hnone] at hg
      cases hg
    · -- A failed handler is what has ended the watching.
      obtain ⟨g, rfl⟩ := hhandler f hf
      exact ⟨g, rfl⟩
  · exact hblame f (Option.some.inj hf)
  · exact hfront (Option.some.inj hstopped)
  · have hwork : (waiter'.toList.map (Job.stopped · outcome)).filter Job.isWork = [] := by
      cases waiter' <;> rfl
    rw [Course.work, hjobs, List.filter_append, hwork, List.append_nil]
    exact h.phase
  · have hnothing : c.jobs.filter Job.isTurn = [] := hturns
    rw [turns, hjobs, List.filter_append, hnothing]
    cases waiter' <;> rfl
  · rw [hjobs] at hjob
    exact h.untold number result (hold hjob)

/-- **An event is handled, or it ends the watching.** -/
theorem Open.onEvent (h : Open waiter c) (hfront : c.session.front ≠ none) (e : Event) :
    Open waiter
      { c with
        chronicle := c.chronicle ++ [(.handler, ((handle e).on c.session).1.map fun _ => ())]
        session := c.session.onEvent e } := by
  unfold Session.onEvent
  rw [on_handle]
  rcases (Workspace.absorb e).on c.session.workspace with ⟨f | _ | _, w⟩
  · dsimp only
    have hw := h.withWorkspace w
    cases hverdict : c.session.verdict with
    | none =>
      refine hw.resolve_of_none hverdict _ _ (fun g hg => ?_) (fun _ _ => ⟨f, rfl⟩) fun hok => ?_
      · cases hg
        exact ⟨.handler, List.mem_append_right _ (List.mem_singleton_self _)⟩
      · cases hok
    | some outcome =>
      -- Watching has ended before, and not well, for then there would be no front end.
      rw [fail, resolve_of_verdict (s := { c.session with workspace := w }) hverdict]
      refine hw.append _ (fun g hg => ?_) fun g _ => ?_
      · cases List.mem_singleton.1 hg
      · cases outcome with
        | error f' => exact ⟨f', hverdict⟩
        | ok _ => exact absurd (h.stopped hverdict) hfront
  · exact (h.append_ok .handler).withWorkspace w
  · exact ((h.append_ok .handler).withWorkspace w).requestBuild

/-- **So are all events of a notice or of a timer.** -/
theorem Open.onEvents (h : Open waiter c) (hfront : c.session.front ≠ none) (events : List Event) :
    Open waiter
        { c with
          chronicle := c.chronicle ++ c.session.handled events
          session := events.foldl Session.onEvent c.session } ∧
      Kept c.session (events.foldl Session.onEvent c.session) := by
  induction events generalizing c with
  | nil =>
    rw [handled, List.append_nil]
    exact ⟨h, .refl _⟩
  | cons e rest ih =>
    have hkept := kept_onEvent c.session e
    have hfront' : (c.session.onEvent e).front ≠ none := by
      rw [hkept.front]
      exact hfront
    obtain ⟨hopen, hrest⟩ := ih (h.onEvent hfront e) hfront'
    rw [List.append_assoc] at hopen
    exact ⟨hopen, hkept.trans hrest⟩

end Course

end ProbeKit
