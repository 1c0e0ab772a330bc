import Mathlib.Data.List.Basic
import ProbeKit.Proofs.Watch.Moments

/-!
# Notices around starts and stops

A notice that comes in while a lookout is open is due at once, and any other one is due at the next
start that opens it (`Lookout.due?`).  What a lookout delivers at a moment, but for what checks
find, are the events of the notices that are due then, in the order in which they came in
(`Lookout.delivers_when_due`).
-/

namespace ProbeKit

/-! ### Closed lookouts -/

namespace Lookout

/-- While a lookout is closed no file is to be looked at. -/
def Quiet (l : Lookout) : Prop := l.front.ready = false → l.front.timers = []

end Lookout

namespace Moment

variable {m : Moment} (h : Lookout.Step m.before m.what m.after)

theorem served_of_closed (hready : m.before.front.ready = false) (hopens : m.opens = false) :
    m.served = [] := by
  simp [served, hready, hopens]

theorem check?_of_quiet (hquiet : m.before.Quiet) (hready : m.before.front.ready = false) :
    m.check? = none := by
  unfold check?
  split
  · rw [hquiet hready]
    rfl
  · rfl

include h

theorem quiet_after (hquiet : m.before.Quiet) : m.after.Quiet := by
  intro hclosed
  by_cases henters : m.Enters
  · obtain ⟨k, hprepares, hserves⟩ := exists_serves h henters
    rw [hserves.front.ready, hprepares.ready, Bool.or_eq_false_iff] at hclosed
    obtain ⟨hready, hopens⟩ := hclosed
    -- Nothing is served, so nothing names a file that would get a timer.
    rw [served_of_closed hready hopens] at hserves
    refine List.eq_nil_iff_forall_not_mem.2 fun t ht => ?_
    rcases (hserves.front.hasTimer t.path).1 ⟨t, ht, rfl⟩ with ⟨u, hu, -⟩ | hnames
    · rw [hprepares.timers, hquiet hready] at hu
      cases hu
    · exact Lookout.not_names_nil hnames
  · have hpasses := passes_of_not_enters h henters
    cases hstops : m.stops with
    | true =>
      rw [front_of_stops h hstops]
      rfl
    | false =>
      have hready : m.before.front.ready = false := by simpa [hpasses.ready, hstops] using hclosed
      rw [hpasses.front (check?_of_quiet hquiet hready) hstops]
      exact hquiet hready

/-- Nothing is delivered where nothing is open, but for the word that watching begins. -/
theorem delivered_of_closed (hquiet : m.before.Quiet) (hready : m.before.front.ready = false)
    (hopens : m.opens = false) : m.after.delivered = m.before.delivered ++ m.called := by
  rw [delivered_after h (check?_of_quiet hquiet hready), served_of_closed hready hopens]
  simp [Lookout.eventsOf]

end Moment

/-! ### When a notice is due -/

namespace Lookout

variable {past before after : List Moment} {m : Moment} {i j : Nat}

/-- Whether a lookout that was closed at first is open after some moments. -/
def isOpen (past : List Moment) : Bool :=
  past.foldl (fun before m => m.opens || (before && !m.stops)) false

/-- The moment at which the notices of a moment are due: at once where the lookout is open, and else
at the next moment that opens it. -/
def due? (past : List Moment) (i : Nat) : Option Nat :=
  if isOpen (past.take i) then some i else ((past.drop i).findIdx? Moment.opens).map (i + ·)

/-- The notices that are due at a moment, or not yet, in the order in which they came in. -/
def dueAt (past : List Moment) (at? : Option Nat) : List Notice :=
  past.zipIdx.flatMap fun x => if due? past x.2 = at? then x.1.handed else []

theorem isOpen_concat : isOpen (past ++ [m]) = (m.opens || (isOpen past && !m.stops)) := by
  simp [isOpen]

theorem due?_concat_of_lt (hi : i < past.length) :
    due? (past ++ [m]) i = (due? past i).or (if m.opens then some past.length else none) := by
  have hlength : i + (past.length - i) = past.length := by omega
  unfold due?
  rw [List.take_append_of_le_length hi.le, List.drop_append_of_le_length hi.le,
    List.findIdx?_append]
  split
  · rfl
  · cases hfind : (past.drop i).findIdx? Moment.opens <;> cases hopens : m.opens <;>
      simp [hopens, hlength]

theorem due?_concat_self :
    due? (past ++ [m]) past.length = if isOpen past || m.opens then some past.length else none := by
  unfold due?
  rw [List.take_left, List.drop_left]
  cases isOpen past <;> cases hopens : m.opens <;> simp [hopens]

theorem due?_lt (hi : i < past.length) (h : due? past i = some j) : j < past.length := by
  unfold due? at h
  split at h
  · exact Option.some.inj h ▸ hi
  · obtain ⟨k, hfind, rfl⟩ := Option.map_eq_some_iff.1 h
    have := (List.findIdx?_eq_some_iff_findIdx_eq.1 hfind).1
    rw [List.length_drop] at this
    omega

theorem le_of_due? (h : due? past i = some j) : i ≤ j := by
  unfold due? at h
  split at h
  · exact (Option.some.inj h).le
  · obtain ⟨k, -, rfl⟩ := Option.map_eq_some_iff.1 h
    exact Nat.le_add_right i k

/-- While a lookout is open no notice waits. -/
theorem due?_ne_none_of_isOpen (hopen : isOpen past = true) (hi : i < past.length) :
    due? past i ≠ none := by
  induction past using List.reverseRecOn with
  | nil => cases hopen
  | append_singleton past m ih =>
    rw [isOpen_concat, Bool.or_eq_true, Bool.and_eq_true] at hopen
    rw [List.length_append, List.length_singleton, Nat.lt_succ_iff_lt_or_eq] at hi
    rcases hi with hi | rfl
    · rw [due?_concat_of_lt hi]
      rcases hopen with hopens | ⟨hopen, -⟩
      · cases due? past i <;> simp [hopens]
      · obtain ⟨j, hj⟩ := Option.ne_none_iff_exists'.1 (ih hopen hi)
        simp [hj]
    · rw [due?_concat_self]
      rcases hopen with hopens | ⟨hopen, -⟩ <;> simp_all

/-- What waits at a moment that serves something is due at that moment at the latest. -/
theorem exists_due?_concat (hi : i < past.length) (h : isOpen past = true ∨ m.opens = true) :
    ∃ j, due? (past ++ [m]) i = some j ∧ j ≤ past.length := by
  rw [due?_concat_of_lt hi]
  cases hdue : due? past i with
  | some j => exact ⟨j, rfl, (due?_lt hi hdue).le⟩
  | none =>
    have hopens : m.opens = true := h.resolve_left fun hopen => due?_ne_none_of_isOpen hopen hi hdue
    exact ⟨past.length, by rw [hopens]; rfl, Nat.le_refl _⟩

/-- **Notices are due in the order in which they come in.** -/
theorem due?_mono {i' j' : Nat} (hle : i ≤ i') (hi' : i' < past.length)
    (h : due? past i' = some j') : ∃ j, due? past i = some j ∧ j ≤ j' := by
  induction past using List.reverseRecOn with
  | nil => cases hi'
  | append_singleton past m ih =>
    rw [List.length_append, List.length_singleton, Nat.lt_succ_iff_lt_or_eq] at hi'
    rcases hi' with hi' | rfl
    · have hi := Nat.lt_of_le_of_lt hle hi'
      -- The later notice was due before the last moment, or it had to wait until that one opens.
      rw [due?_concat_of_lt hi'] at h
      cases hdue' : due? past i' with
      | some k =>
        obtain rfl : k = j' := by simpa [hdue'] using h
        obtain ⟨j, hj, hjk⟩ := ih hi' hdue'
        exact ⟨j, by rw [due?_concat_of_lt hi, hj, Option.some_or], hjk⟩
      | none =>
        obtain ⟨hopens, rfl⟩ : m.opens = true ∧ past.length = j' := by simpa [hdue'] using h
        exact exists_due?_concat hi (.inr hopens)
    · rcases hle.lt_or_eq with hi | rfl
      · have hserved := h
        rw [due?_concat_self] at hserved
        split at hserved
        · rename_i hboth
          obtain rfl := Option.some.inj hserved
          exact exists_due?_concat hi (by simpa using hboth)
        · cases hserved
      · exact ⟨j', h, Nat.le_refl j'⟩

/-! ### The notices of a moment -/

section
variable (past : List Moment) (m : Moment)

theorem dueAt_concat (at? : Option Nat) : dueAt (past ++ [m]) at? =
    (past.zipIdx.flatMap fun x =>
      if (due? past x.2).or (if m.opens then some past.length else none) = at? then x.1.handed
      else []) ++
      if (if isOpen past || m.opens then some past.length else none) = at? then m.handed
      else [] := by
  unfold dueAt
  rw [List.zipIdx_append, List.flatMap_append, Nat.zero_add]
  congr 1
  · refine List.flatMap_congr fun x hx => ?_
    rw [due?_concat_of_lt (List.snd_lt_of_mem_zipIdx hx)]
  · simp [due?_concat_self]

/-- What waits after a moment. -/
theorem dueAt_concat_none : dueAt (past ++ [m]) none =
    if m.opens then [] else
      if isOpen past then dueAt past none else dueAt past none ++ m.handed := by
  rw [dueAt_concat]
  cases hopens : m.opens <;> cases hopen : isOpen past <;> simp [dueAt]

theorem dueAt_none_of_isOpen {past : List Moment} (h : isOpen past = true) :
    dueAt past none = [] := by
  refine List.flatMap_eq_nil_iff.2 fun x hx => if_neg ?_
  exact due?_ne_none_of_isOpen h (List.snd_lt_of_mem_zipIdx hx)

/-- What is due at the last moment. -/
theorem dueAt_concat_self : dueAt (past ++ [m]) (some past.length) =
    if isOpen past then m.handed else if m.opens then dueAt past none ++ m.handed else [] := by
  -- None of the earlier notices was due as late as that, so those that are due now did wait.
  have hnow : ∀ x ∈ past.zipIdx,
      (due? past x.2).or (if m.opens then some past.length else none) = some past.length ↔
        m.opens = true ∧ due? past x.2 = none := by
    intro x hx
    cases hdue : due? past x.2 with
    | none => simp
    | some j =>
      have := due?_lt (List.snd_lt_of_mem_zipIdx hx) hdue
      simp
      omega
  have hearlier : (past.zipIdx.flatMap fun x =>
      if (due? past x.2).or (if m.opens then some past.length else none) = some past.length then
        x.1.handed else []) = if m.opens then dueAt past none else [] := by
    rw [List.flatMap_congr fun x hx => if_congr (hnow x hx) rfl rfl]
    cases m.opens <;> simp [dueAt]
  rw [dueAt_concat, hearlier]
  cases hopen : isOpen past with
  | true => simp [dueAt_none_of_isOpen hopen]
  | false => cases m.opens <;> simp

/-- What is due at a moment stays the same later. -/
theorem dueAt_concat_of_lt (hj : j < past.length) :
    dueAt (past ++ [m]) (some j) = dueAt past (some j) := by
  have hsame (d : Option Nat) :
      d.or (if m.opens then some past.length else none) = some j ↔ d = some j := by
    cases d <;> simp
    omega
  have hlast : ¬(if isOpen past || m.opens then some past.length else none) = some j := by
    simp
    omega
  rw [dueAt_concat, if_neg hlast, List.append_nil]
  simp only [hsame]
  rfl

end

theorem dueAt_append (more : List Moment) (hj : j < past.length) :
    dueAt (past ++ more) (some j) = dueAt past (some j) := by
  induction more using List.reverseRecOn with
  | nil => rw [List.append_nil]
  | append_singleton more m ih =>
    have hj' : j < (past ++ more).length := Nat.lt_of_lt_of_le hj (by simp)
    rw [← List.append_assoc, dueAt_concat_of_lt _ _ hj', ih]

/-! ### Runs -/

variable {l₀ l : Lookout}

/-- What becomes of a lookout in a run. -/
structure Follows (past : List Moment) (l : Lookout) : Prop where
  /-- It is open from an opening to a stop. -/
  ready : l.front.ready = isOpen past
  /-- The notices that are not due yet wait. -/
  backlog : l.front.backlog = dueAt past none
  /-- While it is closed no file is to be looked at. -/
  quiet : l.Quiet

theorem Follows.next (h : Follows past m.before) (hstep : Step m.before m.what m.after) :
    Follows (past ++ [m]) m.after := by
  refine ⟨?_, ?_, Moment.quiet_after hstep h.quiet⟩
  · rw [Moment.ready_after hstep, h.ready, isOpen_concat]
  · rw [Moment.backlog_after hstep, dueAt_concat_none, h.ready, h.backlog]

theorem Run.follows (h₀ : l₀.Fresh) (h : Run l₀ past l) : Follows past l := by
  induction h with
  | begin => exact ⟨h₀.ready, h₀.backlog, fun _ => h₀.timers⟩
  | next _ hstep ih => exact ih.next hstep

/-- The notices that are served at a moment are those that are due. -/
theorem Follows.served_eq (h : Follows before m.before) (after : List Moment) :
    m.served = dueAt (before ++ m :: after) (some before.length) := by
  have hlast : dueAt (before ++ m :: after) (some before.length) =
      dueAt (before ++ [m]) (some before.length) := by
    rw [← List.singleton_append, ← List.append_assoc, dueAt_append _ (by simp)]
  rw [hlast, dueAt_concat_self, Moment.served, h.ready, h.backlog]

/-- **Notices become events in the order in which they come in, none is lost and none counts
twice**: at once while a lookout is open, and else at the next start that opens it, right after the
listener was told. -/
theorem delivers_when_due (h₀ : l₀.Fresh) (h : Run l₀ past l) :
    (l.front.ready = isOpen past ∧ l.front.backlog = dueAt past none) ∧
      (∀ i i' j', i ≤ i' → i' < past.length → due? past i' = some j' →
        ∃ j, due? past i = some j ∧ i ≤ j ∧ j ≤ j') ∧
      ∀ before m after, past = before ++ m :: after →
        (m.check? = none → m.after.delivered = m.before.delivered ++ m.called ++
          (m.before.eventsOf ((dueAt past (some before.length)).flatMap
            m.before.front.items)).map .event) ∧
        (m.Enters → ∃ k, m.Prepares k ∧
          m.after = (((dueAt past (some before.length)).forM dispatch).on k).2) ∧
        (isOpen before = false → m.opens = false →
          m.after.delivered = m.before.delivered ++ m.called) := by
  have hfollows := h.follows h₀
  refine ⟨⟨hfollows.ready, hfollows.backlog⟩, fun i i' j' hle hi' hdue' => ?_, ?_⟩
  · obtain ⟨j, hdue, hj⟩ := due?_mono hle hi' hdue'
    exact ⟨j, hdue, le_of_due? hdue, hj⟩
  · rintro before m after rfl
    obtain ⟨hbefore, hstep, -⟩ := h.split
    have hfollows := hbefore.follows h₀
    rw [← hfollows.served_eq after]
    refine ⟨Moment.delivered_after hstep, fun henters => ?_, fun hclosed hopens => ?_⟩
    · obtain ⟨k, hprepares, -, hafter⟩ := Moment.exists_prepared hstep henters
      exact ⟨k, hprepares, hafter⟩
    · exact Moment.delivered_of_closed hstep hfollows.quiet (hfollows.ready.trans hclosed) hopens

theorem dueAt_firstStart (early : List Notice) :
    dueAt [Knot.firstStart early] (some 0) = early := by
  have h := dueAt_concat_self [] (Knot.firstStart early)
  rw [Knot.opens_firstStart, Knot.handed_firstStart] at h
  exact h

theorem delivers_when_due_firstStart : ∃ l, Knot.lookout.Fresh ∧
    Run Knot.lookout [Knot.firstStart [⟨.add, ["/a.js"]⟩]] l ∧
      l.delivered = [.ready, .event ⟨.add, Knot.free⟩] := by
  have hrun := Knot.run_firstStart [⟨.add, ["/a.js"]⟩]
  refine ⟨_, Knot.fresh_lookout, hrun, ?_⟩
  obtain ⟨-, -, h⟩ := delivers_when_due Knot.fresh_lookout hrun
  obtain ⟨hdelivered, -⟩ := h [] _ [] rfl
  have hevents : Knot.lookout.eventsOf [⟨.add, Path.ofString "/a.js"⟩] = [⟨.add, Knot.free⟩] := by
    simp [eventsOf, event?, Knot.ofString_free, Knot.resolves_free, Knot.file?_free]
  rw [hdelivered rfl, List.length_nil, dueAt_firstStart, Knot.called_firstStart]
  exact congrArg (fun events => [Delivery.ready] ++ events.map .event) hevents

/-- **A notice is lost at a start if one that waits before it cannot be resolved.** -/
theorem exists_lost : ∃ m l, Knot.lookout.Fresh ∧ Run Knot.lookout [m] l ∧
    m.opens = true ∧ m.handed = [⟨.add, ["/l.js"]⟩, ⟨.add, ["/a.js"]⟩] ∧
      Knot.lookout.event? ⟨.add, Path.ofString "/a.js"⟩ = some ⟨.add, Knot.free⟩ ∧
        l.front.ready = true ∧ l.front.backlog = [] ∧ l.delivered = [.ready] := by
  let early : List Notice := [⟨.add, ["/l.js"]⟩, ⟨.add, ["/a.js"]⟩]
  have hstep := Knot.step_firstStart early
  have hevents : Knot.lookout.eventsOf (early.flatMap Knot.lookout.front.items) = [] := by
    show Knot.lookout.eventsOf [⟨.add, Path.ofString "/l.js"⟩, ⟨.add, Path.ofString "/a.js"⟩] = []
    rw [eventsOf, Knot.ofString_loop, List.takeWhile_cons_of_neg (by simp [Knot.resolves_loop])]
    rfl
  refine ⟨Knot.firstStart early, _, Knot.fresh_lookout, Knot.run_firstStart early,
    Knot.opens_firstStart early, Knot.handed_firstStart early, ?_, ?_, ?_, ?_⟩
  · rw [Knot.ofString_free, event?, if_neg (by decide), Knot.file?_free]
    rfl
  · rw [Moment.ready_after hstep, Knot.opens_firstStart, Bool.true_or]
  · rw [Moment.backlog_after hstep, Knot.opens_firstStart, if_pos rfl]
  · rw [Moment.delivered_after hstep rfl, Knot.served_firstStart, Knot.called_firstStart]
    exact congrArg (fun events => [Delivery.ready] ++ events.map .event) hevents

end Lookout

end ProbeKit
