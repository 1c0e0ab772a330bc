import Mathlib.Data.List.TakeWhile
import ProbeKit.Proofs.Act
import ProbeKit.Proofs.Watch.Notices
import ProbeKit.Watch.Lookout

/-!
# Notices that are served

What a front end that is ready makes of notices.  The paths that they may stand for are gone through
in order, up to one that cannot be resolved, and each file of interest among them becomes an event
or has a timer from then on: `Lookout.Serves` says so for one notice (`Lookout.serves_dispatch`) and
for any number of them in a row (`Lookout.serves_forM`).
-/

namespace ProbeKit

open Act

/-- A path that a notice may stand for, and what the notice says of it. -/
structure Item where
  /-- What happened. -/
  kind : EventKind
  /-- The path as it is named. -/
  path : Path
  deriving DecidableEq

namespace FrontEnd

/-- The paths that a notice may stand for, one after the other. -/
def items (f : FrontEnd) (n : Notice) : List Item :=
  if n.kind = .raw then (n.names.flatMap f.options).map fun p => ⟨.raw, p⟩
  else n.names.map fun name => ⟨n.kind, Path.ofString name⟩

/-! ### Timers that are added -/

/-- A front end comes from another by setting first timers for the files that have none of some. -/
structure Adds (now : Nat) (paths : Path → Prop) (f f' : FrontEnd) : Prop where
  /-- The roots stay. -/
  roots : f'.roots = f.roots
  /-- The delay stays. -/
  delay : f'.delay = f.delay
  /-- The number of retries stays. -/
  maxRetries : f'.maxRetries = f.maxRetries
  /-- Events are delivered as before. -/
  ready : f'.ready = f.ready
  /-- The same notices wait. -/
  backlog : f'.backlog = f.backlog
  /-- Numbers go up. -/
  nextNumber : f.nextNumber ≤ f'.nextNumber
  /-- The timers are those that were there and new ones. -/
  timers : ∃ new, f'.timers = f.timers ++ new ∧ ∀ t ∈ new, t.attempt = 0 ∧
    t.due = f.delay.map (now + ·) ∧ f.nextNumber ≤ t.number ∧ ¬f.HasTimer t.path
  /-- Each of the files has a timer. -/
  hasTimer : ∀ q, f'.HasTimer q ↔ f.HasTimer q ∨ paths q
  /-- Timers are told apart as before. -/
  inOrder : f.InOrder → f'.InOrder
  /-- No file has two timers. -/
  nodup : (f.timers.map (·.path)).Nodup → (f'.timers.map (·.path)).Nodup

namespace Adds

variable {now : Nat} {paths paths' : Path → Prop} {f g k : FrontEnd}

theorem refl (now : Nat) (f : FrontEnd) : Adds now (fun _ => False) f f :=
  ⟨rfl, rfl, rfl, rfl, rfl, Nat.le_refl _, ⟨[], by simp⟩, fun _ => by simp, id, id⟩

theorem trans (h : Adds now paths f g) (h' : Adds now paths' g k) :
    Adds now (fun q => paths q ∨ paths' q) f k := by
  obtain ⟨new, htimers, hnew⟩ := h.timers
  obtain ⟨more, htimers', hmore⟩ := h'.timers
  refine ⟨h'.roots.trans h.roots, h'.delay.trans h.delay, h'.maxRetries.trans h.maxRetries,
    h'.ready.trans h.ready, h'.backlog.trans h.backlog, Nat.le_trans h.nextNumber h'.nextNumber,
    ⟨new ++ more, by rw [htimers', htimers, List.append_assoc], fun t ht => ?_⟩,
    fun q => by rw [h'.hasTimer, h.hasTimer, or_assoc], fun hf => h'.inOrder (h.inOrder hf),
    fun hf => h'.nodup (h.nodup hf)⟩
  rcases List.mem_append.1 ht with ht | ht
  · exact hnew t ht
  · obtain ⟨hattempt, hdue, hnumber, hnone⟩ := hmore t ht
    exact ⟨hattempt, h.delay ▸ hdue, Nat.le_trans h.nextNumber hnumber,
      fun hold => hnone ((h.hasTimer _).2 (.inl hold))⟩

theorem congr (h : Adds now paths f g) (hpaths : ∀ q, paths q ↔ paths' q) :
    Adds now paths' f g :=
  ⟨h.roots, h.delay, h.maxRetries, h.ready, h.backlog, h.nextNumber, h.timers,
    fun q => (h.hasTimer q).trans (or_congr_right (hpaths q)), h.inOrder, h.nodup⟩

end Adds

theorem nodup_setTimer {f : FrontEnd} (s : Sight) {p : Path} (attempt : Nat)
    (hf : (f.timers.map (·.path)).Nodup) (hp : ¬f.HasTimer p) :
    ((f.setTimer s p attempt).timers.map (·.path)).Nodup := by
  show ((f.timers ++ [_]).map Timer.path).Nodup
  rw [List.map_append, List.map_singleton]
  refine List.nodup_append.2 ⟨hf, by simp, fun q hq q' hq' heq => ?_⟩
  obtain rfl := List.mem_singleton.1 hq'
  obtain ⟨t, ht, hpath⟩ := List.mem_map.1 hq
  exact hp ⟨t, ht, hpath.trans heq⟩

theorem adds_setTimer (f : FrontEnd) (s : Sight) {p : Path} (hp : ¬f.HasTimer p) :
    Adds s.now (· = p) f (f.setTimer s p 0) := by
  refine ⟨rfl, rfl, rfl, rfl, rfl, Nat.le_succ _, ⟨_, rfl, fun t ht => ?_⟩,
    hasTimer_setTimer f s p 0, fun hf => hf.setTimer s p 0, fun hf => nodup_setTimer s 0 hf hp⟩
  obtain rfl := List.mem_singleton.1 ht
  exact ⟨rfl, rfl, Nat.le_refl _, hp⟩

theorem adds_setTimers (f : FrontEnd) (s : Sight) (paths : List Path) :
    Adds s.now (· ∈ paths) f (f.setTimers s paths) := by
  induction paths generalizing f with
  | nil => exact (Adds.refl s.now f).congr fun q => by simp
  | cons p rest ih =>
    have hstep : f.setTimers s (p :: rest) =
        (if f.timers.any (·.path == p) then f else f.setTimer s p 0).setTimers s rest := rfl
    rw [hstep]
    by_cases hp : f.HasTimer p
    -- A file that has a timer keeps it, so only the rest counts.
    · rw [if_pos (by simpa [HasTimer] using hp)]
      refine ⟨(ih f).roots, (ih f).delay, (ih f).maxRetries, (ih f).ready, (ih f).backlog,
        (ih f).nextNumber, (ih f).timers, fun q => ?_, (ih f).inOrder, (ih f).nodup⟩
      rw [(ih f).hasTimer, List.mem_cons]
      constructor
      · rintro (hq | hq)
        · exact .inl hq
        · exact .inr (.inr hq)
      · rintro (hq | rfl | hq)
        · exact .inl hq
        · exact .inl hp
        · exact .inr hq
    · rw [if_neg (by simpa [HasTimer] using hp)]
      exact ((adds_setTimer f s hp).trans (ih _)).congr fun q => by simp

end FrontEnd

namespace Lookout

/-! ### What notices stand for -/

/-- Whether a path can be resolved. -/
def resolves (l : Lookout) (i : Item) : Bool := (l.disk.resolve i.path).isOk

/-- The file of interest that a path leads to, if it leads to one. -/
def file? (l : Lookout) (i : Item) : Option Path :=
  (l.disk.resolve i.path).toOption.filter l.accepts

/-- The event that an item stands for; a raw one stands for none at once. -/
def event? (l : Lookout) (i : Item) : Option Event :=
  if i.kind = .raw then none else (l.file? i).map fun p => ⟨i.kind, p⟩

/-- The events that items stand for, up to one that cannot be resolved. -/
def eventsOf (l : Lookout) (items : List Item) : List Event :=
  (items.takeWhile l.resolves).filterMap l.event?

/-- A raw notice among some names a file of interest, and nothing up to and in that notice was
beyond resolving. -/
def Names (l : Lookout) (notices : List Notice) (p : Path) : Prop :=
  ∃ before n after, notices = before ++ n :: after ∧ n.kind = .raw ∧
    (∀ i ∈ (before ++ [n]).flatMap l.front.items, l.resolves i = true) ∧
      ∃ i ∈ l.front.items n, l.file? i = some p

/-- What becomes of notices that are served: events are delivered, timers are set, and all else
stays. -/
structure Serves (l : Lookout) (notices : List Notice) (l' : Lookout) : Prop where
  /-- Files that raw notices name have timers. -/
  front : l.front.Adds l.now (l.Names notices) l'.front
  /-- All other notices become events. -/
  delivered : l'.delivered =
    l.delivered ++ (l.eventsOf (notices.flatMap l.front.items)).map .event
  /-- The disk stays. -/
  disk : l'.disk = l.disk
  /-- The same files are of interest. -/
  accepts : l'.accepts = l.accepts
  /-- The same files are known. -/
  known : l'.known = l.known
  /-- It all happens at once. -/
  now : l'.now = l.now

variable {l l' l'' : Lookout} {n : Notice} {notices more : List Notice}

/-! ### One notice -/

theorem resolves_iff {i : Item} : l.resolves i = true ↔ ∃ p, l.disk.resolve i.path = .ok p := by
  unfold resolves
  cases l.disk.resolve i.path <;> simp [Except.isOk, Except.toBool]

theorem file?_eq_some_iff {i : Item} {p : Path} :
    l.file? i = some p ↔ l.disk.resolve i.path = .ok p ∧ l.accepts p = true := by
  unfold file?
  cases l.disk.resolve i.path <;> simp [Except.toOption, Option.filter]
  grind

theorem sight_disk (l : Lookout) : l.sight.disk = l.disk := rfl

/-! What notices stand for depends on the roots, the disk and the files of interest only. -/

theorem items_congr {f f' : FrontEnd} (h : f'.roots = f.roots) : f'.items = f.items := by
  funext n
  have hoptions : f'.options = f.options := by
    funext name
    rw [FrontEnd.options, FrontEnd.options, h]
  rw [FrontEnd.items, FrontEnd.items, hoptions]

section
variable (hdisk : l'.disk = l.disk)
include hdisk

theorem resolves_congr : l'.resolves = l.resolves := by
  funext i
  rw [resolves, resolves, hdisk]

variable (haccepts : l'.accepts = l.accepts)
include haccepts

theorem file?_congr : l'.file? = l.file? := by
  funext i
  rw [file?, file?, hdisk, haccepts]

theorem eventsOf_congr : l'.eventsOf = l.eventsOf := by
  have hevent : l'.event? = l.event? := by
    funext i
    rw [event?, event?, file?_congr hdisk haccepts]
  funext items
  rw [eventsOf, eventsOf, resolves_congr hdisk, hevent]

theorem names_congr (hroots : l'.front.roots = l.front.roots) : l'.Names = l.Names := by
  funext notices p
  rw [Names, Names, items_congr hroots, resolves_congr hdisk, file?_congr hdisk haccepts]

end

/-- Candidates are found unless one of the paths cannot be resolved. -/
theorem gather_spec (l : Lookout) (found paths : List Path) :
    ((∃ all, FrontEnd.gather l.sight found paths = .ok all) ↔
      ∀ p ∈ paths, l.resolves ⟨.raw, p⟩ = true) ∧
    ∀ all, FrontEnd.gather l.sight found paths = .ok all →
      ∀ q, q ∈ all ↔ q ∈ found ∨ ∃ p ∈ paths, l.file? ⟨.raw, p⟩ = some q := by
  have hleads (h : ∀ p ∈ paths, l.resolves ⟨.raw, p⟩ = true) : ∀ p ∈ paths, ∃ q,
      l.sight.disk.resolve p = .ok q ∧ l.sight.accepts q = .ok (l.accepts q) := by
    intro p hp
    obtain ⟨q, hq⟩ := resolves_iff.1 (h p hp)
    exact ⟨q, hq, rfl⟩
  have hresolves {all : List Path} (h : FrontEnd.gather l.sight found paths = .ok all) :
      ∀ p ∈ paths, l.resolves ⟨.raw, p⟩ = true := fun p hp =>
    resolves_iff.2 (FrontEnd.exists_resolve_of_gather h p hp)
  refine ⟨⟨fun ⟨all, h⟩ => hresolves h, fun h => ?_⟩, fun all h q => ?_⟩
  · obtain ⟨all, hgather, -⟩ := FrontEnd.exists_gather_of_resolve (hleads h) found
    exact ⟨all, hgather⟩
  · obtain ⟨all', hgather, hmem⟩ := FrontEnd.exists_gather_of_resolve (hleads (hresolves h)) found
    obtain rfl : all' = all := Except.ok.inj (hgather.symm.trans h)
    simp only [hmem, file?_eq_some_iff, sight_disk]

/-- Names become events up to one that cannot be resolved. -/
theorem events_spec (l : Lookout) {kind : EventKind} (hkind : kind ≠ .raw) (names : List String) :
    (FrontEnd.events l.sight kind names).1 =
        l.eventsOf (names.map fun name => ⟨kind, Path.ofString name⟩) ∧
      ((FrontEnd.events l.sight kind names).2 = none ↔
        ∀ i ∈ names.map fun name => (⟨kind, Path.ofString name⟩ : Item), l.resolves i = true) := by
  induction names with
  | nil => exact ⟨rfl, by simp [FrontEnd.events]⟩
  | cons name rest ih =>
    obtain ⟨hevents, hfault⟩ := ih
    rw [List.map_cons, List.forall_mem_cons, FrontEnd.events, eventsOf, List.takeWhile_cons]
    cases hp : l.disk.resolve (Path.ofString name) with
    | error e =>
      have hresolves : l.resolves ⟨kind, Path.ofString name⟩ = false := by
        rw [resolves, hp]
        rfl
      rw [sight_disk, hp, hresolves]
      exact ⟨rfl, by simp [Except.mapError]⟩
    | ok p =>
      have hresolves : l.resolves ⟨kind, Path.ofString name⟩ = true := resolves_iff.2 ⟨p, hp⟩
      rw [sight_disk, hp, hresolves, if_pos rfl, List.filterMap_cons, ← hfault, ← eventsOf,
        ← hevents, event?, if_neg hkind, file?, hp]
      refine ⟨?_, by simp [Except.mapError, sight]⟩
      cases haccepts : l.accepts p <;>
        simp [Except.mapError, sight, Except.toOption, Option.filter, haccepts]

theorem event?_of_raw {i : Item} (h : i.kind = .raw) : l.event? i = none := if_pos h

theorem items_of_raw {f : FrontEnd} (h : n.kind = .raw) {i : Item} (hi : i ∈ f.items n) :
    i.kind = .raw := by
  unfold FrontEnd.items at hi
  rw [if_pos h] at hi
  obtain ⟨p, -, rfl⟩ := List.mem_map.1 hi
  rfl

theorem not_names_nil {p : Path} : ¬l.Names [] p := by
  rintro ⟨before, n, after, hsplit, -⟩
  simp at hsplit

theorem names_singleton {p : Path} : l.Names [n] p ↔ n.kind = .raw ∧
    (∀ i ∈ l.front.items n, l.resolves i = true) ∧ ∃ i ∈ l.front.items n, l.file? i = some p := by
  constructor
  · rintro ⟨before, n', after, hsplit, hraw, hresolves, hfile⟩
    cases before with
    | nil =>
      obtain ⟨rfl, -⟩ := List.cons.inj hsplit
      exact ⟨hraw, by simpa using hresolves, hfile⟩
    | cons n'' before => simp at hsplit
  · rintro ⟨hraw, hresolves, hfile⟩
    exact ⟨[], n, [], rfl, hraw, by simpa using hresolves, hfile⟩

/-- What a front end that is ready makes of a notice. -/
theorem take_spec (hready : l.front.ready = true) (n : Notice) :
    ((l.front.take l.sight n).2.2 = none ↔ ∀ i ∈ l.front.items n, l.resolves i = true) ∧
      (l.front.take l.sight n).2.1 = l.eventsOf (l.front.items n) ∧
        l.front.Adds l.now (l.Names [n]) (l.front.take l.sight n).1 := by
  rw [FrontEnd.take, hready, if_neg (by simp)]
  -- A raw notice makes timers and no events, and any other one events and no timers.
  by_cases hkind : n.kind = .raw
  · rw [if_pos hkind]
    have hnone : l.eventsOf (l.front.items n) = [] := by
      refine List.filterMap_eq_nil_iff.2 fun i hi => event?_of_raw ?_
      exact items_of_raw hkind ((List.takeWhile_sublist _).subset hi)
    have hitems : (∀ i ∈ l.front.items n, l.resolves i = true) ↔
        ∀ p ∈ n.names.flatMap l.front.options, l.resolves ⟨.raw, p⟩ = true := by
      rw [FrontEnd.items, if_pos hkind, List.forall_mem_map]
    obtain ⟨hok, hmem⟩ := l.gather_spec [] (n.names.flatMap l.front.options)
    rw [hnone, hitems, ← hok]
    cases hall : l.front.candidates l.sight n.names with
    | ok all =>
      refine ⟨iff_of_true rfl ⟨all, hall⟩, rfl, ?_⟩
      refine (l.front.adds_setTimers l.sight all).congr fun q => ?_
      rw [names_singleton, hitems, ← hok, hmem all hall, FrontEnd.items, if_pos hkind]
      simp only [List.mem_map]
      constructor
      · rintro (hq | ⟨p, hp, hfile⟩)
        · cases hq
        · exact ⟨hkind, ⟨all, hall⟩, _, ⟨p, hp, rfl⟩, hfile⟩
      · rintro ⟨-, -, -, ⟨p, hp, rfl⟩, hfile⟩
        exact .inr ⟨p, hp, hfile⟩
    | error e =>
      have hfails :
          ¬∃ all, FrontEnd.gather l.sight [] (n.names.flatMap l.front.options) = .ok all := by
        rintro ⟨all, hgather⟩
        exact absurd (hall.symm.trans hgather) (by simp)
      refine ⟨iff_of_false (by simp) hfails, rfl, ?_⟩
      refine (FrontEnd.Adds.refl l.now l.front).congr fun q => ?_
      rw [names_singleton, hitems, ← hok]
      exact iff_of_false id fun h => hfails h.2.1
  · rw [if_neg hkind]
    obtain ⟨hevents, hfault⟩ := l.events_spec hkind n.names
    have hitems : l.front.items n = n.names.map fun name => ⟨n.kind, Path.ofString name⟩ :=
      if_neg hkind
    rw [hitems]
    refine ⟨hfault, hevents, (FrontEnd.Adds.refl l.now l.front).congr fun q => ?_⟩
    exact iff_of_false id fun h => hkind (names_singleton.1 h).1

/-! ### Notices in a row -/

theorem on_deliver (made : FrontEnd × List Event × Option Fault) (l : Lookout) :
    (deliver made).on l =
      (match made.2.2 with
        | none => .ok ()
        | some f => .error f, { l with front := made.1 }.keep made.2.1) := by
  obtain ⟨front, events, fault⟩ := made
  cases fault <;> rfl

theorem on_dispatch (n : Notice) (l : Lookout) :
    (dispatch n).on l =
      (match (l.front.take l.sight n).2.2 with
        | none => .ok ()
        | some f => .error f,
        { l with front := (l.front.take l.sight n).1 }.keep (l.front.take l.sight n).2.1) := by
  rw [dispatch, on_get_bind, on_deliver]

theorem forM_dispatch_cons (n : Notice) (rest : List Notice) :
    (n :: rest).forM dispatch = (dispatch n >>= fun _ => rest.forM dispatch) := rfl

/-- A notice that comes too early waits. -/
theorem on_dispatch_of_not_ready (hready : l.front.ready = false) (n : Notice) :
    (dispatch n).on l =
      (.ok (), { l with front := { l.front with backlog := l.front.backlog ++ [n] } }) := by
  rw [on_dispatch, FrontEnd.take, if_pos (by simp [hready])]
  simp [keep]

theorem Serves.refl (l : Lookout) : Serves l [] l := by
  refine ⟨(FrontEnd.Adds.refl l.now l.front).congr fun q => ?_, ?_, rfl, rfl, rfl, rfl⟩
  · exact iff_of_false id not_names_nil
  · simp [eventsOf]

/-- A notice is served at once by a front end that is ready. -/
theorem serves_dispatch (hready : l.front.ready = true) (n : Notice) :
    Serves l [n] ((dispatch n).on l).2 ∧
      (((dispatch n).on l).1 = .ok () ↔ ∀ i ∈ l.front.items n, l.resolves i = true) := by
  obtain ⟨hfault, hevents, hfront⟩ := take_spec hready n
  rw [on_dispatch]
  refine ⟨⟨hfront, ?_, rfl, rfl, rfl, rfl⟩, ?_⟩
  · show l.delivered ++ (l.front.take l.sight n).2.1.map .event = _
    rw [hevents, List.flatMap_singleton]
  · rw [← hfault]
    dsimp only
    cases (l.front.take l.sight n).2.2 <;> simp

section
variable (h : Serves l [n] l')
include h

/-- What comes after a notice that could be resolved is served as on its own. -/
theorem Serves.cons (hresolves : ∀ i ∈ l.front.items n, l.resolves i = true)
    (h' : Serves l' more l'') : Serves l (n :: more) l'' := by
  refine ⟨?_, ?_, h'.disk.trans h.disk, h'.accepts.trans h.accepts, h'.known.trans h.known,
    h'.now.trans h.now⟩
  · have hadds := h'.front
    rw [h.now] at hadds
    refine (h.front.trans hadds).congr fun q => ?_
    unfold Names
    rw [items_congr h.front.roots, resolves_congr h.disk, file?_congr h.disk h.accepts]
    -- The notice that counts is the first one, or it comes later and the first one was resolved.
    constructor
    · rintro (⟨before, n', after, hsplit, hraw, hall, hfile⟩ | ⟨before, n', after, rfl, hraw, hall,
        hfile⟩)
      · exact ⟨before, n', after ++ more, by
          rw [← List.singleton_append, hsplit, List.append_assoc, List.cons_append], hraw, hall,
          hfile⟩
      · refine ⟨n :: before, n', after, rfl, hraw, ?_, hfile⟩
        rw [List.cons_append, List.flatMap_cons]
        intro i hi
        rcases List.mem_append.1 hi with hi | hi
        · exact hresolves i hi
        · exact hall i hi
    · rintro ⟨before, n', after, hsplit, hraw, hall, hfile⟩
      cases before with
      | nil =>
        obtain ⟨rfl, -⟩ := List.cons.inj hsplit
        exact .inl ⟨[], n, [], rfl, hraw, hall, hfile⟩
      | cons n'' before =>
        obtain ⟨rfl, rfl⟩ := List.cons.inj hsplit
        rw [List.cons_append, List.flatMap_cons] at hall
        exact .inr ⟨before, n', after, rfl, hraw,
          fun i hi => hall i (List.mem_append_right _ hi), hfile⟩
  · rw [h'.delivered, h.delivered, eventsOf_congr h.disk h.accepts, items_congr h.front.roots,
      List.flatMap_singleton, List.flatMap_cons, eventsOf, eventsOf, eventsOf,
      List.takeWhile_append_of_pos hresolves, List.takeWhile_eq_self_iff.2 hresolves,
      List.filterMap_append, List.map_append, List.append_assoc]

/-- What comes after a notice that could not be resolved is lost. -/
theorem Serves.lose (hresolves : ¬∀ i ∈ l.front.items n, l.resolves i = true)
    (more : List Notice) : Serves l (n :: more) l' := by
  refine ⟨h.front.congr fun q => ?_, ?_, h.disk, h.accepts, h.known, h.now⟩
  · constructor
    · exact fun hnames => absurd (names_singleton.1 hnames).2.1 hresolves
    · rintro ⟨before, n', after, hsplit, -, hall, -⟩
      -- Whichever notice counts, the first one lies up to it, and that one was not resolved.
      refine absurd (fun i hi => hall i ?_) hresolves
      obtain ⟨rest, hrest⟩ : ∃ rest, before ++ [n'] = n :: rest := by
        cases before with
        | nil =>
          obtain ⟨rfl, -⟩ := List.cons.inj hsplit
          exact ⟨[], rfl⟩
        | cons n'' before =>
          obtain ⟨rfl, -⟩ := List.cons.inj hsplit
          exact ⟨_, rfl⟩
      rw [hrest, List.flatMap_cons]
      exact List.mem_append_left _ hi
  · rw [h.delivered, List.flatMap_singleton, List.flatMap_cons, eventsOf, eventsOf,
      List.takeWhile_append, if_neg]
    intro hlength
    refine hresolves (List.takeWhile_eq_self_iff.1 ?_)
    exact (List.takeWhile_sublist _).eq_of_length hlength

end

/-- **Notices in a row are served in order**, up to one that cannot be resolved. -/
theorem serves_forM (hready : l.front.ready = true) (notices : List Notice) :
    Serves l notices ((notices.forM dispatch).on l).2 := by
  induction notices generalizing l with
  | nil => exact .refl l
  | cons n rest ih =>
    -- What a notice makes of a front end that is ready is ready, so the next one is served as well.
    obtain ⟨hserves, hok⟩ := serves_dispatch hready n
    rw [forM_dispatch_cons, on_bind]
    rcases hdispatch : (dispatch n).on l with ⟨f | ⟨⟩, l₁⟩
    · rw [hdispatch] at hserves hok
      exact hserves.lose (fun hall => by simpa using hok.2 hall) rest
    · rw [hdispatch] at hserves hok
      exact hserves.cons (hok.1 rfl) (ih (hserves.front.ready.trans hready))

end Lookout

end ProbeKit
