import ProbeKit.Proofs.Results
import ProbeKit.Proofs.Watch.Project
import ProbeKit.Watch.FrontEnd

/-!
# What a front end makes of notices

A notice about proper paths is either handed on as one event for each path of interest
(`FrontEnd.take_of_about`), or each of these paths has a timer afterwards
(`FrontEnd.take_raw_of_about`).  A timer that fires is set again, or it ends in the one event that is
true of its file (`FrontEnd.fire_spec`); all other timers stay.
-/

namespace ProbeKit

namespace FrontEnd

/-! ### Sight -/

/-- What is seen of proper paths: each stands for itself, and it can be told of most whether they
are of interest. -/
structure Sees (s : Sight) (seen : Path → Option Bool) : Prop where
  /-- A proper path stands for itself. -/
  resolve : ∀ p : Path, p.Proper → s.disk.resolve p = .ok p
  /-- Whether a path is of interest. -/
  accepts : ∀ p : Path, p.Proper → ∀ answer, seen p = some answer → s.accepts p = .ok answer
  /-- A proper path can be looked at. -/
  look : ∀ p : Path, p.Proper → ∃ node, s.disk.look p = .ok node
  /-- It can be told whether a proper path is known. -/
  tracks : ∀ p : Path, p.Proper → ∃ known, s.tracks p = .ok known

variable {s : Sight} {seen : Path → Option Bool} {f : FrontEnd} {n : Notice} {paths : List Path}

theorem events_of_proper (h : Sees s seen) (kind : EventKind) (hpaths : ∀ p ∈ paths, p.Proper)
    (htold : ∀ p ∈ paths, seen p ≠ none) :
    events s kind (paths.map Path.text) =
      ((paths.filter fun p => seen p == some true).map fun p => ⟨kind, p⟩, none) := by
  induction paths with
  | nil => rfl
  | cons p rest ih =>
    have hp := hpaths p List.mem_cons_self
    obtain ⟨answer, hanswer⟩ := Option.ne_none_iff_exists'.1 (htold p List.mem_cons_self)
    rw [List.map_cons, events, Path.ofString_text hp.clean, h.resolve p hp]
    dsimp only [Except.mapError]
    rw [h.accepts p hp answer hanswer, ih (fun q hq => hpaths q (List.mem_cons_of_mem _ hq))
      fun q hq => htold q (List.mem_cons_of_mem _ hq), List.filter_cons, hanswer]
    cases answer <;> rfl

theorem options_text (f : FrontEnd) {p : Path} (hp : p.Proper) : f.options p.text = [p] := by
  have habs : p.isAbsolute = true := by
    rw [Path.isAbsolute, hp.anchor]
    rfl
  rw [options, Path.ofString_text hp.clean]
  exact if_pos habs

/-- Paths that can all be resolved give the files of interest among those that they lead to. -/
theorem exists_gather_of_resolve {seen : Path → Bool}
    (hpaths : ∀ p ∈ paths, ∃ q, s.disk.resolve p = .ok q ∧ s.accepts q = .ok (seen q))
    (found : List Path) :
    ∃ all, gather s found paths = .ok all ∧
      ∀ q, q ∈ all ↔ q ∈ found ∨ ∃ p ∈ paths, s.disk.resolve p = .ok q ∧ seen q = true := by
  induction paths generalizing found with
  | nil => exact ⟨found, rfl, fun q => by simp⟩
  | cons p rest ih =>
    obtain ⟨⟨q, hq, haccepts⟩, hrest⟩ := List.forall_mem_cons.1 hpaths
    have hgather : gather s found (p :: rest) =
        if found.contains q then gather s found rest
        else if seen q then gather s (found ++ [q]) rest
        else gather s found rest := by
      rw [gather, hq]
      show (if found.contains q then _ else _) = _
      rw [haccepts]
      rfl
    rw [hgather]
    simp only [List.mem_cons, or_and_right, exists_or, exists_eq_left, hq, Except.ok.injEq]
    split
    · -- A file is kept where it is found first; to find it again changes nothing.
      rename_i hknown
      obtain ⟨all, hall, hmem⟩ := ih hrest found
      refine ⟨all, hall, fun q' => ?_⟩
      rw [hmem]
      have hself : q ∈ found := by simpa using hknown
      grind
    · split
      · obtain ⟨all, hall, hmem⟩ := ih hrest (found ++ [q])
        refine ⟨all, hall, fun q' => ?_⟩
        rw [hmem, List.mem_append, List.mem_singleton]
        grind
      · obtain ⟨all, hall, hmem⟩ := ih hrest found
        refine ⟨all, hall, fun q' => ?_⟩
        rw [hmem]
        grind

/-- Only paths that can all be resolved give anything. -/
theorem exists_resolve_of_gather {found all : List Path} (h : gather s found paths = .ok all) :
    ∀ p ∈ paths, ∃ q, s.disk.resolve p = .ok q := by
  induction paths generalizing found with
  | nil => exact fun p hp => absurd hp List.not_mem_nil
  | cons p rest ih =>
    rw [gather] at h
    obtain ⟨q, hq, h⟩ := bind_eq_ok.1 h
    refine List.forall_mem_cons.2 ⟨⟨q, mapError_eq_ok.1 hq⟩, ?_⟩
    split at h
    · exact ih h
    · obtain ⟨accepted, -, h⟩ := bind_eq_ok.1 h
      split at h
      · exact ih h
      · exact ih h

theorem exists_gather (h : Sees s seen) (found : List Path) (hpaths : ∀ p ∈ paths, p.Proper)
    (htold : ∀ p ∈ paths, seen p ≠ none) :
    ∃ all, gather s found paths = .ok all ∧
      ∀ p, p ∈ all ↔ p ∈ found ∨ p ∈ paths ∧ (seen p == some true) = true := by
  have hself : ∀ p ∈ paths, ∃ q, s.disk.resolve p = .ok q ∧
      s.accepts q = .ok (seen q == some true) := by
    intro p hp
    obtain ⟨answer, hanswer⟩ := Option.ne_none_iff_exists'.1 (htold p hp)
    refine ⟨p, h.resolve p (hpaths p hp), ?_⟩
    rw [h.accepts p (hpaths p hp) answer hanswer, hanswer]
    cases answer <;> rfl
  obtain ⟨all, hall, hmem⟩ := exists_gather_of_resolve hself found
  refine ⟨all, hall, fun q => (hmem q).trans (or_congr_right ?_)⟩
  constructor
  · rintro ⟨p, hp, hresolve, hseen⟩
    obtain rfl : p = q := Except.ok.inj ((h.resolve p (hpaths p hp)).symm.trans hresolve)
    exact ⟨hp, hseen⟩
  · exact fun ⟨hq, hseen⟩ => ⟨q, hq, h.resolve q (hpaths q hq), hseen⟩

/-! ### Timers -/

/-- A file is to be looked at. -/
def HasTimer (f : FrontEnd) (p : Path) : Prop := ∃ t ∈ f.timers, t.path = p

/-- The timers of a front end are told apart by their numbers. -/
structure InOrder (f : FrontEnd) : Prop where
  /-- The numbers go up. -/
  increasing : f.timers.Pairwise fun t u => t.number < u.number
  /-- The next number is a new one. -/
  below : ∀ t ∈ f.timers, t.number < f.nextNumber

theorem InOrder.eq_of_number (h : f.InOrder) {t u : Timer} (ht : t ∈ f.timers)
    (hu : u ∈ f.timers) (hnumber : t.number = u.number) : t = u := by
  have hall := List.Pairwise.forall_of_forall_of_flip (R := fun t u => t.number = u.number → t = u)
    (fun _ _ _ => rfl) (h.increasing.imp fun hlt heq => absurd heq (Nat.ne_of_lt hlt))
    (h.increasing.imp fun hlt heq => absurd heq (Nat.ne_of_gt hlt))
  exact hall ht hu hnumber

theorem InOrder.setTimer (h : f.InOrder) (s : Sight) (p : Path) (attempt : Nat) :
    (f.setTimer s p attempt).InOrder := by
  refine ⟨?_, fun t ht => ?_⟩
  · refine List.pairwise_append.2 ⟨h.increasing, List.pairwise_singleton _ _, fun t ht u hu => ?_⟩
    obtain rfl := List.mem_singleton.1 hu
    exact h.below t ht
  · show t.number < f.nextNumber + 1
    rcases List.mem_append.1 ht with ht | ht
    · have := h.below t ht
      omega
    · obtain rfl := List.mem_singleton.1 ht
      exact Nat.lt_succ_self f.nextNumber

@[simp] theorem hasTimer_setTimer (f : FrontEnd) (s : Sight) (p : Path) (attempt : Nat) (q : Path) :
    (f.setTimer s p attempt).HasTimer q ↔ f.HasTimer q ∨ q = p := by
  simp [HasTimer, FrontEnd.setTimer, or_and_right, exists_or, eq_comm]

/-- What stays the same when only timers change. -/
structure SameBut (f f' : FrontEnd) : Prop where
  /-- The roots stay. -/
  roots : f'.roots = f.roots
  /-- Events are delivered as before. -/
  ready : f'.ready = f.ready
  /-- Timers are told apart as before. -/
  inOrder : f.InOrder → f'.InOrder

theorem SameBut.refl (f : FrontEnd) : SameBut f f := ⟨rfl, rfl, fun h => h⟩

theorem SameBut.trans {f g k : FrontEnd} (h : SameBut f g) (h' : SameBut g k) : SameBut f k :=
  ⟨h'.roots.trans h.roots, h'.ready.trans h.ready, fun hf => h'.inOrder (h.inOrder hf)⟩

theorem sameBut_setTimer (f : FrontEnd) (s : Sight) (p : Path) (attempt : Nat) :
    SameBut f (f.setTimer s p attempt) := ⟨rfl, rfl, fun h => h.setTimer s p attempt⟩

theorem setTimers_spec (f : FrontEnd) (s : Sight) (paths : List Path) :
    SameBut f (f.setTimers s paths) ∧
      ∀ q, (f.setTimers s paths).HasTimer q ↔ f.HasTimer q ∨ q ∈ paths := by
  induction paths generalizing f with
  | nil => exact ⟨.refl f, fun q => by simp [setTimers]⟩
  | cons p rest ih =>
    have hstep : f.setTimers s (p :: rest) =
        (if f.timers.any (·.path == p) then f else f.setTimer s p 0).setTimers s rest := rfl
    rw [hstep]
    split
    · rename_i hany
      obtain ⟨hsame, htimers⟩ := ih f
      refine ⟨hsame, fun q => ?_⟩
      have hp : f.HasTimer p := by simpa [HasTimer] using hany
      rw [htimers, List.mem_cons]
      grind
    · obtain ⟨hsame, htimers⟩ := ih (f.setTimer s p 0)
      refine ⟨(sameBut_setTimer f s p 0).trans hsame, fun q => ?_⟩
      rw [htimers, hasTimer_setTimer, List.mem_cons, or_assoc]

/-! ### Notices -/

/-- A notice that is no raw one is handed on. -/
theorem take_of_about (h : Sees s seen) (hn : n.About paths) (htold : ∀ p ∈ paths, seen p ≠ none)
    (hready : f.ready = true) (hkind : n.kind ≠ .raw) :
    f.take s n =
      (f, (paths.filter fun p => seen p == some true).map fun p => ⟨n.kind, p⟩, none) := by
  rw [take, hready, if_neg (by simp), if_neg hkind, hn.names,
    events_of_proper h n.kind hn.proper htold]

/-- A raw notice sets timers. -/
theorem take_raw_of_about (h : Sees s seen) (hn : n.About paths)
    (htold : ∀ p ∈ paths, seen p ≠ none) (hready : f.ready = true) (hkind : n.kind = .raw) :
    ∃ f', f.take s n = (f', [], none) ∧ SameBut f f' ∧
      ∀ q, f'.HasTimer q ↔ f.HasTimer q ∨ q ∈ paths ∧ (seen q == some true) = true := by
  have hoptions : (paths.map Path.text).flatMap f.options = paths := by
    have hproper := hn.proper
    clear hn htold
    induction paths with
    | nil => rfl
    | cons p rest ih =>
      rw [List.map_cons, List.flatMap_cons, options_text f (hproper p List.mem_cons_self),
        ih fun q hq => hproper q (List.mem_cons_of_mem _ hq)]
      rfl
  obtain ⟨all, hall, hmem⟩ := exists_gather h [] hn.proper htold
  obtain ⟨hsame, htimers⟩ := setTimers_spec f s all
  refine ⟨f.setTimers s all, ?_, hsame, fun q => ?_⟩
  · rw [take, hready, if_neg (by simp), if_pos hkind, candidates, hn.names, hoptions, hall]
  · rw [htimers, hmem]
    simp

/-! ### Looking -/

theorem sameBut_dropTimer (f : FrontEnd) (number : Nat) :
    SameBut f { f with timers := f.timers.filter (·.number != number) } :=
  ⟨rfl, rfl, fun h => ⟨h.increasing.filter _, fun t ht => h.below t (List.mem_filter.1 ht).1⟩⟩

/-- Without one timer the other files still have theirs. -/
theorem hasTimer_dropTimer (h : f.InOrder) {t : Timer} (ht : t ∈ f.timers) {q : Path}
    (hq : q ≠ t.path) (hf : f.HasTimer q) :
    HasTimer { f with timers := f.timers.filter (·.number != t.number) } q := by
  obtain ⟨u, hu, rfl⟩ := hf
  refine ⟨u, List.mem_filter.2 ⟨hu, ?_⟩, rfl⟩
  have hne : u ≠ t := fun h => hq (by rw [h])
  have hnumber : u.number ≠ t.number := fun h' => hne (h.eq_of_number hu ht h')
  simpa using hnumber

/-- What comes of a timer that fires. -/
structure Fired (s : Sight) (f f' : FrontEnd) (events : List Event) : Prop where
  /-- Only timers change. -/
  same : SameBut f f'
  /-- No file gets a timer. -/
  fewer : ∀ q, f'.HasTimer q → f.HasTimer q
  /-- A file that has lost its timer is what an event is about. -/
  event : ∀ q, f.HasTimer q → f'.HasTimer q ∨ ∃ e ∈ events, e.path = q
  /-- Events are about files that had a timer, and they are true. -/
  about : ∀ e ∈ events, f.HasTimer e.path ∧ ∃ node, s.disk.look e.path = .ok node ∧
    if node.any Node.isFile then e.kind = .add ∨ e.kind = .change else e.kind = .unlink

theorem look_spec (h : Sees s seen) (hf : f.InOrder) {t : Timer} (ht : t ∈ f.timers)
    (hproper : t.path.Proper) : Fired s f (f.look s t).1 (f.look s t).2.1 := by
  obtain ⟨node, hnode⟩ := h.look t.path hproper
  obtain ⟨known, hknown⟩ := h.tracks t.path hproper
  have hdrop := sameBut_dropTimer f t.number
  have hfewer : ∀ q, HasTimer { f with timers := f.timers.filter (·.number != t.number) } q →
      f.HasTimer q := fun q ⟨u, hu, hq⟩ => ⟨u, (List.mem_filter.1 hu).1, hq⟩
  have hself : f.HasTimer t.path := ⟨t, ht, rfl⟩
  unfold look
  rw [hnode, hknown]
  dsimp only [Except.mapError]
  -- The look has no verdict yet, and a timer is set again; or it has one, and there is one event of
  -- it.
  cases hlook : EventKind.ofLook (node.any Node.isFile) known (f.maxRetries - t.attempt : Int) with
  | none =>
    refine ⟨hdrop.trans (sameBut_setTimer _ s t.path _), fun q hq => ?_, fun q hq => .inl ?_,
      fun e he => absurd he (List.not_mem_nil)⟩
    · rcases (hasTimer_setTimer _ s t.path _ q).1 hq with hq | rfl
      · exact hfewer q hq
      · exact hself
    · rw [hasTimer_setTimer]
      by_cases hq' : q = t.path
      · exact .inr hq'
      · exact .inl (hasTimer_dropTimer hf ht hq' hq)
  | some kind =>
    refine ⟨hdrop, hfewer, fun q hq => ?_, fun e he => ?_⟩
    · by_cases hq' : q = t.path
      · exact .inr ⟨_, List.mem_cons_self, hq'.symm⟩
      · exact .inl (hasTimer_dropTimer hf ht hq' hq)
    · obtain rfl := List.mem_singleton.1 he
      refine ⟨hself, node, hnode, ?_⟩
      unfold EventKind.ofLook at hlook
      split at hlook
      · rename_i hfile
        rw [if_pos hfile]
        cases known <;> simp_all
      · rename_i hfile
        rw [if_neg hfile]
        split at hlook
        · cases hlook
        · exact (Option.some.inj hlook).symm

/-- **A timer that fires is set again or ends in the one event that is true of its file.** -/
theorem fire_spec (h : Sees s seen) (hf : f.InOrder) (hproper : ∀ t ∈ f.timers, t.path.Proper)
    (number : Nat) : Fired s f (f.fire s number).1 (f.fire s number).2.1 := by
  unfold fire
  cases hfind : f.timers.find? (·.number == number) with
  | none =>
    exact ⟨.refl f, fun _ hq => hq, fun _ hq => .inl hq,
      fun e he => absurd he (List.not_mem_nil)⟩
  | some t =>
    have ht := List.mem_of_find?_eq_some hfind
    exact look_spec h hf ht (hproper t ht)

end FrontEnd

end ProbeKit
