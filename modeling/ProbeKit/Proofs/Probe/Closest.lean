import ProbeKit.Proofs.Probe.Extraction

/-!
# The loop of a counted call

A counted call gives its probes for the loop whose header is the closest before it among those that
the pass over the loops finds (`groups_of_counted`).  That pass takes everything up to the closing
parenthesis for the step of a header, so a header whose step is never finished hides the one that
stands in its step: a call may then follow an earlier loop, or none at all, although a header of its
own is right before it (`exists_hidden_header`).  Nothing else hides a header.

A text is not read at all if a header that the pass finds counts its variable up and has a numeral
of too many digits (`exists_error_iff`).
-/

namespace ProbeKit.Declaration

open Text

/-! ### Characters that open no parenthesis -/

/-- Whether `rest` is what a recogniser leaves that takes no opening parenthesis. -/
def Past (cs rest : List Char) : Prop := ∃ taken, cs = taken ++ rest ∧ '(' ∉ taken

theorem Past.trans {a b c : List Char} (hab : Past a b) (hbc : Past b c) : Past a c := by
  obtain ⟨taken, rfl, hnot⟩ := hab
  obtain ⟨taken', rfl, hnot'⟩ := hbc
  refine ⟨taken ++ taken', (List.append_assoc _ _ _).symm, ?_⟩
  rw [List.mem_append, not_or]
  exact ⟨hnot, hnot'⟩

/-- A run of characters of a kind that leaves out the opening parenthesis. -/
theorem past_dropWhile {p : Char → Bool} (hp : p '(' = false) (cs : List Char) :
    Past cs (cs.dropWhile p) := by
  refine ⟨cs.takeWhile p, List.takeWhile_append_dropWhile.symm, ?_⟩
  intro hmem
  have hopen := List.all_eq_true.1 List.all_takeWhile _ hmem
  rw [hp] at hopen
  cases hopen

theorem past_skipBlanks (cs : List Char) : Past cs (skipBlanks cs) :=
  past_dropWhile (by decide) cs

theorem eq_cons_of_afterChar? {c : Char} {cs rest : List Char} (h : afterChar? c cs = some rest) :
    cs = c :: rest := by
  cases cs with
  | nil => cases h
  | cons d cs =>
    rw [afterChar?, Option.ite_none_right_eq_some, beq_iff_eq] at h
    obtain ⟨rfl, hrest⟩ := h
    rw [Option.some.inj hrest]

theorem eq_append_of_after? {start cs rest : List Char} (h : after? start cs = some rest) :
    cs = start ++ rest := by
  rw [after?, Option.ite_none_right_eq_some, List.isPrefixOf_iff_prefix] at h
  obtain ⟨⟨tail, rfl⟩, hrest⟩ := h
  rw [List.drop_left] at hrest
  rw [Option.some.inj hrest]

/-- A sign behind blanks. -/
theorem past_afterChar? {c : Char} (hc : c ≠ '(') {cs rest : List Char}
    (h : afterChar? c (skipBlanks cs) = some rest) : Past cs rest := by
  apply (past_skipBlanks cs).trans
  rw [eq_cons_of_afterChar? h]
  refine ⟨[c], rfl, ?_⟩
  rw [List.mem_singleton]
  exact fun heq => hc heq.symm

theorem past_number? {cs rest : List Char} {n : Numeral}
    (h : number? (skipBlanks cs) = some (n, rest)) : Past cs rest := by
  obtain ⟨n', -, heq⟩ := Option.map_eq_some_iff.1 h
  obtain ⟨-, rfl⟩ := Prod.mk.inj heq
  exact (past_skipBlanks cs).trans (past_dropWhile (by decide) _)

theorem eq_append_of_identifier? {cs name rest : List Char}
    (h : identifier? cs = some (name, rest)) : cs = name ++ rest ∧ '(' ∉ name := by
  cases cs with
  | nil => cases h
  | cons c cs =>
    rw [identifier?, Option.ite_none_right_eq_some] at h
    obtain ⟨hstarts, heq⟩ := h
    obtain ⟨rfl, rfl⟩ := Prod.mk.inj (Option.some.inj heq)
    refine ⟨by rw [List.cons_append, List.takeWhile_append_dropWhile], ?_⟩
    rw [List.mem_cons, not_or]
    constructor
    · rintro rfl
      exact absurd hstarts (by decide)
    · intro hmem
      have hopen := List.all_eq_true.1 List.all_takeWhile _ hmem
      exact absurd hopen (by decide)

theorem past_identifier? {cs name rest : List Char}
    (h : identifier? (skipBlanks cs) = some (name, rest)) : Past cs rest ∧ '(' ∉ name := by
  obtain ⟨heq, hname⟩ := eq_append_of_identifier? h
  exact ⟨(past_skipBlanks cs).trans ⟨name, heq, hname⟩, hname⟩

theorem past_loopVariable? {cs name rest : List Char}
    (h : loopVariable? (skipBlanks cs) = some (name, rest)) : Past cs rest ∧ '(' ∉ name := by
  obtain ⟨⟨word, rest'⟩, hword, h⟩ := Option.bind_eq_some_iff.1 h
  obtain ⟨hpast, hnot⟩ := past_identifier? hword
  have hself : some (word, rest') = some (name, rest) → Past cs rest ∧ '(' ∉ name := by
    intro heq
    obtain ⟨rfl, rfl⟩ := Prod.mk.inj (Option.some.inj heq)
    exact ⟨hpast, hnot⟩
  dsimp only at h
  split at h
  · split at h
    · split at h
      · rcases Option.or_eq_some_iff.1 h with hnext | ⟨-, heq⟩
        · obtain ⟨hpast', hnot'⟩ := past_identifier? hnext
          exact ⟨hpast.trans hpast', hnot'⟩
        · exact hself heq
      · exact hself h
    · exact hself h
  · exact hself h

/-! ### The text of a header -/

/-- **The text of a header**: behind its opening parenthesis no other one comes before the step,
and the step is followed by the first closing parenthesis. -/
theorem eq_of_loop? {cs rest : List Char} {loop : Loop} (h : loop? cs = some (loop, rest)) :
    ∃ blanks body, cs = "for".toList ++ blanks ++ '(' :: (body ++ loop.step ++ ')' :: rest) ∧
      (∀ c ∈ blanks, isBlank c = true) ∧ '(' ∉ body := by
  unfold loop? at h
  simp only [Option.bind_eq_bind, Option.bind_eq_some_iff, Prod.exists] at h
  obtain ⟨r₁, hfor, r₂, hopen, counter, r₃, hvariable, r₄, hequals, first, r₅, hfirst, r₆, hsemi,
    r₇, hagain, r₈, hless, bound, r₉, hbound, r₁₀, hsemi', r₁₁, hclose, heq⟩ := h
  obtain ⟨rfl, rfl⟩ := Prod.mk.inj (Option.some.inj heq)
  obtain ⟨hpast, hcounter⟩ := past_loopVariable? hvariable
  have hname : Past (skipBlanks r₆) r₇ := ⟨counter, eq_append_of_after? hagain, hcounter⟩
  have hbody : Past r₂ (skipBlanks r₁₀) :=
    hpast.trans <| (past_afterChar? (by decide) hequals).trans <| (past_number? hfirst).trans <|
      (past_afterChar? (by decide) hsemi).trans <| (past_skipBlanks r₆).trans <| hname.trans <|
      (past_afterChar? (by decide) hless).trans <| (past_number? hbound).trans <|
      (past_afterChar? (by decide) hsemi').trans <| past_skipBlanks r₁₀
  obtain ⟨body, hbody, hnot⟩ := hbody
  refine ⟨r₁.takeWhile isBlank, body, ?_, List.all_eq_true.1 List.all_takeWhile, hnot⟩
  have hstep : skipBlanks r₁₀ = (skipBlanks r₁₀).takeWhile (· != ')') ++ ')' :: r₁₁ := by
    rw [← eq_cons_of_afterChar? hclose]
    exact List.prefix_iff_eq_append.1 (List.takeWhile_prefix _) |>.symm
  calc cs = "for".toList ++ r₁ := eq_append_of_after? hfor
    _ = "for".toList ++ (r₁.takeWhile isBlank ++ skipBlanks r₁) := by
      rw [skipBlanks, List.takeWhile_append_dropWhile]
    _ = "for".toList ++ (r₁.takeWhile isBlank ++ '(' :: (body ++ skipBlanks r₁₀)) := by
      rw [eq_cons_of_afterChar? hopen, hbody]
    _ = _ := by rw [List.append_assoc, List.append_assoc, ← hstep]

/-- A header opens its parenthesis before anything that is neither blank nor in `for`. -/
theorem mem_of_loop?_append {before behind rest : List Char} {loop : Loop}
    (h : loop? (before ++ ')' :: behind) = some (loop, rest)) : '(' ∈ before := by
  obtain ⟨blanks, body, htext, hblanks, -⟩ := eq_of_loop? h
  have hclose : ')' ∉ "for".toList ++ blanks := by
    rw [List.mem_append, not_or]
    exact ⟨by decide, fun hmem => absurd (hblanks _ hmem) (by decide)⟩
  rcases List.append_eq_append_iff.1 htext with ⟨middle, hfor, hbehind⟩ | ⟨middle, hbefore, hopen⟩
  · cases middle with
    | nil => cases hbehind
    | cons c middle =>
      obtain ⟨rfl, -⟩ := List.cons.inj hbehind
      exact absurd (hfor ▸ List.mem_append_right before List.mem_cons_self) hclose
  · cases middle with
    | nil => cases hopen
    | cons c middle =>
      obtain ⟨rfl, -⟩ := List.cons.inj hopen
      exact hbefore ▸ List.mem_append_right _ List.mem_cons_self

theorem head?_of_loop? {cs rest : List Char} {loop : Loop} (h : loop? cs = some (loop, rest)) :
    cs.head? = some 'f' := by
  obtain ⟨blanks, body, rfl, -⟩ := eq_of_loop? h
  rfl

/-- A header that begins behind the first character of another and before its end opens its
parenthesis in the step of the other. -/
theorem mem_step_of_loop?_drop {cs rest rest' : List Char} {outer inner : Loop} {k : Nat}
    (houter : loop? cs = some (outer, rest)) (hinner : loop? (cs.drop (k + 1)) = some (inner, rest'))
    (hk : k + 1 + rest.length < cs.length) : '(' ∈ outer.step := by
  obtain ⟨blanks, body, hcs, hblanks, hbody⟩ := eq_of_loop? houter
  let opening := "or".toList ++ blanks
  let inside := body ++ outer.step
  have hfor : 'f' ∉ opening := by
    rw [List.mem_append, not_or]
    exact ⟨by decide, fun hmem => absurd (hblanks _ hmem) (by decide)⟩
  have hdrop : cs.drop (k + 1) = (opening ++ '(' :: (inside ++ ')' :: rest)).drop k := by
    rw [hcs]
    rfl
  have hlength : cs.length = opening.length + inside.length + rest.length + 3 := by
    have hcons : cs = 'f' :: (opening ++ '(' :: (inside ++ ')' :: rest)) := hcs
    rw [hcons]
    simp only [List.length_cons, List.length_append]
    omega
  rw [hdrop] at hinner
  rcases Nat.lt_or_ge opening.length k with hlt | hge
  · obtain ⟨j, rfl⟩ : ∃ j, k = opening.length + (j + 1) := ⟨k - opening.length - 1, by omega⟩
    rw [← List.drop_drop, List.drop_left, List.drop_succ_cons,
      List.drop_append_of_le_length (by omega)] at hinner
    have hmem := List.mem_of_mem_drop (mem_of_loop?_append hinner)
    exact (List.mem_append.1 hmem).resolve_left hbody
  · -- Before the parenthesis of the outer header there is no `f` but its first.
    rw [List.drop_append_of_le_length hge] at hinner
    have hhead := head?_of_loop? hinner
    cases hleft : opening.drop k with
    | nil =>
      rw [hleft] at hhead
      cases hhead
    | cons c left =>
      rw [hleft, List.cons_append, List.head?_cons] at hhead
      obtain rfl := Option.some.inj hhead
      exact absurd (List.mem_of_mem_drop (hleft ▸ List.mem_cons_self)) hfor

/-- **A header is hidden only by one that was found before it and whose step holds an opening
parenthesis.** -/
theorem exists_step_of_hidden {text rest : List Char} {q : Nat} {loop : Loop}
    (hloop : loop? (text.drop q) = some (loop, rest)) (h : Hidden loop? text q) :
    ∃ x ∈ occurrences loop? text, x.1 < q ∧ '(' ∈ x.2.step := by
  obtain ⟨p, outer, rest', hmem, houter, hlt, hinside⟩ := h
  refine ⟨(p, outer), hmem, hlt, ?_⟩
  have hdrop : text.drop q = (text.drop p).drop (q - p - 1 + 1) := by
    rw [List.drop_drop]
    congr 1
    omega
  rw [hdrop] at hloop
  apply mem_step_of_loop?_drop houter hloop
  rw [List.length_drop]
  omega

/-! ### The group of a counted call -/

/-- No place begins both kinds of call. -/
theorem plainCall?_of_countedCall? {cs rest : List Char} {call : CountedCall}
    (h : countedCall? cs = some (call, rest)) : plainCall? cs = none := by
  obtain ⟨start, hstart, h⟩ := Option.bind_eq_some_iff.1 h
  obtain ⟨⟨stem, behind⟩, hstem, h⟩ := Option.bind_eq_some_iff.1 h
  obtain ⟨rest', hplus, -⟩ := Option.bind_eq_some_iff.1 h
  have htypes : types? behind = none :=
    Rendering.types?_of_plus (eq_cons_of_afterChar? hplus)
  unfold plainCall?
  rw [hstart]
  show (quotedIdentifier? start).bind _ = none
  rw [hstem]
  show (types? behind).bind _ = none
  rw [htypes]
  rfl

/-- A map that keeps places may come before or after the choice of a place. -/
theorem filter_filterMap_of_fst {α β : Type} {f : Nat × α → Option (Nat × β)}
    (hf : ∀ x y, f x = some y → y.1 = x.1) (place : Nat) (l : List (Nat × α)) :
    ((l.filterMap f).filter fun y => y.1 == place) =
      (l.filter fun x => x.1 == place).filterMap f := by
  induction l with
  | nil => rfl
  | cons x l ih =>
    cases hx : f x with
    | none =>
      rw [List.filterMap_cons_none hx, ih, List.filter_cons]
      split
      · rw [List.filterMap_cons_none hx]
      · rfl
    | some y =>
      rw [List.filterMap_cons_some hx, List.filter_cons, List.filter_cons, hf x y hx, ih]
      split
      · rw [List.filterMap_cons_some hx]
      · rfl

/-- The calls at the place of a counted call give its probes and no others. -/
theorem filter_groups_eq {text : List Char} {place : Nat} {call : CountedCall}
    (h : (place, call) ∈ occurrences countedCall? text) :
    ((groups text).filter fun group => group.1 == place) =
      ((closestLoop? (occurrences loop? text) call.counter place).map fun loop =>
        (place, call.probes loop)).toList := by
  obtain ⟨-, ⟨rest, hrest⟩, -⟩ := mem_occurrences_iff.1 h
  -- A text that is read as a counted call is not read as a plain one.
  have hplain : ((plainGroups text).filter fun group => group.1 == place) = [] := by
    rw [List.filter_eq_nil_iff]
    intro group hgroup hplace
    obtain ⟨⟨p, probe⟩, hmem, rfl⟩ := List.mem_map.1 hgroup
    obtain ⟨-, ⟨rest', hfound⟩, -⟩ := mem_occurrences_iff.1 hmem
    obtain rfl : p = place := beq_iff_eq.1 hplace
    rw [plainCall?_of_countedCall? hrest] at hfound
    cases hfound
  have hcounted : ((countedGroups text).filter fun group => group.1 == place) =
      ((closestLoop? (occurrences loop? text) call.counter place).map fun loop =>
        (place, call.probes loop)).toList := by
    unfold countedGroups
    rw [filter_filterMap_of_fst, filter_fst_eq (pairwise_occurrences countedCall? text) h]
    · cases hclosest : closestLoop? (occurrences loop? text) call.counter place with
      | none => simp [hclosest]
      | some loop => simp [hclosest]
    · rintro ⟨p, other⟩ group hgroup
      obtain ⟨loop, -, rfl⟩ := Option.map_eq_some_iff.1 hgroup
      rfl
  -- At most one group is left at this place, so the sort cannot change their order.
  have hperm := (List.mergeSort_perm (plainGroups text ++ countedGroups text)
    fun a b => decide (a.1 ≤ b.1)).filter fun group => group.1 == place
  rw [List.filter_append, hplain, hcounted, List.nil_append] at hperm
  cases hclosest : closestLoop? (occurrences loop? text) call.counter place with
  | none =>
    rw [hclosest] at hperm
    exact List.perm_nil.1 hperm
  | some loop =>
    rw [hclosest] at hperm
    exact List.perm_singleton.1 hperm

/-! ### The closest header -/

/-- Whether the header of a loop that counts a variable up by one stands at a place. -/
structure HeaderAt (text : List Char) (counter : String) (q : Nat) (loop : Loop) : Prop where
  /-- A header is recognised there. -/
  recognised : ∃ rest, loop? (text.drop q) = some (loop, rest)
  /-- It is a header for the variable. -/
  counter : loop.counter = counter
  /-- Its step adds one. -/
  counts : loop.counts = true

/-- The pass over the loops finds the headers that are not hidden. -/
theorem HeaderAt.mem_occurrences {text : List Char} {counter : String} {q : Nat} {loop : Loop}
    (h : HeaderAt text counter q loop) (hseen : ¬ Hidden loop? text q) :
    (q, loop) ∈ occurrences loop? text := by
  refine mem_occurrences_iff.2 ⟨?_, h.recognised, hseen⟩
  obtain ⟨rest, hrest⟩ := h.recognised
  apply Nat.lt_of_not_ge
  intro hge
  have hhead := head?_of_loop? hrest
  rw [List.drop_eq_nil_iff.2 hge] at hhead
  cases hhead

theorem headerAt_of_mem {text : List Char} {q : Nat} {loop : Loop}
    (h : (q, loop) ∈ occurrences loop? text) (hcounts : loop.counts = true) :
    HeaderAt text loop.counter q loop ∧ ¬ Hidden loop? text q := by
  obtain ⟨-, hrecognised, hseen⟩ := mem_occurrences_iff.1 h
  exact ⟨⟨hrecognised, rfl, hcounts⟩, hseen⟩

/-- The closest loop is that of the closest header that is not hidden. -/
theorem closestLoop?_of_headerAt {text : List Char} {counter : String} {place q : Nat} {loop : Loop}
    (h : HeaderAt text counter q loop) (hq : q < place) (hseen : ¬ Hidden loop? text q)
    (hlast : ∀ q' loop', HeaderAt text counter q' loop' → q < q' → q' < place →
      Hidden loop? text q') :
    closestLoop? (occurrences loop? text) counter place = some loop := by
  obtain ⟨before, after, hsplit⟩ := List.append_of_mem (h.mem_occurrences hseen)
  have horder := pairwise_occurrences loop? text
  rw [hsplit, List.pairwise_append, List.pairwise_cons] at horder
  obtain ⟨-, ⟨hafter, -⟩, -⟩ := horder
  obtain rfl := h.counter
  rw [hsplit]
  apply closestLoop?_eq before h.counts hq
  rintro ⟨q', loop'⟩ hmem hcounter hcounts
  have hmem' : (q', loop') ∈ occurrences loop? text :=
    hsplit ▸ List.mem_append_right before (List.mem_cons_of_mem _ hmem)
  obtain ⟨hheader, hseen'⟩ := headerAt_of_mem hmem' hcounts
  rw [hcounter] at hheader
  exact Nat.le_of_not_lt fun hlt => hseen' (hlast q' loop' hheader (hafter _ hmem) hlt)

/-- There is no closest loop if every header before the place is hidden. -/
theorem closestLoop?_of_hidden {text : List Char} {counter : String} {place : Nat}
    (h : ∀ q loop, HeaderAt text counter q loop → q < place → Hidden loop? text q) :
    closestLoop? (occurrences loop? text) counter place = none := by
  apply closestLoop?_eq_none
  rintro ⟨q, loop⟩ hmem rfl hcounts
  obtain ⟨hheader, hseen⟩ := headerAt_of_mem hmem hcounts
  exact Nat.le_of_not_lt fun hlt => hseen (h q loop hheader hlt)

/-! ### Long numerals -/

/-- Some header that the pass over the loops finds counts its variable up by one and has a numeral
of more digits than are read. -/
def Overlong (text : List Char) : Prop :=
  ∃ q loop, HeaderAt text loop.counter q loop ∧ ¬ Hidden loop? text q ∧
    (digitLimit < loop.first.digits ∨ digitLimit < loop.bound.digits)

theorem Loop.overlong?_ne_none_iff {loop : Loop} :
    loop.overlong? ≠ none ↔ digitLimit < loop.first.digits ∨ digitLimit < loop.bound.digits := by
  unfold Loop.overlong? Numeral.overlong?
  by_cases hfirst : loop.first.digits ≤ digitLimit
  · by_cases hbound : loop.bound.digits ≤ digitLimit
    · simp [hfirst, hbound]
    · simp [hfirst, hbound, Nat.not_le.1 hbound]
  · simp [hfirst, Nat.not_le.1 hfirst]

theorem obstacle?_ne_none_iff {text : List Char} : obstacle? text ≠ none ↔ Overlong text := by
  unfold obstacle?
  rw [Option.ne_none_iff_isSome, List.findSome?_isSome_iff]
  constructor
  · rintro ⟨⟨q, loop⟩, hmem, hlong⟩
    cases hcounts : loop.counts with
    | false => simp [hcounts] at hlong
    | true =>
      rw [if_pos hcounts, ← Option.ne_none_iff_isSome] at hlong
      obtain ⟨hheader, hseen⟩ := headerAt_of_mem hmem hcounts
      exact ⟨q, loop, hheader, hseen, Loop.overlong?_ne_none_iff.1 hlong⟩
  · rintro ⟨q, loop, hheader, hseen, hlong⟩
    refine ⟨(q, loop), hheader.mem_occurrences hseen, ?_⟩
    rw [if_pos hheader.counts, ← Option.ne_none_iff_isSome]
    exact Loop.overlong?_ne_none_iff.2 hlong

/-- **A text is not read exactly if a counting loop has too long a numeral.** -/
theorem exists_error_iff {text : String} :
    (∃ e, declaredProbes text = .error e) ↔ Overlong text.toList := by
  rw [← obstacle?_ne_none_iff, declaredProbes]
  cases obstacle? text.toList with
  | none => simp
  | some e => simp

/-- What is read are the groups of the calls, one behind the other. -/
theorem declaredProbes_eq_ok {text : String} (h : ¬ Overlong text.toList) :
    declaredProbes text = .ok ((groups text.toList).flatMap (·.2)) := by
  rw [← obstacle?_ne_none_iff, not_not] at h
  rw [declaredProbes, h]

/-! ### What a counted call declares -/

/-- **The probes of a counted call are those of the closest header before it that is not hidden.**
Where every header for its variable is hidden, or there is none, the call declares nothing; and a
header is hidden only by one that was found before it and whose step holds an opening
parenthesis.  The groups of the calls are what is read of the text, unless a numeral is too long. -/
theorem groups_of_counted {text : List Char} {place : Nat} {call : CountedCall}
    (h : (place, call) ∈ occurrences countedCall? text) :
    ((∃ e, declaredProbes (String.ofList text) = .error e) ↔ Overlong text) ∧
    (¬ Overlong text →
      declaredProbes (String.ofList text) = .ok ((groups text).flatMap (·.2))) ∧
    (∀ q loop, HeaderAt text call.counter q loop → q < place → ¬ Hidden loop? text q →
      (∀ q' loop', HeaderAt text call.counter q' loop' → q < q' → q' < place →
        Hidden loop? text q') →
      ((groups text).filter fun group => group.1 == place) = [(place, call.probes loop)]) ∧
    ((∀ q loop, HeaderAt text call.counter q loop → q < place → Hidden loop? text q) →
      ((groups text).filter fun group => group.1 == place) = []) ∧
    ∀ q loop, HeaderAt text call.counter q loop → Hidden loop? text q →
      ∃ x ∈ occurrences loop? text, x.1 < q ∧ '(' ∈ x.2.step := by
  have htext : (String.ofList text).toList = text := String.toList_ofList
  refine ⟨by rw [exists_error_iff, htext], fun hshort => ?_, ?_, ?_, ?_⟩
  · rw [declaredProbes_eq_ok (by rwa [htext]), htext]
  · intro q loop hheader hq hseen hlast
    rw [filter_groups_eq h, closestLoop?_of_headerAt hheader hq hseen hlast]
    rfl
  · intro hhidden
    rw [filter_groups_eq h, closestLoop?_of_hidden hhidden]
    rfl
  · intro q loop hheader hhidden
    obtain ⟨rest, hrest⟩ := hheader.recognised
    exact exists_step_of_hidden hrest hhidden

/-! ### A header behind an unfinished one -/

/-- Two loops over `j` with an unfinished header between them, and a call in the second one. -/
def unfinished : List Char :=
  "for (j = 5; j < 6; j++) go(j);\n// as in for (i = 0; i < 3; ...\n".toList ++
    "for (j = 0; j < 2; j++) t.addProbe('p' + j, 'int');\n".toList

/-- The call. -/
def unfinishedCall : CountedCall := ⟨"p", "j", ["int"]⟩

/-- The header of the first loop. -/
def firstLoop : Loop := ⟨"j", ⟨5, 1⟩, ⟨6, 1⟩, "j++".toList⟩

/-- The header of the second loop. -/
def secondLoop : Loop := ⟨"j", ⟨0, 1⟩, ⟨2, 1⟩, "j++".toList⟩

/-- The unfinished header, with the second loop in what is taken for its step. -/
def unfinishedLoop : Loop := ⟨"i", ⟨0, 1⟩, ⟨3, 1⟩, "...\nfor (j = 0; j < 2; j++".toList⟩

/-- The headers that begin before a place, each with the number of characters behind it. -/
def headersBefore (text : List Char) (place : Nat) : List (Nat × Loop × Nat) :=
  (List.range place).filterMap fun q =>
    (loop? (text.drop q)).map fun found => (q, found.1, found.2.length)

theorem mem_headersBefore {text : List Char} {place q n : Nat} {loop : Loop} :
    (q, loop, n) ∈ headersBefore text place ↔
      q < place ∧ ∃ rest, loop? (text.drop q) = some (loop, rest) ∧ rest.length = n := by
  rw [headersBefore, List.mem_filterMap]
  constructor
  · rintro ⟨q', hq, hfound⟩
    obtain ⟨⟨loop', rest⟩, hloop, heq⟩ := Option.map_eq_some_iff.1 hfound
    cases heq
    exact ⟨List.mem_range.1 hq, rest, hloop, rfl⟩
  · rintro ⟨hq, rest, hloop, rfl⟩
    refine ⟨q, List.mem_range.2 hq, ?_⟩
    rw [hloop]
    rfl

/-- What the passes find, and which headers there are. -/
theorem passes_unfinished :
    unfinished.length = 115 ∧ occurrences countedCall? unfinished = [(88, unfinishedCall)] ∧
      occurrences loop? unfinished = [(0, firstLoop), (40, unfinishedLoop)] ∧
      headersBefore unfinished 88 =
        [(0, firstLoop, 92), (40, unfinishedLoop, 29), (63, secondLoop, 29)] := by
  decide +kernel

theorem mem_unfinished : (88, unfinishedCall) ∈ occurrences countedCall? unfinished := by
  rw [passes_unfinished.2.1]
  exact List.mem_singleton_self _

theorem counts_unfinished : firstLoop.counts = true ∧ secondLoop.counts = true := by
  decide +kernel

/-- The headers for `j` before the call are those of the two loops. -/
theorem eq_of_headerAt_unfinished {q : Nat} {loop : Loop} (h : HeaderAt unfinished "j" q loop)
    (hq : q < 88) : q = 0 ∨ q = 63 := by
  obtain ⟨rest, hrest⟩ := h.recognised
  have hmem := mem_headersBefore.2 ⟨hq, rest, hrest, rfl⟩
  rw [passes_unfinished.2.2.2, List.mem_cons, List.mem_cons, List.mem_singleton] at hmem
  rcases hmem with heq | heq | heq
  · exact Or.inl (congrArg Prod.fst heq)
  · -- The unfinished header counts another variable.
    have hcounter := h.counter
    rw [show loop = unfinishedLoop from congrArg (·.2.1) heq] at hcounter
    exact absurd hcounter (by decide)
  · exact Or.inr (congrArg Prod.fst heq)

/-- The first loop is found. -/
theorem first_unfinished :
    HeaderAt unfinished "j" 0 firstLoop ∧ ¬ Hidden loop? unfinished 0 := by
  have hmem : (0, firstLoop) ∈ occurrences loop? unfinished := by
    rw [passes_unfinished.2.2.1]
    exact List.mem_cons_self
  exact headerAt_of_mem hmem counts_unfinished.1

/-- The second loop stands in what is taken for the step of the unfinished header. -/
theorem hidden_unfinished : Hidden loop? unfinished 63 := by
  obtain ⟨hlength, -, hloops, hheaders⟩ := passes_unfinished
  have hmem : (40, unfinishedLoop, 29) ∈ headersBefore unfinished 88 := by
    rw [hheaders]
    exact List.mem_cons_of_mem _ List.mem_cons_self
  obtain ⟨-, rest, hrest, hbehind⟩ := mem_headersBefore.1 hmem
  refine ⟨40, unfinishedLoop, rest, ?_, hrest, by decide, by omega⟩
  rw [hloops]
  exact List.mem_cons_of_mem _ List.mem_cons_self

theorem not_overlong_unfinished : ¬ Overlong unfinished := by
  have hnone : obstacle? unfinished = none := by
    rw [obstacle?, passes_unfinished.2.2.1]
    decide +kernel
  rw [← obstacle?_ne_none_iff, hnone]
  exact not_not.2 rfl

/-- The call in the second loop gives the probes of the first one, and nothing else is declared. -/
theorem groups_of_counted_unfinished :
    ((groups unfinished).filter fun group => group.1 == 88) = [(88, [⟨"p5", ["int"]⟩])] ∧
      declaredProbes (String.ofList unfinished) = .ok [⟨"p5", ["int"]⟩] := by
  have hread := (groups_of_counted mem_unfinished).2.1 not_overlong_unfinished
  rw [show ((groups unfinished).flatMap (·.2)) = [⟨"p5", ["int"]⟩] by decide +kernel] at hread
  refine ⟨?_, hread⟩
  obtain ⟨hheader, hseen⟩ := first_unfinished
  have hown := (groups_of_counted mem_unfinished).2.2.1 0 _ hheader (by decide) hseen <|
    fun q loop hq hlater hbefore => by
      rcases eq_of_headerAt_unfinished hq hbefore with rfl | rfl
      · cases hlater
      · exact hidden_unfinished
  rw [hown]
  decide

/-- **Not every counted call of a text that is read gives the probes of the closest header before
it.** -/
theorem exists_hidden_header :
    ¬ ∀ text place call, ¬ Overlong text → (place, call) ∈ occurrences countedCall? text →
      (∀ q loop, HeaderAt text call.counter q loop → q < place →
        (∀ q' loop', HeaderAt text call.counter q' loop' → q' < place → q' ≤ q) →
        ((groups text).filter fun group => group.1 == place) = [(place, call.probes loop)]) ∧
      ((∀ q loop, HeaderAt text call.counter q loop → place ≤ q) →
        ((groups text).filter fun group => group.1 == place) = []) := by
  intro hall
  obtain ⟨-, -, hloops, hheaders⟩ := passes_unfinished
  have hsecond : HeaderAt unfinished "j" 63 secondLoop := by
    have hmem : (63, secondLoop, 29) ∈ headersBefore unfinished 88 := by
      rw [hheaders]
      exact List.mem_cons_of_mem _ (List.mem_cons_of_mem _ List.mem_cons_self)
    obtain ⟨-, rest, hrest, -⟩ := mem_headersBefore.1 hmem
    exact ⟨⟨rest, hrest⟩, rfl, counts_unfinished.2⟩
  obtain ⟨hclosest, -⟩ := hall unfinished 88 unfinishedCall not_overlong_unfinished mem_unfinished
  have hclaimed := hclosest 63 _ hsecond (by decide) <|
    fun q loop hq hbefore => by
      rcases eq_of_headerAt_unfinished hq hbefore with rfl | rfl
      · exact Nat.zero_le 63
      · exact Nat.le_refl 63
  have hfound : closestLoop? (occurrences loop? unfinished) "j" 88 = some firstLoop := by
    rw [hloops]
    decide +kernel
  rw [filter_groups_eq mem_unfinished, show unfinishedCall.counter = "j" from rfl, hfound]
    at hclaimed
  exact absurd hclaimed (by decide)

end ProbeKit.Declaration
