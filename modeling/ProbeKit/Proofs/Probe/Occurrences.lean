import ProbeKit.Probe.Declaration

/-!
# Passes over a text

A pass applies a recogniser along a text, from left to right, and goes on behind whatever it finds.
So what it finds comes in order and without overlaps, and it finds exactly what the recogniser
takes outside of what was found before (`mem_occurrences_iff`).
-/

namespace ProbeKit.Declaration

variable {α : Type} {recognise : List Char → Option (α × List Char)} {text : List Char}

/-- Whether a place lies inside what a pass found before it. -/
def Hidden (recognise : List Char → Option (α × List Char)) (text : List Char) (q : Nat) : Prop :=
  ∃ p found rest, (p, found) ∈ occurrences recognise text ∧
    recognise (text.drop p) = some (found, rest) ∧ p < q ∧ q < text.length - rest.length

/-! ### Places in order -/

/-- Places that come in order are each taken once. -/
theorem eq_of_fst_eq {l : List (Nat × α)} (h : l.Pairwise fun x y => x.1 < y.1)
    {a b : Nat × α} (ha : a ∈ l) (hb : b ∈ l) (hab : a.1 = b.1) : a = b := by
  induction h with
  | nil => cases ha
  | cons hfirst _ ih =>
    rcases List.mem_cons.1 ha with rfl | ha'
    · rcases List.mem_cons.1 hb with rfl | hb'
      · rfl
      · have hlt := hfirst b hb'
        omega
    · rcases List.mem_cons.1 hb with rfl | hb'
      · have hlt := hfirst a ha'
        omega
      · exact ih ha' hb'

/-- The places in order that are a given one. -/
theorem filter_fst_eq {l : List (Nat × α)} (h : l.Pairwise fun x y => x.1 < y.1)
    {a : Nat × α} (ha : a ∈ l) : (l.filter fun x => x.1 == a.1) = [a] := by
  obtain ⟨before, after, rfl⟩ := List.append_of_mem ha
  have hothers : ∀ x ∈ before ++ after, x.1 ≠ a.1 := by
    rw [List.pairwise_append, List.pairwise_cons] at h
    obtain ⟨-, ⟨hafter, -⟩, hbefore⟩ := h
    intro x hx
    rcases List.mem_append.1 hx with hx | hx
    · exact Nat.ne_of_lt (hbefore x hx a List.mem_cons_self)
    · exact Nat.ne_of_gt (hafter x hx)
  have hnone : ∀ part ⊆ before ++ after, (part.filter fun x => x.1 == a.1) = [] := by
    intro part hpart
    rw [List.filter_eq_nil_iff]
    intro x hx
    rw [beq_iff_eq]
    exact hothers x (hpart hx)
  rw [List.filter_append, hnone before (List.subset_append_left _ _), List.nil_append,
    List.filter_cons_of_pos, hnone after (List.subset_append_right _ _)]
  exact beq_self_eq_true a.1

/-- In a list in order, what the places of each two of its members satisfy holds of any two. -/
theorem rel_of_pairwise {l : List (Nat × α)} {rel : Nat × α → Nat × α → Prop}
    (h : l.Pairwise fun x y => x.1 < y.1 ∧ rel x y) {x y : Nat × α} (hx : x ∈ l) (hy : y ∈ l)
    (hlt : x.1 < y.1) : rel x y := by
  induction h with
  | nil => cases hx
  | @cons z l hz _ ih =>
    rcases List.mem_cons.1 hx with rfl | hx'
    · rcases List.mem_cons.1 hy with rfl | hy'
      · omega
      · exact (hz y hy').2
    · rcases List.mem_cons.1 hy with rfl | hy'
      · have hbefore := (hz x hx').1
        omega
      · exact ih hx' hy'

/-- A sort by places leaves them in order. -/
theorem pairwise_mergeSort (l : List (Nat × α)) :
    (l.mergeSort fun a b => decide (a.1 ≤ b.1)).Pairwise fun x y => x.1 ≤ y.1 := by
  have hsorted : (l.mergeSort fun a b => decide (a.1 ≤ b.1)).Pairwise
      fun x y => decide (x.1 ≤ y.1) = true := by
    apply List.pairwise_mergeSort
    · intro a b c hab hbc
      simp only [decide_eq_true_eq] at hab hbc ⊢
      exact Nat.le_trans hab hbc
    · intro a b
      simp only [Bool.or_eq_true, decide_eq_true_eq]
      exact Nat.le_total a.1 b.1
  exact hsorted.imp of_decide_eq_true

/-- Things at distinct places that are put in order come in strict order. -/
theorem pairwise_lt_of_perm {l l' : List (Nat × α)} (hperm : l'.Perm l)
    (hne : l.Pairwise fun x y => x.1 ≠ y.1) (hle : l'.Pairwise fun x y => x.1 ≤ y.1) :
    l'.Pairwise fun x y => x.1 < y.1 := by
  have hne' : l'.Pairwise fun x y => x.1 ≠ y.1 := (hperm.pairwise_iff Ne.symm).2 hne
  exact hle.imp₂ (fun _ _ => Nat.lt_of_le_of_ne) hne'

/-- **Where each place is taken once, a sort by places has one result**: the same things in the
order of their places. -/
theorem mergeSort_eq_of_perm {l l' : List (Nat × α)} (hperm : l.Perm l')
    (h : l'.Pairwise fun x y => x.1 < y.1) :
    (l.mergeSort fun a b => decide (a.1 ≤ b.1)) = l' := by
  have hmerge := (List.mergeSort_perm l fun a b => decide (a.1 ≤ b.1)).trans hperm
  refine hmerge.eq_of_pairwise ?_ (pairwise_mergeSort l) (h.imp Nat.le_of_lt)
  intro a b ha hb hab hba
  exact eq_of_fst_eq h (hmerge.mem_iff.1 ha) hb (Nat.le_antisymm hab hba)

/-! ### A pass from some place on -/

theorem drop_succ_of_drop_eq_cons {place : Nat} {c : Char} {cs : List Char}
    (h : text.drop place = c :: cs) : text.drop (place + 1) = cs := by
  rw [← List.tail_drop, h, List.tail_cons]

theorem length_of_drop_eq_cons {place : Nat} {c : Char} {cs : List Char}
    (h : text.drop place = c :: cs) : text.length = place + 1 + cs.length := by
  have hlength := congrArg List.length h
  rw [List.length_drop, List.length_cons] at hlength
  omega

/-- Whatever a pass finds, the recogniser takes it there, and nothing is found where characters
are passed over. -/
theorem of_mem_occurrencesFrom {passed place : Nat} {cs : List Char} {x : Nat × α}
    (hcs : text.drop place = cs) (h : x ∈ occurrencesFrom recognise passed place cs) :
    place + passed ≤ x.1 ∧ x.1 < text.length ∧
      ∃ rest, recognise (text.drop x.1) = some (x.2, rest) := by
  fun_induction occurrencesFrom recognise passed place cs with
  | case1 => cases h
  | case2 passed place c cs ih =>
    obtain ⟨hle, hfound⟩ := ih (drop_succ_of_drop_eq_cons hcs) h
    exact ⟨by omega, hfound⟩
  | case3 place c cs found rest hfound ih =>
    rcases List.mem_cons.1 h with rfl | h
    · have hlength := length_of_drop_eq_cons hcs
      exact ⟨Nat.le_refl _, by omega, rest, hcs ▸ hfound⟩
    · obtain ⟨hle, hfound⟩ := ih (drop_succ_of_drop_eq_cons hcs) h
      exact ⟨by omega, hfound⟩
  | case4 place c cs _ ih =>
    obtain ⟨hle, hfound⟩ := ih (drop_succ_of_drop_eq_cons hcs) h
    exact ⟨by omega, hfound⟩

/-- What a pass finds comes in order, and each thing begins behind the ends of those before it. -/
theorem pairwise_occurrencesFrom {passed place : Nat} {cs : List Char}
    (hcs : text.drop place = cs) :
    (occurrencesFrom recognise passed place cs).Pairwise fun x y => x.1 < y.1 ∧
      ∀ rest, recognise (text.drop x.1) = some (x.2, rest) →
        text.length - rest.length ≤ y.1 := by
  fun_induction occurrencesFrom recognise passed place cs with
  | case1 => exact List.Pairwise.nil
  | case2 passed place c cs ih => exact ih (drop_succ_of_drop_eq_cons hcs)
  | case3 place c cs found rest hfound ih =>
    refine List.Pairwise.cons ?_ (ih (drop_succ_of_drop_eq_cons hcs))
    intro y hy
    have hplace := (of_mem_occurrencesFrom (drop_succ_of_drop_eq_cons hcs) hy).1
    have hlength := length_of_drop_eq_cons hcs
    refine ⟨by omega, ?_⟩
    intro rest' hrest
    rw [hcs, hfound] at hrest
    obtain ⟨-, rfl⟩ := Prod.mk.inj (Option.some.inj hrest)
    omega
  | case4 place c cs _ ih => exact ih (drop_succ_of_drop_eq_cons hcs)

/-- Whatever the recogniser takes is found, unless it begins inside what is found before it. -/
theorem mem_or_inside_of_recognised {passed place q : Nat} {cs : List Char} {a : α}
    {rest : List Char} (hcs : text.drop place = cs) (hle : place + passed ≤ q)
    (hq : q < text.length) (h : recognise (text.drop q) = some (a, rest)) :
    (q, a) ∈ occurrencesFrom recognise passed place cs ∨
      ∃ p found rest, (p, found) ∈ occurrencesFrom recognise passed place cs ∧
        recognise (text.drop p) = some (found, rest) ∧ p < q ∧ q < text.length - rest.length := by
  fun_induction occurrencesFrom recognise passed place cs with
  | case1 =>
    rw [List.drop_eq_nil_iff] at hcs
    omega
  | case2 passed place c cs ih => exact ih (drop_succ_of_drop_eq_cons hcs) (by omega)
  | case3 place c cs found rest hfound ih =>
    have hlength := length_of_drop_eq_cons hcs
    rcases Nat.lt_or_ge q (place + 1 + (cs.length - rest.length)) with hlt | hge
    · rcases Nat.eq_or_lt_of_le hle with rfl | hlater
      · rw [Nat.add_zero, hcs, hfound] at h
        obtain ⟨rfl, -⟩ := Prod.mk.inj (Option.some.inj h)
        exact Or.inl List.mem_cons_self
      · -- A place inside what was just found.
        refine Or.inr ⟨place, found, rest, List.mem_cons_self, hcs ▸ hfound, ?_, ?_⟩
        · omega
        · omega
    · rcases ih (drop_succ_of_drop_eq_cons hcs) hge with hmem | ⟨p, b, rest', hmem, hinside⟩
      · exact Or.inl (List.mem_cons_of_mem _ hmem)
      · exact Or.inr ⟨p, b, rest', List.mem_cons_of_mem _ hmem, hinside⟩
  | case4 place c cs hnone ih =>
    rcases Nat.eq_or_lt_of_le hle with rfl | hlater
    · rw [Nat.add_zero, hcs, hnone] at h
      cases h
    · exact ih (drop_succ_of_drop_eq_cons hcs) (by omega)

/-! ### A whole pass -/

/-- What a pass finds comes in order. -/
theorem pairwise_occurrences (recognise : List Char → Option (α × List Char))
    (text : List Char) : (occurrences recognise text).Pairwise fun x y => x.1 < y.1 :=
  (pairwise_occurrencesFrom (List.drop_zero)).imp And.left

/-- What a pass finds is not hidden. -/
theorem not_hidden_of_mem {x : Nat × α} (h : x ∈ occurrences recognise text) :
    ¬ Hidden recognise text x.1 := by
  rintro ⟨p, found, rest, hmem, hrest, hlt, hinside⟩
  have hend := rel_of_pairwise (pairwise_occurrencesFrom (List.drop_zero)) hmem h hlt rest hrest
  omega

/-- **A pass finds what the recogniser takes at places that are not hidden.** -/
theorem mem_occurrences_iff {q : Nat} {a : α} :
    (q, a) ∈ occurrences recognise text ↔ q < text.length ∧
      (∃ rest, recognise (text.drop q) = some (a, rest)) ∧ ¬ Hidden recognise text q := by
  constructor
  · intro h
    obtain ⟨-, hlt, hfound⟩ := of_mem_occurrencesFrom (List.drop_zero) h
    exact ⟨hlt, hfound, not_hidden_of_mem h⟩
  · rintro ⟨hlt, ⟨rest, hrest⟩, hhidden⟩
    exact (mem_or_inside_of_recognised List.drop_zero (Nat.zero_le q) hlt hrest).resolve_right
      hhidden

/-! ### The closest loop -/

/-- No loop is closest if none that counts the variable begins before the place. -/
theorem filter_loops_eq_nil {loops : List (Nat × Loop)} {counter : String} {place : Nat}
    (h : ∀ l ∈ loops, l.2.counter = counter → l.2.counts = true → place ≤ l.1) :
    (loops.filter fun l => l.2.counter == counter && l.2.counts && decide (l.1 < place)) = [] := by
  rw [List.filter_eq_nil_iff]
  intro l hl
  simp only [Bool.and_eq_true, beq_iff_eq, decide_eq_true_eq, not_and, Nat.not_lt, and_imp]
  exact h l hl

theorem closestLoop?_eq_none {loops : List (Nat × Loop)} {counter : String} {place : Nat}
    (h : ∀ l ∈ loops, l.2.counter = counter → l.2.counts = true → place ≤ l.1) :
    closestLoop? loops counter place = none := by
  rw [closestLoop?, filter_loops_eq_nil h]
  rfl

/-- **A counted call belongs to the last loop before it that counts its variable.** -/
theorem closestLoop?_eq (before : List (Nat × Loop)) {after : List (Nat × Loop)} {loop : Loop}
    {start place : Nat} (hcounts : loop.counts = true) (hstart : start < place)
    (hafter : ∀ l ∈ after, l.2.counter = loop.counter → l.2.counts = true → place ≤ l.1) :
    closestLoop? (before ++ (start, loop) :: after) loop.counter place = some loop := by
  unfold closestLoop?
  rw [List.filter_append, List.filter_cons_of_pos, filter_loops_eq_nil hafter,
    List.getLast?_concat]
  · rfl
  · simp [hcounts, hstart]

end ProbeKit.Declaration
