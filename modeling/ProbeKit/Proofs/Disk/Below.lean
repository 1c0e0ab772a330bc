import ProbeKit.Proofs.Disk.LinkFree

/-!
# Resolving below a place

A path that goes on behind another one is resolved below what the other is resolved to, provided that no
link stands on the rest of the way (`Disk.resolve_append`).  To replace links in names is to replace them
in the first names and to go on from there (`Disk.follow_append`), and a place that is reached without a
loop of links on the way has no dots (`Disk.dotless_of_follow`).
-/

namespace ProbeKit.Disk

variable {top : Node} {depth : Nat} {met : Met} {place names more : List String}

/-! ### Following names in two parts -/

theorem joinNames_append (place : List String) (hnames : ∀ n ∈ names ++ more, n ≠ "") :
    joinNames place (names ++ more) = joinNames place names ++ more := by
  have hjoin (ns : List String) (hns : ∀ n ∈ ns, n ≠ "") : joinNames place ns = place ++ ns := by
    unfold joinNames
    split
    · exact absurd rfl (hns "" List.mem_cons_self)
    · rfl
  rw [hjoin _ hnames, hjoin _ fun n hn => hnames n (List.mem_append_left _ hn), List.append_assoc]

/-- Links are replaced in the first names and then in the others, unless the first run into a loop. -/
theorem follow_append (hnames : ∀ n ∈ names ++ more, n ≠ "") :
    follow top depth met place (names ++ more) =
      match follow top depth met place names with
      | (met, led, true) => follow top depth met led more
      | (met, led, false) => (met, led ++ more, false) := by
  -- Both sides take the same step at each of the first names.
  induction names generalizing met place with
  | nil =>
    rw [List.nil_append, follow.eq_1 top depth met place]
  | cons name rest ih =>
    have hrest : ∀ n ∈ rest ++ more, n ≠ "" := fun n hn => hnames n (List.mem_cons_of_mem _ hn)
    have ih' := fun met place => @ih met place hrest
    have hjoin := fun place => joinNames_append place hrest
    rw [List.cons_append, follow.eq_2 top depth met place name rest,
      follow.eq_2 top depth met place name (rest ++ more)]
    split
    · exact ih' _ _
    split
    · exact ih' _ _
    dsimp only
    split
    · rename_i target hat
      split
      · exact ih' _ _
      · rw [hjoin]
      · cases depth with
        | zero => dsimp only; rw [hjoin]
        | succ k =>
          dsimp only
          split
          · exact ih' _ _
          · rw [hjoin]
    · exact ih' _ _

/-! ### Places without dots -/

/-- The places that links are known to lead to have no dots. -/
def Met.Plain (met : Met) : Prop :=
  ∀ link known, met.lookup link = some (some known) → ∀ n ∈ known, Dotless n

theorem Met.Plain.cons_none (h : met.Plain) (link : List String) : Met.Plain ((link, none) :: met) := by
  intro other known hlookup
  rw [List.lookup_cons] at hlookup
  split at hlookup
  · cases hlookup
  · exact h other known hlookup

theorem Met.Plain.cons_some (h : met.Plain) (link : List String) {led : List String}
    (hled : ∀ n ∈ led, Dotless n) : Met.Plain ((link, some led) :: met) := by
  intro other known hlookup
  rw [List.lookup_cons] at hlookup
  split at hlookup
  · cases hlookup
    exact hled
  · exact h other known hlookup

/-- A place that was reached has no dots, unless there was a loop on the way. -/
theorem dotless_of_follow (hmet : met.Plain) (hplace : ∀ n ∈ place, Dotless n) :
    (follow top depth met place names).1.Plain ∧
      ((follow top depth met place names).2.2 = true →
        ∀ n ∈ (follow top depth met place names).2.1, Dotless n) := by
  -- A link leads on from where it stands, or from the top.
  have hbase {place : List String} (hplace : ∀ n ∈ place, Dotless n) (target : String) :
      ∀ n ∈ (if fromTop target = true then [] else place), Dotless n := by
    split
    · exact fun n hn => absurd hn List.not_mem_nil
    · exact hplace
  fun_induction follow top depth met place names with
  | case1 => exact ⟨hmet, fun _ => hplace⟩
  | case2 depth met place name rest hup ih =>
    exact ih hmet fun n hn => hplace n ((List.dropLast_sublist place).subset hn)
  | case3 depth met place name rest hup hhere ih => exact ih hmet hplace
  | case4 depth met place name rest hup hhere next target hat known hknown ih =>
    exact ih hmet (hmet _ _ hknown)
  | case5 => exact ⟨hmet, fun h => nomatch h⟩
  | case6 => exact ⟨hmet, fun h => nomatch h⟩
  | case7 met place name rest hup hhere next target hat hnew k met' led hfollow ihlink ih =>
    obtain ⟨hmet', hled⟩ := ihlink (hmet.cons_none next) (hbase hplace target)
    rw [hfollow] at hmet' hled
    exact ih (hmet'.cons_some next (hled rfl)) (hled rfl)
  | case8 met place name rest hup hhere next target hat hnew k met' led hfollow ihlink =>
    obtain ⟨hmet', -⟩ := ihlink (hmet.cons_none next) (hbase hplace target)
    rw [hfollow] at hmet'
    exact ⟨hmet', fun h => nomatch h⟩
  | case9 depth met place name rest hup hhere next hnot ih =>
    refine ih hmet fun n hn => ?_
    rcases List.mem_append.1 hn with hn | hn
    · exact hplace n hn
    · obtain rfl := List.mem_singleton.1 hn
      exact ⟨Bool.eq_false_iff.2 hup, Bool.eq_false_iff.2 hhere⟩

/-- Names below which no link stands lead straight down. -/
theorem follow_down (hnames : ∀ n ∈ names, Dotless n)
    (hlinks : ∀ q target, top.view (place ++ q) ≠ some (.link target)) :
    follow top depth met place names = (met, place ++ names, true) := by
  induction names generalizing place with
  | nil => rw [follow, List.append_nil]
  | cons name rest ih =>
    obtain ⟨hup, hhere⟩ := hnames name List.mem_cons_self
    have hrest := @ih (place ++ [name]) (fun n hn => hnames n (List.mem_cons_of_mem _ hn)) fun q target =>
      List.append_assoc place [name] q ▸ hlinks (name :: q) target
    rw [List.append_assoc, List.singleton_append] at hrest
    rw [follow.eq_2, hup, hhere]
    simp only [Bool.false_eq_true, if_false]
    split
    · rename_i target hat
      exact absurd (Node.view_eq_link_iff.2 hat) (hlinks [name] target)
    · exact hrest

/-! ### Resolving in two parts -/

theorem withoutDots_append (h : ∀ n ∈ more, Dotless n) :
    withoutDots (names ++ more) = withoutDots names ++ more := by
  rw [withoutDots_eq, List.foldl_append, foldl_stepTo_of_dotless h, ← withoutDots_eq]

theorem withoutDots_of_resolve {d : Disk} {p q : Path} (h : d.resolve p = .ok q) :
    withoutDots (follow d.top (d.top.linkCount + 1) [] [] (d.absoluteNames p)).2.1 = q.names := by
  rw [resolve, if_neg (noNull_of_resolve h)] at h
  dsimp only at h
  split at h
  · cases h
  · rw [← Except.ok.inj h]

theorem append_of_relative (p : Path) {rest : Path} (h : rest.anchor = .relative) :
    p ++ rest = ⟨p.anchor, p.names ++ rest.names⟩ := if_neg (by simp [Path.isAbsolute, h])

theorem absoluteNames_append (d : Disk) (p : Path) {rest : Path} (h : rest.anchor = .relative) :
    d.absoluteNames (p ++ rest) = d.absoluteNames p ++ rest.names := by
  rw [append_of_relative p h]
  unfold absoluteNames Path.isAbsolute
  split
  · rfl
  · exact (List.append_assoc _ _ _).symm

/-- **What is behind a path is resolved below it**, if no link stands there. -/
theorem resolve_append {d : Disk} {p base rest : Path} (hp : d.resolve p = .ok base)
    (hnames : ∀ n ∈ d.absoluteNames p, n ≠ "") (hrest : rest.anchor = .relative)
    (hdotless : ∀ n ∈ rest.names, Dotless n) (hnull : ¬rest.names.any hasNull)
    (hlinks : ∀ q target, d.top.view (base.names ++ q) ≠ some (.link target))
    (hlocate : d.locate ⟨.root, base.names ++ rest.names⟩ ≠ .error .tooManyLinks) :
    d.resolve (p ++ rest) = .ok ⟨.root, base.names ++ rest.names⟩ := by
  have hall : ∀ n ∈ d.absoluteNames p ++ rest.names, n ≠ "" := by
    intro n hn
    rcases List.mem_append.1 hn with hn | hn
    · exact hnames n hn
    · rintro rfl
      exact absurd (hdotless "" hn).2 (by decide)
  -- Where the path leads as a whole, from where its first part leads.
  have hplace : withoutDots (follow d.top (d.top.linkCount + 1) [] []
      (d.absoluteNames (p ++ rest))).2.1 = base.names ++ rest.names := by
    have hbase := withoutDots_of_resolve hp
    have hmet : Met.Plain [] := fun _ _ hlookup => nomatch hlookup
    have hled : (follow d.top (d.top.linkCount + 1) [] [] (d.absoluteNames p)).2.2 = true →
        ∀ n ∈ (follow d.top (d.top.linkCount + 1) [] [] (d.absoluteNames p)).2.1, Dotless n :=
      (dotless_of_follow hmet fun _ hn => absurd hn List.not_mem_nil).2
    rw [absoluteNames_append d p hrest, follow_append hall]
    rcases hfollowed : follow d.top (d.top.linkCount + 1) [] [] (d.absoluteNames p) with
      ⟨met, led, whole⟩
    rw [hfollowed] at hbase hled
    cases whole with
    | true =>
      have hbase : led = base.names := (withoutDots_of_dotless (hled rfl)).symm.trans hbase
      dsimp only
      rw [hbase, follow_down hdotless hlinks, withoutDots_append hdotless,
        withoutDots_of_dotless (resolve_spec hp).2]
    | false =>
      dsimp only
      rw [withoutDots_append hdotless, hbase]
  have hboth : ¬(p ++ rest).names.any hasNull := by
    rw [append_of_relative p hrest, List.any_append, Bool.or_eq_true]
    exact fun h => h.elim (noNull_of_resolve hp) hnull
  rw [resolve, if_neg hboth]
  dsimp only
  rw [hplace]
  split
  · contradiction
  · rfl

end ProbeKit.Disk
