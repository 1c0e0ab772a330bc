import ProbeKit.Proofs.Disk.Named

/-!
# Where a path leads

`Disk.home?` is the place that a path leads to once its links are followed, whether or not anything
stands there.  It depends on the links of a disk alone, so it stays the same while directories are
made and files are written (`home?_eq_of_keeps`).  Following a path leads to its home if it leads
anywhere (`walk_spec`), and after such changes it leads to what is there then (`walk_of_keeps`).
-/

namespace ProbeKit

namespace Node

/-- A leaf that is put over nothing or over a file changes what stands at its own place only. -/
theorem view_put_leaf {node : Node} {place : List String} (h : node.Holds place)
    (hold : node.view place ≠ some .dir) {new : Node} (hnew : ∀ q ≠ [], new.view q = none)
    (q : List String) :
    (node.put place new).view q = if q = place then some new.mark else node.view q := by
  rw [view_put h]
  by_cases hq : place <+: q
  · obtain ⟨r, rfl⟩ := hq
    rw [if_pos (List.prefix_append place r), List.drop_left]
    by_cases hr : r = []
    · subst hr
      simp [view_nil]
    · rw [hnew r hr, if_neg (by simpa using hr)]
      cases hv : node.view (place ++ r) with
      | none => rfl
      | some m => exact absurd (view_eq_dir_of_append hr (by simp [hv])) hold
  · rw [if_neg hq, if_neg]
    rintro rfl
    exact hq List.prefix_rfl

theorem view_file_of_ne_nil (bytes : ByteArray) : ∀ q ≠ [], (Node.file bytes).view q = none := by
  intro q hq
  obtain ⟨name, rest, rfl⟩ := List.exists_cons_of_ne_nil hq
  rfl

theorem view_emptyDir_of_ne_nil : ∀ q ≠ [], (Node.dir []).view q = none := by
  intro q hq
  obtain ⟨name, rest, rfl⟩ := List.exists_cons_of_ne_nil hq
  rfl

/-- Where a node stands that is neither directory nor link, a leaf that is no link may be put. -/
theorem keeps_put {node : Node} {place : List String} (h : node.Holds place)
    (hold : node.view place = none ∨ ∃ bytes, node.view place = some (.file bytes)) {new : Node}
    (hnew : ∀ q ≠ [], new.view q = none) (hlink : ∀ target, new.mark ≠ .link target) :
    node.Keeps (node.put place new) := by
  have hdir : node.view place ≠ some .dir := by
    rcases hold with hold | ⟨bytes, hold⟩ <;> simp [hold]
  refine ⟨fun q hq => ?_, fun q target => ?_⟩
  · rw [view_put_leaf h hdir hnew, if_neg, hq]
    rintro rfl
    exact hdir hq
  · rw [view_put_leaf h hdir hnew]
    by_cases hq : q = place
    · subst hq
      rcases hold with hold | ⟨bytes, hold⟩ <;> simp [hold, hlink]
    · rw [if_neg hq]

end Node

namespace Disk

/-! ### The home of a path -/

/-- Where names lead from a place once links are followed; nothing after too many links. -/
def leadsTo (top : Node) (links : Nat) (place names : List String) : Option (List String) :=
  match names with
  | [] => some place
  | name :: rest =>
    if name == ".." then leadsTo top links place.dropLast rest
    else if name == "" || name == "." then leadsTo top links place rest
    else
      match top.view (place ++ [name]) with
      | some (.link target) =>
        match links with
        | 0 => none
        | k + 1 => leadsTo top k (if fromTop target then [] else place) (linkNames target ++ rest)
      | _ => leadsTo top links (place ++ [name]) rest
  termination_by (links, names.length)

/-- Where a path leads, whether or not anything stands there. -/
def home? (d : Disk) (p : Path) : Option (List String) :=
  if p.names.any hasNull then none else leadsTo d.top linkLimit [] (d.absoluteNames p)

theorem leadsTo_eq_of_keeps {before after : Node} (h : before.Keeps after) (links : Nat)
    (place names : List String) :
    leadsTo after links place names = leadsTo before links place names := by
  fun_induction leadsTo before links place names with
  | case1 => rw [leadsTo]
  | case2 _ _ _ _ hn ih => rw [leadsTo, if_pos hn, ih]
  | case3 _ _ _ _ hn hs ih => rw [leadsTo, if_neg hn, if_pos hs, ih]
  | case4 _ _ _ hn hs target hv => rw [leadsTo, if_neg hn, if_neg hs, (h.links _ _).2 hv]
  | case5 _ _ _ hn hs target hv k ih =>
    rw [leadsTo, if_neg hn, if_neg hs, (h.links _ _).2 hv]
    exact ih
  | case6 links place name rest hn hs hv ih =>
    rw [leadsTo, if_neg hn, if_neg hs, ← ih]
    split
    · rename_i target ht
      exact absurd ((h.links _ _).1 ht) (hv target)
    · rfl

theorem home?_eq_of_keeps {d d' : Disk} (hh : d'.here = d.here) (hk : d.top.Keeps d'.top)
    (p : Path) : d'.home? p = d.home? p := by
  unfold home? absoluteNames
  rw [hh, leadsTo_eq_of_keeps hk]

/-! ### Following a path -/

/-- A name that leads one step down is followed to what stands under it. -/
theorem walk_step {top : Node} {aim : Aim} {links : Nat} {place rest : List String} {name : String}
    (hn : ¬(name == "..") = true) (hs : ¬(name == "" || name == ".") = true)
    (haim : ¬(decide (aim = .creation) && rest == [""]) = true)
    (hlong : ¬nameLimit < name.utf8ByteSize) :
    walk top aim links place (name :: rest) =
      match top.at? (place ++ [name]) with
      | none => if rest.isEmpty then .ok (.free (place ++ [name])) else .error .missing
      | some (.dir _) => walk top aim links (place ++ [name]) rest
      | some (.file bytes) =>
        if rest.isEmpty then .ok (.found (place ++ [name]) (.file bytes)) else .error .notDirectory
      | some (.link target) =>
        if rest.isEmpty && aim = .entry then .ok (.found (place ++ [name]) (.link target))
        else
          match links with
          | 0 => .error .tooManyLinks
          | k + 1 =>
            walk top aim k (if fromTop target then [] else place) (linkNames target ++ rest) := by
  rw [walk]
  exact (if_neg hn).trans ((if_neg hs).trans ((if_neg haim).trans (if_neg hlong)))

/-- The place that a path was followed to. -/
def Spot.place : Spot → List String
  | .found place _ => place
  | .free place => place

/-- What a tree has at a spot: the node, or a free name in a directory. -/
def Spot.Stands (top : Node) : Spot → Prop
  | .found p node => top.at? p = some node
  | .free p => top.view p = none ∧ p ≠ [] ∧ top.view p.dropLast = some .dir ∧
      ∀ name, p.getLast? = some name → IsStep name

/-- **Following names leads home**, to what stands there. -/
theorem walk_spec {top : Node} {aim : Aim} {links : Nat} {place names : List String} {spot : Spot}
    (hdir : top.view place = some .dir) (h : walk top aim links place names = .ok spot) :
    spot.Stands top ∧ (aim ≠ .entry → leadsTo top links place names = some spot.place) := by
  -- All names before the last one lead to directories, so the place is always that of one.
  fun_induction walk top aim links place names with
  | case1 links place =>
    obtain rfl := Except.ok.inj h
    obtain ⟨entries, he⟩ := Node.view_eq_dir_iff.1 hdir
    exact ⟨by simp [Spot.Stands, he], fun _ => by rw [leadsTo, Spot.place]⟩
  | case2 links place name rest hn ih =>
    rw [leadsTo, if_pos hn]
    exact ih (Node.view_dropLast_of_dir hdir) h
  | case3 links place name rest hn hs ih =>
    rw [leadsTo, if_neg hn, if_pos hs]
    exact ih hdir h
  | case4 => cases h
  | case5 => cases h
  | case6 links place name rest hn hs _ hlong hat hrest =>
    obtain rfl := Except.ok.inj h
    obtain rfl := List.isEmpty_iff.1 hrest
    have hv : top.view (place ++ [name]) = none := Node.view_eq_none_iff.2 hat
    have hstep : IsStep name :=
      ⟨Bool.eq_false_iff.2 hn, Bool.eq_false_iff.2 hs, Nat.not_lt.1 hlong⟩
    have hlast : ∀ n, (place ++ [name]).getLast? = some n → IsStep n := by
      intro n hlast
      rw [List.getLast?_concat] at hlast
      exact Option.some.inj hlast ▸ hstep
    refine ⟨⟨hv, by simp, by simpa using hdir, hlast⟩, fun _ => ?_⟩
    rw [leadsTo, if_neg hn, if_neg hs, hv]
    simp only [leadsTo, Spot.place]
  | case7 => cases h
  | case8 links place name rest hn hs _ _ entries hat ih =>
    have hv : top.view (place ++ [name]) = some .dir := Node.view_eq_dir_iff.2 ⟨entries, hat⟩
    rw [leadsTo, if_neg hn, if_neg hs, hv]
    exact ih hv h
  | case9 links place name rest hn hs _ _ bytes hat hrest =>
    obtain rfl := Except.ok.inj h
    obtain rfl := List.isEmpty_iff.1 hrest
    refine ⟨hat, fun _ => ?_⟩
    rw [leadsTo, if_neg hn, if_neg hs, Node.view_eq_file_iff.2 hat]
    simp only [leadsTo, Spot.place]
  | case10 => cases h
  | case11 links place name rest hn hs _ _ target hat hlast =>
    obtain rfl := Except.ok.inj h
    simp only [Bool.and_eq_true, decide_eq_true_eq] at hlast
    exact ⟨hat, fun haim => absurd hlast.2 haim⟩
  | case12 => cases h
  | case13 place name rest hn hs _ _ target hat _ k ih =>
    rw [leadsTo, if_neg hn, if_neg hs, Node.view_eq_link_iff.2 hat]
    exact ih (Node.view_base_of_dir hdir _) h

/-- Where a path has led to a place, what is found there: a node, or a free name. -/
def spotAt (top : Node) (place : List String) : Spot :=
  match top.at? place with
  | some node => .found place node
  | none => .free place

/-- The last name of a path leads to what stands under it, unless that is a link. -/
theorem walk_last {top : Node} {aim : Aim} {links : Nat} {place : List String} {name : String}
    (hn : ¬(name == "..") = true) (hs : ¬(name == "" || name == ".") = true)
    (hlong : ¬nameLimit < name.utf8ByteSize)
    (hlink : ∀ target, top.view (place ++ [name]) ≠ some (.link target)) :
    walk top aim links place [name] = .ok (spotAt top (place ++ [name])) := by
  rw [walk_step hn hs (by simp) hlong, spotAt]
  rcases hat : top.at? (place ++ [name]) with _ | (bytes | target | entries)
  · rfl
  · rfl
  · exact absurd (Node.view_eq_link_iff.2 hat) (hlink target)
  · simp [walk, hat]

/-- **After changes that keep directories and links a path leads to the same place as before**, and
to what is there now. -/
theorem walk_of_keeps {top top' : Node} {aim aim' : Aim} {links : Nat} {place names : List String}
    {spot : Spot} (haim : aim' = aim ∨ aim = .creation ∧ aim' = .target)
    (hdir : top.view place = some .dir) (hk : top.Keeps top')
    (h : walk top aim links place names = .ok spot) :
    walk top' aim' links place names = .ok (spotAt top' spot.place) := by
  have hcreation (rest : List String) (hc : ¬(decide (aim = .creation) && rest == [""]) = true) :
      ¬(decide (aim' = .creation) && rest == [""]) = true := by
    rcases haim with rfl | ⟨rfl, rfl⟩
    · exact hc
    · simp
  fun_induction walk top aim links place names with
  | case1 links place =>
    obtain rfl := Except.ok.inj h
    obtain ⟨entries, hat⟩ := Node.view_eq_dir_iff.1 (hk.dirs _ hdir)
    simp [walk, spotAt, Spot.place, hat]
  | case2 links place name rest hn ih =>
    rw [walk, if_pos hn]
    exact ih (Node.view_dropLast_of_dir hdir) h
  | case3 links place name rest hn hs ih =>
    rw [walk, if_neg hn, if_pos hs]
    exact ih hdir h
  | case6 links place name rest hn hs _ hlong hat hrest =>
    obtain rfl := Except.ok.inj h
    obtain rfl := List.isEmpty_iff.1 hrest
    refine walk_last hn hs hlong fun target hlink => ?_
    rw [hk.links, Node.view_eq_none_iff.2 hat] at hlink
    cases hlink
  | case8 links place name rest hn hs hc hlong entries hat ih =>
    have hv : top.view (place ++ [name]) = some .dir := Node.view_eq_dir_iff.2 ⟨entries, hat⟩
    obtain ⟨entries', hat'⟩ := Node.view_eq_dir_iff.1 (hk.dirs _ hv)
    rw [walk_step hn hs (hcreation rest hc) hlong, hat']
    exact ih hv h
  | case9 links place name rest hn hs _ hlong bytes hat hrest =>
    obtain rfl := Except.ok.inj h
    obtain rfl := List.isEmpty_iff.1 hrest
    refine walk_last hn hs hlong fun target hlink => ?_
    rw [hk.links, Node.view_eq_file_iff.2 hat] at hlink
    cases hlink
  | case11 links place name rest hn hs hc hlong target hat hlast =>
    obtain rfl := Except.ok.inj h
    have hat' := Node.view_eq_link_iff.1 ((hk.links _ _).2 (Node.view_eq_link_iff.2 hat))
    simp only [Bool.and_eq_true, decide_eq_true_eq] at hlast
    obtain ⟨hrest, rfl⟩ := hlast
    obtain rfl : aim' = .entry := by simpa using haim
    rw [walk_step hn hs (by simp) hlong, hat']
    simp [hrest, spotAt, Spot.place, hat']
  | case13 place name rest hn hs hc hlong target hat hlast k ih =>
    have hat' := Node.view_eq_link_iff.1 ((hk.links _ _).2 (Node.view_eq_link_iff.2 hat))
    have hlast' : ¬(rest.isEmpty && decide (aim' = .entry)) = true := by
      rcases haim with rfl | ⟨rfl, rfl⟩
      · exact hlast
      · simp
    rw [walk_step hn hs (hcreation rest hc) hlong, hat']
    exact (if_neg hlast').trans (ih (Node.view_base_of_dir hdir _) h)
  -- In all other cases the path led nowhere before.
  | _ => cases h

end Disk

end ProbeKit
