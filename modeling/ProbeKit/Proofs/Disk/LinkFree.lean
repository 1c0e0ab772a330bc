import ProbeKit.Proofs.Disk.Change

/-!
# Disks without links

On a disk without links a path leads where its names say.  An absolute path of proper names is found
exactly if its names are those of a node (`locateFor_found`), it leads to a free name if only the
last of them is missing (`locateFor_free`), and to resolve it changes nothing (`resolve_eq_self`).
-/

namespace ProbeKit

/-- Nothing at or below a node is a link. -/
def Node.LinkFree (node : Node) : Prop := ∀ place target, node.view place ≠ some (.link target)

namespace Node

theorem linkCount_le_of_lookup {entries : List (String × Node)} {name : String} {child : Node}
    (h : entries.lookup name = some child) : child.linkCount ≤ linkCountIn entries := by
  induction entries with
  | nil => cases h
  | cons e rest ih =>
    obtain ⟨other, node⟩ := e
    rw [List.lookup_cons] at h
    rw [linkCountIn]
    split at h
    · cases h
      omega
    · have := ih h
      omega

/-- A tree without a link is one whose links are none in number. -/
theorem linkFree_of_linkCount_eq_zero {node : Node} (h : node.linkCount = 0) : node.LinkFree := by
  intro place
  induction place generalizing node with
  | nil =>
    intro target hv
    rw [view_nil] at hv
    cases node with
    | file bytes => simp [mark] at hv
    | link text => simp [linkCount] at h
    | dir entries => simp [mark] at hv
  | cons name rest ih =>
    intro target hv
    cases node with
    | file bytes => simp [view, at?_cons_of_leaf] at hv
    | link text => simp [linkCount] at h
    | dir entries =>
      rw [view_dir_cons] at hv
      obtain ⟨child, hchild, hv⟩ := Option.bind_eq_some_iff.1 hv
      have := linkCount_le_of_lookup hchild
      rw [linkCount] at h
      exact ih (by omega) target hv

end Node

theorem Node.LinkFree.of_keeps {before after : Node} (h : before.LinkFree)
    (hk : before.Keeps after) : after.LinkFree :=
  fun place target hv => h place target ((hk.links place target).1 hv)

namespace Disk

/-- A name that a file can have. -/
structure IsName (name : String) : Prop extends IsStep name where
  /-- It holds no null character. -/
  noNull : hasNull name = false

instance (name : String) : Decidable (IsName name) :=
  decidable_of_iff ((name == "..") = false ∧ (name == "" || name == ".") = false ∧
      name.utf8ByteSize ≤ nameLimit ∧ hasNull name = false)
    ⟨fun h => ⟨⟨h.1, h.2.1, h.2.2.1⟩, h.2.2.2⟩, fun h => ⟨h.notUp, h.notHere, h.short, h.noNull⟩⟩

/-- Where a name leads from a place, if it is no link. -/
def stepTo (place : List String) (name : String) : List String :=
  if name == ".." then place.dropLast
  else if name == "" || name == "." then place
  else place ++ [name]

theorem withoutDots_eq (names : List String) : withoutDots names = names.foldl stepTo [] := rfl

/-- A name that stands neither for a place itself nor for the one above. -/
def Dotless (name : String) : Prop := (name == "..") = false ∧ (name == "" || name == ".") = false

theorem IsStep.dotless {name : String} (h : IsStep name) : Dotless name := ⟨h.notUp, h.notHere⟩

theorem stepTo_of_dotless {name : String} (h : Dotless name) (place : List String) :
    stepTo place name = place ++ [name] := by
  rw [stepTo, h.1, h.2]
  rfl

theorem foldl_stepTo_of_dotless {names : List String} (h : ∀ n ∈ names, Dotless n)
    (place : List String) : names.foldl stepTo place = place ++ names := by
  induction names generalizing place with
  | nil => rw [List.foldl_nil, List.append_nil]
  | cons name rest ih =>
    rw [List.foldl_cons, stepTo_of_dotless (h name List.mem_cons_self),
      ih fun n hn => h n (List.mem_cons_of_mem _ hn), List.append_assoc]
    rfl

theorem foldl_stepTo {names : List String} (h : ∀ n ∈ names, IsName n) (place : List String) :
    names.foldl stepTo place = place ++ names :=
  foldl_stepTo_of_dotless (fun n hn => (h n hn).dotless) place

/-- No dots are left once they are taken out. -/
theorem dotless_foldl_stepTo (names : List String) {place : List String}
    (h : ∀ n ∈ place, Dotless n) : ∀ n ∈ names.foldl stepTo place, Dotless n := by
  induction names generalizing place with
  | nil => exact h
  | cons name rest ih =>
    rw [List.foldl_cons]
    refine ih ?_
    unfold stepTo
    split
    · exact fun n hn => h n ((List.dropLast_sublist place).subset hn)
    · rename_i hup
      split
      · exact h
      · rename_i hhere
        intro n hn
        rcases List.mem_append.1 hn with hn | hn
        · exact h n hn
        · obtain rfl := List.mem_singleton.1 hn
          exact ⟨Bool.eq_false_iff.2 hup, Bool.eq_false_iff.2 hhere⟩

theorem withoutDots_of_dotless {names : List String} (h : ∀ n ∈ names, Dotless n) :
    withoutDots names = names := by
  rw [withoutDots_eq, foldl_stepTo_of_dotless h, List.nil_append]

theorem withoutDots_eq_self {names : List String} (h : ∀ n ∈ names, IsName n) :
    withoutDots names = names :=
  withoutDots_of_dotless fun n hn => (h n hn).dotless

theorem dotless_withoutDots (names : List String) : ∀ n ∈ withoutDots names, Dotless n :=
  dotless_foldl_stepTo names fun _ hn => absurd hn List.not_mem_nil

theorem mem_of_mem_foldl_stepTo {names place : List String} {n : String}
    (h : n ∈ names.foldl stepTo place) : n ∈ place ∨ n ∈ names := by
  induction names generalizing place with
  | nil => exact Or.inl h
  | cons name rest ih =>
    rw [List.foldl_cons] at h
    rcases ih h with hstep | hrest
    · unfold stepTo at hstep
      split at hstep
      · exact Or.inl ((List.dropLast_sublist place).subset hstep)
      · split at hstep
        · exact Or.inl hstep
        · rcases List.mem_append.1 hstep with hplace | hname
          · exact Or.inl hplace
          · exact Or.inr (List.mem_singleton.1 hname ▸ List.mem_cons_self)
    · exact Or.inr (List.mem_cons_of_mem _ hrest)

/-- No name comes in when dots are taken out. -/
theorem mem_of_mem_withoutDots {names : List String} {n : String} (h : n ∈ withoutDots names) :
    n ∈ names :=
  (mem_of_mem_foldl_stepTo h).resolve_left List.not_mem_nil

/-! ### Following names -/

section
variable {top : Node} (hfree : top.LinkFree) {aim : Aim} {links : Nat}
include hfree

theorem leadsTo_of_linkFree (place names : List String) :
    leadsTo top links place names =
      some (names.foldl stepTo place) := by
  fun_induction leadsTo top links place names with
  | case1 => rfl
  | case2 _ _ _ _ hn ih => rw [ih, List.foldl_cons, stepTo, if_pos hn]
  | case3 _ _ _ _ hn hs ih => rw [ih, List.foldl_cons, stepTo, if_neg hn, if_pos hs]
  | case4 _ _ _ _ _ target hv => exact absurd hv (hfree _ target)
  | case5 _ _ _ _ _ target hv => exact absurd hv (hfree _ target)
  | case6 _ _ _ _ hn hs _ ih => rw [ih, List.foldl_cons, stepTo, if_neg hn, if_neg hs]

omit hfree in
theorem walk_cons {place rest : List String} {name : String}
    (hnames : ∀ n ∈ name :: rest, IsName n) :
    walk top aim links place (name :: rest) =
      match top.at? (place ++ [name]) with
      | none => if rest.isEmpty then .ok (.free (place ++ [name])) else .error .missing
      | some (.dir _) => walk top aim links (place ++ [name]) rest
      | some (.file bytes) =>
        if rest.isEmpty then .ok (.found (place ++ [name]) (.file bytes)) else .error .notDirectory
      | some (.link target) =>
        if rest.isEmpty && aim = .entry then .ok (.found (place ++ [name]) (.link target))
        else
          match links with
          | 0 => .error .tooManyLinks
          | k + 1 =>
            walk top aim k (if fromTop target then [] else place) (linkNames target ++ rest) := by
  have hname := hnames name List.mem_cons_self
  have hrest : (rest == [""]) = false := by
    rw [beq_eq_false_iff_ne]
    rintro rfl
    exact absurd (hnames "" (by simp)).notHere (by decide)
  have hup : ¬(name == "..") = true := by
    rw [hname.notUp]
    exact Bool.false_ne_true
  have hhere : ¬(name == "" || name == ".") = true := by
    rw [hname.notHere]
    exact Bool.false_ne_true
  have hslash : ¬(decide (aim = .creation) && rest == [""]) = true := by
    rw [hrest, Bool.and_false]
    exact Bool.false_ne_true
  exact walk_step hup hhere hslash (Nat.not_lt.2 hname.short)

/-- Names lead down to the node that they name. -/
theorem walk_found {place names : List String} {node : Node} (hnames : ∀ n ∈ names, IsName n)
    (hdir : top.view place = some .dir) (hat : top.at? (place ++ names) = some node) :
    walk top aim links place names = .ok (.found (place ++ names) node) := by
  induction names generalizing place with
  | nil =>
    rw [List.append_nil] at hat ⊢
    rw [walk, hat]
    rfl
  | cons name rest ih =>
    have hrest : ∀ n ∈ rest, IsName n := fun n hn => hnames n (List.mem_cons_of_mem _ hn)
    rw [List.append_cons] at hat ⊢
    rw [walk_cons hnames]
    -- What is on the way is there, it is no link, and only a directory has anything below it.
    have hsome : (top.at? (place ++ [name])).isSome := by
      rw [Node.at?_append] at hat
      cases hp : top.at? (place ++ [name]) with
      | none => simp [hp] at hat
      | some _ => rfl
    obtain ⟨child, hchild⟩ := Option.isSome_iff_exists.1 hsome
    rw [hchild]
    cases child with
    | dir entries => exact ih hrest (Node.view_eq_dir_iff.2 ⟨entries, hchild⟩) hat
    | link target => exact absurd (Node.view_eq_link_iff.2 hchild) (hfree _ target)
    | file bytes =>
      cases rest with
      | nil =>
        rw [List.append_nil, hchild] at hat
        cases hat
        rw [List.append_nil]
        rfl
      | cons other more =>
        rw [Node.at?_append, hchild] at hat
        cases hat

omit hfree in
/-- Names lead to a free name if only the last one is missing. -/
theorem walk_free {place names : List String} {name : String}
    (hnames : ∀ n ∈ names ++ [name], IsName n) (hdir : top.view place = some .dir)
    (hparent : top.view (place ++ names) = some .dir)
    (hnone : top.view (place ++ names ++ [name]) = none) :
    walk top aim links place (names ++ [name]) = .ok (.free (place ++ names ++ [name])) := by
  induction names generalizing place with
  | nil =>
    rw [List.append_nil] at hnone ⊢
    rw [List.nil_append, walk_cons (by simpa using hnames), Node.view_eq_none_iff.1 hnone]
    rfl
  | cons other rest ih =>
    rw [List.append_cons place other rest] at hparent hnone ⊢
    have hother : top.view (place ++ [other]) = some .dir := by
      cases rest with
      | nil => simpa using hparent
      | cons => exact Node.view_eq_dir_of_append (List.cons_ne_nil _ _) (by rw [hparent]; rfl)
    obtain ⟨entries, hat⟩ := Node.view_eq_dir_iff.1 hother
    rw [List.cons_append] at hnames ⊢
    rw [walk_cons hnames, hat]
    exact ih (fun n hn => hnames n (List.mem_cons_of_mem _ hn)) hother hparent hnone

theorem walk_ne_tooManyLinks (place names : List String) :
    walk top aim links place names ≠ .error .tooManyLinks := by
  fun_induction walk top aim links place names with
  | case2 _ _ _ _ _ ih => exact ih
  | case3 _ _ _ _ _ _ ih => exact ih
  | case8 _ _ _ _ _ _ _ _ _ _ ih => exact ih
  | case12 _ _ _ _ _ _ _ target hat =>
    exact absurd (Node.view_eq_link_iff.2 hat) (hfree _ target)
  | case13 _ _ _ _ _ _ _ target hat =>
    exact absurd (Node.view_eq_link_iff.2 hat) (hfree _ target)
  | _ => simp

/-- Proper names are short enough. -/
theorem walk_ne_tooLong {names : List String} (hnames : ∀ n ∈ names, IsName n)
    (place : List String) :
    walk top aim links place names ≠ .error .tooLong := by
  induction names generalizing place with
  | nil =>
    rw [walk]
    simp
  | cons name rest ih =>
    have hrest : ∀ n ∈ rest, IsName n := fun n hn => hnames n (List.mem_cons_of_mem _ hn)
    rw [walk_cons hnames]
    split
    · split <;> simp
    · exact ih hrest _
    · split <;> simp
    · rename_i target hat
      exact absurd (Node.view_eq_link_iff.2 hat) (hfree _ target)

/-- Without links there is nothing to replace. -/
theorem follow_of_linkFree (depth : Nat) (met : Met) (place names : List String) :
    follow top depth met place names = (met, names.foldl stepTo place, true) := by
  induction names generalizing place with
  | nil => rw [follow, List.foldl_nil]
  | cons name rest ih =>
    rw [follow, List.foldl_cons, stepTo]
    split
    · exact ih _
    · split
      · exact ih _
      · dsimp only
        split
        · rename_i target hat
          exact absurd (Node.view_eq_link_iff.2 hat) (hfree _ target)
        · exact ih _

end

/-! ### Following paths -/

section
variable {d : Disk} {p : Path} (hnames : ∀ n ∈ d.absoluteNames p, IsName n) {aim : Aim}
include hnames

theorem not_hasNull_of_isName : ¬p.names.any hasNull := by
  rw [List.any_eq_true]
  rintro ⟨n, hn, hnull⟩
  have habs : n ∈ d.absoluteNames p := by
    unfold absoluteNames
    split
    · exact hn
    · exact List.mem_append_right _ hn
  rw [(hnames n habs).noNull] at hnull
  cases hnull

theorem home?_of_linkFree (hfree : d.top.LinkFree) : d.home? p = some (d.absoluteNames p) := by
  rw [home?, if_neg (not_hasNull_of_isName hnames), leadsTo_of_linkFree hfree, foldl_stepTo hnames,
    List.nil_append]

theorem locateFor_found (hfree : d.top.LinkFree) (htop : d.top.isDir = true) {node : Node}
    (hat : d.top.at? (d.absoluteNames p) = some node) :
    d.locateFor aim p = .ok (.found (d.absoluteNames p) node) := by
  rw [locateFor, if_neg (not_hasNull_of_isName hnames)]
  exact walk_found hfree hnames (view_nil_of_isDir htop) hat

theorem locateFor_free (htop : d.top.isDir = true) (place : List String)
    {name : String} (hp : d.absoluteNames p = place ++ [name])
    (hparent : d.top.view place = some .dir) (hnone : d.top.view (place ++ [name]) = none) :
    d.locateFor aim p = .ok (.free (place ++ [name])) := by
  rw [hp] at hnames
  rw [locateFor, if_neg (not_hasNull_of_isName (hp ▸ hnames)), hp]
  exact walk_free hnames (view_nil_of_isDir htop) hparent hnone

/-- A path leads to the node that its names lead to. -/
theorem node?_of_linkFree (hfree : d.top.LinkFree) (htop : d.top.isDir = true) :
    d.node? p = d.top.at? (d.absoluteNames p) := by
  cases hat : d.top.at? (d.absoluteNames p) with
  | some node => rw [node?, locate, locateFor_found hnames hfree htop hat]
  | none =>
    unfold node?
    split
    · rename_i place node hl
      obtain ⟨hhome, hs⟩ := home?_of_locate (by decide) htop hl
      rw [home?_of_linkFree hnames hfree] at hhome
      obtain rfl : d.absoluteNames p = place := Option.some.inj hhome
      rw [show d.top.at? (d.absoluteNames p) = some node from hs] at hat
      cases hat
    · rfl

theorem look_of_linkFree (hfree : d.top.LinkFree) (htop : d.top.isDir = true) :
    d.look p = .ok (d.top.at? (d.absoluteNames p)) := by
  have hlong : d.locate p ≠ .error .tooLong := by
    rw [locate, locateFor, if_neg (not_hasNull_of_isName hnames)]
    exact walk_ne_tooLong hfree hnames _
  rw [← node?_of_linkFree hnames hfree htop, look, node?]
  split
  · rename_i hl
    rw [hl]
  · contradiction
  · rename_i hfound _
    split
    · rename_i place node hl
      exact absurd hl (hfound place node)
    · rfl

theorem hasDirectory_of_linkFree (hfree : d.top.LinkFree) (htop : d.top.isDir = true) :
    d.hasDirectory p = (d.top.at? (d.absoluteNames p)).any Node.isDir := by
  rw [hasDirectory, node?_of_linkFree hnames hfree htop]

theorem read?_eq_some_of_linkFree (hfree : d.top.LinkFree) (htop : d.top.isDir = true)
    {bytes : ByteArray} :
    d.read? p = some bytes ↔ d.top.view (d.absoluteNames p) = some (.file bytes) := by
  rw [Node.view_eq_file_iff, read?_eq_some_iff]
  constructor
  · rintro ⟨place, hl⟩
    rw [locate, locateFor, if_neg (not_hasNull_of_isName hnames)] at hl
    obtain ⟨hat, hplace⟩ := walk_spec (view_nil_of_isDir htop) hl
    have hled := hplace (by decide)
    rw [leadsTo_of_linkFree hfree, foldl_stepTo hnames, List.nil_append] at hled
    obtain rfl := Option.some.inj hled
    exact hat
  · intro hat
    exact ⟨_, locateFor_found hnames hfree htop hat⟩

end

/-! ### Resolving paths -/

/-- Without links nothing but dots is taken out of a path. -/
theorem resolve_of_linkFree {d : Disk} {p : Path} (hfree : d.top.LinkFree)
    (hnull : ¬p.names.any hasNull) : d.resolve p = .ok (d.absolute p) := by
  have hlocate : d.locate ⟨.root, withoutDots (d.absoluteNames p)⟩ ≠ .error .tooManyLinks := by
    unfold locate locateFor
    split
    · simp
    · exact walk_ne_tooManyLinks hfree _ _
  have htwice : withoutDots (withoutDots (d.absoluteNames p)) = withoutDots (d.absoluteNames p) :=
    withoutDots_of_dotless (dotless_withoutDots _)
  rw [resolve, if_neg hnull, follow_of_linkFree hfree, absolute]
  dsimp only
  rw [← withoutDots_eq, htwice]
  split
  · contradiction
  · rfl

/-- An absolute path of proper names stays as it is. -/
theorem resolve_eq_self {d : Disk} {p : Path} (hnames : ∀ n ∈ d.absoluteNames p, IsName n)
    (hfree : d.top.LinkFree) (habs : p.isAbsolute) : d.resolve p = .ok ⟨.root, p.names⟩ := by
  have habsolute : d.absoluteNames p = p.names := if_pos habs
  rw [resolve_of_linkFree hfree (not_hasNull_of_isName hnames), absolute,
    withoutDots_eq_self hnames, habsolute]

/-! ### Paths that were resolved -/

theorem noNull_of_resolve {d : Disk} {p q : Path} (h : d.resolve p = .ok q) :
    ¬p.names.any hasNull := by
  unfold resolve at h
  split at h
  · cases h
  · assumption

/-- What was resolved begins at the root and has no dots. -/
theorem resolve_spec {d : Disk} {p q : Path} (h : d.resolve p = .ok q) :
    q.anchor = .root ∧ ∀ n ∈ q.names, Dotless n := by
  unfold resolve at h
  split at h
  · cases h
  generalize follow d.top (d.top.linkCount + 1) [] [] (d.absoluteNames p) = followed at h
  obtain ⟨met, place, whole⟩ := followed
  dsimp only at h
  split at h
  · cases h
  · obtain rfl := Except.ok.inj h
    exact ⟨rfl, dotless_withoutDots place⟩

/-- Without links a path without dots leads to what its names lead to. -/
theorem at?_of_locate {d : Disk} (hfree : d.top.LinkFree) (htop : d.top.isDir = true) {p : Path}
    (hanchor : p.anchor = .root) (hnames : ∀ n ∈ p.names, Dotless n) {place : List String}
    {node : Node} (h : d.locate p = .ok (.found place node)) : d.top.at? p.names = some node := by
  obtain ⟨hhome, hstands⟩ := home?_of_locate (by decide) htop h
  have habs : d.absoluteNames p = p.names := if_pos (by simp [Path.isAbsolute, hanchor])
  unfold home? at hhome
  split at hhome
  · cases hhome
  · rw [habs, leadsTo_of_linkFree hfree, foldl_stepTo_of_dotless hnames] at hhome
    obtain rfl : p.names = place := Option.some.inj hhome
    exact hstands

end Disk

end ProbeKit
