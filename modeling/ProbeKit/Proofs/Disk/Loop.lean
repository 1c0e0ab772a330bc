import ProbeKit.Proofs.Disk.LinkFree
import ProbeKit.Proofs.Path.Text

/-!
# Links to themselves

A link whose text is its own name leads back to itself, however many links may still be followed, so
a path to it leads nowhere and stands for no place (`Disk.resolve_of_loop`).
-/

namespace ProbeKit.Disk

/-- A name of a directory stands for a link to itself. -/
structure Loop (top : Node) (place : List String) (name : String) : Prop where
  /-- The text of the link is its name. -/
  link : top.at? (place ++ [name]) = some (.link name)
  /-- It is a proper name. -/
  isName : IsName name
  /-- It can stand between slashes. -/
  isPart : Path.IsPart name
  /-- Between slashes it is one piece. -/
  splitOn : name.splitOn "/" = [name]

variable {top : Node} {place names : List String} {name : String}

theorem Loop.fromTop (h : Loop top place name) : fromTop name = false := by
  unfold Disk.fromTop
  rw [beq_eq_false_iff_ne]
  intro hslash
  exact h.isPart.noSlash (List.mem_of_mem_head? (Option.mem_def.2 hslash))

theorem Loop.linkNames (h : Loop top place name) : linkNames name = [name] := by
  have hnames : Path.namesOf name.toList = [name] := by
    have hall : ∀ n ∈ [name], Path.IsPart n := fun n hn => List.mem_singleton.1 hn ▸ h.isPart
    simpa using Path.namesOf_intercalate hall
  -- The name ends neither in a slash nor in a dot of its own.
  have hslash (c : Char) (hc : c ∈ name.toList.reverse) : c ≠ '/' := by
    rintro rfl
    exact h.isPart.noSlash (List.mem_reverse.1 hc)
  unfold Disk.linkNames
  rw [hnames]
  dsimp only
  split
  · rename_i hrev
    exact absurd rfl (hslash '/' (by rw [hrev]; exact List.mem_cons_self))
  · rename_i hrev
    exact absurd (List.reverse_eq_iff.1 hrev) h.isPart.ne_dot
  · rename_i hrev
    exact absurd rfl (hslash '/' (by rw [hrev]; simp))
  · rfl

/-! ### Following it -/

theorem view_eq_dir_above (h : top.view (place ++ names) = some .dir) :
    top.view place = some .dir := by
  cases names with
  | nil => rwa [List.append_nil] at h
  | cons => exact Node.view_eq_dir_of_append (List.cons_ne_nil _ _) (by rw [h]; rfl)

/-- Each time that the link is followed it is met again. -/
theorem Loop.walk (h : Loop top place name) (links : Nat) :
    walk top .target links place [name] = .error .tooManyLinks := by
  have hname : ∀ n ∈ [name], IsName n := fun n hn => List.mem_singleton.1 hn ▸ h.isName
  induction links with
  | zero =>
    rw [walk_cons hname, h.link]
    rfl
  | succ links ih =>
    rw [walk_cons hname, h.link]
    show Disk.walk top .target links (if Disk.fromTop name then [] else place)
      (Disk.linkNames name ++ []) = _
    rw [h.fromTop, h.linkNames]
    exact ih

/-- Directories above the link are passed. -/
theorem walk_above_loop {links : Nat} (hnames : ∀ n ∈ names, IsName n)
    (hdir : top.view (place ++ names) = some .dir) (h : Loop top (place ++ names) name) :
    walk top .target links place (names ++ [name]) = .error .tooManyLinks := by
  induction names generalizing place with
  | nil =>
    rw [List.append_nil] at h
    exact h.walk links
  | cons other rest ih =>
    rw [List.append_cons place other rest] at hdir h
    obtain ⟨entries, hat⟩ := Node.view_eq_dir_iff.1 (view_eq_dir_above hdir)
    have hall : ∀ n ∈ other :: (rest ++ [name]), IsName n := by
      intro n hn
      rcases List.mem_append.1 (show n ∈ (other :: rest) ++ [name] from hn) with hn | hn
      · exact hnames n hn
      · rw [List.mem_singleton.1 hn]
        exact h.isName
    rw [List.cons_append, walk_cons hall, hat]
    exact ih (fun n hn => hnames n (List.mem_cons_of_mem _ hn)) hdir h

/-- What replaces links stops at a link that is still being replaced. -/
theorem Loop.follow (h : Loop top place name) (depth : Nat) :
    follow top (depth + 1) [] place [name] = ([(place ++ [name], none)], place ++ [name], false) := by
  have hmet (met : Met) (hlookup : met.lookup (place ++ [name]) = some none) :
      Disk.follow top depth met place [name] = (met, place ++ [name], false) := by
    rw [Disk.follow, h.isName.notUp, h.isName.notHere]
    simp [h.link, hlookup, joinNames]
  rw [Disk.follow, h.isName.notUp, h.isName.notHere]
  simp [h.link, h.splitOn, h.fromTop, hmet, joinNames]

theorem follow_above_loop (depth : Nat) (hnames : ∀ n ∈ names, IsName n)
    (hdir : top.view (place ++ names) = some .dir) (h : Loop top (place ++ names) name) :
    follow top (depth + 1) [] place (names ++ [name]) =
      ([(place ++ names ++ [name], none)], place ++ names ++ [name], false) := by
  induction names generalizing place with
  | nil =>
    rw [List.append_nil] at h ⊢
    exact h.follow depth
  | cons other rest ih =>
    have hname := hnames other List.mem_cons_self
    rw [List.append_cons place other rest] at hdir h ⊢
    obtain ⟨entries, hat⟩ := Node.view_eq_dir_iff.1 (view_eq_dir_above hdir)
    rw [List.cons_append, Disk.follow, hname.notUp, hname.notHere]
    simp only [Bool.false_eq_true, if_false, hat]
    exact ih (fun n hn => hnames n (List.mem_cons_of_mem _ hn)) hdir h

/-- **A path to a link to itself stands for no place.** -/
theorem resolve_of_loop {d : Disk} {p : Path} (hp : d.absoluteNames p = names ++ [name])
    (hnames : ∀ n ∈ names, IsName n) (hdir : d.top.view names = some .dir)
    (h : Loop d.top names name) : d.resolve p = .error (.linkLoop ⟨.root, names ++ [name]⟩) := by
  have hall : ∀ n ∈ names ++ [name], IsName n := by
    intro n hn
    rcases List.mem_append.1 hn with hn | hn
    · exact hnames n hn
    · rw [List.mem_singleton.1 hn]
      exact h.isName
  have hfollow : follow d.top (d.top.linkCount + 1) [] [] (names ++ [name]) =
      ([(names ++ [name], none)], names ++ [name], false) :=
    follow_above_loop d.top.linkCount hnames hdir h
  have hlocate : d.locate ⟨.root, names ++ [name]⟩ = .error .tooManyLinks := by
    have habs : ∀ n ∈ d.absoluteNames ⟨.root, names ++ [name]⟩, IsName n := hall
    rw [locate, locateFor, if_neg (not_hasNull_of_isName habs)]
    exact @walk_above_loop _ [] _ _ _ hnames hdir h
  rw [resolve, if_neg (not_hasNull_of_isName (hp ▸ hall)), hp, hfollow]
  dsimp only
  rw [withoutDots_eq_self hall, hlocate]

end ProbeKit.Disk
