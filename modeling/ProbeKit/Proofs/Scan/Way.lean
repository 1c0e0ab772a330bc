import ProbeKit.Proofs.Path.Text
import ProbeKit.Scan.Scanner

/-!
# The way to a source

A scan goes down from a root and looks at each name on the way; whether a path names a source is
decided by going up to the first root above it.  `Scanner.clears` is the condition on the names
below a root, and `Scanner.acceptsResolved?_eq_true_iff` says that the way up comes to the same.
-/

namespace ProbeKit

namespace Path

/-- A path that is some names longer. -/
def down (p : Path) (names : List String) : Path := ⟨p.anchor, p.names ++ names⟩

@[simp] theorem down_nil (p : Path) : p.down [] = p := by
  simp [down]

theorem down_cons (p : Path) (name : String) (names : List String) :
    p.down (name :: names) = (p.child name).down names := by
  simp [down, child]

theorem down_concat (p : Path) (names : List String) (name : String) :
    p.down (names ++ [name]) = (p.down names).child name := by
  simp [down, child]

theorem parent_down (p : Path) {names : List String} (h : names ≠ []) :
    (p.down names).parent = p.down names.dropLast := by
  simp [parent, down, List.dropLast_append_of_ne_nil h]

theorem child_parent {p : Path} (h : p.names ≠ []) : p.parent.child p.name = p := by
  obtain ⟨anchor, names⟩ := p
  obtain ⟨names, name, rfl⟩ := List.eq_nil_or_concat names |>.resolve_left h
  simp [parent, child, Path.name]

theorem down_inj {p : Path} {names names' : List String} (h : p.down names = p.down names') :
    names = names' :=
  List.append_cancel_left (congrArg Path.names h)

theorem below?_eq_some_iff_down {p base : Path} {names : List String} :
    p.below? base = some names ↔ p = base.down names := by
  rw [below?_eq_some_iff]
  obtain ⟨anchor, all⟩ := p
  simp [down]

end Path

namespace Scanner

variable {s : Scanner}

/-- Whether the names below a directory lead to a source by directories that are not left out. -/
def clears (s : Scanner) (dir : Path) : List String → Bool
  | [] => false
  | [name] => s.hasExtension (dir.child name) && !s.excludes (dir.child name) false
  | name :: rest =>
    !skippedDirectories.contains name && !s.excludes (dir.child name) true &&
      s.clears (dir.child name) rest

theorem clears_cons {dir : Path} {name : String} {rest : List String} (hrest : rest ≠ []) :
    s.clears dir (name :: rest) = (!skippedDirectories.contains name &&
      !s.excludes (dir.child name) true && s.clears (dir.child name) rest) := by
  cases rest with
  | nil => exact absurd rfl hrest
  | cons name' rest' => rfl

/-- The condition on the names, written out. -/
structure Clears (s : Scanner) (dir : Path) (names : List String) : Prop where
  /-- There are some. -/
  ne_nil : names ≠ []
  /-- The last one has the suffix of a source. -/
  extension : s.hasExtension (dir.down names) = true
  /-- The file is not left out. -/
  file : s.excludes (dir.down names) false = false
  /-- No directory on the way is skipped by its name. -/
  skipped : ∀ n ∈ names.dropLast, skippedDirectories.contains n = false
  /-- No directory on the way is left out. -/
  above : ∀ above ≠ [], above <+: names.dropLast → s.excludes (dir.down above) true = false

/-- A file in the directory itself has to be of interest, and there is nothing on the way. -/
theorem clears_singleton_iff {dir : Path} {name : String} : s.Clears dir [name] ↔
    s.hasExtension (dir.child name) = true ∧ s.excludes (dir.child name) false = false := by
  constructor
  · exact fun h => ⟨h.extension, h.file⟩
  · rintro ⟨hextension, hfile⟩
    refine ⟨List.cons_ne_nil _ _, hextension, hfile, by simp, fun above hne habove => ?_⟩
    exact absurd (List.prefix_nil.1 habove) hne

/-- For a file further down, the next directory has to be one that is looked into. -/
theorem clears_cons_iff {dir : Path} {name : String} {rest : List String} (hrest : rest ≠ []) :
    s.Clears dir (name :: rest) ↔ (skippedDirectories.contains name = false ∧
      s.excludes (dir.child name) true = false) ∧ s.Clears (dir.child name) rest := by
  constructor
  · rintro ⟨-, hextension, hfile, hskipped, habove⟩
    rw [List.dropLast_cons_of_ne_nil hrest] at hskipped habove
    refine ⟨⟨hskipped name List.mem_cons_self, ?_⟩, hrest, ?_, ?_,
      fun n hn => hskipped n (List.mem_cons_of_mem _ hn), fun above _ hprefix => ?_⟩
    · have hdir := habove [name] (List.cons_ne_nil _ _)
        (List.cons_prefix_cons.2 ⟨rfl, List.nil_prefix⟩)
      rwa [Path.down_cons, Path.down_nil] at hdir
    · rwa [← Path.down_cons]
    · rwa [← Path.down_cons]
    · rw [← Path.down_cons]
      exact habove (name :: above) (List.cons_ne_nil _ _)
        (List.cons_prefix_cons.2 ⟨rfl, hprefix⟩)
  · rintro ⟨⟨hname, hdir⟩, h⟩
    refine ⟨List.cons_ne_nil _ _, ?_, ?_, ?_, ?_⟩
    · rw [Path.down_cons]
      exact h.extension
    · rw [Path.down_cons]
      exact h.file
    · rw [List.dropLast_cons_of_ne_nil hrest]
      exact List.forall_mem_cons.2 ⟨hname, h.skipped⟩
    · intro above hne hprefix
      obtain ⟨n, more, rfl⟩ := List.exists_cons_of_ne_nil hne
      rw [List.dropLast_cons_of_ne_nil hrest] at hprefix
      obtain ⟨rfl, hmore⟩ := List.cons_prefix_cons.1 hprefix
      rw [Path.down_cons]
      by_cases hnil : more = []
      · rw [hnil, Path.down_nil]
        exact hdir
      · exact h.above more hnil hmore

theorem clears_iff {dir : Path} {names : List String} :
    s.clears dir names = true ↔ s.Clears dir names := by
  induction names generalizing dir with
  | nil => exact iff_of_false Bool.false_ne_true fun h => h.ne_nil rfl
  | cons name rest ih =>
    cases rest with
    | nil => rw [clears, Bool.and_eq_true, Bool.not_eq_true', clears_singleton_iff]
    | cons name' rest' =>
      have hrest : name' :: rest' ≠ [] := List.cons_ne_nil _ _
      rw [clears_cons hrest, clears_cons_iff hrest, Bool.and_eq_true, Bool.and_eq_true,
        Bool.not_eq_true', Bool.not_eq_true', ih]

/-! ### The way up -/

/-- The way up meets the root only from below it. -/
theorem exists_down_of_clearUp? {root dir : Path} (h : s.clearUp? root dir = some true) :
    ∃ names, dir = root.down names := by
  fun_induction clearUp? s root dir with
  | case1 => exact ⟨[], (Path.down_nil root).symm⟩
  | case2 => cases h
  | case3 => cases h
  | case4 dir _ _ hnames ih =>
    obtain ⟨names, hparent⟩ := ih h
    refine ⟨names ++ [dir.name], ?_⟩
    rw [Path.down_concat, ← hparent, Path.child_parent hnames]

theorem clearUp?_down_concat (root : Path) (names : List String) (name : String) :
    s.clearUp? root (root.down (names ++ [name])) = some true ↔
      s.excludes (root.down (names ++ [name])) true = false ∧
        s.clearUp? root (root.down names) = some true := by
  have hne : root.down (names ++ [name]) ≠ root := by
    intro h
    have hlength := congrArg (fun p => p.names.length) h
    simp [Path.down] at hlength
  have hnames : (root.down (names ++ [name])).names ≠ [] := by simp [Path.down]
  rw [clearUp?, if_neg hne, Path.parent_down root (by simp), List.dropLast_concat]
  cases s.excludes (root.down (names ++ [name])) true with
  | true => simp
  | false => simp [hnames]

/-- **The way up from below a root is clear exactly if no directory on it is left out.** -/
theorem clearUp?_down (root : Path) (names : List String) :
    s.clearUp? root (root.down names) = some true ↔
      ∀ above ≠ [], above <+: names → s.excludes (root.down above) true = false := by
  generalize hlength : names.length = n
  induction n generalizing names with
  | zero =>
    obtain rfl := List.length_eq_zero_iff.1 hlength
    refine iff_of_true ?_ fun above hne habove => absurd (List.prefix_nil.1 habove) hne
    rw [Path.down_nil, clearUp?, if_pos rfl]
  | succ n ih =>
    obtain ⟨names, name, rfl⟩ := List.eq_nil_or_concat names |>.resolve_left (by
      rintro rfl
      cases hlength)
    rw [List.concat_eq_append] at hlength ⊢
    rw [clearUp?_down_concat, ih names (by simpa using hlength)]
    constructor
    · rintro ⟨hlast, hfirst⟩ above hne habove
      rcases List.prefix_concat_iff.1 habove with rfl | habove
      · exact hlast
      · exact hfirst above hne habove
    · intro h
      exact ⟨h _ (by simp) (List.prefix_refl _), fun above hne habove =>
        h above hne (habove.trans (List.prefix_append _ _))⟩

/-- The way up from below a root meets it, unless a directory on it is left out. -/
theorem clearUp?_down_ne_none (root : Path) (names : List String) :
    s.clearUp? root (root.down names) ≠ none := by
  generalize hdir : root.down names = dir
  fun_induction clearUp? s root dir generalizing names with
  | case1 => exact Option.some_ne_none _
  | case2 => exact Option.some_ne_none _
  | case3 dir hroot _ hnil =>
    rw [← hdir] at hroot hnil
    refine absurd ?_ hroot
    rw [(List.append_eq_nil_iff.1 hnil).2, Path.down_nil]
  | case4 dir hroot _ _ ih =>
    have hnames : names ≠ [] := by
      rintro rfl
      exact hroot (hdir ▸ Path.down_nil root)
    exact ih names.dropLast (by rw [← hdir, Path.parent_down root hnames])

/-! ### Sources -/

/-- No root lies inside another. -/
def RootsApart (s : Scanner) : Prop :=
  ∀ r ∈ s.roots, ∀ r' ∈ s.roots, r.anchor = r'.anchor → r.names <+: r'.names → r = r'

theorem RootsApart.eq (h : s.RootsApart) {r r' : Path} (hr : r ∈ s.roots) (hr' : r' ∈ s.roots)
    {names names' : List String} (hdown : r.down names = r'.down names') :
    r = r' ∧ names = names' := by
  obtain ⟨hanchor, hall⟩ := Path.mk.inj hdown
  have hsame : r = r' := by
    rcases List.prefix_or_prefix_of_prefix (List.prefix_append r.names names)
      (hall ▸ List.prefix_append r'.names names') with hbelow | hbelow
    · exact h r hr r' hr' hanchor hbelow
    · exact (h r' hr' r hr hanchor.symm hbelow).symm
  subst hsame
  exact ⟨rfl, Path.down_inj hdown⟩

theorem owner?_down (h : s.RootsApart) {root : Path} (hroot : root ∈ s.roots)
    (names : List String) : s.owner? (root.down names) = some (root, names) := by
  have hbelow : (root.down names).below? root = some names := Path.below?_eq_some_iff_down.2 rfl
  unfold owner?
  cases hfound : s.roots.findSome?
    fun r => ((root.down names).below? r).map fun names => (r, names) with
  | none =>
    have := List.findSome?_eq_none_iff.1 hfound root hroot
    rw [hbelow] at this
    cases this
  | some found =>
    obtain ⟨r, hr, hsome⟩ := List.exists_of_findSome?_eq_some hfound
    obtain ⟨names', hbelow', rfl⟩ := Option.map_eq_some_iff.1 hsome
    obtain ⟨rfl, rfl⟩ := h.eq hroot hr (Path.below?_eq_some_iff_down.1 hbelow')
    rfl

theorem exists_of_owner? {p root : Path} {names : List String}
    (h : s.owner? p = some (root, names)) : root ∈ s.roots ∧ p = root.down names := by
  obtain ⟨r, hr, hsome⟩ := List.exists_of_findSome?_eq_some h
  obtain ⟨names', hbelow, hpair⟩ := Option.map_eq_some_iff.1 hsome
  cases hpair
  exact ⟨hr, Path.below?_eq_some_iff_down.1 hbelow⟩

/-- **A path names a source exactly if its names clear the way down from the first root above
it.** -/
theorem acceptsResolved?_eq_true_iff {p : Path} (hp : p.names ≠ []) :
    s.acceptsResolved? p = some true ↔
      ∃ root names, s.owner? p = some (root, names) ∧ s.clears root names = true := by
  unfold acceptsResolved?
  constructor
  · intro haccepts
    split at haccepts
    · cases haccepts
    rename_i hextension
    split at haccepts
    · cases haccepts
    rename_i root names howner
    obtain ⟨-, rfl⟩ := exists_of_owner? howner
    split at haccepts
    · cases haccepts
    rename_i hskipped
    split at haccepts
    · rename_i hclear
      -- The way up from the parent reaches the root, so the path is below it.
      have hne : names ≠ [] := by
        rintro rfl
        obtain ⟨below, hbelow⟩ := exists_down_of_clearUp? hclear
        have hlength := Path.length_names_parent_lt hp
        rw [hbelow] at hlength
        simp only [Path.down, List.append_nil, List.length_append] at hlength
        omega
      rw [Path.parent_down root hne, clearUp?_down] at hclear
      refine ⟨root, names, howner, clears_iff.2 ⟨hne, by simpa using hextension, ?_, ?_, hclear⟩⟩
      · simpa using haccepts
      · simpa using hskipped
    · rename_i hother
      exact absurd haccepts hother
  · rintro ⟨root, names, howner, hclears⟩
    obtain ⟨-, rfl⟩ := exists_of_owner? howner
    have hc := clears_iff.1 hclears
    have hskipped : ¬names.dropLast.any skippedDirectories.contains = true := by
      rw [List.any_eq_true]
      rintro ⟨n, hn, hcontains⟩
      rw [hc.skipped n hn] at hcontains
      cases hcontains
    have hclear : s.clearUp? root (root.down names).parent = some true := by
      rw [Path.parent_down root hc.ne_nil, clearUp?_down]
      exact hc.above
    rw [hc.extension, howner]
    dsimp only
    rw [if_neg (by simp), if_neg hskipped, hclear]
    simp [hc.file]

/-- Where no root lies inside another, it may be any root. -/
theorem acceptsResolved?_iff (h : s.RootsApart) {p : Path} (hp : p.names ≠ []) :
    s.acceptsResolved? p = some true ↔
      ∃ root ∈ s.roots, ∃ names, p = root.down names ∧ s.clears root names = true := by
  rw [acceptsResolved?_eq_true_iff hp]
  constructor
  · rintro ⟨root, names, howner, hclears⟩
    obtain ⟨hroot, hdown⟩ := exists_of_owner? howner
    exact ⟨root, hroot, names, hdown, hclears⟩
  · rintro ⟨root, hroot, names, rfl, hclears⟩
    exact ⟨root, names, owner?_down h hroot names, hclears⟩

end Scanner

end ProbeKit
