import ProbeKit.Proofs.Scan.Accepting

/-!
# When the way up ends

Whether a path names a source is decided by going up from it, directory by directory, and nothing
but the root or a directory that is left out ends that way: the top of the disk is above itself.
`Scanner.clearWithin?` goes up for so many turns and no further, so that a way that never ends is
one for which no number of turns is enough.  `Scanner.accepts_ends_iff` says for which paths it
ends: for all but the roots that own themselves and have the suffix of a source.  A source that
is listed among the directories of sources is such a path (`Scanner.exists_circling`).
-/

namespace ProbeKit

open Disk (IsName IsStep)

namespace Scanner

variable {s : Scanner}

/-! ### Turn by turn -/

/-- Goes up from a directory to a root in at most so many turns.  Every turn looks at one directory
and goes on to the one above it, which for the top is the top again.  There is no answer once the
turns are used up. -/
def clearWithin? (s : Scanner) (root : Path) : Nat → Path → Option Bool
  | 0, _ => none
  | turns + 1, dir =>
    if dir = root then some true
    else if s.excludes dir true then some false
    else s.clearWithin? root turns dir.parent

/-- An answer that is found in some turns is the answer. -/
theorem clearUp?_of_clearWithin? {root dir : Path} {turns : Nat} {clear : Bool}
    (h : s.clearWithin? root turns dir = some clear) : s.clearUp? root dir = some clear := by
  induction turns generalizing dir with
  | zero => cases h
  | succ turns ih =>
    rw [clearWithin?] at h
    rw [clearUp?]
    by_cases hroot : dir = root
    · rw [if_pos hroot] at h ⊢
      exact h
    rw [if_neg hroot] at h ⊢
    by_cases hexcluded : s.excludes dir true = true
    · rw [if_pos hexcluded] at h ⊢
      exact h
    rw [if_neg hexcluded] at h ⊢
    by_cases hnames : dir.names = []
    · -- The top is above itself, so the turns that are left have found the answer for the top.
      have htop : dir.parent = dir := by
        rw [Path.parent, hnames]
        exact congrArg (Path.mk dir.anchor) hnames.symm
      have hsame := ih h
      rw [htop, clearUp?, if_neg hroot, if_neg hexcluded, dif_pos hnames] at hsame
      cases hsame
    · rw [dif_neg hnames]
      exact ih h

/-- One turn for each name, and one for the top, are enough for an answer. -/
theorem clearWithin?_of_clearUp? {root dir : Path} {clear : Bool}
    (h : s.clearUp? root dir = some clear) {turns : Nat} (hturns : dir.names.length < turns) :
    s.clearWithin? root turns dir = some clear := by
  obtain ⟨turns, rfl⟩ := Nat.exists_eq_add_of_lt hturns
  fun_induction clearUp? s root dir generalizing turns with
  | case1 => rw [clearWithin?, if_pos rfl, ← h]
  | case2 dir hroot hexcluded => rw [clearWithin?, if_neg hroot, if_pos hexcluded, ← h]
  | case3 => cases h
  | case4 dir hroot hexcluded hnames ih =>
    rw [clearWithin?, if_neg hroot, if_neg hexcluded]
    have hlength := Path.length_names_parent_lt hnames
    obtain ⟨spare, hspare⟩ := Nat.exists_eq_add_of_lt hlength
    have hih := ih h (turns + spare) (by omega)
    rwa [show dir.parent.names.length + (turns + spare) + 1 = dir.names.length + turns by omega]
      at hih

/-- **The way up never ends exactly if neither the root nor a directory that is left out is on
it.** -/
theorem clearUp?_eq_none_iff {root dir : Path} :
    s.clearUp? root dir = none ↔
      ∀ names, names <+: dir.names →
        (⟨dir.anchor, names⟩ : Path) ≠ root ∧ s.excludes ⟨dir.anchor, names⟩ true = false := by
  fun_induction clearUp? s root dir with
  | case1 =>
    refine iff_of_false (Option.some_ne_none _) fun h => ?_
    exact (h root.names (List.prefix_refl _)).1 rfl
  | case2 dir _ hexcluded =>
    refine iff_of_false (Option.some_ne_none _) fun h => ?_
    have hclear := (h dir.names (List.prefix_refl _)).2
    rw [hexcluded] at hclear
    cases hclear
  | case3 dir hroot hexcluded hnames =>
    refine iff_of_true rfl fun names hprefix => ?_
    obtain rfl : names = dir.names := by
      rw [hnames] at hprefix ⊢
      exact List.prefix_nil.1 hprefix
    exact ⟨hroot, Bool.eq_false_iff.2 hexcluded⟩
  | case4 dir hroot hexcluded hnames ih =>
    rw [ih]
    -- A directory on the way up is the one where the way begins, or it is on the way from the one
    -- above.
    have hsplit (names : List String) :
        names <+: dir.names ↔ names = dir.names ∨ names <+: dir.parent.names := by
      obtain ⟨above, last, hdir⟩ := List.eq_nil_or_concat dir.names |>.resolve_left hnames
      rw [List.concat_eq_append] at hdir
      rw [Path.parent, hdir, List.dropLast_concat, List.prefix_concat_iff]
    constructor
    · intro h names hprefix
      rcases (hsplit names).1 hprefix with rfl | habove
      · exact ⟨hroot, Bool.eq_false_iff.2 hexcluded⟩
      · exact h names habove
    · exact fun h names habove => h names ((hsplit names).2 (.inr habove))

/-! ### Paths without an answer -/

/-- Whether an absolute path without links names a source, if the way up from it to the root that
owns it is found in a given way. -/
def acceptsBy (s : Scanner) (up : Path → Path → Option Bool) (p : Path) : Option Bool :=
  if !s.hasExtension p then some false
  else
    match s.owner? p with
    | none => some false
    | some (root, names) =>
      if names.dropLast.any skippedDirectories.contains then some false
      else (up root p.parent).map fun clear => clear && !s.excludes p false

theorem acceptsResolved?_eq (s : Scanner) (p : Path) :
    s.acceptsResolved? p = s.acceptsBy s.clearUp? p := by
  unfold acceptsResolved? acceptsBy
  cases hextension : s.hasExtension p with
  | false => rfl
  | true =>
    cases s.owner? p with
    | none => rfl
    | some owner =>
      cases hskipped : owner.2.dropLast.any skippedDirectories.contains with
      | true => simp [hskipped]
      | false =>
        dsimp only
        rw [hskipped]
        rcases s.clearUp? owner.1 p.parent with _ | _ | _ <;> rfl

/-- A way up that has more answers makes for more answers. -/
theorem acceptsBy_of_acceptsBy {up up' : Path → Path → Option Bool} {p : Path}
    (hup : ∀ root clear, up root p.parent = some clear → up' root p.parent = some clear)
    {answer : Bool} (h : s.acceptsBy up p = some answer) : s.acceptsBy up' p = some answer := by
  unfold acceptsBy at h ⊢
  cases hextension : s.hasExtension p with
  | false =>
    rw [hextension] at h
    exact h
  | true =>
    rw [hextension] at h
    cases howner : s.owner? p with
    | none =>
      rw [howner] at h
      exact h
    | some owner =>
      rw [howner] at h
      cases hskipped : owner.2.dropLast.any skippedDirectories.contains with
      | true =>
        dsimp only at h ⊢
        rw [hskipped] at h ⊢
        exact h
      | false =>
        dsimp only at h ⊢
        rw [hskipped] at h ⊢
        obtain ⟨clear, hclear, hanswer⟩ := Option.map_eq_some_iff.1 h
        exact Option.map_eq_some_iff.2 ⟨clear, hup owner.1 clear hclear, hanswer⟩

/-- Whether an absolute path without links names a source, with so many turns for the way up. -/
def acceptsWithin? (s : Scanner) (turns : Nat) (p : Path) : Option Bool :=
  s.acceptsBy (fun root dir => s.clearWithin? root turns dir) p

theorem acceptsResolved?_of_acceptsWithin? {p : Path} {turns : Nat} {answer : Bool}
    (h : s.acceptsWithin? turns p = some answer) : s.acceptsResolved? p = some answer := by
  rw [acceptsResolved?_eq]
  exact acceptsBy_of_acceptsBy (fun _ _ => clearUp?_of_clearWithin?) h

/-- As many turns as a path has names, and one more, are enough for an answer. -/
theorem acceptsWithin?_of_acceptsResolved? {p : Path} {answer : Bool}
    (h : s.acceptsResolved? p = some answer) {turns : Nat} (hturns : p.names.length < turns) :
    s.acceptsWithin? turns p = some answer := by
  rw [acceptsResolved?_eq] at h
  refine acceptsBy_of_acceptsBy (fun root clear hclear => ?_) h
  refine clearWithin?_of_clearUp? hclear ?_
  rw [Path.parent, List.length_dropLast]
  omega

/-- A path whose way up goes past the root that owns it: the path is that root itself, and nothing
above it is left out. -/
structure Circles (s : Scanner) (p : Path) : Prop where
  /-- It is not the top. -/
  ne_nil : p.names ≠ []
  /-- It has the suffix of a source. -/
  extension : s.hasExtension p = true
  /-- It is the first root at or above it. -/
  owner : s.owner? p = some (p, [])
  /-- No directory above it is left out. -/
  above : ∀ names, names <+: p.names.dropLast → s.excludes ⟨p.anchor, names⟩ true = false

/-- **There is no answer exactly for the paths whose way up goes past their root.** -/
theorem acceptsResolved?_eq_none_iff {p : Path} :
    s.acceptsResolved? p = none ↔ s.Circles p := by
  constructor
  · intro h
    have howner := owner?_of_acceptsResolved?_eq_none h
    unfold acceptsResolved? at h
    split at h
    · cases h
    rename_i hextension
    rw [howner] at h
    dsimp only at h
    have hnone : s.clearUp? p p.parent = none := by
      split at h
      · cases h
      · split at h
        · cases h
        · exact h
    have habove := clearUp?_eq_none_iff.1 hnone
    refine ⟨fun hnil => ?_, by simpa using hextension, howner, fun names hnames =>
      (habove names hnames).2⟩
    refine (habove p.names (by rw [Path.parent, hnil]; exact List.prefix_refl _)).1 ?_
    rfl
  · intro h
    -- The way begins above the path, so it cannot come to the path itself.
    have hnone : s.clearUp? p p.parent = none := by
      refine clearUp?_eq_none_iff.2 fun names hnames => ⟨fun hroot => ?_, h.above names hnames⟩
      have hshort := hnames.length_le
      have hlong := Path.length_names_parent_lt h.ne_nil
      obtain rfl : names = p.names := congrArg Path.names hroot
      omega
    unfold acceptsResolved?
    rw [h.extension, h.owner]
    dsimp only
    rw [hnone]
    simp

/-! ### Paths in general -/

/-- Whether a path names a source, with so many turns for the way up. -/
def answerWithin? (s : Scanner) (d : Disk) (turns : Nat) (p : Path) :
    Except DiskError (Option Bool) :=
  (d.resolve p).map (s.acceptsWithin? turns)

theorem answerWithin?_of_circles {d : Disk} {p q : Path} (hresolve : d.resolve p = .ok q)
    (h : s.Circles q) (turns : Nat) : s.answerWithin? d turns p = .ok none := by
  rw [answerWithin?, hresolve]
  cases hwithin : s.acceptsWithin? turns q with
  | none => exact congrArg Except.ok hwithin
  | some answer =>
    have hanswer := acceptsResolved?_of_acceptsWithin? hwithin
    rw [acceptsResolved?_eq_none_iff.2 h] at hanswer
    cases hanswer

theorem answerWithin?_of_not_circles {d : Disk} {p q : Path} (hresolve : d.resolve p = .ok q)
    (h : ¬ s.Circles q) :
    ∃ answer, s.accepts? d p = .ok (some answer) ∧
      ∀ turns, q.names.length < turns → s.answerWithin? d turns p = .ok (some answer) := by
  obtain ⟨answer, hanswer⟩ := Option.ne_none_iff_exists'.1 (mt acceptsResolved?_eq_none_iff.1 h)
  refine ⟨answer, ?_, fun turns hturns => ?_⟩
  · rw [accepts?, hresolve]
    exact congrArg Except.ok hanswer
  · rw [answerWithin?, hresolve]
    exact congrArg Except.ok (acceptsWithin?_of_acceptsResolved? hanswer hturns)

/-- **To ask whether a path names a source comes to an end, unless the path is the first root at or
above it, has the suffix of a source and lies below no directory that is left out.**  If it comes
to an end, then after one turn for each name of the path and one more, and with the same answer
however many turns are left. -/
theorem accepts_ends_iff (s : Scanner) (d : Disk) (p : Path) :
    ((∃ turns, s.answerWithin? d turns p ≠ .ok none) ↔
        ∀ q, d.resolve p = .ok q → ¬ s.Circles q) ∧
      ∀ q, d.resolve p = .ok q → ¬ s.Circles q → ∃ answer, s.accepts? d p = .ok (some answer) ∧
        ∀ turns, q.names.length < turns → s.answerWithin? d turns p = .ok (some answer) := by
  refine ⟨⟨?_, fun h => ?_⟩, fun q hresolve => answerWithin?_of_not_circles hresolve⟩
  · rintro ⟨turns, hturns⟩ q hresolve hcircles
    exact hturns (answerWithin?_of_circles hresolve hcircles turns)
  · cases hresolve : d.resolve p with
    | error e =>
      refine ⟨0, ?_⟩
      rw [answerWithin?, hresolve]
      exact fun hok => nomatch hok
    | ok q =>
      obtain ⟨answer, -, hall⟩ := answerWithin?_of_not_circles hresolve (h q hresolve)
      refine ⟨q.names.length + 1, ?_⟩
      rw [hall _ (Nat.lt_succ_self _)]
      exact fun hok => nomatch hok

/-! ### A source among the directories of sources -/

/-- The disk of a project with one source. -/
def listedDisk : Disk :=
  { top := .dir [("p", .dir [("t", .dir [("a.js", .file (Text.encode nestedText))])])], here := [] }

/-- Its settings: the source is listed in front of the directory that it is in. -/
def listedSettings : Settings :=
  { Settings.ofRoot ⟨.root, ["p"]⟩ with sourceDirs := ["t/a.js", "t"] }

/-- Its source. -/
def listedSource : Path := ⟨.root, ["p", "t", "a.js"]⟩

/-- Its scanner. -/
def listedScanner : Scanner :=
  { root := ⟨.root, ["p"]⟩
    roots := [listedSource, ⟨.root, ["p", "t"]⟩]
    extensions := [".js", ".mjs", ".cjs", ".ts"], exclusions := [] }

theorem linkFree_listedDisk : listedDisk.top.LinkFree :=
  Node.linkFree_of_linkCount_eq_zero (by
    simp [listedDisk, Node.linkCount, Node.linkCountIn])

theorem resolve_listedDisk {names : List String} (h : ∀ n ∈ names, IsName n) :
    listedDisk.resolve ⟨.root, names⟩ = .ok ⟨.root, names⟩ :=
  Disk.resolve_eq_self h linkFree_listedDisk rfl

theorem ofSettings_listedDisk : ofSettings listedDisk listedSettings = .ok listedScanner := by
  have hroots : listedSettings.sourceRoots = [listedSource, ⟨.root, ["p", "t"]⟩] := by
    decide +kernel
  have hextensions :
      listedSettings.extensions.map Text.lowercase = [".js", ".mjs", ".cjs", ".ts"] := by
    decide +kernel
  rw [ofSettings, show listedSettings.root = ⟨.root, ["p"]⟩ from rfl,
    resolve_listedDisk (by decide), hroots, List.mapM_cons, listedSource,
    resolve_listedDisk (by decide), List.mapM_cons, resolve_listedDisk (by decide), hextensions]
  rfl

theorem circles_listedSource : listedScanner.Circles listedSource := by
  refine ⟨by decide, by decide +kernel, by decide, fun names _ => rfl⟩

/-- A scan finds the source below the directory that it is in. -/
theorem mem_sourcesBelow_listedDisk :
    listedSource ∈ (listedScanner.sourcesBelow listedDisk listedScanner.roots).1 := by
  have hlook {names : List String} (h : ∀ n ∈ names, IsName n) :
      listedDisk.look ⟨.root, names⟩ = .ok (listedDisk.top.at? names) :=
    Disk.look_of_linkFree h linkFree_listedDisk rfl
  have hsource : listedSource ∈ listedScanner.sourcesIn listedDisk ⟨.root, ["p", "t"]⟩
      (.dir [("a.js", .file (Text.encode nestedText))]) :=
    mem_sourcesIn_of_clears linkFree_listedDisk rfl rfl (by decide) rfl rfl (by decide +kernel)
  rw [show listedScanner.roots = [⟨.root, ["p", "t", "a.js"]⟩, ⟨.root, ["p", "t"]⟩] from rfl,
    sourcesBelow, hlook (by decide), sourcesBelow, hlook (by decide), sourcesBelow]
  exact List.mem_append_right _ (List.mem_append_left _ hsource)

/-- **A source that is listed in front of its directory is scanned, but to ask whether it is a
source never comes to an end.** -/
theorem exists_circling : ∃ s,
    ofSettings listedDisk listedSettings = .ok s ∧ listedDisk.top.linkCount = 0 ∧
      listedSource ∈ (s.sourcesBelow listedDisk s.roots).1 ∧
        ∀ turns, s.answerWithin? listedDisk turns listedSource = .ok none := by
  refine ⟨listedScanner, ofSettings_listedDisk, ?_, mem_sourcesBelow_listedDisk,
    answerWithin?_of_circles (resolve_listedDisk (by decide)) circles_listedSource⟩
  simp [listedDisk, Node.linkCount, Node.linkCountIn]

end Scanner

end ProbeKit
