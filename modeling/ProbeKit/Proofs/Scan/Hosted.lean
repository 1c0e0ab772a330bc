import ProbeKit.Proofs.Disk.Below
import ProbeKit.Proofs.Scan.Way

/-!
# The same tree at two places

`Disk.Hosts d base tree` says that a tree without links stands at a place of a disk.  Paths below that
place lead where the tree says, whatever else there is on the disk: if the same tree stands at a place of
another disk, perhaps listed in another order, then the same names lead to the same spot below both places
(`Disk.locate_alike`).  So both disks agree on which of these paths are directories and what the files hold
(`Disk.hasDirectory_eq`, `Disk.read?_eq`), and on what they are resolved to (`Disk.Hosts.resolve_append`).
-/

namespace ProbeKit

namespace Node

/-- Two trees that differ at most in the order in which their directories list what is in them. -/
def Same (tree tree' : Node) : Prop := ∀ place, tree.view place = tree'.view place

/-- A tree as a file system lists it. -/
structure Orderly (tree : Node) : Prop where
  /-- No directory lists a name twice. -/
  distinct : ∀ place entries, tree.at? place = some (.dir entries) → (entries.map (·.1)).Nodup
  /-- Every name is one that a file can have. -/
  names : ∀ place node, tree.at? place = some node → ∀ n ∈ place, Disk.IsName n

/-- A directory that is listed in another order is the same. -/
theorem same_of_perm {entries entries' : List (String × Node)} (h : (entries.map (·.1)).Nodup)
    (hperm : entries.Perm entries') : (dir entries).Same (dir entries') := by
  intro place
  cases place with
  | nil => rfl
  | cons name rest => rw [view_dir_cons, view_dir_cons, lookup_eq_of_perm h hperm]

theorem same_child (name : String) {child child' : Node} (h : child.Same child') :
    (dir [(name, child)]).Same (dir [(name, child')]) := by
  intro place
  cases place with
  | nil => rfl
  | cons other rest =>
    rw [view_dir_cons, view_dir_cons, List.lookup_cons, List.lookup_cons]
    cases other == name with
    | true => exact h rest
    | false => rfl

theorem orderly_file (bytes : ByteArray) : (file bytes).Orderly := by
  constructor
  · intro place entries hat
    cases place with
    | nil => cases hat
    | cons name rest => cases hat
  · intro place node hat
    cases place with
    | nil => exact fun n hn => absurd hn List.not_mem_nil
    | cons name rest => cases hat

theorem orderly_dir {entries : List (String × Node)} (hdistinct : (entries.map (·.1)).Nodup)
    (h : ∀ e ∈ entries, Disk.IsName e.1 ∧ e.2.Orderly) : (dir entries).Orderly := by
  constructor
  · intro place found hat
    cases place with
    | nil =>
      cases hat
      exact hdistinct
    | cons name rest =>
      rw [at?] at hat
      obtain ⟨child, hlookup, hchild⟩ := Option.bind_eq_some_iff.1 hat
      exact (h _ (mem_of_lookup hlookup)).2.distinct rest found hchild
  · intro place node hat
    cases place with
    | nil => exact fun n hn => absurd hn List.not_mem_nil
    | cons name rest =>
      rw [at?] at hat
      obtain ⟨child, hlookup, hchild⟩ := Option.bind_eq_some_iff.1 hat
      obtain ⟨hname, hbelow⟩ := h _ (mem_of_lookup hlookup)
      intro n hn
      rcases List.mem_cons.1 hn with rfl | hn
      · exact hname
      · exact hbelow.names rest node hchild n hn

theorem Same.mark_eq {tree tree' node node' : Node} {place : List String} (h : tree.Same tree')
    (hat : tree.at? place = some node) (hat' : tree'.at? place = some node') :
    node.mark = node'.mark := by
  have hview := h place
  rw [view, view, hat, hat'] at hview
  exact Option.some.inj hview

theorem Same.isDir_eq {tree tree' node node' : Node} {place : List String} (h : tree.Same tree')
    (hat : tree.at? place = some node) (hat' : tree'.at? place = some node') :
    node.isDir = node'.isDir := by
  have hmark := h.mark_eq hat hat'
  cases node <;> cases node' <;> cases hmark <;> rfl

/-- The same trees have directories at the same places. -/
theorem Same.any_isDir_eq {tree tree' : Node} (h : tree.Same tree') (place : List String) :
    (tree.at? place).any isDir = (tree'.at? place).any isDir := by
  have hview := h place
  rw [view, view] at hview
  cases hat : tree.at? place with
  | none =>
    rw [hat] at hview
    rw [Option.map_eq_none_iff.1 hview.symm]
  | some node =>
    rw [hat] at hview
    obtain ⟨node', hat', -⟩ := Option.map_eq_some_iff.1 hview.symm
    rw [hat', Option.any_some, Option.any_some, h.isDir_eq hat hat']

end Node

namespace Disk

/-- A tree without links stands at a place of a disk. -/
structure Hosts (d : Disk) (base : Path) (tree : Node) : Prop where
  /-- The place begins at the root. -/
  anchor : base.anchor = .root
  /-- Its names are proper. -/
  names : ∀ n ∈ base.names, IsName n
  /-- The tree stands there. -/
  stands : d.top.at? base.names = some tree
  /-- The tree is a directory. -/
  isDir : tree.isDir = true
  /-- There are no links in it. -/
  linkFree : tree.LinkFree
  /-- It is listed as a file system lists trees. -/
  orderly : tree.Orderly

variable {d d' : Disk} {base base' : Path} {tree tree' : Node} {names : List String}

namespace Hosts

theorem at?_append (h : d.Hosts base tree) (q : List String) :
    d.top.at? (base.names ++ q) = tree.at? q := by
  rw [Node.at?_append, h.stands, Option.bind_some]

theorem view_append (h : d.Hosts base tree) (q : List String) :
    d.top.view (base.names ++ q) = tree.view q := by
  rw [Node.view_append, h.stands, Option.bind_some]

theorem view_nil (h : d.Hosts base tree) : tree.view [] = some .dir := view_nil_of_isDir h.isDir

theorem view_base (h : d.Hosts base tree) : d.top.view ([] ++ base.names) = some .dir := by
  rw [← h.view_nil, ← h.view_append, List.append_nil, List.nil_append]

theorem absoluteNames_down (h : d.Hosts base tree) (names : List String) :
    d.absoluteNames (base.down names) = base.names ++ names :=
  if_pos (by simp [Path.isAbsolute, Path.down, h.anchor])

theorem hasNull_down (h : d.Hosts base tree) (names : List String) :
    (base.down names).names.any hasNull = names.any hasNull := by
  have hbase : base.names.any hasNull = false := by
    simpa using fun n hn => (h.names n hn).noNull
  show (base.names ++ names).any hasNull = _
  rw [List.any_append, hbase, Bool.false_or]

end Hosts

/-! ### Following names -/

/-- What the next name leads to, unless it is a dot. -/
theorem walk_cons_of_dotless {top : Node} {links : Nat} {place rest : List String} {name : String}
    (h : Dotless name) :
    walk top .target links place (name :: rest) =
      if nameLimit < name.utf8ByteSize then .error .tooLong
      else
        match top.at? (place ++ [name]) with
        | none => if rest.isEmpty then .ok (.free (place ++ [name])) else .error .missing
        | some (.dir _) => walk top .target links (place ++ [name]) rest
        | some (.file bytes) =>
          if rest.isEmpty then .ok (.found (place ++ [name]) (.file bytes)) else .error .notDirectory
        | some (.link target) =>
          match links with
          | 0 => .error .tooManyLinks
          | k + 1 =>
            walk top .target k (if fromTop target then [] else place) (linkNames target ++ rest) := by
  have hentry : decide (Aim.target = Aim.entry) = false := rfl
  rw [walk, h.1, h.2, hentry, Bool.and_false]
  rfl

/-- Directories are passed on the way. -/
theorem walk_down {top : Node} {links : Nat} {place more : List String}
    (hnames : ∀ n ∈ names, IsName n) (hdir : top.view (place ++ names) = some .dir) :
    walk top .target links place (names ++ more) =
      walk top .target links (place ++ names) more := by
  induction names generalizing place with
  | nil => rw [List.nil_append, List.append_nil]
  | cons name rest ih =>
    rw [List.append_cons] at hdir ⊢
    have hname := hnames name List.mem_cons_self
    obtain ⟨entries, hat⟩ : ∃ entries, top.at? (place ++ [name]) = some (.dir entries) := by
      refine Node.view_eq_dir_iff.1 ?_
      cases rest with
      | nil => simpa using hdir
      | cons => exact Node.view_eq_dir_of_append (List.cons_ne_nil _ _) (by rw [hdir]; rfl)
    rw [List.cons_append, walk_cons_of_dotless hname.dotless, if_neg (Nat.not_lt.2 hname.short), hat]
    exact ih (fun n hn => hnames n (List.mem_cons_of_mem _ hn)) hdir

/-- Two disks say the same of names below places with the same tree. -/
inductive Alike (base base' : Path) (tree tree' : Node) (names : List String) :
    Except Refused Spot → Except Refused Spot → Prop where
  /-- They lead to the same node of the tree. -/
  | found {node node' : Node} (h : tree.at? names = some node) (h' : tree'.at? names = some node') :
    Alike base base' tree tree' names (.ok (.found (base.names ++ names) node))
      (.ok (.found (base'.names ++ names) node'))
  /-- They lead to a free name. -/
  | free : Alike base base' tree tree' names (.ok (.free (base.names ++ names)))
      (.ok (.free (base'.names ++ names)))
  /-- They lead nowhere, for the same reason; a name that is too long is among them. -/
  | refused {reason : Refused} (hloop : reason ≠ .tooManyLinks)
      (hlong : reason = .tooLong → ∃ n ∈ names, nameLimit < n.utf8ByteSize) :
    Alike base base' tree tree' names (.error reason) (.error reason)

section
variable (h : d.Hosts base tree) (h' : d'.Hosts base' tree') (hsame : tree.Same tree')
include h h' hsame

/-- From the same directory of the tree the same names lead to the same spot. -/
theorem walk_alike {q rest : List String} (links : Nat) (hrest : ∀ n ∈ rest, Dotless n)
    (hdir : tree.view q = some .dir) :
    Alike base base' tree tree' (q ++ rest) (walk d.top .target links (base.names ++ q) rest)
      (walk d'.top .target links (base'.names ++ q) rest) := by
  induction rest generalizing q with
  | nil =>
    obtain ⟨entries, hat⟩ := Node.view_eq_dir_iff.1 hdir
    obtain ⟨entries', hat'⟩ := Node.view_eq_dir_iff.1 ((hsame q).symm.trans hdir)
    rw [walk, walk, h.at?_append, h'.at?_append, hat, hat', List.append_nil]
    exact .found hat hat'
  | cons name rest ih =>
    have hname := hrest name List.mem_cons_self
    have hview := hsame (q ++ [name])
    rw [walk_cons_of_dotless hname, walk_cons_of_dotless hname, List.append_assoc, List.append_assoc,
      h.at?_append, h'.at?_append]
    by_cases hlong : nameLimit < name.utf8ByteSize
    · rw [if_pos hlong, if_pos hlong]
      exact .refused (by simp) fun _ => ⟨name, by simp, hlong⟩
    rw [if_neg hlong, if_neg hlong]
    rcases hat : tree.at? (q ++ [name]) with _ | (bytes | target | entries)
    · rw [Node.view_eq_none_iff.1 (hview.symm.trans (Node.view_eq_none_iff.2 hat))]
      cases rest with
      | nil => exact .free
      | cons => exact .refused (by simp) (by simp)
    · have hat' := Node.view_eq_file_iff.1 (hview.symm.trans (Node.view_eq_file_iff.2 hat))
      rw [hat']
      cases rest with
      | nil => exact .found hat hat'
      | cons => exact .refused (by simp) (by simp)
    · exact absurd (Node.view_eq_link_iff.2 hat) (h.linkFree _ target)
    · have hdir' := Node.view_eq_dir_iff.2 ⟨entries, hat⟩
      obtain ⟨entries', hat'⟩ := Node.view_eq_dir_iff.1 (hview.symm.trans hdir')
      rw [hat', List.append_cons q name rest]
      exact ih (fun n hn => hrest n (List.mem_cons_of_mem _ hn)) hdir'

/-- **Below the same tree the same names lead to the same spot.** -/
theorem locate_alike (hnames : ∀ n ∈ names, Dotless n) :
    Alike base base' tree tree' names (d.locate (base.down names)) (d'.locate (base'.down names)) := by
  unfold locate locateFor
  rw [h.hasNull_down, h'.hasNull_down, h.absoluteNames_down, h'.absoluteNames_down]
  split
  · exact .refused (by simp) (by simp)
  · rw [walk_down h.names h.view_base, walk_down h'.names h'.view_base]
    have halike := walk_alike h h' hsame linkLimit hnames h.view_nil
    rwa [List.append_nil, List.append_nil] at halike

/-! ### What is there -/

/-- The same paths are directories. -/
theorem hasDirectory_eq (hnames : ∀ n ∈ names, Dotless n) :
    d.hasDirectory (base.down names) = d'.hasDirectory (base'.down names) := by
  unfold hasDirectory node?
  have halike := locate_alike h h' hsame hnames
  generalize d.locate (base.down names) = located at halike ⊢
  generalize d'.locate (base'.down names) = located' at halike ⊢
  cases halike with
  | free => rfl
  | refused => rfl
  | found hat hat' => exact hsame.isDir_eq hat hat'

/-- The same files can be read, and they hold the same. -/
theorem read?_eq (hnames : ∀ n ∈ names, Dotless n) :
    d.read? (base.down names) = d'.read? (base'.down names) := by
  unfold read? read
  have halike := locate_alike h h' hsame hnames
  generalize d.locate (base.down names) = located at halike ⊢
  generalize d'.locate (base'.down names) = located' at halike ⊢
  cases halike with
  | free => rfl
  | refused => rfl
  | @found node node' hat hat' =>
    have hmark := hsame.mark_eq hat hat'
    cases node <;> cases node' <;> cases hmark <;> rfl

/-- A file that can be read is a file of the tree. -/
theorem at?_of_read? (hnames : ∀ n ∈ names, Dotless n) {bytes : ByteArray}
    (hread : d.read? (base.down names) = some bytes) : tree.at? names = some (.file bytes) := by
  unfold read? read at hread
  have halike := locate_alike h h' hsame hnames
  generalize d.locate (base.down names) = located at halike hread
  generalize d'.locate (base'.down names) = located' at halike
  cases halike with
  | free => cases hread
  | refused => cases hread
  | @found node node' hat hat' =>
    cases node <;> cases hread
    exact hat

/-- What looking for names finds below both places: the same node of the tree, or nothing, or the same
obstacle. -/
theorem look_alike (hnames : ∀ n ∈ names, Dotless n) :
    (∃ node node', tree.at? names = some node ∧ tree'.at? names = some node' ∧
      d.look (base.down names) = .ok (some node) ∧ d'.look (base'.down names) = .ok (some node')) ∨
    (d.look (base.down names) = .ok none ∧ d'.look (base'.down names) = .ok none) ∨
    ((∃ e e', d.look (base.down names) = .error e ∧ d'.look (base'.down names) = .error e') ∧
      ∃ n ∈ names, nameLimit < n.utf8ByteSize) := by
  unfold look
  have halike := locate_alike h h' hsame hnames
  generalize d.locate (base.down names) = located at halike ⊢
  generalize d'.locate (base'.down names) = located' at halike ⊢
  cases halike with
  | found hat hat' => exact .inl ⟨_, _, hat, hat', rfl, rfl⟩
  | free => exact .inr (.inl ⟨rfl, rfl⟩)
  | @refused reason _ hlong =>
    cases reason with
    | tooLong => exact .inr (.inr ⟨⟨_, _, rfl, rfl⟩, hlong rfl⟩)
    | _ => exact .inr (.inl ⟨rfl, rfl⟩)

end

/-- **What is behind a path is resolved below it**, if the path leads to the tree. -/
theorem Hosts.resolve_append {p rest : Path} (h : d.Hosts base tree) (hp : d.resolve p = .ok base)
    (hnames : ∀ n ∈ d.absoluteNames p, n ≠ "") (hrest : rest.anchor = .relative)
    (hdotless : ∀ n ∈ rest.names, Dotless n) (hnull : ¬rest.names.any hasNull) :
    d.resolve (p ++ rest) = .ok (base.down rest.names) := by
  have hdown : base.down rest.names = ⟨.root, base.names ++ rest.names⟩ := by
    rw [Path.down, h.anchor]
  rw [hdown]
  refine Disk.resolve_append hp hnames hrest hdotless hnull (fun q target => ?_) ?_
  · rw [h.view_append]
    exact h.linkFree q target
  · have halike := locate_alike h h (fun _ => rfl) hdotless
    rw [hdown] at halike
    intro hloop
    rw [hloop] at halike
    cases halike with
    | refused hreason => exact hreason rfl

end Disk

end ProbeKit
