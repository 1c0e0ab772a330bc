import ProbeKit.Disk.Glob
import ProbeKit.Proofs.Disk.Overwriting
import ProbeKit.Proofs.Path.Text
import ProbeKit.Proofs.Results
import ProbeKit.Proofs.Scan.Elsewhere

/-!
# Files that fit a pattern

`Glob.Fits parts names` says of the names on the way from a base that they fit a pattern, whatever
there is on a disk.  A search goes on from one part of a pattern to the next (`Glob.gathers_select`), so
in a tree without links it finds exactly the paths of what is there under names that fit
(`Glob.mem_select_iff`).  It comes to an end unless a name that is too long is looked for
(`Glob.exists_select_iff`), and that is a matter of the directories alone (`Glob.clear_congr`).
-/

namespace ProbeKit

namespace Node

/-! ### Directories -/

theorem mem_directoriesIn {entries : List (String × Node)} {place : List String} :
    place ∈ directoriesIn entries ↔
      ∃ e ∈ entries, ∃ rest ∈ directories e.2, place = e.1 :: rest := by
  induction entries with
  | nil => simp [directoriesIn]
  | cons e rest ih =>
    obtain ⟨name, node⟩ := e
    rw [directoriesIn, List.mem_append, ih, List.mem_map]
    simp [eq_comm]

/-- What is in an orderly tree is orderly. -/
theorem Orderly.at? {tree node : Node} (h : tree.Orderly) {place : List String}
    (hat : tree.at? place = some node) : node.Orderly := by
  have hbelow (rest : List String) : tree.at? (place ++ rest) = node.at? rest := by
    rw [at?_append, hat, Option.bind_some]
  constructor
  · intro rest entries hrest
    exact h.distinct (place ++ rest) entries ((hbelow rest).trans hrest)
  · intro rest found hrest n hn
    exact h.names (place ++ rest) found ((hbelow rest).trans hrest) n (List.mem_append_right _ hn)

/-- The directories of an orderly tree are listed with their places. -/
theorem mem_directories_iff {node : Node} (h : node.Orderly) {place : List String} :
    place ∈ node.directories ↔ node.view place = some .dir := by
  induction place generalizing node with
  | nil => cases node <;> simp [directories, view_nil, mark]
  | cons name rest ih =>
    cases node with
    | file | link => simp [directories, view, at?_cons_of_leaf]
    | dir entries =>
      rw [directories, List.mem_cons, mem_directoriesIn, view_dir_cons]
      constructor
      · rintro (hnil | ⟨e, he, more, hmore, hplace⟩)
        · cases hnil
        · cases hplace
          rw [lookup_of_mem (h.distinct [] entries rfl) he]
          exact (ih (h.of_mem he).2).1 hmore
      · intro hview
        obtain ⟨child, hchild, hrest⟩ := Option.bind_eq_some_iff.1 hview
        have he := mem_of_lookup hchild
        exact .inr ⟨(name, child), he, rest, (ih (h.of_mem he).2).2 hrest, rfl⟩

end Node

namespace Disk

/-- A name can be asked for unless it is too long; with a null character in it no file system is
asked. -/
def Askable (name : String) : Prop := hasNull name = true ∨ name.utf8ByteSize ≤ nameLimit

namespace Hosts

variable {d : Disk} {base : Path} {tree : Node} {q : List String}

/-! ### Looking below a place -/

/-- Where a name in a directory of the tree leads. -/
theorem locate_child (h : d.Hosts base tree) (hdir : tree.view q = some .dir) {name : String}
    (hname : Dotless name) :
    d.locate ((base.down q).child name) =
      if hasNull name then .error .nullCharacter
      else if nameLimit < name.utf8ByteSize then .error .tooLong
      else
        match tree.at? (q ++ [name]) with
        | none => .ok (.free (base.names ++ q ++ [name]))
        | some node => .ok (.found (base.names ++ q ++ [name]) node) := by
  obtain ⟨entries, hat⟩ := Node.view_eq_dir_iff.1 hdir
  have hnames := h.isName_of_at? hat
  have hproper : q.any hasNull = false :=
    List.any_eq_false.2 fun n hn => by simp [(hnames n (List.mem_append_right _ hn)).noNull]
  have hdown : d.top.view ([] ++ (base.names ++ q)) = some .dir := by
    rw [List.nil_append, h.view_append]
    exact hdir
  -- Past the directories above only the last name is left to be followed.
  rw [← Path.down_concat, locate, locateFor, h.hasNull_down, h.absoluteNames_down, List.any_append,
    hproper, Bool.false_or, List.any_cons, List.any_nil, Bool.or_false, ← List.append_assoc,
    walk_down hnames hdown, walk_cons_of_dotless hname, List.nil_append, List.append_assoc,
    h.at?_append]
  refine if_congr Iff.rfl rfl (if_congr Iff.rfl rfl ?_)
  rcases hchild : tree.at? (q ++ [name]) with _ | (bytes | target | below)
  · rfl
  · rfl
  · exact absurd (Node.view_eq_link_iff.2 hchild) (h.linkFree _ target)
  · rw [walk, h.at?_append, hchild]
    rfl

/-- A name that is too long is an obstacle. -/
theorem look_child_of_not_askable (h : d.Hosts base tree) (hdir : tree.view q = some .dir)
    {name : String} (hname : Dotless name) (hlong : ¬Askable name) :
    d.look ((base.down q).child name) =
      .error (.refused .tooLong ((base.down q).child name)) := by
  rw [Askable, not_or, Nat.not_le] at hlong
  rw [look, h.locate_child hdir hname, if_neg hlong.1, if_pos hlong.2]

/-- Looking for any other name gives what is there. -/
theorem look_child (h : d.Hosts base tree) (hdir : tree.view q = some .dir) {name : String}
    (hname : Dotless name) (hask : Askable name) :
    d.look ((base.down q).child name) = .ok (tree.at? (q ++ [name])) := by
  rw [look, h.locate_child hdir hname]
  by_cases hnull : hasNull name = true
  · have hnone : tree.at? (q ++ [name]) = none := by
      refine Option.eq_none_iff_forall_ne_some.2 fun node hat => ?_
      rw [(h.orderly.names _ node hat name (by simp)).noNull] at hnull
      cases hnull
    rw [if_pos hnull, hnone]
  · rw [if_neg hnull, if_neg (Nat.not_lt.2 (hask.resolve_left hnull))]
    cases tree.at? (q ++ [name]) <;> rfl

/-- A path to a node of the tree leads there. -/
theorem locate_down (h : d.Hosts base tree) {node : Node} (hat : tree.at? q = some node) :
    d.locate (base.down q) = .ok (.found (base.names ++ q) node) := by
  rcases List.eq_nil_or_concat q with rfl | ⟨q, name, rfl⟩
  · rw [locate, locateFor, h.hasNull_down, h.absoluteNames_down]
    rw [if_neg (by simp), walk_down h.names h.view_base, walk, List.nil_append, h.stands,
      List.append_nil]
    cases hat
    rfl
  · rw [List.concat_eq_append] at hat ⊢
    have hname : IsName name := h.orderly.names _ node hat name (by simp)
    have hdir : tree.view q = some .dir :=
      Node.view_eq_dir_of_append (List.cons_ne_nil name []) (by rw [Node.view, hat]; rfl)
    rw [Path.down_concat, h.locate_child hdir hname.dotless, hname.noNull,
      if_neg Bool.false_ne_true, if_neg (Nat.not_lt.2 hname.short), hat, List.append_assoc]

theorem look_down (h : d.Hosts base tree) {node : Node} (hat : tree.at? q = some node) :
    d.look (base.down q) = .ok (some node) := by
  rw [look, h.locate_down hat]

theorem node?_down (h : d.Hosts base tree) {node : Node} (hat : tree.at? q = some node) :
    d.node? (base.down q) = some node := by
  rw [node?, h.locate_down hat]

/-- The names in a directory of the tree are those under which something is there. -/
theorem mem_namesIn_iff (h : d.Hosts base tree) (hdir : tree.view q = some .dir) {name : String} :
    name ∈ d.namesIn (base.down q) ↔ ∃ node, tree.at? (q ++ [name]) = some node := by
  obtain ⟨entries, hat⟩ := Node.view_eq_dir_iff.1 hdir
  have hnames : d.namesIn (base.down q) = entries.map (·.1) := by
    rw [namesIn, h.node?_down hat]
    rfl
  rw [hnames, Scanner.mem_names_iff hat, ← Option.ne_none_iff_exists', Ne, Ne, Node.view_eq_none_iff]

end Hosts

end Disk

/-! ### Names that fit -/

/-- The names on the way from a base fit the parts of a pattern. -/
inductive Glob.Fits : List GlobPart → List String → Prop where
  /-- No parts are left for the place itself. -/
  | nil : Fits [] []
  /-- A slash at the end adds no name. -/
  | here (rest : List GlobPart) : Fits (.here :: rest) []
  /-- A name fits itself. -/
  | name {rest : List GlobPart} {names : List String} (name : String) (h : Fits rest names) :
    Fits (.name name :: rest) (name :: names)
  /-- A wildcard fits the names that it covers. -/
  | wildcard {parts : List WildcardPart} {rest : List GlobPart} {name : String}
    {names : List String} (hcovers : Wildcard.covers parts name = true) (h : Fits rest names) :
    Fits (.wildcard parts :: rest) (name :: names)
  /-- Two stars fit any names. -/
  | anywhere {rest : List GlobPart} {names : List String} (above : List String)
    (h : Fits rest names) : Fits (.anywhere :: rest) (above ++ names)

namespace Glob

open Disk (Askable Dotless)

/-- Whether only a directory can be what a pattern stands for. -/
def asksDirectory : List GlobPart → Bool
  | [] => false
  | .here :: _ => true
  | [.anywhere] => true
  | _ :: rest => asksDirectory rest

theorem asksDirectory_cons {part : GlobPart} {rest : List GlobPart}
    (h : asksDirectory rest = true) : asksDirectory (part :: rest) = true := by
  cases rest with
  | nil => cases h
  | cons next more => cases part <;> first | exact h | rfl

/-- The parts of a pattern lead down: none is a pair of dots. -/
def LeadsDown (parts : List GlobPart) : Prop :=
  ∀ part ∈ parts, part ≠ .up ∧ ∀ name, part = .name name → Dotless name

/-- What fits no names is there already, so it asks for a directory unless nothing is left. -/
theorem asksDirectory_of_fits_nil {parts : List GlobPart} (h : Fits parts []) :
    asksDirectory (.anywhere :: parts) = true := by
  generalize hnames : ([] : List String) = names at h
  induction h with
  | nil => rfl
  | here rest => rfl
  | name => cases hnames
  | wildcard => cases hnames
  | anywhere above h ih =>
    obtain ⟨rfl, rfl⟩ := List.append_eq_nil_iff.1 hnames.symm
    exact ih rfl

/-- The parts of a pattern are those of its names, and perhaps one for a slash at the end. -/
theorem parse_ok {pattern : String} {parts : List GlobPart} (h : parse pattern = .ok parts) :
    ∃ own, (Path.ofString pattern).names.mapM part = .ok own ∧
      ∀ p ∈ parts, p = .here ∨ p ∈ own := by
  unfold parse at h
  simp only [bind, Except.bind, throw, throwThe, MonadExceptOf.throw, pure, Except.pure] at h
  split at h
  · cases h
  split at h
  · cases h
  split at h
  · cases h
  split at h
  · cases h
  · rename_i own hown
    refine ⟨own, hown, fun p hp => ?_⟩
    cases h
    split at hp
    · simpa [or_comm] using hp
    · exact .inr hp

/-- A name stands for the directory above only if it is a pair of dots, and for a name only if it is
that. -/
theorem part_ok {name : String} {p : GlobPart} (h : part name = .ok p) (hup : name ≠ "..") :
    p ≠ .up ∧ ∀ n, p = .name n → n = name := by
  unfold part at h
  rw [if_neg (by simpa using hup : ¬(name == "..") = true)] at h
  split at h
  · cases h
    simp
  split at h
  · cases h
  split at h
  · cases h
    simp
  · cases h
    simp

/-- The parts of a pattern without a pair of dots lead down. -/
theorem leadsDown_of_parse {pattern : String} {parts : List GlobPart}
    (h : parse pattern = .ok parts) (hup : ".." ∉ (Path.ofString pattern).names) :
    LeadsDown parts := by
  obtain ⟨own, hown, hparts⟩ := parse_ok h
  intro p hp
  rcases hparts p hp with rfl | hp
  · simp
  obtain ⟨name, hname, hpart⟩ := (mem_iff_of_mapM hown).1 hp
  obtain ⟨hnotUp, hsame⟩ := part_ok hpart fun heq => hup (heq ▸ hname)
  refine ⟨hnotUp, fun n hn => ?_⟩
  obtain rfl := hsame n hn
  have hclean := Path.clean_ofString pattern n hname
  refine ⟨beq_eq_false_iff_ne.2 fun heq => hup (heq ▸ hname), ?_⟩
  rw [Bool.or_eq_false_iff, beq_eq_false_iff_ne, beq_eq_false_iff_ne]
  exact ⟨fun heq => hclean.ne_empty (heq ▸ rfl), fun heq => hclean.ne_dot (heq ▸ rfl)⟩

variable {d : Disk} {base : Path} {tree : Node} {parts : List GlobPart} {q : List String}

/-! ### One part -/

/-- Where a search goes on: to a directory, or to anything if no parts are left. -/
def Enters (tree : Node) (rest : List GlobPart) (place : List String) : Prop :=
  ∃ node, tree.at? place = some node ∧ (rest = [] ∨ node.isDir = true)

theorem any_iff_enters {tree : Node} {rest : List GlobPart} {place : List String} :
    ((tree.at? place).any fun node => rest.isEmpty || node.isDir) = true ↔ Enters tree rest place := by
  simp [Enters, Option.any_eq_true]

/-- From a place one part of a pattern leads to another place. -/
def Leads (tree : Node) (part : GlobPart) (rest : List GlobPart) (q place : List String) : Prop :=
  match part with
  | .name name => Enters tree rest place ∧ place = q ++ [name]
  | .wildcard parts =>
    Enters tree rest place ∧ ∃ name, Wildcard.covers parts name = true ∧ place = q ++ [name]
  | .anywhere => tree.view place = some .dir ∧ ∃ below, place = q ++ below
  | .up | .here => False

/-- A part can be looked for: it is not a name that is too long. -/
def Asks : GlobPart → Prop
  | .name name => Askable name
  | _ => True

/-- What is found is all that is found from some places. -/
structure Gathers (found : Except DiskError (List Path))
    (search : List String → Except DiskError (List Path)) (places : List String → Prop) : Prop where
  /-- It is found if each of the searches comes to an end. -/
  ends : (∃ paths, found = .ok paths) ↔ ∀ place, places place → ∃ paths, search place = .ok paths
  /-- What is found is found by one of the searches. -/
  mem : ∀ paths, found = .ok paths → ∀ p, p ∈ paths ↔
    ∃ place, places place ∧ ∃ more, search place = .ok more ∧ p ∈ more

section
variable {search : List String → Except DiskError (List Path)}

theorem Gathers.congr {found : Except DiskError (List Path)} {places places' : List String → Prop}
    (h : Gathers found search places) (hplaces : ∀ place, places place ↔ places' place) :
    Gathers found search places' := by
  obtain rfl : places = places' := funext fun place => propext (hplaces place)
  exact h

variable (search)

theorem gathers_self (place : List String) : Gathers (search place) search (· = place) := by
  constructor
  · simp
  · intro paths hpaths p
    simp [hpaths]

theorem gathers_ite (c : Prop) [Decidable c] (place : List String) :
    Gathers (if c then search place else .ok []) search fun other => c ∧ other = place := by
  split
  · rename_i hc
    exact (gathers_self search place).congr fun other => by simp [hc]
  · rename_i hc
    constructor
    · simp [hc]
    · intro paths hpaths p
      cases hpaths
      simp [hc]

variable {search}

theorem gathers_flatten {α : Type} {items : List α} {f : α → Except DiskError (List Path)}
    {places : α → List String → Prop} (h : ∀ x ∈ items, Gathers (f x) search (places x)) :
    Gathers (do return (← items.mapM f).flatten) search fun place => ∃ x ∈ items, places x place := by
  constructor
  · have hends : (∃ paths, (do return (← items.mapM f).flatten : Except DiskError (List Path)) =
        .ok paths) ↔ ∃ results, items.mapM f = .ok results := by
      cases items.mapM f <;> simp [bind, Except.bind, pure, Except.pure]
    rw [hends, exists_mapM_iff]
    constructor
    · rintro hall place ⟨x, hx, hplace⟩
      exact (h x hx).ends.1 (hall x hx) place hplace
    · intro hall x hx
      exact (h x hx).ends.2 fun place hplace => hall place ⟨x, hx, hplace⟩
  · intro paths hpaths p
    cases hresults : items.mapM f with
    | error e =>
      rw [hresults] at hpaths
      cases hpaths
    | ok results =>
      rw [hresults] at hpaths
      cases hpaths
      rw [mem_flatten_of_mapM hresults]
      constructor
      · rintro ⟨x, hx, paths, hpaths, hp⟩
        obtain ⟨place, hplace, hmore⟩ := ((h x hx).mem paths hpaths p).1 hp
        exact ⟨place, ⟨x, hx, hplace⟩, hmore⟩
      · rintro ⟨place, ⟨x, hx, hplace⟩, hmore⟩
        obtain ⟨paths, hpaths⟩ := exists_mapM_iff.1 ⟨results, hresults⟩ x hx
        exact ⟨x, hx, paths, hpaths, ((h x hx).mem paths hpaths p).2 ⟨place, hplace, hmore⟩⟩

end

theorem gathers_name (rest : List GlobPart) (h : d.Hosts base tree) (hdir : tree.view q = some .dir)
    {name : String} (hname : Dotless name) (hask : Askable name) :
    Gathers (select d (.name name :: rest) (base.down q)) (fun place => select d rest (base.down place))
      (Leads tree (.name name) rest q) := by
  rw [select, h.look_child hdir hname hask, ← Path.down_concat]
  refine (gathers_ite (fun place => select d rest (base.down place))
    (((tree.at? (q ++ [name])).any fun node => rest.isEmpty || node.isDir) = true)
    (q ++ [name])).congr fun place => ?_
  rw [any_iff_enters, Leads]
  constructor <;> rintro ⟨henters, rfl⟩ <;> exact ⟨henters, rfl⟩

theorem gathers_wildcard (rest : List GlobPart) (h : d.Hosts base tree)
    (hdir : tree.view q = some .dir) (parts : List WildcardPart) :
    Gathers (select d (.wildcard parts :: rest) (base.down q))
      (fun place => select d rest (base.down place)) (Leads tree (.wildcard parts) rest q) := by
  have hstep : ∀ name ∈ (d.namesIn (base.down q)).filter (Wildcard.covers parts),
      Gathers (do
        let fits := rest.isEmpty || ((← d.look ((base.down q).child name)).any Node.isDir)
        if fits then select d rest ((base.down q).child name) else return [])
      (fun place => select d rest (base.down place))
      (fun place => Enters tree rest place ∧ place = q ++ [name]) := by
    intro name hname
    -- A name that was listed can be asked for, so here looking never fails.
    obtain ⟨node, hnode⟩ := (h.mem_namesIn_iff hdir).1 (List.mem_filter.1 hname).1
    rw [← Path.down_concat, h.look_down hnode]
    refine (gathers_ite (fun place => select d rest (base.down place))
      ((rest.isEmpty || node.isDir) = true) (q ++ [name])).congr fun place => ?_
    constructor
    · rintro ⟨hfits, rfl⟩
      exact ⟨⟨node, hnode, by simpa using hfits⟩, rfl⟩
    · rintro ⟨⟨node', hnode', hfits⟩, rfl⟩
      cases hnode.symm.trans hnode'
      exact ⟨by simpa using hfits, rfl⟩
  rw [select]
  refine (gathers_flatten hstep).congr fun place => ?_
  simp only [List.mem_filter, h.mem_namesIn_iff hdir, Leads]
  constructor
  · rintro ⟨name, ⟨-, hcovers⟩, henters, rfl⟩
    exact ⟨henters, name, hcovers, rfl⟩
  · rintro ⟨⟨node, hnode, hfits⟩, name, hcovers, rfl⟩
    exact ⟨name, ⟨⟨node, hnode⟩, hcovers⟩, ⟨node, hnode, hfits⟩, rfl⟩

theorem gathers_anywhere (rest : List GlobPart) (h : d.Hosts base tree)
    (hdir : tree.view q = some .dir) :
    Gathers (select d (.anywhere :: rest) (base.down q)) (fun place => select d rest (base.down place))
      (Leads tree .anywhere rest q) := by
  obtain ⟨entries, hat⟩ := Node.view_eq_dir_iff.1 hdir
  have hsub := h.orderly.at? hat
  have hstep : ∀ below ∈ (Node.dir entries).directories,
      Gathers (select d rest ⟨(base.down q).anchor, (base.down q).names ++ below⟩)
        (fun place => select d rest (base.down place)) (fun place => place = q ++ below) := by
    intro below hbelow
    have hp : (⟨(base.down q).anchor, (base.down q).names ++ below⟩ : Path) =
        base.down (q ++ below) := by simp [Path.down]
    rw [hp]
    exact gathers_self (fun place => select d rest (base.down place)) (q ++ below)
  rw [select, h.node?_down hat]
  refine (gathers_flatten hstep).congr fun place => ?_
  simp only [Node.mem_directories_iff hsub, Leads]
  -- The directories are listed below the place, but a part leads to places below the base.
  have hview (below : List String) :
      (Node.dir entries).view below = some .dir ↔ tree.view (q ++ below) = some .dir := by
    rw [Node.view_append, hat, Option.bind_some]
  constructor
  · rintro ⟨below, hbelow, rfl⟩
    exact ⟨(hview below).1 hbelow, below, rfl⟩
  · rintro ⟨hplace, below, rfl⟩
    exact ⟨below, (hview below).2 hplace, rfl⟩

/-- **One part of a pattern leads a search on** from a directory to the places that it leads to. -/
theorem gathers_select (rest : List GlobPart) (h : d.Hosts base tree)
    (hdir : tree.view q = some .dir) {part : GlobPart}
    (hdown : part ≠ .up ∧ ∀ name, part = .name name → Dotless name) (hhere : part ≠ .here)
    (hask : Asks part) :
    Gathers (select d (part :: rest) (base.down q)) (fun place => select d rest (base.down place))
      (Leads tree part rest q) := by
  cases part with
  | up => exact absurd rfl hdown.1
  | here => exact absurd rfl hhere
  | name name => exact gathers_name rest h hdir (hdown.2 name rfl) hask
  | wildcard parts => exact gathers_wildcard rest h hdir parts
  | anywhere => exact gathers_anywhere rest h hdir

theorem Enters.isDir {part : GlobPart} {rest : List GlobPart} (h : Enters tree (part :: rest) q) :
    tree.view q = some .dir := by
  obtain ⟨node, hat, hnil | hdir⟩ := h
  · cases hnil
  · cases node with
    | dir entries => exact Node.view_eq_dir_iff.2 ⟨entries, hat⟩
    | file bytes => cases hdir
    | link target => cases hdir

theorem enters_of_view (hdir : tree.view q = some .dir) : Enters tree parts q := by
  obtain ⟨entries, hat⟩ := Node.view_eq_dir_iff.1 hdir
  exact ⟨_, hat, .inr rfl⟩

theorem Leads.enters {part : GlobPart} {rest : List GlobPart} {place : List String}
    (h : Leads tree part rest q place) : Enters tree rest place := by
  cases part with
  | name | wildcard => exact h.1
  | anywhere => exact enters_of_view h.1
  | up | here => exact h.elim

theorem Leads.exists_append {part : GlobPart} {rest : List GlobPart} {place : List String}
    (h : Leads tree part rest q place) : ∃ below, place = q ++ below := by
  cases part with
  | name name => exact ⟨[name], h.2⟩
  | wildcard parts =>
    obtain ⟨-, name, -, hplace⟩ := h
    exact ⟨[name], hplace⟩
  | anywhere => exact h.2
  | up | here => exact h.elim

/-! ### Where a search comes to an end -/

/-- No name that is too long is looked for on the way from a place. -/
def Clear (tree : Node) : List GlobPart → List String → Prop
  | [], _ => True
  | part :: rest, q => Asks part ∧ ∀ place, Leads tree part rest q place → Clear tree rest place

/-- It is a matter of the directories alone. -/
theorem clear_congr {tree tree' : Node}
    (h : ∀ place, tree.view place = some .dir ↔ tree'.view place = some .dir)
    (parts : List GlobPart) (q : List String) : Clear tree parts q ↔ Clear tree' parts q := by
  induction parts generalizing q with
  | nil => rfl
  | cons part rest ih =>
    cases rest with
    | nil => simp [Clear]
    | cons next more =>
      have henters (place : List String) :
          Enters tree (next :: more) place ↔ Enters tree' (next :: more) place :=
        ⟨fun hplace => enters_of_view ((h place).1 hplace.isDir),
          fun hplace => enters_of_view ((h place).2 hplace.isDir)⟩
      have hleads (place : List String) :
          Leads tree part (next :: more) q place ↔ Leads tree' part (next :: more) q place := by
        cases part <;> simp only [Leads, henters, h]
      rw [Clear, Clear]
      simp only [hleads, ih]

/-- The paths that fit a pattern are found unless a name that is too long is looked for. -/
theorem exists_select_iff (h : d.Hosts base tree) (hdown : LeadsDown parts) (hq : Enters tree parts q) :
    (∃ paths, select d parts (base.down q) = .ok paths) ↔ Clear tree parts q := by
  induction parts generalizing q with
  | nil => simp [select, Clear]
  | cons part rest ih =>
    have hpart := hdown part List.mem_cons_self
    have hrest : LeadsDown rest := fun p hp => hdown p (List.mem_cons_of_mem _ hp)
    by_cases hhere : part = .here
    · subst hhere
      simp [select, Clear, Asks, Leads]
    by_cases hask : Asks part
    · rw [(gathers_select rest h hq.isDir hpart hhere hask).ends, Clear]
      constructor
      · intro hall
        exact ⟨hask, fun place hplace => (ih hrest hplace.enters).1 (hall place hplace)⟩
      · intro hclear place hplace
        exact (ih hrest hplace.enters).2 (hclear.2 place hplace)
    · cases part with
      | name name =>
        rw [select, h.look_child_of_not_askable hq.isDir (hpart.2 name rfl) hask]
        simp only [Clear, hask, false_and, iff_false, not_exists]
        exact fun paths => nofun
      | up | here | wildcard | anywhere => exact absurd trivial hask

/-! ### What is found -/

/-- What leads to something that fits can be entered. -/
theorem enters_of_fits {names place : List String} {node : Node}
    (hat : tree.at? (place ++ names) = some node) (hfits : Fits parts names)
    (hasks : asksDirectory parts = true → node.isDir = true) : Enters tree parts place := by
  cases names with
  | nil =>
    rw [List.append_nil] at hat
    refine ⟨node, hat, ?_⟩
    cases parts with
    | nil => exact .inl rfl
    | cons part rest => exact .inr (hasks (asksDirectory_of_fits_nil hfits))
  | cons name rest =>
    exact enters_of_view
      (Node.view_eq_dir_of_append (List.cons_ne_nil _ _) (by rw [Node.view, hat]; rfl))

/-- Names that fit a pattern go through a place from which the others fit what is left of it. -/
theorem exists_leads_of_fits {part : GlobPart} {rest : List GlobPart} (hhere : part ≠ .here)
    {names : List String} {node : Node} (hat : tree.at? (q ++ names) = some node)
    (hfits : Fits (part :: rest) names)
    (hasks : asksDirectory (part :: rest) = true → node.isDir = true) :
    ∃ place more, Leads tree part rest q place ∧ q ++ names = place ++ more ∧ Fits rest more ∧
      (asksDirectory rest = true → node.isDir = true) := by
  cases hfits with
  | here => exact absurd rfl hhere
  | @name _ more name hmore =>
    rw [List.append_cons] at hat
    exact ⟨q ++ [name], more, ⟨enters_of_fits hat hmore hasks, rfl⟩, List.append_cons _ _ _, hmore,
      hasks⟩
  | @wildcard _ _ name more hcovers hmore =>
    rw [List.append_cons] at hat
    exact ⟨q ++ [name], more, ⟨enters_of_fits hat hmore hasks, name, hcovers, rfl⟩,
      List.append_cons _ _ _, hmore, hasks⟩
  | @anywhere _ more above hmore =>
    rw [← List.append_assoc] at hat
    have hdir := (enters_of_fits hat (.anywhere [] hmore) hasks).isDir
    exact ⟨q ++ above, more, ⟨hdir, above, rfl⟩, (List.append_assoc _ _ _).symm, hmore,
      fun hrest => hasks (asksDirectory_cons hrest)⟩

/-- From a place that a part leads to, names that fit what is left fit the pattern as a whole. -/
theorem fits_of_leads {part : GlobPart} {rest : List GlobPart} {place names more : List String}
    {node : Node} (hat : tree.at? (q ++ names) = some node) (hleads : Leads tree part rest q place)
    (hnames : q ++ names = place ++ more) (hmore : Fits rest more)
    (hasks : asksDirectory rest = true → node.isDir = true) :
    Fits (part :: rest) names ∧ (asksDirectory (part :: rest) = true → node.isDir = true) := by
  cases part with
  | up | here => exact hleads.elim
  | name name =>
    obtain ⟨-, rfl⟩ := hleads
    rw [List.append_assoc, List.append_cancel_left_eq] at hnames
    subst hnames
    exact ⟨.name name hmore, hasks⟩
  | wildcard parts =>
    obtain ⟨-, name, hcovers, rfl⟩ := hleads
    rw [List.append_assoc, List.append_cancel_left_eq] at hnames
    subst hnames
    exact ⟨.wildcard hcovers hmore, hasks⟩
  | anywhere =>
    obtain ⟨hdir, above, rfl⟩ := hleads
    rw [List.append_assoc, List.append_cancel_left_eq] at hnames
    subst hnames
    refine ⟨.anywhere above hmore, fun hdirectory => ?_⟩
    cases rest with
    | nil =>
      -- Two stars at the end ask for a directory, and one is what they lead to.
      cases hmore
      obtain ⟨entries, hplace⟩ := Node.view_eq_dir_iff.1 hdir
      rw [List.append_nil, hplace] at hat
      cases hat
      rfl
    | cons next more => exact hasks hdirectory

/-- Where a search ends only the place itself is found. -/
theorem mem_self_iff (hparts : ∀ names, Fits parts names ↔ names = []) (hq : Enters tree parts q)
    (hasks : asksDirectory parts = true → parts ≠ []) (p : Path) :
    p ∈ [base.down q] ↔ ∃ names node, p = base.down (q ++ names) ∧
      tree.at? (q ++ names) = some node ∧ Fits parts names ∧
      (asksDirectory parts = true → node.isDir = true) := by
  obtain ⟨node, hat, hdir⟩ := hq
  simp only [hparts, List.mem_singleton]
  constructor
  · rintro rfl
    exact ⟨[], node, by simp, by simpa using hat, rfl, fun h => hdir.resolve_left (hasks h)⟩
  · rintro ⟨names, node, rfl, -, rfl, -⟩
    simp

/-- **The paths that are found for a pattern are those of everything whose names fit it**, of
directories alone if it asks for them. -/
theorem mem_select_iff (h : d.Hosts base tree) (hdown : LeadsDown parts) (hq : Enters tree parts q)
    {paths : List Path} (hselect : select d parts (base.down q) = .ok paths) (p : Path) :
    p ∈ paths ↔ ∃ names node, p = base.down (q ++ names) ∧ tree.at? (q ++ names) = some node ∧
      Fits parts names ∧ (asksDirectory parts = true → node.isDir = true) := by
  induction parts generalizing q paths p with
  | nil =>
    cases hselect
    refine mem_self_iff (fun names => ⟨fun hfits => ?_, fun hnil => hnil ▸ .nil⟩) hq nofun p
    cases hfits
    rfl
  | cons part rest ih =>
    have hpart := hdown part List.mem_cons_self
    have hrest : LeadsDown rest := fun p hp => hdown p (List.mem_cons_of_mem _ hp)
    by_cases hhere : part = .here
    · subst hhere
      cases hselect
      refine mem_self_iff (fun names => ⟨fun hfits => ?_, fun hnil => hnil ▸ .here rest⟩) hq
        (fun _ => List.cons_ne_nil _ _) p
      cases hfits
      rfl
    -- This part leads to some places, and the rest of the pattern leads on from each of them.
    have hask : Asks part := ((exists_select_iff h hdown hq).1 ⟨paths, hselect⟩).1
    have hgathers := gathers_select rest h hq.isDir hpart hhere hask
    rw [hgathers.mem paths hselect p]
    constructor
    · rintro ⟨place, hleads, more, hmore, hp⟩
      obtain ⟨names, node, rfl, hat, hfits, hasks⟩ := (ih hrest hleads.enters hmore p).1 hp
      obtain ⟨below, rfl⟩ := hleads.exists_append
      rw [List.append_assoc] at hat ⊢
      obtain ⟨hfits, hasks⟩ := fits_of_leads hat hleads (List.append_assoc _ _ _).symm hfits hasks
      exact ⟨below ++ names, node, rfl, hat, hfits, hasks⟩
    · rintro ⟨names, node, rfl, hat, hfits, hasks⟩
      obtain ⟨place, more, hleads, hnames, hfits, hasks⟩ :=
        exists_leads_of_fits hhere hat hfits hasks
      obtain ⟨found, hfound⟩ := hgathers.ends.1 ⟨paths, hselect⟩ place hleads
      rw [hnames] at hat ⊢
      exact ⟨place, hleads, found, hfound,
        (ih hrest hleads.enters hfound _).2 ⟨more, node, rfl, hat, hfits, hasks⟩⟩

end Glob

namespace Disk.Hosts

variable {d : Disk} {base : Path} {tree : Node} {parts : List GlobPart}

theorem matching_eq_select (h : d.Hosts base tree) (parts : List GlobPart) :
    d.matching base parts = Glob.select d parts base := by
  have hlook : d.look base = .ok (some tree) := by
    simpa using h.look_down (q := []) rfl
  rw [matching, hlook]
  exact if_pos h.isDir

theorem enters_nil (h : d.Hosts base tree) (parts : List GlobPart) : Glob.Enters tree parts [] :=
  ⟨tree, rfl, .inr h.isDir⟩

theorem exists_matching_iff (h : d.Hosts base tree) (hdown : Glob.LeadsDown parts) :
    (∃ paths, d.matching base parts = .ok paths) ↔ Glob.Clear tree parts [] := by
  rw [h.matching_eq_select]
  simpa using Glob.exists_select_iff h hdown (h.enters_nil parts)

/-- The paths below a tree that a pattern matches are those of everything in it whose names fit. -/
theorem mem_matching_iff (h : d.Hosts base tree) (hdown : Glob.LeadsDown parts) {paths : List Path}
    (hmatching : d.matching base parts = .ok paths) (p : Path) :
    p ∈ paths ↔ ∃ names node, p = base.down names ∧ tree.at? names = some node ∧
      Glob.Fits parts names ∧ (Glob.asksDirectory parts = true → node.isDir = true) := by
  rw [h.matching_eq_select, ← Path.down_nil base] at hmatching
  simpa using Glob.mem_select_iff h hdown (h.enters_nil parts) hmatching p

end Disk.Hosts

end ProbeKit
