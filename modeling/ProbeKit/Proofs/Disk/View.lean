import ProbeKit.Disk.Basic

/-!
# What stands at a place

`Disk.view` says of each place whether a file, a link or a directory stands there, and leaves out
the order in which directories list their entries.  Following a path depends on the view alone.
`Node.view_put` is the one fact about changing a tree: putting a node at a place that a directory
can hold changes the view at that place and below it, and nowhere else.
-/

namespace ProbeKit

/-- What a node is, without what is inside a directory. -/
inductive Mark where
  /-- A file with its bytes. -/
  | file (bytes : ByteArray)
  /-- A link with the text that it holds. -/
  | link (target : String)
  /-- A directory. -/
  | dir

namespace Node

/-- What a node is. -/
def mark : Node → Mark
  | .file bytes => .file bytes
  | .link target => .link target
  | .dir _ => .dir

/-- What stands at a place below a node. -/
def view (node : Node) (place : List String) : Option Mark := (node.at? place).map mark

theorem view_nil (node : Node) : node.view [] = some node.mark := by
  simp [view, at?]

theorem at?_append (node : Node) (p q : List String) :
    node.at? (p ++ q) = (node.at? p).bind fun n => n.at? q := by
  induction p generalizing node with
  | nil => simp [at?]
  | cons name rest ih =>
    simp only [List.cons_append, at?]
    cases node.entries.lookup name with
    | none => rfl
    | some child => simpa using ih child

theorem at?_dir_cons (entries : List (String × Node)) (name : String) (rest : List String) :
    (dir entries).at? (name :: rest) = (entries.lookup name).bind fun child => child.at? rest := by
  rw [at?]
  rfl

theorem view_dir_cons (entries : List (String × Node)) (name : String) (rest : List String) :
    (Node.dir entries).view (name :: rest) =
      (entries.lookup name).bind fun child => child.view rest := by
  rw [view, at?_dir_cons]
  cases entries.lookup name <;> rfl

theorem view_append (node : Node) (p q : List String) :
    node.view (p ++ q) = (node.at? p).bind fun n => n.view q := by
  rw [view, at?_append]
  cases node.at? p <;> rfl

theorem view_eq_dir_iff {node : Node} {place : List String} :
    node.view place = some .dir ↔ ∃ entries, node.at? place = some (.dir entries) := by
  unfold view
  rcases node.at? place with _ | (_ | _ | _) <;> simp [mark]

theorem view_eq_file_iff {node : Node} {place : List String} {bytes : ByteArray} :
    node.view place = some (.file bytes) ↔ node.at? place = some (.file bytes) := by
  unfold view
  rcases node.at? place with _ | (_ | _ | _) <;> simp [mark]

theorem view_eq_link_iff {node : Node} {place : List String} {target : String} :
    node.view place = some (.link target) ↔ node.at? place = some (.link target) := by
  unfold view
  rcases node.at? place with _ | (_ | _ | _) <;> simp [mark]

theorem view_eq_none_iff {node : Node} {place : List String} :
    node.view place = none ↔ node.at? place = none := by
  simp [view]

/-- Only a directory has anything below it. -/
theorem at?_cons_of_leaf {node : Node} (h : ∀ entries, node ≠ .dir entries) (name : String)
    (rest : List String) : node.at? (name :: rest) = none := by
  cases node with
  | dir entries => exact absurd rfl (h entries)
  | file | link => rfl

/-- What stands below a node stands at or below one of the entries of a directory. -/
theorem exists_entry_of_at? {node found : Node} {name : String} {rest : List String}
    (h : node.at? (name :: rest) = some found) : ∃ entries child, node = .dir entries ∧
      entries.lookup name = some child ∧ child.at? rest = some found := by
  cases node with
  | dir entries =>
    rw [at?_dir_cons] at h
    obtain ⟨child, hlookup, hchild⟩ := Option.bind_eq_some_iff.1 h
    exact ⟨entries, child, rfl, hlookup, hchild⟩
  | file | link => cases h

/-- Below nothing there is nothing. -/
theorem view_eq_none_of_prefix {node : Node} {place q : List String} (h : node.view place = none)
    (hq : place <+: q) : node.view q = none := by
  obtain ⟨rest, rfl⟩ := hq
  rw [view_append, view_eq_none_iff.1 h]
  rfl

/-- Whatever leads to a node is a directory. -/
theorem view_eq_dir_of_append {node : Node} {p q : List String} (hq : q ≠ [])
    (h : (node.view (p ++ q)).isSome) : node.view p = some .dir := by
  obtain ⟨name, rest, rfl⟩ := List.exists_cons_of_ne_nil hq
  rw [view, Option.isSome_map, at?_append] at h
  obtain ⟨found, hfound⟩ := Option.isSome_iff_exists.1 h
  obtain ⟨n, hp, hbelow⟩ := Option.bind_eq_some_iff.1 hfound
  obtain ⟨entries, -, rfl, -, -⟩ := exists_entry_of_at? hbelow
  exact view_eq_dir_iff.2 ⟨entries, hp⟩

theorem view_dropLast_of_dir {node : Node} {place : List String}
    (h : node.view place = some .dir) : node.view place.dropLast = some .dir := by
  rcases List.eq_nil_or_concat place with rfl | ⟨names, name, rfl⟩
  · exact h
  · rw [List.concat_eq_append] at h ⊢
    rw [List.dropLast_concat]
    exact view_eq_dir_of_append (List.cons_ne_nil name []) (by rw [h]; rfl)

theorem view_root_of_dir {node : Node} {place : List String} (h : node.view place = some .dir) :
    node.view [] = some .dir := by
  cases place with
  | nil => exact h
  | cons name rest =>
    exact view_eq_dir_of_append (p := []) (q := name :: rest) (by simp) (by simp [h])

/-- Below a directory a link leads on from a directory: the one that it stands in, or the top. -/
theorem view_base_of_dir {node : Node} {place : List String} (h : node.view place = some .dir)
    (top : Bool) : node.view (if top then [] else place) = some .dir := by
  split
  · exact view_root_of_dir h
  · exact h

/-! ### Putting a node at a place -/

theorem lookup_setEntry (name : String) (node : Node) (entries : List (String × Node))
    (other : String) :
    (setEntry name node entries).lookup other =
      if other = name then some node else entries.lookup other := by
  induction entries with
  | nil =>
    by_cases h : other = name
    · simp [setEntry, h]
    · simp [setEntry, List.lookup_cons, h, beq_eq_false_iff_ne.2 h]
  | cons e rest ih =>
    obtain ⟨n, old⟩ := e
    by_cases hn : n = name
    · subst hn
      by_cases h : other = n
      · simp [setEntry, h]
      · simp [setEntry, List.lookup_cons, h, beq_eq_false_iff_ne.2 h]
    · by_cases h : other = n
      · subst h
        simp [setEntry, hn]
      · simp [setEntry, List.lookup_cons, hn, beq_eq_false_iff_ne.2 h, ih]

/-- Giving an entry a node changes what stands at and below that entry. -/
theorem view_setEntry_cons (name : String) (new : Node) (entries : List (String × Node))
    (other : String) (rest : List String) :
    (dir (setEntry name new entries)).view (other :: rest) =
      if other = name then new.view rest else (dir entries).view (other :: rest) := by
  rw [view_dir_cons, view_dir_cons, lookup_setEntry]
  split <;> rfl

/-- Where a node can be put: at the top, or in a directory. -/
def Holds (node : Node) (place : List String) : Prop :=
  place ≠ [] → node.view place.dropLast = some .dir

/-- A node can be put below an entry if it can be put below the directory that lists the entry. -/
theorem Holds.of_entry {entries : List (String × Node)} {name : String} {rest : List String}
    (h : (dir entries).Holds (name :: rest)) {child : Node} (hl : entries.lookup name = some child) :
    child.Holds rest := by
  intro hrest
  have hd := h (List.cons_ne_nil _ _)
  rw [List.dropLast_cons_of_ne_nil hrest, view_dir_cons, hl] at hd
  exact hd

/-- Nothing can be put below an entry that is missing. -/
theorem Holds.lookup_ne_none {entries : List (String × Node)} {name : String} {rest : List String}
    (h : (dir entries).Holds (name :: rest)) (hrest : rest ≠ []) : entries.lookup name ≠ none := by
  intro hl
  have hd := h (List.cons_ne_nil _ _)
  rw [List.dropLast_cons_of_ne_nil hrest, view_dir_cons, hl] at hd
  cases hd

/-- Only a directory can hold anything. -/
theorem Holds.exists_entries {node : Node} {name : String} {rest : List String}
    (h : node.Holds (name :: rest)) : ∃ entries, node = .dir entries := by
  obtain ⟨entries, hentries⟩ := view_eq_dir_iff.1 (view_root_of_dir (h (List.cons_ne_nil _ _)))
  exact ⟨entries, Option.some.inj hentries⟩

/-- **A node that is put at a place is what stands there**, with all that is below it, and every
other place looks as before. -/
theorem view_put {node : Node} {place : List String} (h : node.Holds place) (new : Node)
    (q : List String) :
    (node.put place new).view q =
      if place <+: q then new.view (q.drop place.length) else node.view q := by
  fun_induction put node place new generalizing q with
  | case1 => simp
  | case2 entries name new =>
    cases q with
    | nil => simp [view_nil, mark]
    | cons other q' =>
      rw [view_setEntry_cons]
      by_cases ho : other = name
      · simp [ho]
      · simp [ho, Ne.symm ho]
  | case3 entries name rest new hrest child hl ih =>
    cases q with
    | nil => simp [view_nil, mark]
    | cons other q' =>
      rw [view_setEntry_cons]
      by_cases ho : other = name
      · subst ho
        simp [ih (h.of_entry hl), view_dir_cons, hl]
      · simp [ho, Ne.symm ho]
  -- Nothing can be put below a missing entry, nor below what is no directory.
  | case4 entries name rest new hrest hl => exact absurd hl (h.lookup_ne_none hrest)
  | case5 node name rest new _ hleaf =>
    obtain ⟨entries, hentries⟩ := h.exists_entries
    exact (hleaf entries hentries).elim

/-! ### Changes that keep directories and links -/

/-- A tree that keeps the directories and links of another, whatever its files. -/
structure Keeps (before after : Node) : Prop where
  /-- Directories stay. -/
  dirs : ∀ q, before.view q = some .dir → after.view q = some .dir
  /-- Links stay, and none is made. -/
  links : ∀ q target, after.view q = some (.link target) ↔ before.view q = some (.link target)

theorem Keeps.refl (node : Node) : Keeps node node := ⟨fun _ h => h, fun _ _ => Iff.rfl⟩

theorem Keeps.trans {a b c : Node} (h : Keeps a b) (h' : Keeps b c) : Keeps a c :=
  ⟨fun q hq => h'.dirs q (h.dirs q hq), fun q t => (h'.links q t).trans (h.links q t)⟩

end Node

end ProbeKit
