import ProbeKit.Proofs.Disk.Again
import ProbeKit.Proofs.Scan.Hosted
import ProbeKit.Proofs.Workspace.Cycle

/-!
# Writing files into a tree

`Disk.Overwrites paths bytes d d'` says exactly what `d'` looks like once files were written at some
paths: the same bytes stand wherever the paths lead, and everything else stands as before.  Such writes
can be put together (`Disk.Overwrites.cons`), they can be made again (`Disk.Overwrites.canWrite`), and
a tree without links stays one (`Disk.Hosts.of_write`).
-/

namespace ProbeKit

namespace Node

/-! ### Putting below a node and beside it -/

theorem put_dir_cons {entries : List (String × Node)} {name : String} {child : Node}
    (h : entries.lookup name = some child) (rest : List String) (new : Node) :
    (dir entries).put (name :: rest) new = .dir (setEntry name (child.put rest new) entries) := by
  cases rest with
  | nil => cases child <;> rfl
  | cons name' rest' => simp [put, h]

/-- What is put below a node changes the node alone. -/
theorem at?_put_below {node child : Node} {above : List String} (h : node.at? above = some child)
    (place : List String) (new : Node) :
    (node.put (above ++ place) new).at? above = some (child.put place new) := by
  induction above generalizing node with
  | nil => rw [List.nil_append, at?, ← Option.some.inj h]
  | cons name rest ih =>
    obtain ⟨entries, next, rfl, hnext, hbelow⟩ := exists_entry_of_at? h
    rw [List.cons_append, put_dir_cons hnext, at?_dir_cons, lookup_setEntry, if_pos rfl]
    exact ih hbelow

/-- Giving an entry a node changes what is at and below that entry. -/
theorem at?_setEntry_cons (name : String) (new : Node) (entries : List (String × Node))
    (other : String) (rest : List String) :
    (dir (setEntry name new entries)).at? (other :: rest) =
      if other = name then new.at? rest else (dir entries).at? (other :: rest) := by
  rw [at?_dir_cons, at?_dir_cons, lookup_setEntry]
  split <;> rfl

/-- What is put beside a node leaves it as it is. -/
theorem at?_put_beside {node : Node} {place q : List String} (hplace : ¬place <+: q)
    (hq : ¬q <+: place) (new : Node) : (node.put place new).at? q = node.at? q := by
  fun_induction put node place new generalizing q with
  | case1 => exact absurd List.nil_prefix hplace
  | case2 entries name new =>
    cases q with
    | nil => exact absurd List.nil_prefix hq
    | cons other more =>
      have hother : other ≠ name := by
        rintro rfl
        exact hplace (List.cons_prefix_cons.2 ⟨rfl, List.nil_prefix⟩)
      rw [at?_setEntry_cons, if_neg hother]
  | case3 entries name rest new hrest child hl ih =>
    cases q with
    | nil => exact absurd List.nil_prefix hq
    | cons other more =>
      rw [at?_setEntry_cons]
      split
      · rename_i hother
        subst hother
        rw [at?_dir_cons, hl, Option.bind_some]
        exact ih (fun h => hplace (List.cons_prefix_cons.2 ⟨rfl, h⟩))
          fun h => hq (List.cons_prefix_cons.2 ⟨rfl, h⟩)
      · rfl
  -- Where nothing can be put the tree stays as it is.
  | case4 => rfl
  | case5 => rfl

/-! ### Orderly trees -/

theorem names_setEntry (name : String) (node : Node) (entries : List (String × Node)) :
    (setEntry name node entries).map (·.1) =
      if name ∈ entries.map (·.1) then entries.map (·.1) else entries.map (·.1) ++ [name] := by
  induction entries with
  | nil => rfl
  | cons e rest ih =>
    obtain ⟨n, old⟩ := e
    rw [setEntry]
    by_cases h : n = name
    · simp [h]
    · have hne : name ≠ n := fun heq => h heq.symm
      rw [if_neg (by simpa using h), List.map_cons, ih, List.map_cons]
      by_cases hmem : name ∈ rest.map (·.1)
      · rw [if_pos hmem, if_pos (List.mem_cons_of_mem _ hmem)]
      · rw [if_neg hmem, if_neg (by simpa [hne] using hmem), List.cons_append]

theorem of_mem_setEntry {name : String} {node : Node} {entries : List (String × Node)}
    {e : String × Node} (h : e ∈ setEntry name node entries) : e = (name, node) ∨ e ∈ entries := by
  induction entries with
  | nil => exact .inl (List.mem_singleton.1 h)
  | cons first rest ih =>
    obtain ⟨n, old⟩ := first
    rw [setEntry] at h
    split at h
    · rename_i heq
      rcases List.mem_cons.1 h with rfl | hrest
      · exact .inl (by rw [beq_iff_eq.1 heq])
      · exact .inr (List.mem_cons_of_mem _ hrest)
    · rcases List.mem_cons.1 h with rfl | hrest
      · exact .inr List.mem_cons_self
      · exact (ih hrest).imp_right (List.mem_cons_of_mem _)

/-- What an orderly directory lists is orderly. -/
theorem Orderly.of_mem {entries : List (String × Node)} (h : (dir entries).Orderly)
    {e : String × Node} (he : e ∈ entries) : Disk.IsName e.1 ∧ e.2.Orderly := by
  have hlookup : entries.lookup e.1 = some e.2 := lookup_of_mem (h.distinct [] entries rfl) he
  have hat (place : List String) : (dir entries).at? (e.1 :: place) = e.2.at? place := by
    rw [at?_dir_cons, hlookup, Option.bind_some]
  refine ⟨h.names [e.1] e.2 (by rw [hat]; rfl) e.1 List.mem_cons_self, fun place found hfound => ?_,
    fun place node hnode n hn => ?_⟩
  · exact h.distinct (e.1 :: place) found ((hat place).trans hfound)
  · exact h.names (e.1 :: place) node ((hat place).trans hnode) n (List.mem_cons_of_mem _ hn)

/-- An orderly node under a proper name leaves a directory orderly. -/
theorem orderly_setEntry {entries : List (String × Node)} (h : (dir entries).Orderly) {name : String}
    {node : Node} (hname : Disk.IsName name) (hnode : node.Orderly) :
    (dir (setEntry name node entries)).Orderly := by
  have hdistinct := h.distinct [] entries rfl
  refine orderly_dir ?_ fun e he => ?_
  · rw [names_setEntry]
    split
    · exact hdistinct
    · rename_i hnew
      rw [List.nodup_append]
      refine ⟨hdistinct, List.pairwise_singleton _ _, fun a ha b hb hab => ?_⟩
      obtain rfl := List.mem_singleton.1 hb
      exact hnew (hab ▸ ha)
  · rcases of_mem_setEntry he with rfl | he
    · exact ⟨hname, hnode⟩
    · exact h.of_mem he

/-- An orderly node that is put under a proper name leaves a tree orderly. -/
theorem orderly_put {node new : Node} (h : node.Orderly) {place : List String} (hnew : new.Orderly)
    (hlast : ∀ name, place.getLast? = some name → Disk.IsName name) :
    (node.put place new).Orderly := by
  fun_induction put node place new with
  | case1 => exact hnew
  | case2 entries name new => exact orderly_setEntry h (hlast name rfl) hnew
  | case3 entries name rest new hrest child hl ih =>
    -- The names on the way are those of entries that are already listed.
    have hmem := h.of_mem (mem_of_lookup hl)
    refine orderly_setEntry h hmem.1 (ih hmem.2 hnew fun n hn => hlast n ?_)
    rwa [List.getLast?_cons_of_ne_nil hrest]
  | case4 => exact h
  | case5 => exact h

end Node

namespace Disk

variable {d d' d'' : Disk} {p : Path} {paths : List Path} {bytes : ByteArray}

/-! ### One file -/

/-- What writing a file makes of a disk. -/
theorem write_spec (htop : d.top.isDir = true) (h : d.write p bytes = .ok d') :
    ∃ place, d.home? p = some place ∧ d' = { d with top := d.top.put place (.file bytes) } ∧
      d.top.Holds place ∧ (d.top.view place = none ∨ ∃ old, d.top.view place = some (.file old)) ∧
      (d.top.view place = none → ∀ name, place.getLast? = some name → IsStep name) := by
  unfold write at h
  split at h <;> rename_i hl
  all_goals simp only [reduceCtorEq, Except.ok.injEq] at h
  all_goals
    obtain ⟨hhome, hstands⟩ := home?_of_locate (by decide) htop hl
    subst h
  · rename_i place old
    have hview : d.top.view place = some (.file old) := Node.view_eq_file_iff.2 hstands
    exact ⟨place, hhome, rfl, holds_of_file hview, .inr ⟨old, hview⟩, by simp [hview]⟩
  · rename_i place
    exact ⟨place, hhome, rfl, holds_of_stands hstands, .inl hstands.1, fun _ => hstands.2.2.2⟩

/-- A file can be written where a path leads to a file or to a free name. -/
theorem exists_spot_of_canWrite (h : d.CanWrite p) :
    (∃ place old, d.locateFor .creation p = .ok (.found place (.file old))) ∨
      ∃ place, d.locateFor .creation p = .ok (.free place) := by
  obtain ⟨d', h⟩ := h ByteArray.empty
  unfold write at h
  split at h
  · rename_i hl
    exact .inl ⟨_, _, hl⟩
  · cases h
  · rename_i hl
    exact .inr ⟨_, hl⟩
  · cases h

/-! ### Several files -/

/-- The same bytes are written at some paths, and everything else stays as it is. -/
structure Overwrites (paths : List Path) (bytes : ByteArray) (d d' : Disk) : Prop where
  /-- The working directory stays. -/
  here : d'.here = d.here
  /-- The file that is held open stays so. -/
  held : d'.held = d.held
  /-- Directories and links stay. -/
  keeps : d.top.Keeps d'.top
  /-- The bytes can be read by each path. -/
  read : ∀ p ∈ paths, d'.read? p = some bytes
  /-- The bytes stand wherever a path leads. -/
  written : ∀ place, (∃ p ∈ paths, d.home? p = some place) →
    d'.top.view place = some (.file bytes)
  /-- Everywhere else stands what stood there. -/
  kept : ∀ place, (∀ p ∈ paths, d.home? p ≠ some place) → d'.top.view place = d.top.view place

theorem overwrites_nil (bytes : ByteArray) (d : Disk) : Overwrites [] bytes d d :=
  ⟨rfl, rfl, .refl _, by simp, by simp, fun _ _ => rfl⟩

theorem overwrites_write (htop : d.top.isDir = true) (h : d.write p bytes = .ok d') :
    Overwrites [p] bytes d d' := by
  obtain ⟨hwrites, hread⟩ := writes_write htop h
  obtain ⟨place, hhome, rfl, hholds, hold, -⟩ := write_spec htop h
  have hdir : d.top.view place ≠ some .dir := by
    rcases hold with hold | ⟨old, hold⟩ <;> simp [hold]
  have hview := Node.view_put_leaf hholds hdir (Node.view_file_of_ne_nil bytes)
  refine ⟨rfl, rfl, hwrites.keeps, by simpa using hread, fun q hq => ?_, fun q hq => ?_⟩
  · obtain ⟨r, hr, hq⟩ := hq
    obtain rfl := List.mem_singleton.1 hr
    rw [hhome] at hq
    obtain rfl := Option.some.inj hq
    exact (hview place).trans (if_pos rfl)
  · have hne : q ≠ place := fun heq => hq p (List.mem_singleton.2 rfl) (heq ▸ hhome)
    exact (hview q).trans (if_neg hne)

namespace Overwrites

variable (h : Overwrites paths bytes d d')
include h

theorem home?_eq (p : Path) : d'.home? p = d.home? p := home?_eq_of_keeps h.here h.keeps p

theorem isDir_top (htop : d.top.isDir = true) : d'.top.isDir = true :=
  isDir_of_view_nil (h.keeps.dirs [] (view_nil_of_isDir htop))

/-- Where there was no file before, there is one of those that were written. -/
theorem exists_of_view (place : List String) :
    d'.top.view place = d.top.view place ∨
      d'.top.view place = some (.file bytes) ∧ ∃ p ∈ paths, d.home? p = some place := by
  by_cases hp : ∃ p ∈ paths, d.home? p = some place
  · exact .inr ⟨h.written place hp, hp⟩
  · exact .inl (h.kept place fun p hmem heq => hp ⟨p, hmem, heq⟩)

/-- What reads as the bytes that are written goes on doing so. -/
theorem read?_eq (htop : d.top.isDir = true) (hp : d.read? p = some bytes) :
    d'.read? p = some bytes := by
  obtain ⟨place, hl⟩ := read?_eq_some_iff.1 hp
  refine read?_of_keeps (by decide) htop h.here h.keeps hl ?_
  rcases h.exists_of_view place with hview | ⟨hview, -⟩
  · exact hview.trans (Node.view_eq_file_iff.2 (home?_of_locate (by decide) htop hl).2)
  · exact hview

/-- Whatever could be written still can. -/
theorem canWrite (htop : d.top.isDir = true) (hp : d.CanWrite p) : d'.CanWrite p := by
  have hagain {spot : Spot} {old : ByteArray} (hl : d.locateFor .creation p = .ok spot)
      (hview : d'.top.view spot.place = some (.file old)) : d'.CanWrite p :=
    exists_write (h.isDir_top htop) (read?_of_keeps (by decide) htop h.here h.keeps hl hview)
  rcases exists_spot_of_canWrite hp with ⟨place, old, hl⟩ | ⟨place, hl⟩
  · have hstands := (home?_of_locate (by decide) htop hl).2
    rcases h.exists_of_view place with hview | ⟨hview, -⟩
    · exact hagain hl (hview.trans (Node.view_eq_file_iff.2 hstands))
    · exact hagain hl hview
  · have hstands := (home?_of_locate (by decide) htop hl).2
    rcases h.exists_of_view place with hview | ⟨hview, -⟩
    · have hfree : d'.locateFor .creation p = .ok (.free place) := by
        have hnone := Node.view_eq_none_iff.1 (hview.trans hstands.1)
        rw [locateFor_of_keeps (.inl rfl) htop h.here h.keeps hl, Spot.place, spotAt, hnone]
      intro bytes
      rw [write, hfree]
      exact ⟨_, rfl⟩
    · exact hagain hl hview

omit h in
/-- To write one file and then others is to write them all. -/
theorem cons (htop : d.top.isDir = true) (hfirst : Overwrites [p] bytes d d')
    (hrest : Overwrites paths bytes d' d'') : Overwrites (p :: paths) bytes d d'' := by
  refine ⟨hrest.here.trans hfirst.here, hrest.held.trans hfirst.held,
    hfirst.keeps.trans hrest.keeps, fun q hq => ?_, fun place hplace => ?_, fun place hplace => ?_⟩
  · rcases List.mem_cons.1 hq with rfl | hq
    · exact hrest.read?_eq (hfirst.isDir_top htop) (hfirst.read q (List.mem_singleton.2 rfl))
    · exact hrest.read q hq
  · obtain ⟨q, hq, hhome⟩ := hplace
    rcases hrest.exists_of_view place with hview | ⟨hview, -⟩
    · rcases List.mem_cons.1 hq with rfl | hq
      · exact hview.trans (hfirst.written place ⟨q, List.mem_singleton.2 rfl, hhome⟩)
      · exact hrest.written place ⟨q, hq, (hfirst.home?_eq q).trans hhome⟩
    · exact hview
  · have hother : ∀ q ∈ paths, d'.home? q ≠ some place := fun q hq =>
      hfirst.home?_eq q ▸ hplace q (List.mem_cons_of_mem _ hq)
    rw [hrest.kept place hother]
    refine hfirst.kept place fun q hq => ?_
    obtain rfl := List.mem_singleton.1 hq
    exact hplace q List.mem_cons_self

omit h in
/-- Of what is written twice the second time counts. -/
theorem again {bytes' : ByteArray} (hfirst : Overwrites paths bytes d d')
    (hsecond : Overwrites paths bytes' d' d'') : Overwrites paths bytes' d d'' := by
  refine ⟨hsecond.here.trans hfirst.here, hsecond.held.trans hfirst.held,
    hfirst.keeps.trans hsecond.keeps, hsecond.read, fun place hplace => ?_, fun place hplace => ?_⟩
  · obtain ⟨q, hq, hhome⟩ := hplace
    exact hsecond.written place ⟨q, hq, (hfirst.home?_eq q).trans hhome⟩
  · rw [hsecond.kept place fun q hq => hfirst.home?_eq q ▸ hplace q hq]
    exact hfirst.kept place hplace

omit h in
/-- The second time nothing new comes to be. -/
theorem view_eq_none_iff {bytes' : ByteArray} (hfirst : Overwrites paths bytes d d')
    (hsecond : Overwrites paths bytes' d' d'') (place : List String) :
    d''.top.view place = none ↔ d'.top.view place = none := by
  rcases hsecond.exists_of_view place with hview | ⟨hview, q, hq, hhome⟩
  · rw [hview]
  · rw [hview, hfirst.written place ⟨q, hq, (hfirst.home?_eq q).symm.trans hhome⟩]
    simp

end Overwrites

/-! ### Trees without links -/

/-- The names on the way to a node of a tree are proper. -/
theorem Hosts.isName_of_at? {base : Path} {tree node : Node} {q : List String}
    (h : d.Hosts base tree) (hat : tree.at? q = some node) : ∀ n ∈ base.names ++ q, IsName n := by
  intro n hn
  rcases List.mem_append.1 hn with hn | hn
  · exact h.names n hn
  · exact h.orderly.names q node hat n hn

/-- A path leads to a place under its own name, so no link stands at its end. -/
def EndsPlainly (d : Disk) (p : Path) : Prop :=
  ∀ place, d.home? p = some place → place.getLast? = some p.name

theorem not_hasNull_name (h : (d.home? p).isSome) : hasNull p.name = false := by
  unfold home? at h
  split at h
  · cases h
  · rename_i hnull
    rcases List.eq_nil_or_concat p.names with hnames | ⟨names, name, hnames⟩
    · rw [Path.name, hnames]
      decide
    · rw [List.concat_eq_append] at hnames
      rw [hnames, List.any_append, Bool.or_eq_true, not_or] at hnull
      rw [Path.name, hnames, List.getLastD_concat]
      simpa using hnull.2

/-- Directories are passed on the way. -/
theorem leadsTo_down {top : Node} {links : Nat} {place names more : List String}
    (hnames : ∀ n ∈ names, IsName n) (hdir : top.view (place ++ names) = some .dir) :
    leadsTo top links place (names ++ more) = leadsTo top links (place ++ names) more := by
  induction names generalizing place with
  | nil => rw [List.nil_append, List.append_nil]
  | cons name rest ih =>
    rw [List.append_cons] at hdir ⊢
    have hname := hnames name List.mem_cons_self
    have hview : top.view (place ++ [name]) = some .dir := by
      cases rest with
      | nil => simpa using hdir
      | cons => exact Node.view_eq_dir_of_append (List.cons_ne_nil _ _) (by rw [hdir]; rfl)
    rw [List.cons_append, leadsTo, hname.notUp, hname.notHere, hview]
    exact ih (fun n hn => hnames n (List.mem_cons_of_mem _ hn)) hdir

/-- In a directory of a tree without links a path ends under its own name. -/
theorem Hosts.endsPlainly_child {base : Path} {tree : Node} {q : List String}
    (h : d.Hosts base tree) (hdir : tree.view q = some .dir) {name : String} (hname : Dotless name) :
    d.EndsPlainly ((base.down q).child name) := by
  intro place hplace
  obtain ⟨entries, hat⟩ := Node.view_eq_dir_iff.1 hdir
  have hnames := h.isName_of_at? hat
  have hdown : d.top.view ([] ++ (base.names ++ q)) = some .dir := by
    rw [List.nil_append, h.view_append]
    exact hdir
  rw [← Path.down_concat] at hplace ⊢
  unfold home? at hplace
  split at hplace
  · cases hplace
  rw [h.absoluteNames_down, ← List.append_assoc, leadsTo_down hnames hdown, List.nil_append, leadsTo,
    hname.1, hname.2, if_neg Bool.false_ne_true, if_neg Bool.false_ne_true] at hplace
  have hlast : (base.down (q ++ [name])).name = name := by
    simp [Path.name, Path.down]
  rw [hlast]
  split at hplace
  · rename_i target hlink
    rw [List.append_assoc, h.view_append] at hlink
    exact absurd hlink (h.linkFree _ target)
  · rw [leadsTo] at hplace
    cases hplace
    exact List.getLast?_concat

/-- **A tree without links stays one when a file is written**, in the tree or elsewhere, unless a link
at the end of the path gives the file another name. -/
theorem Hosts.of_write {base : Path} {tree : Node} (h : d.Hosts base tree)
    (hw : d.write p bytes = .ok d') (hplain : d.EndsPlainly p) :
    ∃ tree', d'.Hosts base tree' := by
  have htop : d.top.isDir = true := isDir_of_view_nil (Node.view_root_of_dir h.view_base)
  have hkeeps := (writes_write htop hw).1.keeps
  have hbase : d.top.view base.names = some .dir := h.view_base
  obtain ⟨place, hhome, rfl, hholds, hold, hlast⟩ := write_spec htop hw
  have hnotDir : d.top.view place ≠ some .dir := by
    rcases hold with hold | ⟨old, hold⟩ <;> simp [hold]
  -- The tree stays linkless and a directory, so only how it is listed has to be looked at.
  suffices hsuffices : ∃ tree', (d.top.put place (.file bytes)).at? base.names = some tree' ∧
      tree'.Orderly by
    obtain ⟨tree', hstands, horderly⟩ := hsuffices
    have hview (q : List String) : (d.top.put place (.file bytes)).view (base.names ++ q) =
        tree'.view q := by
      rw [Node.view_append, hstands, Option.bind_some]
    refine ⟨tree', h.anchor, h.names, hstands, isDir_of_view_nil ?_, fun q target hq => ?_, horderly⟩
    · rw [← hview, List.append_nil]
      exact hkeeps.dirs _ hbase
    · rw [← hview, hkeeps.links, h.view_append] at hq
      exact h.linkFree q target hq
  by_cases hbelow : base.names <+: place
  · obtain ⟨q, rfl⟩ := hbelow
    refine ⟨tree.put q (.file bytes), Node.at?_put_below h.stands q _,
      Node.orderly_put h.orderly (Node.orderly_file bytes) ?_⟩
    intro name hname
    have hpname := hplain _ hhome
    rw [List.getLast?_append, hname, Option.some_or] at hpname
    obtain rfl := Option.some.inj hpname
    rcases hold with hold | ⟨old, hold⟩
    · exact ⟨hlast hold _ (hplain _ hhome), not_hasNull_name (by rw [hhome]; rfl)⟩
    · rw [h.view_append] at hold
      exact h.orderly.names q _ (Node.view_eq_file_iff.1 hold) _ (List.mem_of_getLast? hname)
  · have habove : ¬place <+: base.names := by
      rintro ⟨q, hq⟩
      by_cases hnil : q = []
      · rw [hnil, List.append_nil] at hq
        exact hbelow (hq ▸ List.prefix_rfl)
      · rw [← hq] at hbase
        exact hnotDir (Node.view_eq_dir_of_append hnil (by rw [hbase]; rfl))
    exact ⟨tree, (Node.at?_put_beside habove hbelow _).trans h.stands, h.orderly⟩

end Disk

end ProbeKit
