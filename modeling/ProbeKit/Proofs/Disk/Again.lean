import ProbeKit.Proofs.Disk.Change

/-!
# Writing a file again

Where a path reads a file, the directory that holds the file is there (`Disk.hasDirectory_parent`),
so that nothing has to be made for it, and the file can be written again (`Disk.exists_write`).
-/

namespace ProbeKit.Disk

variable {top : Node} {links : Nat} {place names : List String} {q : List String} {node : Node}

/-! ### Following names in two parts -/

/-- Names that lead somewhere lead to a directory first, and from there on. -/
theorem walk_append {more : List String} {spot : Spot} (hmore : more ≠ [])
    (hdir : top.view place = some .dir)
    (h : walk top .target links place (names ++ more) = .ok spot) :
    ∃ left q entries, walk top .target links place names = .ok (.found q (.dir entries)) ∧
      top.view q = some .dir ∧ walk top .target left q more = .ok spot := by
  -- Behind the first names there is always another one, so no name among them is the last.
  have hnot (rest : List String) : (rest ++ more).isEmpty = false := by simp [hmore]
  fun_induction walk top .target links place names with
  | case1 links place =>
    obtain ⟨entries, hat⟩ := Node.view_eq_dir_iff.1 hdir
    exact ⟨links, place, entries, by rw [hat]; rfl, hdir, h⟩
  | case2 links place name rest hn ih =>
    rw [List.cons_append, walk, if_pos hn] at h
    exact ih (Node.view_dropLast_of_dir hdir) h
  | case3 links place name rest hn hs ih =>
    rw [List.cons_append, walk, if_neg hn, if_pos hs] at h
    exact ih hdir h
  | case4 links place name rest hn hs haim => simp at haim
  | case5 links place name rest hn hs _ hlong =>
    rw [List.cons_append, walk, if_neg hn, if_neg hs, if_neg (by simp), if_pos hlong] at h
    cases h
  | case6 links place name rest hn hs _ hlong hat _
  | case7 links place name rest hn hs _ hlong hat _ =>
    -- Nothing is there, so nothing can be below it.
    rw [List.cons_append, walk_step hn hs (by simp) hlong, hat] at h
    simp [hnot] at h
  | case8 links place name rest hn hs _ hlong entries hat ih =>
    rw [List.cons_append, walk_step hn hs (by simp) hlong, hat] at h
    exact ih (Node.view_eq_dir_iff.2 ⟨entries, hat⟩) h
  | case9 links place name rest hn hs _ hlong bytes hat _
  | case10 links place name rest hn hs _ hlong bytes hat _ =>
    -- Nothing can be below a file either.
    rw [List.cons_append, walk_step hn hs (by simp) hlong, hat] at h
    simp [hnot] at h
  | case11 links place name rest hn hs _ hlong target hat hlast => simp at hlast
  | case12 place name rest hn hs _ hlong target hat _ =>
    rw [List.cons_append, walk_step hn hs (by simp) hlong, hat] at h
    simp at h
  | case13 place name rest hn hs _ hlong target hat _ k ih =>
    rw [List.cons_append, walk_step hn hs (by simp) hlong, hat] at h
    simp only [reduceCtorEq, decide_false, Bool.and_false, Bool.false_eq_true, if_false,
      ← List.append_assoc] at h
    exact ih (Node.view_base_of_dir hdir _) h

/-- Names that lead to a file do not end in a slash. -/
theorem ne_slash_of_walk (hdir : top.view place = some .dir) {more : List String}
    {bytes : ByteArray}
    (h : walk top .target links place (names ++ more) = .ok (.found q (.file bytes))) :
    more ≠ [""] := by
  rintro rfl
  obtain ⟨left, q', entries, -, hdir', hlast⟩ := walk_append (List.cons_ne_nil _ _) hdir h
  obtain ⟨entries', hat⟩ := Node.view_eq_dir_iff.1 hdir'
  rw [walk, if_neg (by decide), if_pos (by decide), walk, hat] at hlast
  cases hlast

/-- What names lead to is there when they are followed for the entry itself. -/
theorem walk_entry (h : walk top .target links place names = .ok (.found q node)) :
    ∃ q' node', walk top .entry links place names = .ok (.found q' node') := by
  fun_induction walk top .target links place names with
  | case1 links place => exact ⟨_, _, by rw [walk]⟩
  | case2 links place name rest hn ih =>
    rw [walk, if_pos hn]
    exact ih h
  | case3 links place name rest hn hs ih =>
    rw [walk, if_neg hn, if_pos hs]
    exact ih h
  | case4 => cases h
  | case5 => cases h
  | case6 => cases h
  | case7 => cases h
  | case8 links place name rest hn hs _ hlong entries hat ih =>
    rw [walk_step hn hs (by simp) hlong, hat]
    exact ih h
  | case9 links place name rest hn hs _ hlong bytes hat hrest =>
    rw [walk_step hn hs (by simp) hlong, hat]
    exact ⟨_, _, if_pos hrest⟩
  | case10 => cases h
  | case11 links place name rest hn hs _ hlong target hat hlast => simp at hlast
  | case12 => cases h
  | case13 place name rest hn hs _ hlong target hat _ k ih =>
    rw [walk_step hn hs (by simp) hlong, hat]
    -- A link at the end is the entry itself, wherever it leads.
    by_cases hrest : rest.isEmpty = true
    · exact ⟨_, _, if_pos (by simp [hrest])⟩
    · dsimp only
      rw [if_neg (by simp [hrest])]
      exact ih h

/-- A file that names lead to is the one that is written. -/
theorem walk_creation (hdir : top.view place = some .dir) {bytes : ByteArray}
    (h : walk top .target links place names = .ok (.found q (.file bytes))) :
    walk top .creation links place names = .ok (.found q (.file bytes)) := by
  -- The two walks differ only where a slash follows the last name, and no slash follows that of a
  -- file.
  fun_induction walk top .target links place names with
  | case1 links place =>
    obtain ⟨entries, hat⟩ := Node.view_eq_dir_iff.1 hdir
    rw [hat] at h
    cases h
  | case2 links place name rest hn ih =>
    rw [walk, if_pos hn]
    exact ih (Node.view_dropLast_of_dir hdir) h
  | case3 links place name rest hn hs ih =>
    rw [walk, if_neg hn, if_pos hs]
    exact ih hdir h
  | case4 => cases h
  | case5 => cases h
  | case6 => cases h
  | case7 => cases h
  | case8 links place name rest hn hs _ hlong entries hat ih =>
    have hv : top.view (place ++ [name]) = some .dir := Node.view_eq_dir_iff.2 ⟨entries, hat⟩
    have hbelow : walk top .target links (place ++ [name]) ([] ++ rest) = _ := h
    have hslash := ne_slash_of_walk hv hbelow
    rw [walk_step hn hs (by simpa using hslash) hlong, hat]
    exact ih hv h
  | case9 links place name rest hn hs _ hlong old hat hrest =>
    obtain rfl := List.isEmpty_iff.1 hrest
    rw [walk_step hn hs (by simp) hlong, hat]
    exact h
  | case10 => cases h
  | case11 links place name rest hn hs _ hlong target hat hlast => simp at hlast
  | case12 => cases h
  | case13 place name rest hn hs _ hlong target hat _ k ih =>
    have hv := Node.view_base_of_dir hdir (fromTop target)
    have hslash := ne_slash_of_walk hv h
    rw [walk_step hn hs (by simpa using hslash) hlong, hat]
    simp only [reduceCtorEq, decide_false, Bool.and_false, Bool.false_eq_true, if_false]
    exact ih hv h

/-! ### The file of a path -/

variable {d : Disk} {p : Path}

/-- The directory of a file is there. -/
theorem hasDirectory_parent (htop : d.top.isDir = true) (hne : p.names ≠ []) {bytes : ByteArray}
    (h : d.read? p = some bytes) : d.hasDirectory p.parent = true := by
  obtain ⟨place, hlocate⟩ := read?_eq_some_iff.1 h
  obtain ⟨names, name, hnames⟩ := List.eq_nil_or_concat p.names |>.resolve_left hne
  rw [List.concat_eq_append] at hnames
  have hparent : p.parent.names = names := by
    show p.names.dropLast = names
    rw [hnames, List.dropLast_concat]
  have habs : d.absoluteNames p = d.absoluteNames p.parent ++ [name] := by
    unfold absoluteNames
    rw [hparent, hnames]
    show _ = (if p.isAbsolute then names else d.here ++ names) ++ [name]
    split
    · rfl
    · rw [List.append_assoc]
  unfold locate locateFor at hlocate
  split at hlocate
  · cases hlocate
  rename_i hnull
  have hnull' : ¬p.parent.names.any hasNull := by
    rw [hparent]
    rw [hnames, List.any_append, Bool.or_eq_true, not_or] at hnull
    exact hnull.1
  rw [habs] at hlocate
  -- The walk to the file goes through its directory.
  obtain ⟨left, q, entries, hfound, -⟩ :=
    walk_append (List.cons_ne_nil _ _) (view_nil_of_isDir htop) hlocate
  rw [hasDirectory, node?, locate, locateFor, if_neg hnull', hfound]
  rfl

/-- Nothing has to be made where a directory is there. -/
theorem ensureDirectories_eq_self (h : d.hasDirectory p = true) :
    d.ensureDirectories p = .ok d := by
  have hensure : d.ensureDirectory p = .ok d := by
    have hfound := h
    unfold hasDirectory node? locate locateFor at hfound
    split at hfound
    · rename_i q node hwalk
      split at hwalk
      · cases hwalk
      · rename_i hnull
        obtain ⟨q', node', hentry⟩ := walk_entry hwalk
        rw [ensureDirectory, makeDirectory, locateFor, if_neg hnull, hentry]
        exact if_pos h
    · cases hfound
  rw [ensureDirectories, hensure]

/-- A file that can be read can be written. -/
theorem exists_write (htop : d.top.isDir = true) {old : ByteArray} (h : d.read? p = some old)
    (bytes : ByteArray) : ∃ d', d.write p bytes = .ok d' := by
  obtain ⟨place, hlocate⟩ := read?_eq_some_iff.1 h
  have hcreation : d.locateFor .creation p = .ok (.found place (.file old)) := by
    unfold locate locateFor at hlocate
    unfold locateFor
    split at hlocate
    · cases hlocate
    · rename_i hnull
      rw [if_neg hnull]
      exact walk_creation (view_nil_of_isDir htop) hlocate
  rw [write, hcreation]
  exact ⟨_, rfl⟩

end ProbeKit.Disk
