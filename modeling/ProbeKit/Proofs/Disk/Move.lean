import ProbeKit.Proofs.Disk.LinkFree

/-!
# Removing and moving files

On a disk without links a file that is removed or moved leaves everything else alone: both are
changes at the paths that they are given (`Disk.writes_remove`, `Disk.writes_rename`).
-/

namespace ProbeKit

namespace Node

/-- **Removing takes away what stands at a place** and below it, and nothing else. -/
theorem view_erase {node : Node} {place : List String} (hne : place ≠ []) (q : List String) :
    (node.erase place).view q = if place <+: q then none else node.view q := by
  -- Where nothing stands there is nothing to remove.
  have hkept {node : Node} {place : List String} (hnone : node.view place = none)
      (q : List String) : node.view q = if place <+: q then none else node.view q := by
    split
    · rename_i hbelow
      exact view_eq_none_of_prefix hnone hbelow
    · rfl
  fun_induction erase node place generalizing q with
  | case1 => exact absurd rfl hne
  | case2 entries name =>
    cases q with
    | nil => simp [view_nil, mark]
    | cons other q' =>
      rw [view_dir_cons, view_dir_cons, lookup_filter_ne]
      by_cases ho : other = name
      · simp [ho]
      · simp [ho, Ne.symm ho]
  | case3 entries name rest hrest child hl ih =>
    cases q with
    | nil => simp [view_nil, mark]
    | cons other q' =>
      rw [view_setEntry_cons]
      by_cases ho : other = name
      · subst ho
        simp [ih hrest, view_dir_cons, hl]
      · simp [ho, Ne.symm ho]
  | case4 entries name rest hrest hl =>
    exact hkept (by rw [view_dir_cons, hl]; rfl) q
  | case5 node name rest _ hleaf =>
    exact hkept (view_eq_none_iff.2 (at?_cons_of_leaf hleaf name rest)) q

/-- Below a file, and below what is not there, stands nothing. -/
theorem view_below_leaf {node : Node} {place q : List String}
    (hleaf : node.view place = none ∨ ∃ bytes, node.view place = some (.file bytes))
    (hbelow : place <+: q) (hne : q ≠ place) : node.view q = none := by
  rcases hleaf with hnone | ⟨bytes, hfile⟩
  · exact view_eq_none_of_prefix hnone hbelow
  · obtain ⟨rest, rfl⟩ := hbelow
    have hrest : rest ≠ [] := by
      rintro rfl
      exact hne (List.append_nil place)
    rw [view_append, view_eq_file_iff.1 hfile, Option.bind_some]
    exact view_file_of_ne_nil bytes rest hrest

theorem view_erase_leaf {node : Node} {place : List String} (hne : place ≠ [])
    (hleaf : node.view place = none ∨ ∃ bytes, node.view place = some (.file bytes))
    (q : List String) : (node.erase place).view q = if q = place then none else node.view q := by
  rw [view_erase hne]
  by_cases hq : q = place
  · rw [if_pos hq, hq, if_pos (List.prefix_refl place)]
  · rw [if_neg hq]
    split
    · rename_i hbelow
      exact (view_below_leaf hleaf hbelow hq).symm
    · rfl

end Node

namespace Disk

variable {d : Disk} {p q : Path} {bytes : ByteArray}

/-- A disk where only files at some places differ. -/
theorem writes_of_view {d d' : Disk} {paths : Path → Prop} (hhere : d'.here = d.here)
    (hheld : ∀ place, d'.held = some place → d.held = some place)
    (hnamed : d.top.Named → d'.top.Named) (changed : List String → Prop)
    (hsame : ∀ place, ¬changed place → d'.top.view place = d.top.view place)
    (hbefore : ∀ place, changed place → d.top.view place ≠ some .dir ∧
      ∀ target, d.top.view place ≠ some (.link target))
    (hafter : ∀ place target, changed place → d'.top.view place ≠ some (.link target))
    (hpaths : ∀ place, changed place → ∃ p, paths p ∧ d.home? p = some place) :
    Writes paths d d' := by
  refine ⟨hhere, hheld, ⟨fun q hq => ?_, fun q target => ?_⟩, hnamed, fun q bytes _ hq => ?_⟩
  · by_cases hc : changed q
    · exact absurd hq (hbefore q hc).1
    · rw [hsame q hc]
      exact hq
  · by_cases hc : changed q
    · exact iff_of_false (hafter q target hc) ((hbefore q hc).2 target)
    · rw [hsame q hc]
  · by_cases hc : changed q
    · obtain ⟨p, hp, hhome⟩ := hpaths q hc
      exact absurd hhome (hq p hp)
    · rw [hsame q hc]

theorem ne_nil_of_file {top : Node} {place : List String} (htop : top.isDir = true)
    (hfile : top.view place = some (.file bytes)) : place ≠ [] := by
  rintro rfl
  rw [view_nil_of_isDir htop] at hfile
  cases hfile

/-- **Removing a file is a change at its path alone.** -/
theorem writes_remove (hnames : ∀ n ∈ d.absoluteNames p, IsName n) (hfree : d.top.LinkFree)
    (htop : d.top.isDir = true) (hfile : d.top.view (d.absoluteNames p) = some (.file bytes)) :
    Writes (· = p) d (d.remove p) ∧ (d.remove p).top.view (d.absoluteNames p) = none := by
  have hl : d.locateFor .entry p = .ok (.found (d.absoluteNames p) (.file bytes)) :=
    locateFor_found hnames hfree htop (Node.view_eq_file_iff.1 hfile)
  have hremove : d.remove p = d.eraseAt (d.absoluteNames p) := by
    rw [remove, hl]
  have hview (place : List String) : (d.remove p).top.view place =
      if place = d.absoluteNames p then none else d.top.view place := by
    rw [hremove]
    exact Node.view_erase_leaf (ne_nil_of_file htop hfile) (.inr ⟨bytes, hfile⟩) place
  refine ⟨writes_of_view ?_ ?_ ?_ (· = d.absoluteNames p) ?_ ?_ ?_ ?_, by rw [hview, if_pos rfl]⟩
  · rw [hremove]
    rfl
  · intro place hheld
    rw [hremove] at hheld
    exact (Option.filter_eq_some_iff.1 hheld).1
  · intro hnamed
    rw [hremove]
    exact Node.named_erase hnamed _
  · intro place hplace
    rw [hview, if_neg hplace]
  · rintro _ rfl
    simp [hfile]
  · rintro _ target rfl
    simp [hview]
  · rintro _ rfl
    exact ⟨p, rfl, home?_of_linkFree hnames hfree⟩

/-! ### Moving -/

section
variable {source target : List String} (htop : d.top.isDir = true)
  (hfile : d.top.view source = some (.file bytes)) (hholds : d.top.Holds target)
  (hleaf : d.top.view target = none ∨ ∃ old, d.top.view target = some (.file old))
include htop hfile

/-- What is left once both files are taken away. -/
theorem view_erase_erase (hnil : target ≠ []) (hne : source ≠ target)
    (hleaf : d.top.view target = none ∨ ∃ old, d.top.view target = some (.file old))
    (place : List String) : ((d.top.erase source).erase target).view place =
      if place = target then none else if place = source then none else d.top.view place := by
  have hview (place : List String) : (d.top.erase source).view place =
      if place = source then none else d.top.view place :=
    Node.view_erase_leaf (ne_nil_of_file htop hfile) (.inr ⟨bytes, hfile⟩) place
  have hleaf' : (d.top.erase source).view target = none ∨
      ∃ old, (d.top.erase source).view target = some (.file old) := by
    rw [hview, if_neg (Ne.symm hne)]
    exact hleaf
  rw [Node.view_erase_leaf hnil hleaf', hview]

include hholds hleaf

/-- The directory of the target is still there then. -/
theorem holds_erase_erase (hnil : target ≠ []) (hne : source ≠ target) :
    ((d.top.erase source).erase target).Holds target := by
  intro _
  have hparent : d.top.view target.dropLast = some .dir := hholds hnil
  have hsource : target.dropLast ≠ source := by
    intro h
    rw [h, hfile] at hparent
    cases hparent
  have htarget : target.dropLast ≠ target := by
    intro h
    have hlength := congrArg List.length h
    have hpos := List.length_pos_iff.2 hnil
    rw [List.length_dropLast] at hlength
    omega
  rw [view_erase_erase htop hfile hnil hne hleaf, if_neg htarget, if_neg hsource]
  exact hparent

/-- A file that is moved to another place stands there and no more where it was. -/
theorem view_moveTo (hnil : target ≠ []) (place : List String) :
    (d.moveTo source target (.file bytes)).top.view place =
      if place = target then some (.file bytes)
      else if place = source then none else d.top.view place := by
  unfold moveTo
  split
  · rename_i hsame
    subst hsame
    split
    · rename_i hplace
      rw [hplace, hfile]
    · rfl
  · rename_i hne
    have hview := view_erase_erase htop hfile hnil hne hleaf
    show (((d.top.erase source).erase target).put target (.file bytes)).view place = _
    rw [Node.view_put_leaf (holds_erase_erase htop hfile hholds hleaf hnil hne)
      (by rw [hview, if_pos rfl]; simp) (Node.view_file_of_ne_nil bytes), hview]
    split <;> rfl

theorem named_moveTo (hnil : target ≠ []) (hnamed : d.top.Named)
    (hlast : ∀ name, target.getLast? = some name → IsStep name) :
    (d.moveTo source target (.file bytes)).top.Named := by
  unfold moveTo
  split
  · exact hnamed
  · rename_i hne
    have herased := Node.named_erase (Node.named_erase hnamed source) target
    exact Node.named_put herased trivial (holds_erase_erase htop hfile hholds hleaf hnil hne)
      fun _ => hlast

end

/-- The file that is held open stays the one it is, unless the move takes it along or drops it. -/
theorem held_moveTo {source target : List String} {node : Node}
    (hheld : ∀ place, d.held = some place → ¬source <+: place)
    {place : List String} (h : (d.moveTo source target node).held = some place) :
    d.held = some place := by
  unfold moveTo at h
  split at h
  · exact h
  · obtain ⟨place', hplace', hmoved⟩ := Option.bind_eq_some_iff.1 h
    rw [if_neg (by simpa using hheld place' hplace')] at hmoved
    split at hmoved
    · cases hmoved
    · rw [hplace', hmoved]

/-- Without links, what is no directory is missing or a file. -/
theorem leaf_of_linkFree (hfree : d.top.LinkFree) {place : List String}
    (hdir : d.top.view place ≠ some .dir) :
    d.top.view place = none ∨ ∃ old, d.top.view place = some (.file old) := by
  rcases hview : d.top.view place with _ | (old | target | _)
  · exact .inl rfl
  · exact .inr ⟨old, rfl⟩
  · exact absurd hview (hfree place target)
  · exact absurd hview hdir

/-- On a disk without links a file is moved from where the one path says to where the other does. -/
theorem rename_eq_moveTo (hp : ∀ n ∈ d.absoluteNames p, IsName n)
    (hq : ∀ n ∈ d.absoluteNames q, IsName n) (hfree : d.top.LinkFree) (htop : d.top.isDir = true)
    (hfile : d.top.view (d.absoluteNames p) = some (.file bytes))
    (hholds : d.top.Holds (d.absoluteNames q)) (hdir : d.top.view (d.absoluteNames q) ≠ some .dir) :
    d.rename p q = d.moveTo (d.absoluteNames p) (d.absoluteNames q) (.file bytes) := by
  have hsource : d.locateFor .entry p = .ok (.found (d.absoluteNames p) (.file bytes)) :=
    locateFor_found hp hfree htop (Node.view_eq_file_iff.1 hfile)
  rcases leaf_of_linkFree hfree hdir with hnone | ⟨old, hold⟩
  · have hnil : d.absoluteNames q ≠ [] := fun h => by
      rw [h, view_nil_of_isDir htop] at hnone
      cases hnone
    obtain ⟨place, name, hplace⟩ := List.eq_nil_or_concat (d.absoluteNames q) |>.resolve_left hnil
    rw [List.concat_eq_append] at hplace
    have hparent := hholds hnil
    rw [hplace, List.dropLast_concat] at hparent
    have htarget : d.locateFor .entry q = .ok (.free (place ++ [name])) :=
      locateFor_free hq htop place hplace hparent (hplace ▸ hnone)
    rw [rename, hsource, htarget, hplace]
  · have htarget : d.locateFor .entry q = .ok (.found (d.absoluteNames q) (.file old)) :=
      locateFor_found hq hfree htop (Node.view_eq_file_iff.1 hold)
    rw [rename, hsource, htarget]

/-- **Moving a file is a change at both paths alone**, if the target is no directory and the log is
not moved. -/
theorem writes_rename (hp : ∀ n ∈ d.absoluteNames p, IsName n)
    (hq : ∀ n ∈ d.absoluteNames q, IsName n) (hfree : d.top.LinkFree) (htop : d.top.isDir = true)
    (hfile : d.top.view (d.absoluteNames p) = some (.file bytes))
    (hholds : d.top.Holds (d.absoluteNames q)) (hdir : d.top.view (d.absoluteNames q) ≠ some .dir)
    (hheld : ∀ place, d.held = some place → ¬d.absoluteNames p <+: place) :
    Writes (fun r => r = p ∨ r = q) d (d.rename p q) ∧
      ∀ place, (d.rename p q).top.view place =
        if place = d.absoluteNames q then some (.file bytes)
        else if place = d.absoluteNames p then none else d.top.view place := by
  have hnil : d.absoluteNames q ≠ [] := by
    intro h
    rw [h, view_nil_of_isDir htop] at hdir
    exact hdir rfl
  have hleaf := leaf_of_linkFree hfree hdir
  rw [rename_eq_moveTo hp hq hfree htop hfile hholds hdir]
  have hview := view_moveTo htop hfile hholds hleaf hnil
  have hlast : ∀ name, (d.absoluteNames q).getLast? = some name → IsStep name :=
    fun name hname => (hq name (List.mem_of_getLast? hname)).toIsStep
  refine ⟨writes_of_view ?_ (fun place => held_moveTo hheld)
    (fun hnamed => named_moveTo htop hfile hholds hleaf hnil hnamed hlast)
    (fun place => place = d.absoluteNames p ∨ place = d.absoluteNames q) ?_ ?_ ?_ ?_, hview⟩
  · unfold moveTo
    split <;> rfl
  · intro place hplace
    rw [not_or] at hplace
    rw [hview, if_neg hplace.2, if_neg hplace.1]
  · rintro place (rfl | rfl)
    · simp [hfile]
    · exact ⟨hdir, hfree _⟩
  · rintro place target (rfl | rfl)
    · rw [hview]
      split <;> simp
    · simp [hview]
  · rintro place (rfl | rfl)
    · exact ⟨p, .inl rfl, home?_of_linkFree hp hfree⟩
    · exact ⟨q, .inr rfl, home?_of_linkFree hq hfree⟩

end Disk

end ProbeKit
