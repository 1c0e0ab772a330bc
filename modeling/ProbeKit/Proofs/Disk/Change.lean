import ProbeKit.Proofs.Disk.Home
import ProbeKit.Proofs.Results

/-!
# Changes of a disk

`Disk.Writes paths d d'` says that `d'` comes from `d` by making directories, by changing the files
at some paths and by appending to the file that is held open.  Every operation on files that a
session performs is such a change, and such changes can be put together.  The file at the home of a path
stays as it is under changes that do not write it (`Writes.file?_eq`), and so does what the path
reads (`Writes.read?_eq_some`), provided that it does not lead to the same place as what they do
write.
-/

namespace ProbeKit.Disk

/-! ### Reading and the home of a path -/

theorem view_nil_of_isDir {node : Node} (h : node.isDir = true) : node.view [] = some .dir := by
  cases node with
  | dir entries => rfl
  | file bytes => simp [Node.isDir] at h
  | link target => simp [Node.isDir] at h

theorem isDir_of_view_nil {node : Node} (h : node.view [] = some .dir) : node.isDir = true := by
  cases node with
  | dir entries => rfl
  | file bytes => simp [Node.view, Node.at?, Node.mark] at h
  | link target => simp [Node.view, Node.at?, Node.mark] at h

theorem read?_eq_some_iff {d : Disk} {p : Path} {bytes : ByteArray} :
    d.read? p = some bytes ↔ ∃ place, d.locate p = .ok (.found place (.file bytes)) := by
  unfold read? read
  split <;> rename_i h <;> simp [h, Except.toOption]
  rename_i hfile
  exact hfile _

theorem home?_of_locate {d : Disk} {aim : Aim} (haim : aim ≠ .entry) (htop : d.top.isDir = true)
    {p : Path} {spot : Spot} (h : d.locateFor aim p = .ok spot) :
    d.home? p = some spot.place ∧ spot.Stands d.top := by
  unfold locateFor at h
  unfold home?
  split at h
  · cases h
  · rename_i hnull
    rw [if_neg hnull]
    obtain ⟨hs, hl⟩ := walk_spec (view_nil_of_isDir htop) h
    exact ⟨hl haim, hs⟩

/-- The bytes of the file at the home of a path.  It is there even when the path leads to it
through a directory that is missing. -/
def file? (d : Disk) (p : Path) : Option ByteArray :=
  (d.home? p).bind fun place =>
    match d.top.view place with
    | some (.file bytes) => some bytes
    | _ => none

theorem file?_eq_some_iff {d : Disk} {p : Path} {bytes : ByteArray} :
    d.file? p = some bytes ↔
      ∃ place, d.home? p = some place ∧ d.top.view place = some (.file bytes) := by
  unfold file?
  rw [Option.bind_eq_some_iff]
  refine exists_congr fun place => and_congr_right fun _ => ?_
  split
  · rename_i old hv
    simp [hv]
  · rename_i hno
    constructor
    · intro h
      cases h
    · intro hv
      exact absurd hv (hno bytes)

/-- A file that can be read stands at the home of its path. -/
theorem file?_of_read? {d : Disk} (htop : d.top.isDir = true) {p : Path} {bytes : ByteArray}
    (h : d.read? p = some bytes) : d.file? p = some bytes := by
  obtain ⟨place, hl⟩ := read?_eq_some_iff.1 h
  obtain ⟨hh, hs⟩ := home?_of_locate (by simp) htop hl
  exact file?_eq_some_iff.2 ⟨place, hh, Node.view_eq_file_iff.2 hs⟩

theorem walk_ne_nullCharacter (top : Node) (aim : Aim) (links : Nat) (place names : List String) :
    walk top aim links place names ≠ .error .nullCharacter := by
  fun_induction walk top aim links place names <;> simp_all

/-- A path that can be looked for reads what is there, if anything. -/
theorem readIfAny_eq (d : Disk) (p : Path) :
    d.readIfAny p =
      if p.names.any hasNull then .error (.refused .nullCharacter p) else .ok (d.read? p) := by
  unfold readIfAny read? read locate locateFor
  by_cases hnull : p.names.any hasNull
  · rw [if_pos hnull, if_pos hnull]
  rw [if_neg hnull, if_neg hnull]
  have hne := walk_ne_nullCharacter d.top .target linkLimit [] (d.absoluteNames p)
  generalize walk d.top .target linkLimit [] (d.absoluteNames p) = result at hne ⊢
  rcases result with reason | spot
  · cases reason <;> first | rfl | exact absurd rfl hne
  · cases spot with
    | free place => rfl
    | found place node => cases node <;> rfl

/-- What can be read has no null character in its path. -/
theorem noNull_of_read? {d : Disk} {p : Path} {bytes : ByteArray} (h : d.read? p = some bytes) :
    ∀ n ∈ p.names, hasNull n = false := by
  obtain ⟨place, hl⟩ := read?_eq_some_iff.1 h
  unfold locate locateFor at hl
  split at hl
  · cases hl
  · rename_i hnull
    intro n hn
    rw [List.any_eq_true] at hnull
    exact Bool.eq_false_iff.2 fun h => hnull ⟨n, hn, h⟩

/-- A path goes on leading to the same place while directories and links stay. -/
theorem locateFor_of_keeps {d d' : Disk} {aim aim' : Aim}
    (haim : aim' = aim ∨ aim = .creation ∧ aim' = .target) (htop : d.top.isDir = true)
    (hh : d'.here = d.here) (hk : d.top.Keeps d'.top) {p : Path} {spot : Spot}
    (h : d.locateFor aim p = .ok spot) : d'.locateFor aim' p = .ok (spotAt d'.top spot.place) := by
  unfold locateFor absoluteNames at h ⊢
  split at h
  · cases h
  · rename_i hnull
    rw [if_neg hnull, hh]
    exact walk_of_keeps haim (view_nil_of_isDir htop) hk h

/-- A path that leads to a file, or to a free name, leads to the file that is put there. -/
theorem read?_of_keeps {d d' : Disk} {aim : Aim} (haim : aim ≠ .entry)
    (htop : d.top.isDir = true) (hh : d'.here = d.here) (hk : d.top.Keeps d'.top) {p : Path}
    {spot : Spot} (h : d.locateFor aim p = .ok spot) {bytes : ByteArray}
    (hfile : d'.top.view spot.place = some (.file bytes)) : d'.read? p = some bytes := by
  have haims : Aim.target = aim ∨ aim = .creation ∧ Aim.target = .target := by
    cases aim with
    | target => exact .inl rfl
    | creation => exact .inr ⟨rfl, rfl⟩
    | entry => exact absurd rfl haim
  have hl := locateFor_of_keeps haims htop hh hk h
  rw [spotAt, Node.view_eq_file_iff.1 hfile] at hl
  exact read?_eq_some_iff.2 ⟨spot.place, hl⟩

/-! ### Paths that keep out of each other's way -/

/-- Two paths that do not lead to the same place. -/
def Apart (d : Disk) (p q : Path) : Prop :=
  ∀ place, d.home? p = some place → d.home? q ≠ some place

theorem Apart.symm {d : Disk} {p q : Path} (h : d.Apart p q) : d.Apart q p :=
  fun place hq hp => h place hp hq

/-- A path that does not lead to the file that is held open. -/
def NotHeld (d : Disk) (p : Path) : Prop := ∀ place, d.home? p = some place → d.held ≠ some place

/-! ### Changes -/

/-- A disk comes from another by making directories, by changing the files at some paths (they may
be written, removed or moved), and by appending to the file that is held open. -/
structure Writes (paths : Path → Prop) (d d' : Disk) : Prop where
  /-- The working directory stays. -/
  here : d'.here = d.here
  /-- The file that is held open stays, unless it is removed. -/
  held : ∀ place, d'.held = some place → d.held = some place
  /-- Directories and links stay. -/
  keeps : d.top.Keeps d'.top
  /-- No name comes up that does not lead one step down. -/
  named : d.top.Named → d'.top.Named
  /-- All other files stay. -/
  files : ∀ place bytes, d.held ≠ some place → (∀ p, paths p → d.home? p ≠ some place) →
    (d'.top.view place = some (.file bytes) ↔ d.top.view place = some (.file bytes))

namespace Writes

variable {paths : Path → Prop} {d d' : Disk}

theorem refl (paths : Path → Prop) (d : Disk) : Writes paths d d :=
  ⟨rfl, fun _ h => h, .refl _, fun h => h, fun _ _ _ _ => Iff.rfl⟩

theorem home?_eq (h : Writes paths d d') (p : Path) : d'.home? p = d.home? p :=
  home?_eq_of_keeps h.here h.keeps p

theorem trans {d'' : Disk} (h : Writes paths d d') (h' : Writes paths d' d'') :
    Writes paths d d'' := by
  refine ⟨h'.here.trans h.here, fun place hp => h.held place (h'.held place hp),
    h.keeps.trans h'.keeps, fun hd => h'.named (h.named hd), ?_⟩
  intro place bytes hheld hpaths
  refine (h'.files place bytes ?_ ?_).trans (h.files place bytes hheld hpaths)
  · exact fun hp => hheld (h.held place hp)
  · intro p hp
    rw [h.home?_eq]
    exact hpaths p hp

theorem mono {more : Path → Prop} (h : Writes paths d d') (hsub : ∀ p, paths p → more p) :
    Writes more d d' :=
  ⟨h.here, h.held, h.keeps, h.named, fun place bytes hheld hpaths =>
    h.files place bytes hheld fun p hp => hpaths p (hsub p hp)⟩

theorem isDir_top (h : Writes paths d d') (htop : d.top.isDir = true) : d'.top.isDir = true :=
  isDir_of_view_nil (h.keeps.dirs _ (view_nil_of_isDir htop))

theorem apart (h : Writes paths d d') {p q : Path} (hpq : d.Apart p q) : d'.Apart p q := by
  intro place hp hq
  rw [h.home?_eq] at hp hq
  exact hpq place hp hq

theorem notHeld (h : Writes paths d d') {p : Path} (hp : d.NotHeld p) : d'.NotHeld p := by
  intro place hh
  rw [h.home?_eq] at hh
  exact fun hheld => hp place hh (h.held place hheld)

/-- The file of a path stays while others are written. -/
theorem file?_eq (h : Writes paths d d') {p : Path} (hheld : d.NotHeld p)
    (hpaths : ∀ q, paths q → d.Apart p q) : d'.file? p = d.file? p := by
  unfold file?
  rw [h.home?_eq]
  cases hp : d.home? p with
  | none => rfl
  | some place =>
    have hf := fun bytes => h.files place bytes (hheld place hp) fun q hq => hpaths q hq place hp
    simp only [Option.bind_some]
    cases hv : d.top.view place with
    | none => grind
    | some m => cases m <;> grind

/-- What a path reads stays while other files are written. -/
theorem read?_eq_some (h : Writes paths d d') (htop : d.top.isDir = true) {p : Path}
    {bytes : ByteArray} (hr : d.read? p = some bytes) (hheld : d.NotHeld p)
    (hpaths : ∀ q, paths q → d.Apart p q) : d'.read? p = some bytes := by
  obtain ⟨place, hl⟩ := read?_eq_some_iff.1 hr
  obtain ⟨hh, hs⟩ := home?_of_locate (by simp) htop hl
  exact read?_of_keeps (by simp) htop h.here h.keeps hl
    ((h.files place bytes (hheld place hh) fun q hq => hpaths q hq place hh).2
      (Node.view_eq_file_iff.2 hs))

theorem read?_eq (h : Writes paths d d') (htop : d.top.isDir = true) {p : Path}
    (hplain : d.read? p = d.file? p) (hheld : d.NotHeld p)
    (hpaths : ∀ q, paths q → d.Apart p q) : d'.read? p = d.read? p := by
  cases hr : d.read? p with
  | some bytes => exact h.read?_eq_some htop hr hheld hpaths
  | none =>
    cases hr' : d'.read? p with
    | none => rfl
    | some bytes =>
      have hfile := file?_of_read? (h.isDir_top htop) hr'
      rw [h.file?_eq hheld hpaths, ← hplain, hr] at hfile
      cases hfile

end Writes

/-! ### The operations -/

theorem writes_of_put {d : Disk} {place : List String} {paths : Path → Prop} {new : Node}
    (hplace : d.top.Holds place)
    (hold : d.top.view place = none ∨ ∃ bytes, d.top.view place = some (.file bytes))
    (hnew : ∀ q ≠ [], new.view q = none) (hlink : ∀ target, new.mark ≠ .link target)
    (hnamed : new.Named)
    (hlast : d.top.view place = none → ∀ name, place.getLast? = some name → IsStep name)
    (hfile : ∀ bytes, new.mark = .file bytes ∨ d.top.view place = some (.file bytes) →
      d.held = some place ∨ ∃ p, paths p ∧ d.home? p = some place) :
    Writes paths d { d with top := d.top.put place new } := by
  refine ⟨rfl, fun _ h => h, Node.keeps_put hplace hold hnew hlink,
    fun hd => Node.named_put hd hnamed hplace hlast, ?_⟩
  intro q bytes hheld hpaths
  have hdir : d.top.view place ≠ some .dir := by
    rcases hold with hold | ⟨bytes, hold⟩ <;> simp [hold]
  rw [Node.view_put_leaf hplace hdir hnew]
  -- Only the place itself looks different, and that is the home of one of the paths.
  by_cases hq : q = place
  · subst hq
    have hno : ∀ bytes, ¬(new.mark = .file bytes ∨ d.top.view q = some (.file bytes)) := by
      intro bytes' hb
      rcases hfile bytes' hb with hb | ⟨p, hp, hb⟩
      · exact hheld hb
      · exact hpaths p hp hb
    rw [if_pos rfl, Option.some.injEq]
    exact iff_of_false (fun e => hno bytes (.inl e)) fun e => hno bytes (.inr e)
  · rw [if_neg hq]

theorem holds_of_stands {top : Node} {place : List String}
    (h : (Spot.free place).Stands top) : top.Holds place := fun _ => h.2.2.1

theorem holds_of_file {top : Node} {place : List String} {bytes : ByteArray}
    (h : top.view place = some (.file bytes)) : top.Holds place := by
  intro hne
  obtain ⟨names, name, rfl⟩ := List.eq_nil_or_concat place |>.resolve_left hne
  rw [List.concat_eq_append] at h ⊢
  rw [List.dropLast_concat]
  exact Node.view_eq_dir_of_append (List.cons_ne_nil name []) (by rw [h]; rfl)

/-- Writing a file changes that file alone, and what was written can be read. -/
theorem writes_write {d d' : Disk} (htop : d.top.isDir = true) {p : Path} {bytes : ByteArray}
    (h : d.write p bytes = .ok d') : Writes (· = p) d d' ∧ d'.read? p = some bytes := by
  unfold write at h
  split at h <;> rename_i hl
  all_goals simp only [reduceCtorEq, Except.ok.injEq] at h
  all_goals
    obtain ⟨hh, hs⟩ := home?_of_locate (by simp) htop hl
    subst h
  · rename_i place old
    have hv : d.top.view place = some (.file old) := Node.view_eq_file_iff.2 hs
    have hw : Writes (· = p) d { d with top := d.top.put place (.file bytes) } :=
      writes_of_put (holds_of_file hv) (.inr ⟨old, hv⟩) (Node.view_file_of_ne_nil bytes)
        (by simp [Node.mark]) trivial (by simp [hv]) fun _ _ => .inr ⟨p, rfl, hh⟩
    refine ⟨hw, read?_of_keeps (by simp) htop hw.here hw.keeps hl ?_⟩
    rw [Node.view_put_leaf (holds_of_file hv) (by simp [hv]) (Node.view_file_of_ne_nil bytes)]
    simp [Spot.place, Node.mark]
  · rename_i place
    have hw : Writes (· = p) d { d with top := d.top.put place (.file bytes) } :=
      writes_of_put (holds_of_stands hs) (.inl hs.1) (Node.view_file_of_ne_nil bytes)
        (by simp [Node.mark]) trivial (fun _ => hs.2.2.2) fun _ _ => .inr ⟨p, rfl, hh⟩
    refine ⟨hw, read?_of_keeps (by simp) htop hw.here hw.keeps hl ?_⟩
    rw [Node.view_put_leaf (holds_of_stands hs) (by simp [hs.1]) (Node.view_file_of_ne_nil bytes)]
    simp [Spot.place, Node.mark]

theorem writes_makeDirectory {d d' : Disk} (htop : d.top.isDir = true) {p : Path}
    (h : d.makeDirectory p = .ok d') : Writes (fun _ => False) d d' := by
  unfold makeDirectory at h
  split at h <;> rename_i hl
  all_goals simp only [reduceCtorEq, Except.ok.injEq] at h
  subst h
  unfold locateFor at hl
  split at hl
  · cases hl
  · have hs := (walk_spec (view_nil_of_isDir htop) hl).1
    exact writes_of_put (holds_of_stands hs) (.inl hs.1) Node.view_emptyDir_of_ne_nil
      (by simp [Node.mark]) trivial (fun _ => hs.2.2.2) fun bytes hb => by
        simp [Node.mark, hs.1] at hb

theorem writes_ensureDirectory {d d' : Disk} (htop : d.top.isDir = true) {p : Path}
    (h : d.ensureDirectory p = .ok d') : Writes (fun _ => False) d d' := by
  unfold ensureDirectory at h
  split at h <;> rename_i hm
  · exact writes_makeDirectory htop (Except.ok.inj h ▸ hm)
  · cases h
  · split at h
    · exact Except.ok.inj h ▸ Writes.refl _ d
    · cases h

theorem writes_ensureDirectories {d d' : Disk} (htop : d.top.isDir = true) {p : Path}
    (h : d.ensureDirectories p = .ok d') : Writes (fun _ => False) d d' := by
  fun_induction ensureDirectories d p generalizing d' with
  | case1 => cases h
  | case2 p q hm hp ih =>
    obtain ⟨d₁, hd, h⟩ := bind_eq_ok.1 h
    have hw := ih hd
    exact hw.trans (writes_ensureDirectory (hw.isDir_top htop) h)
  | case3 p hm => exact writes_ensureDirectory htop h

/-- Appending to the file that is held open changes no other. -/
theorem writes_appendHeld (d : Disk) (bytes : ByteArray) :
    Writes (fun _ => False) d (d.appendHeld bytes) := by
  unfold appendHeld
  split
  · rename_i place hheld
    unfold appendAt
    split
    · rename_i old hat
      have hv : d.top.view place = some (.file old) := Node.view_eq_file_iff.2 hat
      exact writes_of_put (holds_of_file hv) (.inr ⟨old, hv⟩) (Node.view_file_of_ne_nil _)
        (by simp [Node.mark]) trivial (by simp [hv]) fun _ _ => .inl hheld
    · exact .refl _ d
  · exact .refl _ d

end ProbeKit.Disk
