import ProbeKit.Path.Basic

/-!
# The text of a path

A path of proper names is read back from its text (`Path.ofString_text`), so different paths have
different texts, and so do their ways from one place (`Path.text_relativeTo_inj`).
-/

namespace ProbeKit

namespace Path

/-- A name that can stand between slashes. -/
structure IsPart (name : String) : Prop where
  /-- It holds no slash. -/
  noSlash : '/' ∉ name.toList
  /-- It is not empty. -/
  ne_empty : name.toList ≠ []
  /-- It is not a single dot. -/
  ne_dot : name.toList ≠ ['.']

instance (name : String) : Decidable (IsPart name) :=
  decidable_of_iff ('/' ∉ name.toList ∧ name.toList ≠ [] ∧ name.toList ≠ ['.'])
    ⟨fun h => ⟨h.1, h.2.1, h.2.2⟩, fun h => ⟨h.noSlash, h.ne_empty, h.ne_dot⟩⟩

/-- All names of a path can stand between slashes. -/
def Clean (p : Path) : Prop := ∀ n ∈ p.names, IsPart n

instance (p : Path) : Decidable p.Clean := inferInstanceAs (Decidable (∀ n ∈ p.names, IsPart n))

/-! ### Reading a text back -/

theorem toList_intercalate (names : List String) :
    ("/".intercalate names).toList = ['/'].intercalate (names.map String.toList) := by
  simp [String.toList_intercalate]

theorem namesOf_intercalate {names : List String} (h : ∀ n ∈ names, IsPart n) :
    namesOf (['/'].intercalate (names.map String.toList)) = names := by
  cases names with
  | nil => rfl
  | cons name rest =>
    have hsplit : (['/'].intercalate ((name :: rest).map String.toList)).splitOn '/' =
        (name :: rest).map String.toList := by
      refine List.splitOn_intercalate '/' ?_ (by simp)
      intro l hl
      obtain ⟨n, hn, rfl⟩ := List.mem_map.1 hl
      exact (h n hn).noSlash
    have hfilter : ((name :: rest).map String.toList).filter
        (fun n => !n.isEmpty && n != ['.']) = (name :: rest).map String.toList := by
      refine List.filter_eq_self.2 fun l hl => ?_
      obtain ⟨n, hn, rfl⟩ := List.mem_map.1 hl
      simp [(h n hn).ne_empty, (h n hn).ne_dot]
    rw [namesOf, hsplit, hfilter, List.map_map]
    simp [Function.comp_def]

theorem not_mem_of_mem_splitOn {c : Char} {cs part : List Char} (h : part ∈ cs.splitOn c) :
    c ∉ part := by
  induction cs generalizing part with
  | nil =>
    obtain rfl := List.mem_singleton.1 h
    exact List.not_mem_nil
  | cons d cs ih =>
    rw [List.splitOn_cons_eq_if_modifyHead] at h
    split at h
    · rcases List.mem_cons.1 h with rfl | h
      · exact List.not_mem_nil
      · exact ih h
    · rename_i hd
      obtain ⟨first, rest, hsplit⟩ := List.exists_cons_of_ne_nil (List.splitOn_ne_nil c cs)
      rw [hsplit] at h ih
      rcases List.mem_cons.1 h with rfl | h
      · rw [List.mem_cons, not_or]
        exact ⟨fun heq => hd (beq_iff_eq.2 heq.symm), ih List.mem_cons_self⟩
      · exact ih (List.mem_cons_of_mem _ h)

/-- What a text is read as has proper names. -/
theorem clean_ofString (s : String) : (ofString s).Clean := by
  intro n hn
  obtain ⟨part, hpart, rfl⟩ := List.mem_map.1 hn
  rw [List.mem_filter, Bool.and_eq_true, Bool.not_eq_true', List.isEmpty_eq_false_iff,
    bne_iff_ne] at hpart
  obtain ⟨hmem, hempty, hdot⟩ := hpart
  rw [← String.toList_ofList (l := part)] at hempty hdot
  refine ⟨?_, hempty, hdot⟩
  rw [String.toList_ofList]
  exact not_mem_of_mem_splitOn hmem

theorem namesOf_slash (cs : List Char) : namesOf ('/' :: cs) = namesOf cs := by
  rw [namesOf, namesOf, List.splitOn_cons_eq_if_modifyHead, if_pos (by simp)]
  simp

/-- What follows the anchor does not begin with a slash. -/
theorem head?_intercalate {names : List String} (h : ∀ n ∈ names, IsPart n) :
    (['/'].intercalate (names.map String.toList)).head? ≠ some '/' := by
  cases names with
  | nil => simp
  | cons name rest =>
    have hname := h name List.mem_cons_self
    obtain ⟨c, cs, hc⟩ := List.exists_cons_of_ne_nil hname.ne_empty
    have hne : c ≠ '/' := by
      rintro rfl
      exact hname.noSlash (by simp [hc])
    cases rest with
    | nil => simpa [hc] using hne
    | cons other rest => simpa [hc, List.intercalate_cons_cons] using hne

theorem anchorOf_of_head?_ne {cs : List Char} (h : cs.head? ≠ some '/') :
    anchorOf cs = .relative ∧ anchorOf ('/' :: cs) = .root ∧
      anchorOf ('/' :: '/' :: cs) = .doubleRoot := by
  cases cs with
  | nil => exact ⟨rfl, rfl, rfl⟩
  | cons c cs =>
    have hc : c ≠ '/' := fun hc => h (by rw [hc]; rfl)
    refine ⟨?_, ?_, ?_⟩
    all_goals
      unfold anchorOf
      split <;> grind

/-- **A path of proper names is read back from its text.** -/
theorem ofString_text {p : Path} (h : p.Clean) : ofString p.text = p := by
  obtain ⟨anchor, names⟩ := p
  have hnames : ∀ n ∈ names, IsPart n := h
  have hread := namesOf_intercalate hnames
  obtain ⟨hrelative, hroot, hdouble⟩ := anchorOf_of_head?_ne (head?_intercalate hnames)
  unfold text
  cases anchor with
  | relative =>
    cases names with
    | nil => decide
    | cons name rest =>
      rw [if_neg (by simp), ofString]
      simp only [Anchor.text, String.empty_append, toList_intercalate, hrelative, hread]
  | root =>
    have htext : (Anchor.root.text ++ "/".intercalate names).toList =
        '/' :: ['/'].intercalate (names.map String.toList) := by
      rw [String.toList_append, toList_intercalate]
      rfl
    rw [if_neg (by simp [show (Anchor.root == Anchor.relative) = false from rfl]), ofString, htext,
      namesOf_slash, hroot, hread]
  | doubleRoot =>
    have htext : (Anchor.doubleRoot.text ++ "/".intercalate names).toList =
        '/' :: '/' :: ['/'].intercalate (names.map String.toList) := by
      rw [String.toList_append, toList_intercalate]
      rfl
    rw [if_neg (by simp [show (Anchor.doubleRoot == Anchor.relative) = false from rfl]), ofString,
      htext, namesOf_slash, namesOf_slash, hdouble, hread]

theorem text_inj {p q : Path} (hp : p.Clean) (hq : q.Clean) : p.text = q.text ↔ p = q := by
  constructor
  · intro h
    rw [← ofString_text hp, h, ofString_text hq]
  · rintro rfl
    rfl

/-! ### The way from one path to another -/

theorem below?_eq_some_iff {p base : Path} {names : List String} :
    p.below? base = some names ↔ p.anchor = base.anchor ∧ p.names = base.names ++ names := by
  unfold below?
  split
  · rename_i h
    obtain ⟨hanchor, hbelow⟩ := h
    obtain ⟨rest, hrest⟩ := List.isPrefixOf_iff_prefix.1 hbelow
    rw [← hrest]
    simp [hanchor]
  · rename_i h
    constructor
    · intro h'
      cases h'
    · rintro ⟨hanchor, hnames⟩
      refine absurd ⟨hanchor, ?_⟩ h
      rw [hnames]
      simp

theorem relativeTo_inj {p q base : Path} (hp : p.isAbsolute) (hq : q.isAbsolute)
    (h : p.relativeTo base = q.relativeTo base) : p = q := by
  unfold relativeTo at h
  cases hp' : p.below? base with
  | some names =>
    cases hq' : q.below? base with
    | some names' =>
      rw [hp', hq'] at h
      obtain rfl : names = names' := congrArg Path.names h
      obtain ⟨hpa, hpn⟩ := below?_eq_some_iff.1 hp'
      obtain ⟨hqa, hqn⟩ := below?_eq_some_iff.1 hq'
      obtain ⟨pa, pn⟩ := p
      obtain ⟨qa, qn⟩ := q
      simp_all
    | none =>
      rw [hp', hq'] at h
      obtain rfl : ⟨.relative, names⟩ = q := h
      cases hq
  | none =>
    cases hq' : q.below? base with
    | some names' =>
      rw [hp', hq'] at h
      obtain rfl : p = ⟨.relative, names'⟩ := h
      cases hp
    | none =>
      rw [hp', hq'] at h
      exact h

theorem clean_relativeTo {p : Path} (hp : p.Clean) (base : Path) : (p.relativeTo base).Clean := by
  unfold relativeTo
  split
  · rename_i names hbelow
    intro n hn
    refine hp n ?_
    rw [(below?_eq_some_iff.1 hbelow).2]
    exact List.mem_append_right _ hn
  · exact hp

/-- **Different absolute paths have different ways from one place.** -/
theorem text_relativeTo_inj {p q base : Path} (hp : p.Clean) (hq : q.Clean)
    (hpabs : p.isAbsolute) (hqabs : q.isAbsolute) :
    (p.relativeTo base).text = (q.relativeTo base).text ↔ p = q := by
  rw [text_inj (clean_relativeTo hp base) (clean_relativeTo hq base)]
  constructor
  · exact relativeTo_inj hpabs hqabs
  · rintro rfl
    rfl

end Path

end ProbeKit
