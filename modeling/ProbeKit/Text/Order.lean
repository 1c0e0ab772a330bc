/-!
# Order of texts

Texts are ordered by the code points of their characters, the first difference deciding, and a
text comes after its own beginnings.  `sorted` lists texts in that order, repetitions kept:
`sorted_perm` and `pairwise_sorted` together say which list that is.  Lists of texts are ordered in
the same way, text by text; `listAtMost` is total, transitive and antisymmetric.
-/

namespace ProbeKit.Text

/-- Whether a text comes before another or equals it. -/
def atMost (s t : String) : Bool := decide (s ≤ t)

/-- Texts in order, repetitions kept. -/
def sorted (texts : List String) : List String := texts.mergeSort atMost

theorem atMost_trans (r s t : String) (h : atMost r s) (h' : atMost s t) : atMost r t := by
  simp only [atMost, decide_eq_true_eq] at *
  exact String.le_trans h h'

theorem atMost_total (s t : String) : atMost s t || atMost t s := by
  simpa [atMost] using String.le_total s t

theorem atMost_antisymm {s t : String} (h : atMost s t) (h' : atMost t s) : s = t := by
  simp only [atMost, decide_eq_true_eq] at *
  exact String.le_antisymm h h'

theorem sorted_perm (texts : List String) : (sorted texts).Perm texts :=
  List.mergeSort_perm texts atMost

theorem pairwise_sorted (texts : List String) : (sorted texts).Pairwise (· ≤ ·) :=
  (List.pairwise_mergeSort atMost_trans atMost_total texts).imp (by simp [atMost])

/-- There is one list in order for all lists of the same texts. -/
theorem eq_sorted_of_perm {texts texts' : List String} (h : texts.Perm texts')
    (hordered : texts.Pairwise (· ≤ ·)) : texts = sorted texts' :=
  (h.trans (sorted_perm texts').symm).eq_of_pairwise
    (fun _ _ _ _ hle hge => String.le_antisymm hle hge) hordered (pairwise_sorted texts')

theorem sorted_eq_of_perm {texts texts' : List String} (h : texts.Perm texts') :
    sorted texts = sorted texts' :=
  eq_sorted_of_perm ((sorted_perm texts).trans h) (pairwise_sorted texts)

theorem sorted_filter (p : String → Bool) (texts : List String) :
    sorted (texts.filter p) = (sorted texts).filter p :=
  (eq_sorted_of_perm ((sorted_perm texts).filter p) ((pairwise_sorted texts).filter p)).symm

/-! ### Lists of texts -/

/-- Whether a list of texts comes before another or equals it: the first difference decides, and a
list comes after its own beginnings. -/
def listAtMost : List String → List String → Bool
  | [], _ => true
  | _ :: _, [] => false
  | s :: ss, t :: ts => if s = t then listAtMost ss ts else atMost s t

theorem listAtMost_total (ss ts : List String) : listAtMost ss ts || listAtMost ts ss := by
  induction ss generalizing ts with
  | nil => simp [listAtMost]
  | cons s ss ih =>
    cases ts with
    | nil => simp [listAtMost]
    | cons t ts =>
      by_cases h : s = t
      · subst h
        simpa [listAtMost] using ih ts
      · simpa [listAtMost, h, Ne.symm h] using atMost_total s t

theorem listAtMost_antisymm {ss ts : List String} (h : listAtMost ss ts) (h' : listAtMost ts ss) :
    ss = ts := by
  induction ss generalizing ts with
  | nil => cases ts <;> simp_all [listAtMost]
  | cons s ss ih =>
    cases ts with
    | nil => simp [listAtMost] at h
    | cons t ts =>
      by_cases hst : s = t
      · subst hst
        simp only [listAtMost, if_true] at h h'
        rw [ih h h']
      · simp only [listAtMost, hst, Ne.symm hst, if_false] at h h'
        exact absurd (atMost_antisymm h h') hst

theorem listAtMost_trans (rs ss ts : List String) (h : listAtMost rs ss) (h' : listAtMost ss ts) :
    listAtMost rs ts := by
  induction rs generalizing ss ts with
  | nil => simp [listAtMost]
  | cons r rs ih =>
    match ss, ts, h, h' with
    | s :: ss, t :: ts, h, h' =>
      by_cases hrs : r = s
      · subst hrs
        by_cases hrt : r = t
        · subst hrt
          simp only [listAtMost, if_true] at *
          exact ih ss ts h h'
        · simpa [listAtMost, hrt] using h'
      · by_cases hst : s = t
        · subst hst
          simpa [listAtMost, hrs] using h
        · simp only [listAtMost, hrs, hst, if_false] at h h'
          have hrt : r ≠ t := fun e => hrs (atMost_antisymm h (e ▸ h'))
          simpa [listAtMost, hrt] using atMost_trans r s t h h'

end ProbeKit.Text
