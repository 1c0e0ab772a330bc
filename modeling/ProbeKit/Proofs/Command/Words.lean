import ProbeKit.Command.Words
import ProbeKit.Proofs.Results

/-!
# Quotes that are not closed

Whether a text is a command line depends on its quotes and backslashes alone: a reader goes from mode to
mode with each character (`WordsMode.after`), and it fails exactly if it does not stand outside of all
quotes at the end (`words_error_iff`).
-/

namespace ProbeKit.Command

/-- Where a reader of words stands behind a character. -/
def WordsMode.after : WordsMode → Char → WordsMode
  | .bare, c =>
    if c = '\\' then .escape else if c = '\'' then .single else if c = '"' then .double else .bare
  | .single, c => if c = '\'' then .bare else .single
  | .double, c => if c = '"' then .bare else if c = '\\' then .doubleEscape else .double
  | .escape, _ => .bare
  | .doubleEscape, _ => .double

/-- What is missing where a text ends. -/
def WordsMode.missing? : WordsMode → Option WordsError
  | .bare => none
  | .single | .double => some .openQuotation
  | .escape | .doubleEscape => some .openEscape

/-- What is missing at the end of a text: the end of a quotation, or a character behind a backslash. -/
def missing? (line : String) : Option WordsError := (line.toList.foldl WordsMode.after .bare).missing?

/-- A separator opens no quotes. -/
theorem after_of_isSeparator {c : Char} (h : isSeparator c = true) : WordsMode.bare.after c = .bare := by
  simp only [isSeparator, Bool.or_eq_true, beq_iff_eq] at h
  obtain ((rfl | rfl) | rfl) | rfl := h <;> rfl

/-- Behind a character a reader fails as it does from the mode that the character leads to. -/
theorem wordsFrom_cons (mode : WordsMode) (word : Option (List Char)) (c : Char) (cs : List Char) :
    ∃ word', ∀ e, wordsFrom mode word (c :: cs) = .error e ↔
      wordsFrom (mode.after c) word' cs = .error e := by
  -- Each branch of the reader passes on one character and goes on in the mode behind it.
  cases mode with
  | bare =>
    rw [wordsFrom]
    split
    · rename_i hseparator
      exact ⟨none, fun e => by rw [map_eq_error_iff, after_of_isSeparator hseparator]⟩
    · simp only [WordsMode.after, beq_iff_eq]
      split
      · exact ⟨_, fun _ => Iff.rfl⟩
      split
      · exact ⟨_, fun _ => Iff.rfl⟩
      split
      · exact ⟨_, fun _ => Iff.rfl⟩
      · exact ⟨_, fun _ => Iff.rfl⟩
  | single =>
    simp only [wordsFrom, WordsMode.after, beq_iff_eq]
    split
    · exact ⟨_, fun _ => Iff.rfl⟩
    · exact ⟨_, fun _ => Iff.rfl⟩
  | double =>
    simp only [wordsFrom, WordsMode.after, beq_iff_eq]
    split
    · exact ⟨_, fun _ => Iff.rfl⟩
    split
    · exact ⟨_, fun _ => Iff.rfl⟩
    · exact ⟨_, fun _ => Iff.rfl⟩
  | escape => exact ⟨_, fun _ => Iff.rfl⟩
  | doubleEscape => exact ⟨_, fun _ => Iff.rfl⟩

theorem wordsFrom_error_iff (mode : WordsMode) (word : Option (List Char)) (cs : List Char)
    (e : WordsError) :
    wordsFrom mode word cs = .error e ↔ (cs.foldl WordsMode.after mode).missing? = some e := by
  induction cs generalizing mode word with
  | nil => cases mode <;> simp [wordsFrom, WordsMode.missing?]
  | cons c cs ih =>
    obtain ⟨word', hstep⟩ := wordsFrom_cons mode word c cs
    rw [hstep, ih, List.foldl_cons]

/-- **A text is no command line exactly if something is missing at its end.** -/
theorem words_error_iff (line : String) (e : WordsError) :
    words line = .error e ↔ missing? line = some e := by
  rw [words, map_eq_error_iff, wordsFrom_error_iff, missing?]

example : missing? "echo \"it's\" 'a b'" = none := by decide +kernel

end ProbeKit.Command
