import ProbeKit.Text.Quoted

/-!
# Letters

The escapes of a text can spell halves of surrogate pairs that stand alone.  Such a half is no
character and no file can hold it, but a text in memory can.  A `Letter` is a character or a lone
half, and `whole` tells the lists of letters that are texts.
-/

namespace ProbeKit.Text

/-- A part of a text in memory. -/
inductive Letter where
  /-- A character. -/
  | char (c : Char)
  /-- A half of a surrogate pair, by its code. -/
  | half (code : Nat)
  deriving DecidableEq, Repr

/-- The letters of a text. -/
def letters (s : String) : List Letter := s.toList.map .char

/-- Whether a letter is a character. -/
def Letter.isChar : Letter → Bool
  | .char _ => true
  | .half _ => false

/-- The character of a letter; a half shows as the sign for what is unknown. -/
def Letter.shown : Letter → Char
  | .char c => c
  | .half _ => Char.ofNat 0xFFFD

/-- Whether letters are those of a text. -/
def isWhole (ls : List Letter) : Bool := ls.all Letter.isChar

/-- The text of letters, with a sign for every half. -/
def shown (ls : List Letter) : String := String.ofList (ls.map Letter.shown)

/-- How one letter stands inside the given quote. -/
def quotedLetter (quote : Char) : Letter → List Char
  | .char c => quotedChar quote c
  | .half code => '\\' :: 'u' :: hexDigits 4 code

/-- Letters in quotes, on one line. -/
def quotedLetters (ls : List Letter) : String :=
  let quote := quoteFor (ls.map Letter.shown)
  String.ofList (quote :: ls.flatMap (quotedLetter quote) ++ [quote])

theorem isWhole_letters (s : String) : isWhole (letters s) = true := by
  simp [isWhole, letters, Letter.isChar]

theorem shown_letters (s : String) : shown (letters s) = s := by
  simp [shown, letters, Letter.shown, Function.comp_def]

/-- Letters that are those of a text are the letters of what they show. -/
theorem letters_shown {ls : List Letter} (h : isWhole ls = true) : letters (shown ls) = ls := by
  induction ls with
  | nil => rfl
  | cons l ls ih =>
    rw [isWhole, List.all_cons, Bool.and_eq_true] at h
    have hrest := ih h.2
    simp only [letters, shown, String.toList_ofList, List.map_cons] at hrest ⊢
    rw [hrest]
    cases l with
    | char c => rfl
    | half code => cases h.1

end ProbeKit.Text
