import ProbeKit.Json.Printer
import ProbeKit.Json.Reader

/-!
# Reading the tokens that are written

A character is written in one of four ways (`spells_textChar`), and each of them is read as that
character, so a text in quotes is read back in either set of characters (`readText_textChars`).  The
escape of a character above the first plane is two halves of a surrogate pair, which are read as one
character.  A number without a sign is of one of four kinds (`readUnsigned_eq_ok_iff`); an integer is
read back in front of anything that cannot go on with it (`readNumber_intChars`).
-/

namespace ProbeKit.Json

open Number Text

/-! ### Hexadecimal digits -/

theorem mem_hexDigits {width n : Nat} {c : Char} (h : c ∈ hexDigits width n) :
    ∃ d < 16, c = hexDigit d := by
  induction width generalizing n with
  | zero => simp [hexDigits] at h
  | succ width ih =>
    rw [hexDigits, List.mem_append, List.mem_singleton] at h
    rcases h with h | h
    · exact ih h
    · exact ⟨n % 16, by omega, h⟩

theorem hexValue?_hexDigit : ∀ d < 16, hexValue? (hexDigit d) = some d := by decide

theorem hexDigits_four (n : Nat) :
    hexDigits 4 n =
      [hexDigit (n / 16 / 16 / 16 % 16), hexDigit (n / 16 / 16 % 16), hexDigit (n / 16 % 16),
        hexDigit (n % 16)] := rfl

theorem hexUnit?_hexDigits {n : Nat} (h : n < 0x10000) (rest : List Char) :
    hexUnit? (hexDigits 4 n ++ rest) = some (n, rest) := by
  have hvalue (k : Nat) : hexValue? (hexDigit (k % 16)) = some (k % 16) :=
    hexValue?_hexDigit _ (Nat.mod_lt _ (by omega))
  rw [hexDigits_four]
  simp only [List.cons_append, List.nil_append, hexUnit?, hvalue, Option.bind_eq_bind,
    Option.bind_some]
  congr 2
  omega

/-! ### Escaped codes -/

/-- A code below the surrogates or above them is the code of its own character. -/
theorem unitLetter_toNat (c : Char) : unitLetter c.toNat = .char c := by
  have hvalid := c.valid
  have hn : c.toNat = c.val.toNat := rfl
  rw [unitLetter, if_neg, Char.ofNat_toNat]
  rw [UInt32.isValidChar, Nat.isValidChar] at hvalid
  simp only [Bool.and_eq_true, decide_eq_true_eq]
  omega

/-- The escape of a character of the first plane is read back if the quotes are closed behind
it. -/
theorem readCode_unit {c : Char} (h : c.toNat < 0x10000) {rest : List Char} (hrest : rest ≠ []) :
    readCode (hexDigits 4 c.toNat ++ rest) = .ok (.char c, rest) := by
  have hlength : ¬(hexDigits 4 c.toNat ++ rest).length ≤ 4 := by
    have := List.length_pos_iff.2 hrest
    rw [List.length_append, hexDigits_four]
    simp only [List.length_cons, List.length_nil]
    omega
  have hvalid := c.valid
  have hn : c.toNat = c.val.toNat := rfl
  rw [UInt32.isValidChar, Nat.isValidChar] at hvalid
  have hhalf : (decide (0xD800 ≤ c.toNat) && decide (c.toNat ≤ 0xDBFF) &&
      decide (6 < rest.length)) = false := by
    simp only [Bool.and_eq_false_iff, decide_eq_false_iff_not]
    omega
  rw [readCode, if_neg hlength, hexUnit?_hexDigits h]
  dsimp only
  rw [hhalf, if_neg Bool.false_ne_true, unitLetter_toNat]

/-- The escapes of two halves are read as one character. -/
theorem readCode_pair {c : Char} (h : 0x10000 ≤ c.toNat) {rest : List Char} (hrest : rest ≠ []) :
    readCode (hexDigits 4 (0xD800 + (c.toNat - 0x10000) / 0x400) ++
      (unitEscape (0xDC00 + (c.toNat - 0x10000) % 0x400) ++ rest)) = .ok (.char c, rest) := by
  have hvalid := c.valid
  have hn : c.toNat = c.val.toNat := rfl
  rw [UInt32.isValidChar, Nat.isValidChar] at hvalid
  have hpos := List.length_pos_iff.2 hrest
  -- Twenty bits above the first plane are ten bits in each half.
  obtain ⟨high, hhigh⟩ : ∃ high, 0xD800 + (c.toNat - 0x10000) / 0x400 = high := ⟨_, rfl⟩
  obtain ⟨low, hlow⟩ : ∃ low, 0xDC00 + (c.toNat - 0x10000) % 0x400 = low := ⟨_, rfl⟩
  rw [hhigh, hlow]
  have hlength : ¬(hexDigits 4 high ++ (unitEscape low ++ rest)).length ≤ 4 := by
    rw [List.length_append, List.length_append, unitEscape, hexDigits_four, hexDigits_four]
    simp only [List.length_cons, List.length_nil]
    omega
  have hfirst : (decide (0xD800 ≤ high) && decide (high ≤ 0xDBFF) &&
      decide (6 < (unitEscape low ++ rest).length)) = true := by
    rw [List.length_append, unitEscape, hexDigits_four]
    simp only [List.length_cons, List.length_nil, Bool.and_eq_true, decide_eq_true_eq]
    omega
  have hsecond : (decide (0xDC00 ≤ low) && decide (low ≤ 0xDFFF)) = true := by
    simp only [Bool.and_eq_true, decide_eq_true_eq]
    omega
  have hcode : Char.ofNat (0x10000 + (high - 0xD800) * 0x400 + (low - 0xDC00)) = c := by
    rw [show 0x10000 + (high - 0xD800) * 0x400 + (low - 0xDC00) = c.toNat by omega,
      Char.ofNat_toNat]
  rw [readCode, if_neg hlength, hexUnit?_hexDigits (by omega)]
  dsimp only
  rw [hfirst, if_pos rfl, unitEscape]
  simp only [List.cons_append, hexUnit?_hexDigits (show low < 0x10000 by omega)]
  rw [hsecond, if_pos rfl, hcode]

/-! ### Characters in quotes -/

/-- The ways in which a character is written in quotes. -/
inductive Spells (c : Char) : List Char → Prop
  | escape {letter : Char} (hu : letter ≠ 'u') (h : escaped? letter = some c) :
      Spells c ['\\', letter]
  | plain (hquote : c ≠ '"') (hslash : c ≠ '\\') (h : 32 ≤ c.toNat) : Spells c [c]
  | unit (h : c.toNat < 0x10000) : Spells c (unitEscape c.toNat)
  | pair (h : 0x10000 ≤ c.toNat) :
      Spells c (unitEscape (0xD800 + (c.toNat - 0x10000) / 0x400) ++
        unitEscape (0xDC00 + (c.toNat - 0x10000) % 0x400))

theorem Spells.of_toNat {letter c c' : Char} (hu : letter ≠ 'u') (h : escaped? letter = some c')
    (hc : c.toNat = c'.toNat) : Spells c ['\\', letter] := by
  obtain rfl : c = c' := by rw [← Char.ofNat_toNat c, hc, Char.ofNat_toNat]
  exact .escape hu h

theorem spells_textChar (charset : Charset) (c : Char) : Spells c (textChar charset c) := by
  unfold textChar
  dsimp only
  split
  · exact .of_toNat (by decide) rfl (congrArg Char.toNat (beq_iff_eq.1 ‹_›))
  rename_i hquote
  split
  · exact .of_toNat (by decide) rfl (congrArg Char.toNat (beq_iff_eq.1 ‹_›))
  rename_i hslash
  rw [beq_iff_eq] at hquote hslash
  split
  · exact .of_toNat (by decide) rfl (congrArg Char.toNat (beq_iff_eq.1 ‹_›))
  split
  · exact .of_toNat (by decide) rfl (congrArg Char.toNat (beq_iff_eq.1 ‹_›))
  split
  · exact .of_toNat (by decide) rfl (congrArg Char.toNat (beq_iff_eq.1 ‹_›))
  split
  · exact .of_toNat (by decide) rfl (beq_iff_eq.1 ‹_›)
  split
  · exact .of_toNat (by decide) rfl (beq_iff_eq.1 ‹_›)
  -- No short escape is left, so what is below the blank gets one by its code.
  split
  · exact .unit (by omega)
  split
  · exact .plain hquote hslash (by omega)
  split
  · exact .plain hquote hslash (by omega)
  split
  · exact .unit ‹_›
  · exact .pair (by omega)

/-! ### Texts -/

section
variable {opening fuel : Nat} {rest : List Char}

theorem readChars_code {digits : List Char} {l : Letter} (h : readCode digits = .ok (l, rest)) :
    readChars opening (fuel + 1) ('\\' :: 'u' :: digits) =
      (readChars opening fuel rest).map fun (ls, rest) => (l :: ls, rest) := by
  rw [readChars, h]
  show (readChars opening fuel rest >>= fun read => .ok (l :: read.1, read.2)) = _
  cases readChars opening fuel rest <;> rfl

theorem readChars_escaped {letter c : Char} (hu : letter ≠ 'u') (h : escaped? letter = some c) :
    readChars opening (fuel + 1) ('\\' :: letter :: rest) =
      (readChars opening fuel rest).map fun (ls, rest) => (.char c :: ls, rest) := by
  rw [readChars, h]
  · cases readChars opening fuel rest <;> rfl
  · exact hu

theorem readChars_plain {c : Char} (hquote : c ≠ '"') (hslash : c ≠ '\\') (h : 32 ≤ c.toNat) :
    readChars opening (fuel + 1) (c :: rest) =
      (readChars opening fuel rest).map fun (ls, rest) => (.char c :: ls, rest) := by
  rw [readChars, if_neg (by omega)]
  · cases readChars opening fuel rest <;> rfl
  all_goals simp_all

/-- What is written for a character is read as that character. -/
theorem readChars_textChar (charset : Charset) (c : Char) (hrest : rest ≠ []) :
    readChars opening (fuel + 1) (textChar charset c ++ rest) =
      (readChars opening fuel rest).map fun (ls, rest) => (.char c :: ls, rest) := by
  have hspells := spells_textChar charset c
  generalize textChar charset c = text at hspells ⊢
  cases hspells with
  | escape hu h => exact readChars_escaped hu h
  | plain hquote hslash h => exact readChars_plain hquote hslash h
  | unit h => exact readChars_code (readCode_unit h hrest)
  | pair h =>
    rw [unitEscape, List.append_assoc]
    exact readChars_code (readCode_pair h hrest)

/-- A text is read up to its closing quote. -/
theorem readChars_flatMap (charset : Charset) {cs : List Char} (h : cs.length < fuel) :
    readChars opening fuel (cs.flatMap (textChar charset) ++ '"' :: rest) =
      .ok (cs.map .char, rest) := by
  induction cs generalizing fuel with
  | nil =>
    obtain ⟨k, rfl⟩ := Nat.exists_eq_add_one_of_ne_zero (Nat.ne_of_gt h)
    exact readChars_quote
  | cons c cs ih =>
    obtain ⟨k, rfl⟩ := Nat.exists_eq_add_one_of_ne_zero (Nat.ne_zero_of_lt h)
    rw [List.flatMap_cons, List.append_assoc, readChars_textChar charset c (by simp),
      ih (Nat.lt_of_succ_lt_succ h)]
    rfl

end

theorem length_le_length_flatMap (charset : Charset) (cs : List Char) :
    cs.length ≤ (cs.flatMap (textChar charset)).length := by
  induction cs with
  | nil => exact Nat.le_refl _
  | cons c cs ih =>
    have hpos : 0 < (textChar charset c).length := by
      have hspells := spells_textChar charset c
      generalize textChar charset c = text at hspells ⊢
      cases hspells <;> exact Nat.zero_lt_succ _
    rw [List.flatMap_cons, List.length_append, List.length_cons]
    omega

/-- **A text in quotes is read back.** -/
theorem readText_textChars (charset : Charset) (s : String) (rest : List Char) :
    readText (s.toList.flatMap (textChar charset) ++ '"' :: rest) = .ok (letters s, rest) := by
  have hlength := length_le_length_flatMap charset s.toList
  rw [readText, readChars_flatMap charset]
  · rfl
  · rw [List.length_append]
    omega

/-! ### Numbers without a sign -/

/-- The four kinds of numbers without a sign, each with what is left behind it.  An integer has not
too many digits. -/
inductive Counts (negative : Bool) (cs : List Char) : Raw → List Char → Prop
  | integer {whole rest : List Char} (hwhole : wholeDigits cs = (whole, rest)) (hne : whole ≠ [])
      (hfraction : fractionDigits rest = none) (hexponent : exponentPart rest = none)
      (hlength : whole.length ≤ digitLimit) :
      Counts negative cs
        (.int (if negative then -(digitsNat whole : Int) else digitsNat whole)) rest
  | fraction {whole rest ds more : List Char} (hwhole : wholeDigits cs = (whole, rest))
      (hne : whole ≠ []) (hfraction : fractionDigits rest = some (ds, more))
      (hexponent : exponentPart more = none) :
      Counts negative cs
        (.float (Binary64.ofDecimal negative (digitsNat (whole ++ ds)) (-(ds.length : Int)))) more
  | exponent {whole rest more : List Char} {k : Int} (hwhole : wholeDigits cs = (whole, rest))
      (hne : whole ≠ []) (hfraction : fractionDigits rest = none)
      (hexponent : exponentPart rest = some (k, more)) :
      Counts negative cs (.float (Binary64.ofDecimal negative (digitsNat whole) k)) more
  | both {whole rest ds last more : List Char} {k : Int} (hwhole : wholeDigits cs = (whole, rest))
      (hne : whole ≠ []) (hfraction : fractionDigits rest = some (ds, last))
      (hexponent : exponentPart last = some (k, more)) :
      Counts negative cs
        (.float (Binary64.ofDecimal negative (digitsNat (whole ++ ds)) (k - ds.length))) more

/-- A number without its sign is read exactly if it is of one of the four kinds. -/
theorem readUnsigned_eq_ok_iff {start cs more : List Char} {negative : Bool} {j : Raw} :
    readUnsigned start negative cs = .ok (j, more) ↔ Counts negative cs j more := by
  constructor
  · intro h
    unfold readUnsigned at h
    rcases hwhole : wholeDigits cs with ⟨whole, rest⟩
    rw [hwhole] at h
    dsimp only at h
    split at h
    · cases h
    rename_i hempty
    have hne : whole ≠ [] := fun hnil => hempty (List.isEmpty_iff.2 hnil)
    rcases hfraction : fractionDigits rest with _ | ⟨ds, last⟩
    all_goals
      rw [hfraction] at h
      dsimp only [Option.elim] at h
    · rcases hexponent : exponentPart rest with _ | ⟨k, more⟩
      all_goals
        rw [hexponent] at h
        dsimp only at h
      · split at h
        · cases h
        · rename_i hlength
          cases h
          exact .integer hwhole hne hfraction hexponent (Nat.not_lt.1 hlength)
      · cases h
        exact .exponent hwhole hne hfraction hexponent
    · rcases hexponent : exponentPart last with _ | ⟨k, more⟩
      all_goals
        rw [hexponent] at h
        cases h
      · exact .fraction hwhole hne hfraction hexponent
      · exact .both hwhole hne hfraction hexponent
  · rintro (⟨hwhole, hne, hfraction, hexponent, hlength⟩ | ⟨hwhole, hne, hfraction, hexponent⟩ |
      ⟨hwhole, hne, hfraction, hexponent⟩ | ⟨hwhole, hne, hfraction, hexponent⟩)
    all_goals
      unfold readUnsigned
      rw [hwhole]
      dsimp only
      rw [if_neg (by simpa using hne), hfraction]
      dsimp only [Option.elim]
      rw [hexponent]
    exact if_neg (Nat.not_lt.2 hlength)

/-! ### Integers -/

/-- No number goes on with these characters. -/
def Stops (cs : List Char) : Prop :=
  ∀ c ∈ cs.head?, c.isDigit = false ∧ c ≠ '.' ∧ c ≠ 'e' ∧ c ≠ 'E'

theorem stops_cons {c : Char} {cs : List Char}
    (h : c.isDigit = false ∧ c ≠ '.' ∧ c ≠ 'e' ∧ c ≠ 'E') : Stops (c :: cs) := by
  intro d hd
  cases hd
  exact h

theorem Stops.fractionDigits {cs : List Char} (h : Stops cs) : fractionDigits cs = none := by
  unfold Json.fractionDigits
  split
  · exact absurd rfl (h '.' rfl).2.1
  · rfl

theorem Stops.exponentPart {cs : List Char} (h : Stops cs) : exponentPart cs = none := by
  cases cs with
  | nil => rfl
  | cons c rest =>
    obtain ⟨-, -, he, hE⟩ := h c rfl
    simp [Json.exponentPart, he, hE]

theorem Stops.span {cs digits : List Char} (h : Stops cs) (hdigits : ∀ c ∈ digits, c.isDigit) :
    (digits ++ cs).takeWhile Char.isDigit = digits ∧ (digits ++ cs).dropWhile Char.isDigit = cs := by
  induction digits with
  | nil =>
    cases cs with
    | nil => exact ⟨rfl, rfl⟩
    | cons c rest => simp [(h c rfl).1]
  | cons d digits ih =>
    obtain ⟨ht, hd⟩ := ih fun c hc => hdigits c (List.mem_cons_of_mem _ hc)
    have hdigit := hdigits d List.mem_cons_self
    rw [List.cons_append, List.takeWhile_cons_of_pos hdigit, List.dropWhile_cons_of_pos hdigit, ht,
      hd]
    exact ⟨rfl, rfl⟩

theorem isDigit_of_mem_toDigits {n : Nat} {c : Char} (h : c ∈ Nat.toDigits 10 n) : c.isDigit :=
  Nat.isDigit_of_mem_toDigits (by decide) (by decide) h

/-- The digits of a number begin with a zero only if there is no other. -/
theorem toDigits_eq_cons_zero {n : Nat} {rest : List Char} (h : Nat.toDigits 10 n = '0' :: rest) :
    rest = [] := by
  induction n using Nat.strongRecOn generalizing rest with
  | ind n ih =>
    rw [Nat.toDigits_eq_if (by decide)] at h
    split at h
    · exact (List.cons.inj h).2.symm
    · rename_i hn
      rcases hd : Nat.toDigits 10 (n / 10) with _ | ⟨d, ds⟩
      · exact absurd hd Nat.toDigits_ne_nil
      rw [hd] at h
      obtain ⟨rfl, -⟩ := List.cons.inj h
      obtain rfl := ih (n / 10) (by omega) hd
      have hvalue := Nat.ofDigitChars_ten_toDigits (n := n / 10)
      rw [hd] at hvalue
      have : n / 10 = 0 := hvalue.symm
      omega

theorem wholeDigits_toDigits (n : Nat) {rest : List Char} (hrest : Stops rest) :
    wholeDigits (Nat.toDigits 10 n ++ rest) = (Nat.toDigits 10 n, rest) := by
  have hspan := hrest.span fun c hc => isDigit_of_mem_toDigits (n := n) hc
  unfold wholeDigits
  split
  · rename_i more h
    rcases hd : Nat.toDigits 10 n with _ | ⟨d, ds⟩
    · exact absurd hd Nat.toDigits_ne_nil
    rw [hd] at h
    obtain ⟨rfl, hmore⟩ := List.cons.inj h
    obtain rfl := toDigits_eq_cons_zero hd
    obtain rfl : rest = more := hmore
    rfl
  · rw [hspan.1, hspan.2]

theorem digitsNat_eq_ofDigitChars (cs : List Char) : digitsNat cs = Nat.ofDigitChars 10 cs 0 := by
  rw [digitsNat, ofDigits, Nat.ofDigitChars_eq_foldl, List.foldl_map]
  congr 1
  funext n c
  rw [Nat.mul_comm]
  rfl

theorem digitsNat_toDigits (n : Nat) : digitsNat (Nat.toDigits 10 n) = n := by
  rw [digitsNat_eq_ofDigitChars, Nat.ofDigitChars_ten_toDigits]

theorem readUnsigned_toDigits (start : List Char) (negative : Bool) {n : Nat}
    (hlength : (Nat.toDigits 10 n).length ≤ digitLimit) {rest : List Char} (hrest : Stops rest) :
    readUnsigned start negative (Nat.toDigits 10 n ++ rest) =
      .ok (.int (if negative then -(n : Int) else n), rest) := by
  have hcounts : Counts negative (Nat.toDigits 10 n ++ rest) _ rest :=
    .integer (wholeDigits_toDigits n hrest) Nat.toDigits_ne_nil hrest.fractionDigits
      hrest.exponentPart hlength
  rw [digitsNat_toDigits] at hcounts
  exact readUnsigned_eq_ok_iff.2 hcounts

/-- **An integer that has not too many digits is read back.** -/
theorem readNumber_intChars {n : Int} (hn : overlong n = false) {rest : List Char}
    (hrest : Stops rest) : readNumber (intChars n ++ rest) = .ok (.int n, rest) := by
  have hlength : (Nat.toDigits 10 n.natAbs).length ≤ digitLimit := by simpa [overlong] using hn
  unfold intChars
  split
  · rename_i hn
    show readUnsigned _ true (Nat.toDigits 10 n.natAbs ++ rest) = _
    rw [readUnsigned_toDigits _ _ hlength hrest, if_pos rfl]
    congr 3
    omega
  · rename_i hn
    unfold readNumber
    split
    · rename_i more h
      -- Digits do not begin with a sign.
      rcases hd : Nat.toDigits 10 n.natAbs with _ | ⟨d, ds⟩
      · exact absurd hd Nat.toDigits_ne_nil
      rw [hd] at h
      obtain ⟨rfl, -⟩ := List.cons.inj h
      have := isDigit_of_mem_toDigits (n := n.natAbs) (c := '-') (by
        rw [hd]
        exact List.mem_cons_self)
      cases this
    · rw [readUnsigned_toDigits _ _ hlength hrest, if_neg Bool.false_ne_true]
      congr 3
      omega

end ProbeKit.Json
