import ProbeKit.Proofs.Probe.Rendering

/-!
# Recognising rendered declarations

Every recogniser reads back what was rendered: applied to the text of a piece with anything behind
it, it gives what the piece says and leaves what is behind it.  The lemmas follow the pieces, from
blanks and names to whole calls (`SingleCall.plainCall?_append`, `RowCall.countedCall?_append`) and
headers of loops (`Header.loop?_append`), and no recogniser of calls takes one kind for the other.
-/

namespace ProbeKit.Rendering

open Text Declaration

/-! ### Blanks -/

/-- The code points of the blanks. -/
def blankCodes : List Nat :=
  [9, 10, 11, 12, 13, 0x1C, 0x1D, 0x1E, 0x1F, 0x20, 0x85, 0xA0, 0x1680, 0x2000, 0x2001, 0x2002,
    0x2003, 0x2004, 0x2005, 0x2006, 0x2007, 0x2008, 0x2009, 0x200A, 0x2028, 0x2029, 0x202F, 0x205F,
    0x3000]

theorem toNat_mem_blankCodes {c : Char} (h : isBlank c = true) : c.toNat ∈ blankCodes := by
  unfold isBlank at h
  simp only [Bool.or_eq_true, Bool.and_eq_true, decide_eq_true_eq, beq_iff_eq] at h
  simp only [blankCodes, List.mem_cons, List.not_mem_nil]
  omega

/-- What holds of each blank code point holds of each blank. -/
theorem of_isBlank {p : Char → Prop} (h : ∀ n ∈ blankCodes, p (Char.ofNat n)) {c : Char}
    (hc : isBlank c = true) : p c := by
  have hp := h c.toNat (toNat_mem_blankCodes hc)
  rwa [Char.ofNat_toNat] at hp

theorem not_continuesIdentifier_of_isBlank {c : Char} (h : isBlank c = true) :
    continuesIdentifier c = false :=
  of_isBlank (p := fun c => continuesIdentifier c = false) (by decide) h

theorem not_isDecimal_of_isBlank {c : Char} (h : isBlank c = true) : isDecimal c = false :=
  of_isBlank (p := fun c => isDecimal c = false) (by decide) h

theorem continuesIdentifier_of_starts {c : Char} (h : startsIdentifier c = true) :
    continuesIdentifier c = true := by
  unfold startsIdentifier at h
  unfold continuesIdentifier Char.isAlphanum
  rw [Bool.or_eq_true] at h ⊢
  rw [Bool.or_eq_true]
  exact h.imp_left Or.inl

theorem not_isBlank_of_continues {c : Char} (h : continuesIdentifier c = true) :
    isBlank c = false := by
  apply Bool.eq_false_iff.2
  intro hblank
  rw [not_continuesIdentifier_of_isBlank hblank] at h
  cases h

/-- Blanks are skipped. -/
theorem Gap.skipBlanks_append (gap : Gap) (rest : List Char) :
    skipBlanks (gap.chars ++ rest) = skipBlanks rest := by
  unfold skipBlanks
  exact List.dropWhile_append_of_pos gap.blank

/-- Blanks are skipped up to a sign. -/
theorem Gap.skipBlanks_sign (gap : Gap) {c : Char} (hc : isBlank c = false) (rest : List Char) :
    skipBlanks (gap.chars ++ c :: rest) = c :: rest := by
  rw [gap.skipBlanks_append, skipBlanks_cons_of_not_blank rest hc]

theorem afterChar?_self (c : Char) (rest : List Char) : afterChar? c (c :: rest) = some rest := by
  simp [afterChar?]

theorem after?_append (start rest : List Char) : after? start (start ++ rest) = some rest := by
  simp [after?]

/-- A sign is found behind its blanks. -/
theorem Around.afterChar?_skipBlanks (around : Around) {c : Char} (hc : isBlank c = false)
    (rest : List Char) :
    afterChar? c (skipBlanks (around.chars c ++ rest)) = some (around.after.chars ++ rest) := by
  rw [Around.chars, List.append_assoc, List.cons_append, around.before.skipBlanks_sign hc,
    afterChar?_self]

/-! ### Runs of characters -/

/-- Whether a text does not go on with a character of some kind. -/
def Stops (p : Char → Bool) (cs : List Char) : Prop := ∀ c ∈ cs.head?, p c = false

theorem stops_cons {p : Char → Bool} {c : Char} (h : p c = false) (cs : List Char) :
    Stops p (c :: cs) := by
  intro d hd
  rw [List.head?_cons, Option.mem_some_iff] at hd
  rwa [← hd]

/-- Blanks and a sign stop a run that neither continues. -/
theorem Gap.stops_sign {p : Char → Bool} (hp : ∀ c, isBlank c = true → p c = false) {c : Char}
    (hc : p c = false) (gap : Gap) (rest : List Char) : Stops p (gap.chars ++ c :: rest) := by
  cases hgap : gap.chars with
  | nil => exact stops_cons hc rest
  | cons d ds =>
    apply stops_cons
    apply hp
    apply gap.blank
    rw [hgap]
    exact List.mem_cons_self

theorem takeWhile_of_stops {p : Char → Bool} {cs rest : List Char} (hcs : ∀ c ∈ cs, p c = true)
    (hrest : Stops p rest) : (cs ++ rest).takeWhile p = cs := by
  rw [List.takeWhile_append_of_pos hcs]
  cases rest with
  | nil => simp
  | cons c rest =>
    have hc : p c = false := hrest c rfl
    simp [hc]

theorem dropWhile_of_stops {p : Char → Bool} {cs rest : List Char} (hcs : ∀ c ∈ cs, p c = true)
    (hrest : Stops p rest) : (cs ++ rest).dropWhile p = rest := by
  rw [List.dropWhile_append_of_pos hcs]
  cases rest with
  | nil => simp
  | cons c rest =>
    have hc : p c = false := hrest c rfl
    simp [hc]

namespace Name

theorem continues_of_mem (name : Name) : ∀ c ∈ name.chars, continuesIdentifier c = true := by
  intro c hc
  rcases List.mem_cons.1 hc with rfl | hc
  · exact continuesIdentifier_of_starts name.starts
  · exact name.continues c hc

/-- No blank is skipped before an identifier. -/
theorem skipBlanks_append (name : Name) (rest : List Char) :
    skipBlanks (name.chars ++ rest) = name.chars ++ rest :=
  skipBlanks_cons_of_not_blank _
    (not_isBlank_of_continues (continuesIdentifier_of_starts name.starts))

theorem exists_last (name : Name) : ∃ cs c, name.chars = cs ++ [c] ∧ isBlank c = false := by
  have hne : name.chars ≠ [] := List.cons_ne_nil _ _
  refine ⟨name.chars.dropLast, name.chars.getLast hne, (List.dropLast_concat_getLast hne).symm, ?_⟩
  exact not_isBlank_of_continues (name.continues_of_mem _ (List.getLast_mem hne))

theorem identifier?_append (name : Name) {rest : List Char} (h : Stops continuesIdentifier rest) :
    identifier? (name.chars ++ rest) = some (name.chars, rest) := by
  unfold identifier? chars
  rw [List.cons_append]
  show (if startsIdentifier name.head = true then _ else _) = _
  rw [if_pos name.starts, takeWhile_of_stops name.continues h, dropWhile_of_stops name.continues h]

end Name

theorem mapM_decimalDigit? {cs : List Char} (h : ∀ c ∈ cs, isDecimal c = true) :
    cs.mapM decimalDigit? = some (cs.filterMap decimalDigit?) := by
  induction cs with
  | nil => rfl
  | cons c cs ih =>
    obtain ⟨d, hd⟩ := Option.isSome_iff_exists.1 (h c List.mem_cons_self)
    rw [List.mapM_cons, hd, ih fun c hc => h c (List.mem_cons_of_mem _ hc),
      List.filterMap_cons_some hd]
    rfl

namespace Numeral

/-- No blank is skipped before a number. -/
theorem skipBlanks_append (numeral : Numeral) (rest : List Char) :
    skipBlanks (numeral.chars ++ rest) = numeral.chars ++ rest := by
  obtain ⟨c, cs, hchars⟩ := List.exists_cons_of_ne_nil numeral.nonempty
  have hdigit : isDecimal c = true := by
    apply numeral.digits
    rw [hchars]
    exact List.mem_cons_self
  have hblank : isBlank c = false := by
    apply Bool.eq_false_iff.2
    intro hblank
    rw [not_isDecimal_of_isBlank hblank] at hdigit
    cases hdigit
  rw [hchars]
  exact skipBlanks_cons_of_not_blank _ hblank

theorem number?_append (numeral : Numeral) {rest : List Char} (h : Stops isDecimal rest) :
    number? (numeral.chars ++ rest) = some (numeral.spelled, rest) := by
  have hrun : decimalNat? numeral.chars = some numeral.value := by
    rw [decimalNat?, mapM_decimalDigit? numeral.digits]
    simp [numeral.nonempty, value]
  simp only [number?]
  rw [takeWhile_of_stops numeral.digits h, dropWhile_of_stops numeral.digits h, hrun]
  rfl

end Numeral

/-! ### Literals -/

namespace Quote

theorem isQuote_char (quote : Quote) : isQuote quote.char = true := by
  cases quote <;> decide

theorem not_isBlank_char (quote : Quote) : isBlank quote.char = false := by
  cases quote <;> decide

theorem not_continuesIdentifier_char (quote : Quote) :
    continuesIdentifier quote.char = false := by
  cases quote <;> decide

end Quote

namespace Literal

theorem literal?_append (literal : Literal) (rest : List Char) :
    literal? (literal.chars ++ rest) = some (literal.inside, rest) := by
  have hinside : ∀ c ∈ literal.inside, (c != literal.quote.char && c != '\n') = true := by
    intro c hc
    have hown : c ≠ literal.quote.char := fun h => literal.own (h ▸ hc)
    have hline : c ≠ '\n' := fun h => literal.line (h ▸ hc)
    simp [hown, hline]
  have hstops : Stops (fun c => c != literal.quote.char && c != '\n')
      (literal.quote.char :: rest) := stops_cons (by simp) rest
  have hchars : literal.chars ++ rest =
      literal.quote.char :: (literal.inside ++ literal.quote.char :: rest) := by
    simp [chars]
  rw [hchars]
  simp only [literal?, literal.quote.isQuote_char, if_true, takeWhile_of_stops hinside hstops,
    List.drop_left, afterChar?_self, Option.map_some]

theorem skipBlanks_append (literal : Literal) (rest : List Char) :
    skipBlanks (literal.chars ++ rest) = literal.chars ++ rest :=
  skipBlanks_cons_of_not_blank _ literal.quote.not_isBlank_char

end Literal

/-- The name in front of a call's arguments. -/
theorem quotedIdentifier?_append (quote : Quote) (name : Name) (rest : List Char) :
    quotedIdentifier? (quote.char :: (name.chars ++ quote.char :: rest)) =
      some (name.chars, rest) := by
  have hstops : Stops continuesIdentifier (quote.char :: rest) :=
    stops_cons quote.not_continuesIdentifier_char rest
  unfold quotedIdentifier?
  show (if isQuote quote.char = true then _ else _) = _
  rw [if_pos quote.isQuote_char, name.identifier?_append hstops]
  show (afterChar? quote.char (quote.char :: rest)).bind _ = _
  rw [afterChar?_self]
  rfl

/-- No literal begins with any other character. -/
theorem literal?_cons_of_not_quote {c : Char} (h : isQuote c = false) (rest : List Char) :
    literal? (c :: rest) = none := by
  simp [literal?, h]

/-! ### Lists with commas -/

theorem afterComma?_append (comma : Around) (rest : List Char) :
    afterComma? (comma.chars ',' ++ rest) = some (skipBlanks rest) := by
  unfold afterComma?
  rw [comma.afterChar?_skipBlanks (by decide), Option.map_some, comma.after.skipBlanks_append]

/-- Blanks and another sign are no comma. -/
theorem afterComma?_sign (gap : Gap) {c : Char} (hblank : isBlank c = false) (hcomma : c ≠ ',')
    (rest : List Char) : afterComma? (gap.chars ++ c :: rest) = none := by
  unfold afterComma?
  rw [gap.skipBlanks_sign hblank]
  simp [afterChar?, hcomma]

namespace Ending

/-- Behind what ends a list comes its bracket. -/
theorem skipBlanks_getD (ending : Ending) {c : Char} (hblank : isBlank c = false) (hcomma : c ≠ ',')
    (rest : List Char) :
    skipBlanks ((afterComma? (ending.chars ++ c :: rest)).getD (ending.chars ++ c :: rest)) =
      c :: rest := by
  cases ending with
  | gap gap =>
    show skipBlanks ((afterComma? (gap.chars ++ c :: rest)).getD (gap.chars ++ c :: rest)) = _
    rw [afterComma?_sign gap hblank hcomma, Option.getD_none, gap.skipBlanks_sign hblank]
  | comma comma =>
    show skipBlanks ((afterComma? (comma.chars ',' ++ c :: rest)).getD _) = _
    rw [afterComma?_append, Option.getD_some, skipBlanks_cons_of_not_blank _ hblank,
      skipBlanks_cons_of_not_blank _ hblank]

/-- What ends a list is no further item of it. -/
theorem bind_afterComma? {α : Type} {recognise : List Char → Option α} (ending : Ending) {c : Char}
    (hblank : isBlank c = false) (hcomma : c ≠ ',') {rest : List Char}
    (hnone : recognise (c :: rest) = none) :
    (afterComma? (ending.chars ++ c :: rest)).bind recognise = none := by
  cases ending with
  | gap gap =>
    show (afterComma? (gap.chars ++ c :: rest)).bind _ = _
    rw [afterComma?_sign gap hblank hcomma, Option.bind_none]
  | comma comma =>
    show (afterComma? (comma.chars ',' ++ c :: rest)).bind _ = _
    rw [afterComma?_append, Option.bind_some, skipBlanks_cons_of_not_blank _ hblank, hnone]

end Ending

theorem literalsAfter_append {more : List (Around × Literal)} {fuel : Nat}
    (hfuel : more.length ≤ fuel) {rest : List Char}
    (hrest : (afterComma? rest).bind literal? = none) :
    literalsAfter fuel (literalChars more ++ rest) = (more.map fun item => item.2.inside, rest) := by
  induction more generalizing fuel with
  | nil =>
    cases fuel with
    | zero => rfl
    | succ fuel =>
      show literalsAfter (fuel + 1) rest = ([], rest)
      unfold literalsAfter
      rw [hrest]
  | cons item more ih =>
    obtain ⟨comma, literal⟩ := item
    obtain ⟨fuel, rfl⟩ := Nat.exists_eq_add_one_of_ne_zero (Nat.ne_zero_of_lt hfuel)
    have hitem : (afterComma? (literalChars ((comma, literal) :: more) ++ rest)).bind literal? =
        some (literal.inside, literalChars more ++ rest) := by
      rw [literalChars, List.flatMap_cons, List.append_assoc, List.append_assoc,
        afterComma?_append, Option.bind_some, literal.skipBlanks_append, literal.literal?_append]
      rfl
    unfold literalsAfter
    rw [hitem]
    show (literal.inside :: (literalsAfter fuel (literalChars more ++ rest)).1,
      (literalsAfter fuel (literalChars more ++ rest)).2) = _
    rw [ih (Nat.le_of_succ_le_succ hfuel)]
    rfl

/-- Every item has a character, so the length of a text is fuel enough for its items. -/
theorem length_le_literalChars (more : List (Around × Literal)) (rest : List Char) :
    more.length ≤ (literalChars more ++ rest).length := by
  induction more with
  | nil => exact Nat.zero_le _
  | cons item more ih =>
    rw [literalChars, List.flatMap_cons, Literal.chars]
    simp only [List.length_append, List.length_cons] at ih ⊢
    show more.length + 1 ≤ _
    rw [literalChars] at ih
    omega

namespace Argument

/-- Brackets are no literal. -/
theorem literal?_bracket (rest : List Char) : literal? ('[' :: rest) = none :=
  literal?_cons_of_not_quote (by decide) rest

theorem skipBlanks_append (argument : Argument) (rest : List Char) :
    skipBlanks (argument.chars ++ rest) = argument.chars ++ rest := by
  cases argument with
  | bare literal => exact literal.skipBlanks_append rest
  | empty => exact skipBlanks_cons_of_not_blank _ (by decide)
  | listed => exact skipBlanks_cons_of_not_blank _ (by decide)

theorem listEnd?_append (ending : Ending) (rest : List Char) :
    listEnd? (ending.chars ++ ']' :: rest) = some rest := by
  unfold listEnd?
  rw [ending.skipBlanks_getD (by decide) (by decide), afterChar?_self]

theorem argument?_append (argument : Argument) (rest : List Char) :
    argument? (argument.chars ++ rest) = some (argument.texts, rest) := by
  unfold argument?
  cases argument with
  | bare literal =>
    rw [show (bare literal).chars = literal.chars from rfl, literal.literal?_append]
    rfl
  | empty inside =>
    have hchars : (empty inside).chars ++ rest = '[' :: (inside.chars ++ ']' :: rest) := by
      simp [chars]
    have hskip : skipBlanks (inside.chars ++ ']' :: rest) = ']' :: rest :=
      inside.skipBlanks_sign (by decide) rest
    have hnone : literal? (']' :: rest) = none := literal?_cons_of_not_quote (by decide) rest
    rw [hchars, literal?_bracket]
    unfold literalList?
    rw [afterChar?_self]
    simp only [Option.bind_eq_bind, Option.bind_some, hskip, hnone, afterChar?_self]
    rfl
  | listed opening first more ending =>
    have hchars : (listed opening first more ending).chars ++ rest = '[' :: (opening.chars ++
        (first.chars ++ (literalChars more ++ (ending.chars ++ ']' :: rest)))) := by
      simp [chars]
    have hnone : (afterComma? (ending.chars ++ ']' :: rest)).bind literal? = none :=
      ending.bind_afterComma? (by decide) (by decide) (literal?_cons_of_not_quote (by decide) rest)
    rw [hchars, literal?_bracket]
    unfold literalList?
    rw [afterChar?_self]
    have hfirst : literal? (skipBlanks (opening.chars ++ (first.chars ++ (literalChars more ++
        (ending.chars ++ ']' :: rest))))) =
        some (first.inside, literalChars more ++ (ending.chars ++ ']' :: rest)) := by
      rw [opening.skipBlanks_append, first.skipBlanks_append, first.literal?_append]
    have hmore := literalsAfter_append (length_le_literalChars more (ending.chars ++ ']' :: rest))
      hnone
    simp only [Option.bind_eq_bind, Option.bind_some, hfirst, hmore, listEnd?_append]
    rfl

end Argument

theorem argumentsAfter_append {items : List (Around × Argument)} {fuel : Nat}
    (hfuel : items.length ≤ fuel) {rest : List Char}
    (hrest : (afterComma? rest).bind argument? = none) :
    argumentsAfter fuel (argumentChars items ++ rest) =
      (items.flatMap fun item => item.2.texts, rest) := by
  induction items generalizing fuel with
  | nil =>
    cases fuel with
    | zero => rfl
    | succ fuel =>
      show argumentsAfter (fuel + 1) rest = ([], rest)
      unfold argumentsAfter
      rw [hrest]
  | cons item items ih =>
    obtain ⟨comma, argument⟩ := item
    obtain ⟨fuel, rfl⟩ := Nat.exists_eq_add_one_of_ne_zero (Nat.ne_zero_of_lt hfuel)
    have hitem : (afterComma? (argumentChars ((comma, argument) :: items) ++ rest)).bind argument? =
        some (argument.texts, argumentChars items ++ rest) := by
      rw [argumentChars, List.flatMap_cons, List.append_assoc, List.append_assoc,
        afterComma?_append, Option.bind_some, argument.skipBlanks_append, argument.argument?_append]
      rfl
    unfold argumentsAfter
    rw [hitem]
    show (argument.texts ++ (argumentsAfter fuel (argumentChars items ++ rest)).1,
      (argumentsAfter fuel (argumentChars items ++ rest)).2) = _
    rw [ih (Nat.le_of_succ_le_succ hfuel)]
    rfl

theorem length_le_argumentChars (items : List (Around × Argument)) (rest : List Char) :
    items.length ≤ (argumentChars items ++ rest).length := by
  induction items with
  | nil => exact Nat.zero_le _
  | cons item items ih =>
    rw [argumentChars, List.flatMap_cons, Around.chars]
    simp only [List.length_append, List.length_cons] at ih ⊢
    show items.length + 1 ≤ _
    rw [argumentChars] at ih
    omega

namespace Arguments

theorem types?_append (arguments : Arguments) (rest : List Char) :
    types? (arguments.chars ++ rest) = some (arguments.types, rest) := by
  have hchars : arguments.chars ++ rest =
      argumentChars arguments.items ++ (arguments.ending.chars ++ ')' :: rest) := by
    simp [chars]
  have hnone : (afterComma? (arguments.ending.chars ++ ')' :: rest)).bind argument? = none :=
    arguments.ending.bind_afterComma? (by decide) (by decide) rfl
  have hmore := argumentsAfter_append (length_le_argumentChars arguments.items
    (arguments.ending.chars ++ ')' :: rest)) hnone
  unfold types?
  rw [hchars, hmore]
  show (afterChar? ')' (skipBlanks ((afterComma? _).getD _))).bind _ = _
  rw [arguments.ending.skipBlanks_getD (by decide) (by decide), afterChar?_self]
  rfl

/-- Arguments begin, behind blanks, with a comma or the closing parenthesis. -/
theorem exists_sign (arguments : Arguments) :
    ∃ (gap : Gap) (c : Char) (cs : List Char), (c = ',' ∨ c = ')') ∧
      arguments.chars = gap.chars ++ c :: cs := by
  obtain ⟨items, ending⟩ := arguments
  cases items with
  | cons item items =>
    refine ⟨item.1.before, ',', item.1.after.chars ++ (item.2.chars ++ (argumentChars items ++
      (ending.chars ++ [')']))), Or.inl rfl, ?_⟩
    simp [chars, argumentChars, Around.chars]
  | nil =>
    cases ending with
    | gap gap => exact ⟨gap, ')', [], Or.inr rfl, rfl⟩
    | comma comma =>
      refine ⟨comma.before, ',', comma.after.chars ++ [')'], Or.inl rfl, ?_⟩
      simp [chars, argumentChars, Ending.chars, Around.chars]

end Arguments

/-! ### Calls -/

namespace Opening

theorem callStart?_append (opening : Opening) (rest : List Char) :
    callStart? (opening.chars ++ rest) =
      some (opening.quote.char :: (opening.name.chars ++ opening.quote.char :: rest)) := by
  have hchars : opening.chars ++ rest = opening.method ++ (opening.paren.chars '(' ++
      (opening.quote.char :: (opening.name.chars ++ opening.quote.char :: rest))) := by
    simp [chars]
  have hmethod : ∀ cs, (after? ".addProbe".toList (opening.method ++ cs)).or
      (after? ".add_probe".toList (opening.method ++ cs)) = some cs := by
    intro cs
    unfold method
    cases opening.snake with
    | false => simp [after?]
    | true => simp [after?]
  unfold callStart?
  rw [hchars, hmethod]
  show (afterChar? '(' (skipBlanks _)).bind _ = _
  rw [opening.paren.afterChar?_skipBlanks (by decide)]
  show some (skipBlanks (opening.paren.after.chars ++ _)) = _
  rw [opening.paren.after.skipBlanks_sign opening.quote.not_isBlank_char]

end Opening

/-- Where a plus sign comes first there are no arguments. -/
theorem types?_of_plus {cs rest : List Char} (h : skipBlanks cs = '+' :: rest) :
    types? cs = none := by
  have hnone : afterComma? cs = none := by
    rw [afterComma?, h]
    rfl
  have hafter : argumentsAfter cs.length cs = ([], cs) := by
    generalize cs.length = fuel
    cases fuel with
    | zero => rfl
    | succ fuel =>
      unfold argumentsAfter
      rw [hnone]
      rfl
  unfold types?
  rw [hafter]
  show (afterChar? ')' (skipBlanks ((afterComma? cs).getD cs))).bind _ = none
  rw [hnone, Option.getD_none, h]
  rfl

theorem types?_plus (plus : Around) (rest : List Char) :
    types? (plus.chars '+' ++ rest) = none := by
  apply types?_of_plus
  rw [Around.chars, List.append_assoc, List.cons_append]
  exact plus.before.skipBlanks_sign (by decide) _

namespace SingleCall

theorem plainCall?_append (call : SingleCall) (rest : List Char) :
    plainCall? (call.chars ++ rest) = some (call.probe, rest) := by
  unfold plainCall? chars
  rw [List.append_assoc, call.opening.callStart?_append]
  show (quotedIdentifier? _).bind _ = _
  rw [quotedIdentifier?_append]
  show (types? _).bind _ = _
  rw [call.arguments.types?_append]
  rfl

/-- No plus sign follows the name. -/
theorem countedCall?_append (call : SingleCall) (rest : List Char) :
    countedCall? (call.chars ++ rest) = none := by
  obtain ⟨gap, c, cs, hc, harguments⟩ := call.arguments.exists_sign
  have hblank : isBlank c = false := by
    rcases hc with rfl | rfl <;> decide
  have hplus : afterChar? '+' (c :: (cs ++ rest)) = none := by
    rcases hc with rfl | rfl <;> rfl
  unfold countedCall? chars
  rw [List.append_assoc, call.opening.callStart?_append]
  show (quotedIdentifier? _).bind _ = _
  rw [quotedIdentifier?_append]
  show (afterChar? '+' (skipBlanks (call.arguments.chars ++ rest))).bind _ = _
  rw [harguments, List.append_assoc, List.cons_append, gap.skipBlanks_sign hblank, hplus]
  rfl

end SingleCall

namespace RowCall

theorem countedCall?_append (call : RowCall) (counter : Name) (rest : List Char) :
    countedCall? (call.chars counter ++ rest) = some (call.counted counter, rest) := by
  obtain ⟨gap, c, cs, hc, harguments⟩ := call.arguments.exists_sign
  have hstops : Stops continuesIdentifier (call.arguments.chars ++ rest) := by
    rw [harguments, List.append_assoc]
    apply gap.stops_sign fun c => not_continuesIdentifier_of_isBlank
    rcases hc with rfl | rfl <;> decide
  have hchars : call.chars counter ++ rest = call.opening.chars ++ (call.plus.chars '+' ++
      (counter.chars ++ (call.arguments.chars ++ rest))) := by
    simp [chars]
  unfold countedCall?
  rw [hchars, call.opening.callStart?_append]
  show (quotedIdentifier? _).bind _ = _
  rw [quotedIdentifier?_append]
  show (afterChar? '+' (skipBlanks _)).bind _ = _
  rw [call.plus.afterChar?_skipBlanks (by decide)]
  show (identifier? (skipBlanks (call.plus.after.chars ++ _))).bind _ = _
  rw [call.plus.after.skipBlanks_append, counter.skipBlanks_append,
    counter.identifier?_append hstops]
  show (types? (call.arguments.chars ++ rest)).bind _ = _
  rw [call.arguments.types?_append]
  rfl

/-- The plus sign is no argument. -/
theorem plainCall?_append (call : RowCall) (counter : Name) (rest : List Char) :
    plainCall? (call.chars counter ++ rest) = none := by
  unfold plainCall? chars
  rw [List.append_assoc, call.opening.callStart?_append]
  show (quotedIdentifier? _).bind _ = _
  rw [quotedIdentifier?_append]
  show (types? _).bind _ = _
  rw [List.append_assoc, types?_plus]
  rfl

end RowCall

/-! ### Loops -/

/-- The words that introduce a variable are identifiers themselves. -/
theorem Introducer.exists_name (introducer : Introducer) :
    ∃ name : Name, name.chars = introducer.word := by
  have hknown : ∀ word ∈ introducers, isIdentifier (String.ofList word) = true := by decide
  have hword := hknown introducer.word introducer.known
  rw [isIdentifier, String.toList_ofList] at hword
  cases hcs : introducer.word with
  | nil =>
    rw [hcs] at hword
    cases hword
  | cons c cs =>
    rw [hcs] at hword
    obtain ⟨hc, htail⟩ := Bool.and_eq_true_iff.1 hword
    exact ⟨⟨c, cs, hc, List.all_eq_true.1 htail⟩, rfl⟩

theorem skipBlanks_variableChars (introducer : Option Introducer) (counter : Name)
    (rest : List Char) :
    skipBlanks (variableChars introducer counter ++ rest) =
      variableChars introducer counter ++ rest := by
  cases introducer with
  | none => exact counter.skipBlanks_append rest
  | some introducer =>
    obtain ⟨word, hword⟩ := introducer.exists_name
    rw [variableChars, ← hword, List.append_assoc, word.skipBlanks_append]

/-- The variable of a loop is read with or without a word that introduces it, also where it is
spelled like such a word. -/
theorem loopVariable?_append (introducer : Option Introducer) (counter : Name) (assign : Around)
    (rest : List Char) :
    loopVariable? (variableChars introducer counter ++ (assign.chars '=' ++ rest)) =
      some (counter.chars, assign.chars '=' ++ rest) := by
  have hchars : assign.chars '=' ++ rest =
      assign.before.chars ++ '=' :: (assign.after.chars ++ rest) := by
    simp [Around.chars]
  have hskip : skipBlanks (assign.chars '=' ++ rest) = '=' :: (assign.after.chars ++ rest) := by
    rw [hchars, assign.before.skipBlanks_sign (by decide)]
  have hstops : Stops continuesIdentifier (assign.chars '=' ++ rest) := by
    rw [hchars]
    exact assign.before.stops_sign (fun c => not_continuesIdentifier_of_isBlank) (by decide) _
  have hnone : identifier? ('=' :: (assign.after.chars ++ rest)) = none := rfl
  cases introducer with
  | none =>
    unfold loopVariable? variableChars
    simp only [counter.identifier?_append hstops, Option.bind_eq_bind, Option.bind_some, hskip,
      hnone, Option.none_or]
    repeat' split
    all_goals rfl
  | some introducer =>
    obtain ⟨word, hword⟩ := introducer.exists_name
    obtain ⟨c, cs, hgap⟩ := List.exists_cons_of_ne_nil introducer.apart
    have hblank : isBlank c = true := by
      apply introducer.gap.blank
      rw [hgap]
      exact List.mem_cons_self
    have hvariable : variableChars (some introducer) counter ++ (assign.chars '=' ++ rest) =
        word.chars ++ (c :: (cs ++ (counter.chars ++ (assign.chars '=' ++ rest)))) := by
      simp [variableChars, hword, hgap]
    have hrest : skipBlanks (c :: (cs ++ (counter.chars ++ (assign.chars '=' ++ rest)))) =
        counter.chars ++ (assign.chars '=' ++ rest) := by
      rw [← List.cons_append, ← hgap, introducer.gap.skipBlanks_append,
        counter.skipBlanks_append]
    have hcontains : introducers.contains word.chars = true := by
      rw [hword, List.contains_iff_mem]
      exact introducer.known
    rw [hvariable]
    unfold loopVariable?
    simp only [word.identifier?_append (stops_cons (not_continuesIdentifier_of_isBlank hblank) _),
      Option.bind_eq_bind, Option.bind_some, hcontains, if_true, hblank, hrest,
      counter.identifier?_append hstops, Option.some_or]

/-- Blanks at the end are trimmed. -/
theorem trim_append_gap {cs : List Char} (gap : Gap)
    (hfirst : skipBlanks (cs ++ gap.chars) = cs ++ gap.chars)
    (hlast : skipBlanks cs.reverse = cs.reverse) : trim (cs ++ gap.chars) = cs := by
  have hgap : skipBlanks (gap.chars.reverse ++ cs.reverse) = skipBlanks cs.reverse := by
    unfold skipBlanks
    exact List.dropWhile_append_of_pos fun c hc => gap.blank c (List.mem_reverse.1 hc)
  unfold trim
  rw [hfirst, List.reverse_append, hgap, hlast, List.reverse_reverse]

namespace Step

variable (counter : Name) (step : Step)

/-- A step begins with a plus sign or with the variable. -/
theorem skipBlanks_append (rest : List Char) :
    skipBlanks (step.chars counter ++ rest) = step.chars counter ++ rest := by
  cases step with
  | prior => exact skipBlanks_cons_of_not_blank _ (by decide)
  | posterior gap =>
    rw [chars, List.append_assoc]
    exact counter.skipBlanks_append _
  | added left right =>
    rw [chars, List.append_assoc]
    exact counter.skipBlanks_append _
  | assigned equals plus =>
    rw [chars, List.append_assoc]
    exact counter.skipBlanks_append _

/-- A step ends with a plus sign, with the variable or with the number. -/
theorem exists_last : ∃ cs c, step.chars counter = cs ++ [c] ∧ isBlank c = false := by
  cases step with
  | prior gap =>
    obtain ⟨cs, c, hcounter, hc⟩ := counter.exists_last
    exact ⟨'+' :: '+' :: (gap.chars ++ cs), c, by simp [chars, hcounter], hc⟩
  | posterior gap => exact ⟨counter.chars ++ (gap.chars ++ ['+']), '+', by simp [chars], by decide⟩
  | added left right =>
    exact ⟨counter.chars ++ (left.chars ++ '+' :: '=' :: right.chars), '1', by simp [chars],
      by decide⟩
  | assigned equals plus =>
    exact ⟨counter.chars ++ (equals.chars '=' ++ (counter.chars ++ plus.chars '+')), '1',
      by simp [chars], by decide⟩

theorem trim_append (ending : Gap) :
    trim (step.chars counter ++ ending.chars) = step.chars counter := by
  obtain ⟨cs, c, hchars, hc⟩ := step.exists_last counter
  apply trim_append_gap ending (step.skipBlanks_append counter _)
  rw [hchars, List.reverse_append]
  exact skipBlanks_cons_of_not_blank _ hc

/-- A variable is no plus sign. -/
theorem after?_plusPlus (rest : List Char) : after? ['+', '+'] (counter.chars ++ rest) = none := by
  have hhead : counter.head ≠ '+' := by
    intro h
    have hstarts := counter.starts
    rw [h] at hstarts
    exact absurd hstarts (by decide)
  unfold after? Name.chars
  rw [if_neg]
  simp [hhead.symm]

/-- Every step adds one. -/
theorem addsOne_append (ending : Gap) :
    addsOne counter.chars (step.chars counter ++ ending.chars) = true := by
  have hstops : ∀ (gap : Gap) {c : Char}, continuesIdentifier c = false → ∀ rest,
      Stops continuesIdentifier (gap.chars ++ c :: rest) := fun gap c hc rest =>
    gap.stops_sign (fun c => not_continuesIdentifier_of_isBlank) hc rest
  unfold addsOne
  rw [step.trim_append counter ending]
  cases step with
  | prior gap =>
    have hafter : after? ['+', '+'] (chars counter (prior gap)) =
        some (gap.chars ++ counter.chars) := after?_append ['+', '+'] _
    have hskip : skipBlanks (gap.chars ++ counter.chars) = counter.chars := by
      have hname := counter.skipBlanks_append []
      rw [List.append_nil] at hname
      rw [gap.skipBlanks_append, hname]
    simp only [hafter, hskip, beq_self_eq_true]
  | posterior gap =>
    have hname := counter.identifier?_append (hstops gap (c := '+') (by decide) ['+'])
    simp only [chars, after?_plusPlus, hname, Option.map_some]
    rw [gap.skipBlanks_sign (by decide)]
    simp
  | added left right =>
    have hname := counter.identifier?_append
      (hstops left (c := '+') (by decide) ('=' :: (right.chars ++ ['1'])))
    have hafter : after? ['+', '='] ('+' :: '=' :: (right.chars ++ ['1'])) =
        some (right.chars ++ ['1']) := after?_append ['+', '='] _
    simp only [chars, after?_plusPlus, hname, Option.map_some]
    rw [left.skipBlanks_sign (by decide), hafter, Option.any_some, right.skipBlanks_sign (by decide)]
    simp
  | assigned equals plus =>
    have hchars : chars counter (assigned equals plus) = counter.chars ++ (equals.before.chars ++
        '=' :: (equals.after.chars ++ (counter.chars ++ (plus.chars '+' ++ ['1'])))) := by
      simp [chars, Around.chars]
    have hname := counter.identifier?_append (hstops equals.before (c := '=') (by decide)
      (equals.after.chars ++ (counter.chars ++ (plus.chars '+' ++ ['1']))))
    have hone : skipBlanks (plus.after.chars ++ ['1']) = ['1'] :=
      plus.after.skipBlanks_sign (by decide) []
    simp only [hchars, after?_plusPlus, hname, Option.map_some]
    rw [equals.before.skipBlanks_sign (by decide), afterChar?_self, Option.bind_some,
      equals.after.skipBlanks_append, counter.skipBlanks_append, after?_append, Option.any_some,
      plus.afterChar?_skipBlanks (by decide), Option.any_some, hone]
    simp

/-- No parenthesis closes inside a step. -/
theorem ne_of_mem_append (ending : Gap) :
    ∀ c ∈ step.chars counter ++ ending.chars, (c != ')') = true := by
  have hgap : ∀ (gap : Gap), ')' ∉ gap.chars := fun gap h =>
    absurd (gap.blank _ h) (by decide)
  have hcounter : ')' ∉ counter.chars := fun h =>
    absurd (counter.continues_of_mem _ h) (by decide)
  have hstep : ')' ∉ step.chars counter ++ ending.chars := by
    cases step <;> simp [chars, Around.chars, hgap, hcounter]
  intro c hc
  rw [bne_iff_ne]
  intro h
  exact hstep (h ▸ hc)

end Step

namespace Header

theorem loop_counts (header : Header) : header.loop.counts = true := by
  unfold Declaration.Loop.counts loop
  rw [String.toList_ofList]
  exact header.step.addsOne_append header.counter header.ending

theorem loop?_append (header : Header) (rest : List Char) :
    loop? (header.chars ++ rest) = some (header.loop, rest) := by
  have hdigits : ∀ (around : Around) {c : Char}, isDecimal c = false → ∀ rest,
      Stops isDecimal (around.chars c ++ rest) := by
    intro around c hc rest
    rw [Around.chars, List.append_assoc]
    exact around.before.stops_sign (fun c => not_isDecimal_of_isBlank) hc _
  have hfirst : ∀ cs, number? (header.first.chars ++ (header.start.chars ';' ++ cs)) =
      some (header.first.spelled, header.start.chars ';' ++ cs) := fun cs =>
    header.first.number?_append (hdigits header.start (by decide) cs)
  have hbound : ∀ cs, number? (header.bound.chars ++ (header.stop.chars ';' ++ cs)) =
      some (header.bound.spelled, header.stop.chars ';' ++ cs) := fun cs =>
    header.bound.number?_append (hdigits header.stop (by decide) cs)
  have hstep : Stops (· != ')') (')' :: rest) := stops_cons (by simp) rest
  have hmem := header.step.ne_of_mem_append header.counter header.ending
  have hadvance : ∀ cs, skipBlanks (header.advance ++ cs) = header.advance ++ cs := by
    intro cs
    rw [advance, List.append_assoc, header.step.skipBlanks_append]
  have htake : (header.advance ++ ')' :: rest).takeWhile (· != ')') = header.advance :=
    takeWhile_of_stops hmem hstep
  unfold loop? chars
  simp only [List.append_assoc, after?_append, Option.bind_eq_bind, Option.bind_some,
    header.paren.afterChar?_skipBlanks (c := '(') (by decide), Gap.skipBlanks_append,
    skipBlanks_variableChars, loopVariable?_append,
    header.assign.afterChar?_skipBlanks (c := '=') (by decide), hfirst,
    header.start.afterChar?_skipBlanks (c := ';') (by decide), Name.skipBlanks_append,
    header.less.afterChar?_skipBlanks (c := '<') (by decide), hbound,
    header.stop.afterChar?_skipBlanks (c := ';') (by decide), hadvance, Numeral.skipBlanks_append,
    List.singleton_append, htake, List.drop_left, afterChar?_self]
  rfl

end Header

end ProbeKit.Rendering
