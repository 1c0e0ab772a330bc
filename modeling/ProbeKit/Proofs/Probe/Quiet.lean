import ProbeKit.Proofs.Probe.Recognised

/-!
# Quiet text

A recogniser that looks for calls and loops along a text must find nothing between the
declarations and nothing inside them.  A text is *idle* where neither a call nor a loop begins in
front of it, and a part of a text is *quiet* when the text is idle from each of its characters on;
what stands behind the part counts too, since a beginning could lie across its end.  Quiet parts
join to quiet parts (`Quiet.append`), so it is enough to look at the pieces: signs, blanks and
digits hold no dot and no `f`, a name that no parenthesis follows is no `for`, and filler and the
insides of literals hold no mark, nor can one end behind them.
-/

namespace ProbeKit.Rendering

open Text Declaration

/-- A mark that begins in a part of a text ends there, unless what follows the part goes on with
it. -/
theorem prefix_of_prefix_append {mark cs rest : List Char} (hcs : cs ≠ [])
    (hrest : ∀ c ∈ rest.head?, c ∉ mark.tail) (h : mark <+: cs ++ rest) : mark <+: cs := by
  rcases List.prefix_or_prefix_of_prefix h (List.prefix_append cs rest) with hinside | hacross
  · exact hinside
  · obtain ⟨more, rfl⟩ := hacross
    cases more with
    | nil =>
      exact (List.append_nil cs).symm ▸ List.prefix_rfl
    | cons d more =>
      have hmore : d :: more <+: rest := (List.prefix_append_right_inj cs).1 h
      obtain ⟨behind, rfl⟩ := hmore
      have hmem : d ∈ (cs ++ d :: more).tail := by
        rw [List.tail_append_of_ne_nil hcs]
        simp
      exact absurd hmem (hrest d rfl)

/-! ### Beginnings -/

/-- Neither a call nor a loop begins in front of a text. -/
structure Idle (cs : List Char) : Prop where
  /-- No call begins. -/
  call : callStart? cs = none
  /-- No loop begins. -/
  loop : ∀ rest, cs = "for".toList ++ rest → afterChar? '(' (skipBlanks rest) = none

namespace Idle

variable {cs : List Char}

theorem plainCall? (h : Idle cs) : plainCall? cs = none := by
  unfold Declaration.plainCall?
  rw [h.call]
  rfl

theorem countedCall? (h : Idle cs) : countedCall? cs = none := by
  unfold Declaration.countedCall?
  rw [h.call]
  rfl

theorem loop? (h : Idle cs) : loop? cs = none := by
  have hnone : (after? "for".toList cs).bind (fun rest => afterChar? '(' (skipBlanks rest)) =
      none := by
    unfold after?
    split
    · rename_i hstart
      obtain ⟨rest, hrest⟩ := List.isPrefixOf_iff_prefix.1 hstart
      rw [← hrest, List.drop_left]
      exact h.loop rest hrest.symm
    · rfl
  unfold Declaration.loop?
  cases hafter : after? "for".toList cs with
  | none => rfl
  | some rest =>
    rw [hafter, Option.bind_some] at hnone
    show (afterChar? '(' (skipBlanks rest)).bind _ = none
    rw [hnone]
    rfl

/-- Calls begin with a dot and loops with an `f`. -/
theorem cons_of_ne {c : Char} (hdot : c ≠ '.') (hf : c ≠ 'f') (cs : List Char) :
    Idle (c :: cs) := by
  refine ⟨?_, ?_⟩
  · unfold callStart?
    simp [after?, hdot.symm]
  · intro rest h
    exact absurd (List.cons.inj h).1 hf

/-- A text that begins with no mark is idle. -/
theorem of_not_prefix (h : ∀ mark ∈ marks, ¬ mark <+: cs) : Idle cs := by
  have hcamel : after? ".addProbe".toList cs = none := by
    have hmark := h ".addProbe".toList (by decide)
    rw [← List.isPrefixOf_iff_prefix] at hmark
    exact if_neg hmark
  have hsnake : after? ".add_probe".toList cs = none := by
    have hmark := h ".add_probe".toList (by decide)
    rw [← List.isPrefixOf_iff_prefix] at hmark
    exact if_neg hmark
  refine ⟨?_, ?_⟩
  · unfold callStart?
    rw [hcamel, hsnake]
    rfl
  · intro rest hrest
    exact absurd ⟨rest, hrest.symm⟩ (h "for".toList (by decide))

end Idle

/-! ### Quiet parts -/

/-- Whether a text is idle from each character of its first part on. -/
def Quiet : List Char → List Char → Prop
  | [], _ => True
  | c :: cs, rest => Idle (c :: (cs ++ rest)) ∧ Quiet cs rest

namespace Quiet

theorem nil (rest : List Char) : Quiet [] rest := trivial

/-- Parts that are quiet where they stand make a quiet part. -/
theorem append {a b rest : List Char} (ha : Quiet a (b ++ rest)) (hb : Quiet b rest) :
    Quiet (a ++ b) rest := by
  induction a with
  | nil => exact hb
  | cons c a ih =>
    refine ⟨?_, ih ha.2⟩
    show Idle (c :: (a ++ b ++ rest))
    rw [List.append_assoc]
    exact ha.1

/-- A sign in front leaves a part quiet. -/
theorem cons {c : Char} (hdot : c ≠ '.') (hf : c ≠ 'f') {cs rest : List Char} (h : Quiet cs rest) :
    Quiet (c :: cs) rest :=
  ⟨Idle.cons_of_ne hdot hf _, h⟩

/-- Text without a dot and without an `f` is quiet whatever follows. -/
theorem of_forall {cs : List Char} (h : ∀ c ∈ cs, c ≠ '.' ∧ c ≠ 'f') (rest : List Char) :
    Quiet cs rest := by
  induction cs with
  | nil => exact nil rest
  | cons c cs ih =>
    obtain ⟨hdot, hf⟩ := h c List.mem_cons_self
    exact cons hdot hf (ih fun d hd => h d (List.mem_cons_of_mem _ hd))

/-- So is a text that is seen to have none. -/
theorem of_all {cs : List Char} (h : (cs.all fun c => c != '.' && c != 'f') = true)
    (rest : List Char) : Quiet cs rest :=
  of_forall (by simpa using h) rest

theorem gap (gap : Gap) (rest : List Char) : Quiet gap.chars rest := by
  apply of_forall
  intro c hc
  have hblank := gap.blank c hc
  refine ⟨?_, ?_⟩
  · rintro rfl
    exact absurd hblank (by decide)
  · rintro rfl
    exact absurd hblank (by decide)

theorem around (around : Around) {sign : Char} (hdot : sign ≠ '.') (hf : sign ≠ 'f')
    (rest : List Char) : Quiet (around.chars sign) rest :=
  append (gap around.before _) (cons hdot hf (gap around.after rest))

theorem numeral (numeral : Numeral) (rest : List Char) : Quiet numeral.chars rest := by
  apply of_forall
  intro c hc
  have hdigit := numeral.digits c hc
  refine ⟨?_, ?_⟩
  · rintro rfl
    exact absurd hdigit (by decide)
  · rintro rfl
    exact absurd hdigit (by decide)

/-- A name is quiet unless it runs on or a parenthesis opens behind it: the word of a loop may
well be a name or stand at its end. -/
theorem name (name : Name) {rest : List Char} (hstops : Stops continuesIdentifier rest)
    (hparen : afterChar? '(' (skipBlanks rest) = none) : Quiet name.chars rest := by
  have hor : ∀ c ∈ "for".toList.tail, continuesIdentifier c = true :=
    List.all_eq_true.1 (by decide)
  have hword : ∀ c ∈ rest.head?, c ∉ "for".toList.tail := by
    intro c hc hmem
    have hcontinues := hor c hmem
    rw [hstops c hc] at hcontinues
    cases hcontinues
  have hall := name.continues_of_mem
  revert hall
  generalize name.chars = cs
  intro hall
  induction cs with
  | nil => exact nil rest
  | cons c cs ih =>
    refine ⟨⟨?_, ?_⟩, ih fun d hd => hall d (List.mem_cons_of_mem _ hd)⟩
    · have hdot : c ≠ '.' := by
        rintro rfl
        exact absurd (hall _ List.mem_cons_self) (by decide)
      unfold callStart?
      simp [after?, hdot.symm]
    · intro behind hfor
      -- The word cannot end beyond the name, where no identifier goes on.
      obtain ⟨more, hmore⟩ := prefix_of_prefix_append (List.cons_ne_nil c cs) hword
        ⟨behind, hfor.symm⟩
      rw [← List.cons_append, ← hmore, List.append_assoc] at hfor
      rw [← List.append_cancel_left hfor]
      cases more with
      | nil => exact hparen
      | cons d more =>
        have hd : continuesIdentifier d = true := by
          apply hall
          rw [← hmore]
          simp
        have hne : d ≠ '(' := by
          rintro rfl
          exact absurd hd (by decide)
        rw [List.cons_append, skipBlanks_cons_of_not_blank _ (not_isBlank_of_continues hd)]
        simp [afterChar?, hne]

/-- Text without marks is quiet if no mark goes on with what follows. -/
theorem of_free {cs rest : List Char} (hfree : MarkFree cs)
    (hrest : ∀ mark ∈ marks, ∀ c ∈ rest.head?, c ∉ mark.tail) : Quiet cs rest := by
  induction cs with
  | nil => exact nil rest
  | cons c cs ih =>
    refine ⟨Idle.of_not_prefix ?_, ih ?_⟩
    · intro mark hmark hprefix
      have hinside := prefix_of_prefix_append (List.cons_ne_nil c cs) (hrest mark hmark) hprefix
      exact hfree mark hmark hinside.isInfix
    · intro mark hmark hinside
      exact hfree mark hmark (hinside.trans (List.suffix_cons c cs).isInfix)

/-- A name before blanks and a sign other than the parenthesis is quiet. -/
theorem name_sign (name : Name) (gap : Gap) {c : Char} (hcontinues : continuesIdentifier c = false)
    (hblank : isBlank c = false) (hparen : c ≠ '(') (rest : List Char) :
    Quiet name.chars (gap.chars ++ c :: rest) := by
  apply Quiet.name name (gap.stops_sign (fun c => not_continuesIdentifier_of_isBlank) hcontinues rest)
  rw [gap.skipBlanks_sign hblank]
  simp [afterChar?, hparen]

theorem name_around (name : Name) (around : Around) {sign : Char}
    (hcontinues : continuesIdentifier sign = false) (hblank : isBlank sign = false)
    (hparen : sign ≠ '(') (rest : List Char) :
    Quiet name.chars (around.chars sign ++ rest) := by
  rw [Around.chars, List.append_assoc]
  exact name_sign name around.before hcontinues hblank hparen _

/-! ### Arguments -/

theorem quote {quote : Quote} {cs rest : List Char} (h : Quiet cs rest) :
    Quiet (quote.char :: cs) rest := by
  cases quote with
  | single => exact cons (by decide) (by decide) h
  | double => exact cons (by decide) (by decide) h
  | back => exact cons (by decide) (by decide) h

theorem literal (literal : Literal) (rest : List Char) : Quiet literal.chars rest := by
  have hquote : ∀ q : Quote, ∀ mark ∈ marks, q.char ∉ mark.tail := by
    intro q
    cases q <;> decide
  apply quote
  apply append
  · apply of_free literal.free
    intro mark hmark c hc
    obtain rfl := Option.some.inj hc
    exact hquote literal.quote mark hmark
  · exact quote (nil rest)

theorem literals (more : List (Around × Literal)) (rest : List Char) :
    Quiet (literalChars more) rest := by
  induction more with
  | nil => exact nil rest
  | cons item more ih =>
    rw [literalChars, List.flatMap_cons]
    exact append (append (around item.1 (by decide) (by decide) _) (literal item.2 _)) ih

theorem ending (ending : Ending) (rest : List Char) : Quiet ending.chars rest := by
  cases ending with
  | gap g => exact gap g rest
  | comma comma => exact around comma (by decide) (by decide) rest

theorem argument (argument : Argument) (rest : List Char) : Quiet argument.chars rest := by
  cases argument with
  | bare l => exact literal l rest
  | empty inside =>
    apply cons (by decide) (by decide)
    exact append (gap inside _) (cons (by decide) (by decide) (nil rest))
  | listed opening first more close =>
    apply cons (by decide) (by decide)
    apply append (gap opening _)
    apply append (literal first _)
    apply append (literals more _)
    exact append (ending close _) (cons (by decide) (by decide) (nil rest))

theorem arguments (arguments : Arguments) (rest : List Char) : Quiet arguments.chars rest := by
  apply append
  · induction arguments.items with
    | nil => exact nil _
    | cons item items ih =>
      rw [argumentChars, List.flatMap_cons]
      exact append (append (around item.1 (by decide) (by decide) _) (argument item.2 _)) ih
  · exact append (ending arguments.ending _) (cons (by decide) (by decide) (nil rest))

/-! ### Calls -/

/-- Nothing else begins inside the beginning of a call. -/
theorem opening (opening : Opening) (rest : List Char) : Quiet opening.chars.tail rest := by
  have htail : opening.chars.tail = opening.method.tail ++ (opening.paren.chars '(' ++
      opening.quote.char :: (opening.name.chars ++ [opening.quote.char])) := by
    unfold Opening.chars Opening.method
    cases opening.snake <;> rfl
  have hmethod : (opening.method.tail.all fun c => c != '.' && c != 'f') = true := by
    unfold Opening.method
    cases opening.snake <;> decide
  have hstops : Stops continuesIdentifier ([opening.quote.char] ++ rest) :=
    stops_cons opening.quote.not_continuesIdentifier_char rest
  have hparen : afterChar? '(' (skipBlanks ([opening.quote.char] ++ rest)) = none := by
    cases opening.quote <;> rfl
  rw [htail]
  apply append (of_all hmethod _)
  apply append (around opening.paren (by decide) (by decide) _)
  apply quote
  exact append (name opening.name hstops hparen) (quote (nil rest))

end Quiet

theorem Opening.chars_eq_cons (opening : Opening) : opening.chars = '.' :: opening.chars.tail := by
  unfold chars method
  cases opening.snake <;> rfl

namespace SingleCall

theorem chars_eq_cons (call : SingleCall) : call.chars = '.' :: call.chars.tail := by
  unfold chars
  rw [call.opening.chars_eq_cons]
  rfl

theorem quiet_tail (call : SingleCall) (rest : List Char) : Quiet call.chars.tail rest := by
  unfold chars
  rw [call.opening.chars_eq_cons]
  exact Quiet.append (Quiet.opening call.opening _) (Quiet.arguments call.arguments rest)

end SingleCall

namespace RowCall

variable (call : RowCall) (counter : Name)

theorem chars_eq_cons : call.chars counter = '.' :: (call.chars counter).tail := by
  unfold chars
  rw [call.opening.chars_eq_cons]
  rfl

theorem quiet_tail (rest : List Char) : Quiet (call.chars counter).tail rest := by
  have hcounter : Quiet counter.chars (call.arguments.chars ++ rest) := by
    obtain ⟨gap, c, cs, hc, harguments⟩ := call.arguments.exists_sign
    rw [harguments, List.append_assoc]
    rcases hc with rfl | rfl
    · exact Quiet.name_sign counter gap (by decide) (by decide) (by decide) _
    · exact Quiet.name_sign counter gap (by decide) (by decide) (by decide) _
  unfold chars
  rw [call.opening.chars_eq_cons]
  apply Quiet.append (Quiet.opening call.opening _)
  apply Quiet.append (Quiet.around call.plus (by decide) (by decide) _)
  exact Quiet.append hcounter (Quiet.arguments call.arguments rest)

end RowCall

/-! ### Loops -/

/-- The variable of a loop is quiet, and so is the word that introduces it. -/
theorem quiet_variableChars (introducer : Option Introducer) (counter : Name) (assign : Around)
    (rest : List Char) :
    Quiet (variableChars introducer counter) (assign.chars '=' ++ rest) := by
  have hcounter : Quiet counter.chars (assign.chars '=' ++ rest) :=
    Quiet.name_around counter assign (by decide) (by decide) (by decide) rest
  have hwords : ∀ word ∈ introducers, (word.all fun c => c != '.' && c != 'f') = true := by decide
  cases introducer with
  | none => exact hcounter
  | some introducer =>
    apply Quiet.append (Quiet.of_all (hwords introducer.word introducer.known) _)
    exact Quiet.append (Quiet.gap introducer.gap _) hcounter

theorem quiet_step (counter : Name) (step : Step) (ending : Gap) (rest : List Char) :
    Quiet (step.chars counter) (ending.chars ++ ')' :: rest) := by
  have hone : ∀ rest, Quiet ['1'] rest := fun rest => Quiet.of_all (by decide) rest
  cases step with
  | prior gap =>
    apply Quiet.cons (by decide) (by decide)
    apply Quiet.cons (by decide) (by decide)
    apply Quiet.append (Quiet.gap gap _)
    exact Quiet.name_sign counter ending (by decide) (by decide) (by decide) rest
  | posterior gap =>
    rw [Step.chars]
    apply Quiet.append
    · rw [List.append_assoc]
      exact Quiet.name_sign counter gap (by decide) (by decide) (by decide) _
    · exact Quiet.append (Quiet.gap gap _) (Quiet.of_all (by decide) _)
  | added left right =>
    rw [Step.chars]
    apply Quiet.append
    · rw [List.append_assoc]
      exact Quiet.name_sign counter left (by decide) (by decide) (by decide) _
    · apply Quiet.append (Quiet.gap left _)
      apply Quiet.cons (by decide) (by decide)
      apply Quiet.cons (by decide) (by decide)
      exact Quiet.append (Quiet.gap right _) (hone _)
  | assigned equals plus =>
    rw [Step.chars]
    apply Quiet.append
    · rw [List.append_assoc]
      exact Quiet.name_around counter equals (by decide) (by decide) (by decide) _
    · apply Quiet.append (Quiet.around equals (by decide) (by decide) _)
      apply Quiet.append
      · rw [List.append_assoc]
        exact Quiet.name_around counter plus (by decide) (by decide) (by decide) _
      · exact Quiet.append (Quiet.around plus (by decide) (by decide) _) (hone _)

namespace Header

theorem chars_eq_cons (header : Header) : header.chars = 'f' :: header.chars.tail := rfl

theorem quiet_tail (header : Header) (rest : List Char) : Quiet header.chars.tail rest := by
  have htail : header.chars.tail = ['o', 'r'] ++ (header.paren.chars '(' ++
      (variableChars header.introducer header.counter ++ (header.assign.chars '=' ++
        (header.first.chars ++ (header.start.chars ';' ++ (header.counter.chars ++
          (header.less.chars '<' ++ (header.bound.chars ++ (header.stop.chars ';' ++
            (header.step.chars header.counter ++ (header.ending.chars ++ [')']))))))))))) := by
    simp [chars, advance]
  rw [htail]
  apply Quiet.append (Quiet.of_all (by decide) _)
  apply Quiet.append (Quiet.around header.paren (by decide) (by decide) _)
  apply Quiet.append
  · rw [List.append_assoc]
    exact quiet_variableChars header.introducer header.counter header.assign _
  apply Quiet.append (Quiet.around header.assign (by decide) (by decide) _)
  apply Quiet.append (Quiet.numeral header.first _)
  apply Quiet.append (Quiet.around header.start (by decide) (by decide) _)
  apply Quiet.append
  · rw [List.append_assoc]
    exact Quiet.name_around header.counter header.less (by decide) (by decide) (by decide) _
  apply Quiet.append (Quiet.around header.less (by decide) (by decide) _)
  apply Quiet.append (Quiet.numeral header.bound _)
  apply Quiet.append (Quiet.around header.stop (by decide) (by decide) _)
  apply Quiet.append
  · rw [List.append_assoc]
    exact quiet_step header.counter header.step header.ending _
  exact Quiet.append (Quiet.gap header.ending _) (Quiet.cons (by decide) (by decide) (Quiet.nil _))

end Header

end ProbeKit.Rendering
