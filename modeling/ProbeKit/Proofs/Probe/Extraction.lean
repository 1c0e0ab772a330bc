import ProbeKit.Proofs.Probe.Occurrences
import ProbeKit.Proofs.Probe.Quiet

/-!
# Extraction recovers what was rendered

Three passes look for the plain calls, for the loops and for the counted calls of a source, each
on its own, and a sort brings what they found into source order.  On a rendered source each pass
finds its own pieces at the places where they stand and nothing else (`Pass.occurrences_eq`), a
counted call finds the loop that it was rendered with (`closestLoop?_eq`), and the order of the
places is the order of the declarations.  So the declared probes are those of the declarations,
unless a numeral has more digits than are read (`declaredProbes_text`).
-/

namespace ProbeKit.Rendering

open Text Declaration

/-! ### Pieces -/

/-- What the passes look for. -/
inductive Piece
  /-- A call that names its probe in full. -/
  | single (call : SingleCall)
  /-- The header of a loop. -/
  | loop (header : Header)
  /-- A call whose probes a variable numbers. -/
  | row (call : RowCall) (counter : Name)

namespace Piece

/-- The text of a piece. -/
def chars : Piece → List Char
  | single call => call.chars
  | loop header => header.chars
  | row call counter => call.chars counter

/-- The probe of a call that names it in full. -/
def probe? : Piece → Option Probe
  | single call => some call.probe
  | _ => none

/-- The loop that a header opens. -/
def loop? : Piece → Option Declaration.Loop
  | loop header => some header.loop
  | _ => none

/-- What a call whose probes a variable numbers says. -/
def counted? : Piece → Option CountedCall
  | row call counter => some (call.counted counter)
  | _ => none

/-- A piece begins with a dot or an `f`, with which no mark goes on, and is quiet behind that. -/
theorem exists_cons (piece : Piece) (rest : List Char) :
    ∃ c cs, piece.chars = c :: cs ∧ (∀ mark ∈ marks, c ∉ mark.tail) ∧ Quiet cs rest := by
  cases piece with
  | single call => exact ⟨'.', _, call.chars_eq_cons, by decide, call.quiet_tail rest⟩
  | loop header => exact ⟨'f', _, header.chars_eq_cons, by decide, header.quiet_tail rest⟩
  | row call counter =>
    exact ⟨'.', _, call.chars_eq_cons counter, by decide, call.quiet_tail counter rest⟩

end Piece

namespace Filler

theorem quiet_piece (filler : Filler) (piece : Piece) (rest : List Char) :
    Quiet filler.chars (piece.chars ++ rest) := by
  obtain ⟨c, cs, hchars, hmark, -⟩ := piece.exists_cons rest
  apply Quiet.of_free filler.free
  intro mark hm d hd
  rw [hchars] at hd
  obtain rfl := Option.some.inj hd
  exact hmark mark hm

theorem quiet_nil (filler : Filler) : Quiet filler.chars [] := by
  apply Quiet.of_free filler.free
  intro mark _ d hd
  cases hd

end Filler

/-- The pieces of a declaration, each with the filler before it. -/
def Declared.pieces (filler : Filler) : Declared → List (Filler × Piece)
  | single call => [(filler, .single call)]
  | row header inner call => [(filler, .loop header), (inner, .row call header.counter)]

/-- The pieces of declarations. -/
def allPieces (declarations : List (Filler × Declared)) : List (Filler × Piece) :=
  declarations.flatMap fun d => d.2.pieces d.1

/-- The text of pieces, each behind its filler, with filler at the end. -/
def pieceText (pieces : List (Filler × Piece)) (last : Filler) : List Char :=
  (pieces.flatMap fun p => p.1.chars ++ p.2.chars) ++ last.chars

theorem pieceText_nil (last : Filler) : pieceText [] last = last.chars := rfl

theorem pieceText_cons (p : Filler × Piece) (pieces : List (Filler × Piece)) (last : Filler) :
    pieceText (p :: pieces) last = p.1.chars ++ (p.2.chars ++ pieceText pieces last) := by
  simp [pieceText]

theorem text_eq_pieceText (declarations : List (Filler × Declared)) (last : Filler) :
    text declarations last = pieceText (allPieces declarations) last := by
  unfold text pieceText allPieces
  rw [List.flatMap_assoc]
  congr 2
  funext ⟨filler, declared⟩
  cases declared with
  | single call => simp [Declared.pieces, Declared.chars, Piece.chars]
  | row header inner call => simp [Declared.pieces, Declared.chars, Piece.chars]

/-- The places of pieces in their text, which begins at a given place. -/
def placed : Nat → List (Filler × Piece) → List (Nat × Piece)
  | _, [] => []
  | place, p :: pieces =>
    (place + p.1.chars.length, p.2) ::
      placed (place + p.1.chars.length + p.2.chars.length) pieces

theorem le_of_mem_placed {place : Nat} {pieces : List (Filler × Piece)} {x : Nat × Piece}
    (h : x ∈ placed place pieces) : place ≤ x.1 := by
  induction pieces generalizing place with
  | nil => cases h
  | cons p pieces ih =>
    rcases List.mem_cons.1 h with rfl | h
    · exact Nat.le_add_right _ _
    · have hlater := ih h
      omega

theorem Piece.length_pos (piece : Piece) : 0 < piece.chars.length := by
  obtain ⟨c, cs, hchars, -⟩ := piece.exists_cons []
  rw [hchars]
  exact Nat.succ_pos _

/-- The places come in order. -/
theorem pairwise_placed (place : Nat) (pieces : List (Filler × Piece)) :
    (placed place pieces).Pairwise fun x y => x.1 < y.1 := by
  induction pieces generalizing place with
  | nil => exact List.Pairwise.nil
  | cons p pieces ih =>
    refine List.Pairwise.cons ?_ (ih _)
    intro y hy
    have hlater := le_of_mem_placed hy
    have hpos := p.2.length_pos
    show place + p.1.chars.length < y.1
    omega

/-! ### Passes -/

/-- What a recogniser gives of each piece, and that it gives nothing else. -/
structure Pass {α : Type} (recognise : List Char → Option (α × List Char))
    (gives : Piece → Option α) : Prop where
  /-- It finds nothing where neither a call nor a loop begins. -/
  idle : ∀ cs, Idle cs → recognise cs = none
  /-- It takes a whole piece or nothing of it. -/
  piece : ∀ piece rest, recognise (piece.chars ++ rest) = (gives piece).map fun a => (a, rest)

theorem pass_plainCall? : Pass plainCall? Piece.probe? := by
  refine ⟨fun cs h => h.plainCall?, ?_⟩
  intro piece rest
  cases piece with
  | single call => exact call.plainCall?_append rest
  | loop header => rfl
  | row call counter => exact call.plainCall?_append counter rest

theorem pass_countedCall? : Pass countedCall? Piece.counted? := by
  refine ⟨fun cs h => h.countedCall?, ?_⟩
  intro piece rest
  cases piece with
  | single call => exact call.countedCall?_append rest
  | loop header => rfl
  | row call counter => exact call.countedCall?_append counter rest

theorem pass_loop? : Pass loop? Piece.loop? := by
  refine ⟨fun cs h => h.loop?, ?_⟩
  intro piece rest
  cases piece with
  | single call =>
    rw [Piece.chars, call.chars_eq_cons]
    rfl
  | loop header => exact header.loop?_append rest
  | row call counter =>
    rw [Piece.chars, call.chars_eq_cons]
    rfl

section

variable {α : Type} {recognise : List Char → Option (α × List Char)} {gives : Piece → Option α}

/-- What was found is passed over. -/
theorem occurrencesFrom_length (cs rest : List Char) (place : Nat) :
    occurrencesFrom recognise cs.length place (cs ++ rest) =
      occurrencesFrom recognise 0 (place + cs.length) rest := by
  induction cs generalizing place with
  | nil => rfl
  | cons c cs ih =>
    show occurrencesFrom recognise cs.length (place + 1) (cs ++ rest) = _
    rw [ih, List.length_cons, Nat.add_right_comm, Nat.add_assoc]

namespace Pass

/-- A quiet part holds nothing. -/
theorem occurrencesFrom_quiet (h : Pass recognise gives) {cs rest : List Char}
    (hquiet : Quiet cs rest) (place : Nat) :
    occurrencesFrom recognise 0 place (cs ++ rest) =
      occurrencesFrom recognise 0 (place + cs.length) rest := by
  induction cs generalizing place with
  | nil => rfl
  | cons c cs ih =>
    obtain ⟨hidle, hquiet⟩ := hquiet
    rw [List.cons_append, occurrencesFrom, h.idle _ hidle]
    show occurrencesFrom recognise 0 (place + 1) (cs ++ rest) = _
    rw [ih hquiet, List.length_cons, Nat.add_right_comm, Nat.add_assoc]

/-- A piece is found if it is of the kind that is looked for, and left behind. -/
theorem occurrencesFrom_piece (h : Pass recognise gives) (piece : Piece) (rest : List Char)
    (place : Nat) :
    occurrencesFrom recognise 0 place (piece.chars ++ rest) =
      ((gives piece).map fun a => (place, a)).toList ++
        occurrencesFrom recognise 0 (place + piece.chars.length) rest := by
  obtain ⟨c, cs, hchars, -, hquiet⟩ := piece.exists_cons rest
  have hplace : place + 1 + cs.length = place + (c :: cs).length := by
    rw [List.length_cons]
    omega
  have hpiece := h.piece piece rest
  rw [hchars, List.cons_append] at hpiece ⊢
  rw [occurrencesFrom, hpiece, ← hplace]
  cases gives piece with
  | none => exact h.occurrencesFrom_quiet hquiet (place + 1)
  | some a =>
    have hlength : (cs ++ rest).length - rest.length = cs.length := by
      rw [List.length_append]
      omega
    show (place, a) :: occurrencesFrom recognise ((cs ++ rest).length - rest.length) (place + 1)
      (cs ++ rest) = _
    rw [hlength, occurrencesFrom_length]
    rfl

theorem occurrencesFrom_eq (h : Pass recognise gives) (place : Nat)
    (pieces : List (Filler × Piece)) (last : Filler) :
    occurrencesFrom recognise 0 place (pieceText pieces last) =
      (placed place pieces).filterMap fun x => (gives x.2).map fun a => (x.1, a) := by
  induction pieces generalizing place with
  | nil =>
    have hlast := h.occurrencesFrom_quiet last.quiet_nil place
    rw [List.append_nil] at hlast
    rw [pieceText_nil, hlast]
    rfl
  | cons p pieces ih =>
    rw [pieceText_cons, h.occurrencesFrom_quiet (p.1.quiet_piece p.2 _), h.occurrencesFrom_piece,
      ih]
    show _ = ((place + p.1.chars.length, p.2) :: placed _ pieces).filterMap _
    rw [List.filterMap_cons]
    cases gives p.2 <;> rfl

/-- **A pass finds its own pieces where they stand, and nothing else.** -/
theorem occurrences_eq (h : Pass recognise gives) (pieces : List (Filler × Piece)) (last : Filler) :
    occurrences recognise (pieceText pieces last) =
      (placed 0 pieces).filterMap fun x => (gives x.2).map fun a => (x.1, a) :=
  h.occurrencesFrom_eq 0 pieces last

end Pass

end

/-! ### Source order -/

/-- The loops among pieces, with their places. -/
def loopsOf (pieces : List (Nat × Piece)) : List (Nat × Declaration.Loop) :=
  pieces.filterMap fun x => x.2.loop?.map fun loop => (x.1, loop)

/-- The probes of a call among pieces, with its place; the loops are those of the source. -/
def group? (loops : List (Nat × Declaration.Loop)) (x : Nat × Piece) : Option (Nat × List Probe) :=
  match x.2 with
  | .single call => some (x.1, [call.probe])
  | .loop _ => none
  | .row call counter =>
    (closestLoop? loops (String.ofList counter.chars) x.1).map fun loop =>
      (x.1, (call.counted counter).probes loop)

/-- What two passes over a list find together is what one pass finds that looks for both. -/
theorem filterMap_append_perm {α β : Type} {f g h : α → Option β} (l : List α)
    (hor : ∀ a, h a = (f a).or (g a)) (hone : ∀ a, f a = none ∨ g a = none) :
    (l.filterMap f ++ l.filterMap g).Perm (l.filterMap h) := by
  induction l with
  | nil => exact List.Perm.nil
  | cons a l ih =>
    rw [List.filterMap_cons, List.filterMap_cons, List.filterMap_cons, hor]
    rcases hone a with hf | hg
    · rw [hf]
      cases g a with
      | none => exact ih
      | some b => exact List.perm_middle.trans (ih.cons b)
    · rw [hg]
      cases f a with
      | none => exact ih
      | some b => exact ih.cons b

theorem fst_eq_of_group? {loops : List (Nat × Declaration.Loop)} {x : Nat × Piece}
    {group : Nat × List Probe} (h : group? loops x = some group) : group.1 = x.1 := by
  obtain ⟨place, piece⟩ := x
  cases piece with
  | single call =>
    rw [← Option.some.inj h]
  | loop header => cases h
  | row call counter =>
    obtain ⟨loop, -, rfl⟩ := Option.map_eq_some_iff.1 h
    rfl

theorem pairwise_filterMap_group? (loops : List (Nat × Declaration.Loop)) (place : Nat)
    (pieces : List (Filler × Piece)) :
    ((placed place pieces).filterMap (group? loops)).Pairwise fun x y => x.1 < y.1 := by
  apply (pairwise_placed place pieces).filterMap
  intro x y hxy group hgroup group' hgroup'
  rwa [fst_eq_of_group? hgroup, fst_eq_of_group? hgroup']

/-- The sort brings the calls of both kinds into the order of their pieces. -/
theorem groups_eq (pieces : List (Filler × Piece)) (last : Filler) :
    groups (pieceText pieces last) =
      (placed 0 pieces).filterMap (group? (loopsOf (placed 0 pieces))) := by
  have hplain : plainGroups (pieceText pieces last) =
      (placed 0 pieces).filterMap fun x => x.2.probe?.map fun p => (x.1, [p]) := by
    rw [plainGroups, pass_plainCall?.occurrences_eq, List.map_filterMap]
    congr 1
    funext x
    rw [Option.map_map]
    rfl
  have hcounted : countedGroups (pieceText pieces last) = (placed 0 pieces).filterMap fun x =>
      x.2.counted?.bind fun call =>
        (closestLoop? (loopsOf (placed 0 pieces)) call.counter x.1).map fun loop =>
          (x.1, call.probes loop) := by
    rw [countedGroups, pass_countedCall?.occurrences_eq, pass_loop?.occurrences_eq,
      List.filterMap_filterMap]
    congr 1
    funext x
    rw [Option.bind_map]
    rfl
  -- Each piece gives a group of one kind only, and in the order of the pieces there is nothing to
  -- sort.
  have hperm : (plainGroups (pieceText pieces last) ++ countedGroups (pieceText pieces last)).Perm
      ((placed 0 pieces).filterMap (group? (loopsOf (placed 0 pieces)))) := by
    rw [hplain, hcounted]
    apply filterMap_append_perm
    · intro x
      obtain ⟨place, piece⟩ := x
      cases piece <;> rfl
    · intro x
      obtain ⟨place, piece⟩ := x
      cases piece with
      | single call => exact Or.inr rfl
      | loop header => exact Or.inl rfl
      | row call counter => exact Or.inl rfl
  exact mergeSort_eq_of_perm hperm (pairwise_filterMap_group? _ 0 pieces)

theorem le_of_mem_loopsOf {place : Nat} {pieces : List (Filler × Piece)} {l : Nat × Declaration.Loop}
    (h : l ∈ loopsOf (placed place pieces)) : place ≤ l.1 := by
  obtain ⟨x, hx, hl⟩ := List.mem_filterMap.1 h
  obtain ⟨loop, -, rfl⟩ := Option.map_eq_some_iff.1 hl
  exact le_of_mem_placed hx

/-- Each declaration gives its own probes, whatever loops are before it. -/
theorem flatMap_group? (declarations : List (Filler × Declared)) (place : Nat)
    (before : List (Nat × Declaration.Loop)) :
    ((placed place (allPieces declarations)).filterMap
      (group? (before ++ loopsOf (placed place (allPieces declarations))))).flatMap (·.2) =
      declarations.flatMap fun d => d.2.probes := by
  induction declarations generalizing place before with
  | nil => rfl
  | cons d declarations ih =>
    obtain ⟨filler, declared⟩ := d
    cases declared with
    | single call =>
      rw [List.flatMap_cons, ← ih (place + filler.chars.length + call.chars.length) before]
      rfl
    | row header inner call =>
      -- Its own header is the closest one before the call: the headers before it begin earlier, and
      -- those behind it later.
      let start := place + filler.chars.length
      let inside := start + header.chars.length + inner.chars.length
      let rest := placed (inside + (call.chars header.counter).length) (allPieces declarations)
      have hstart : start < inside := by
        have hpos := (Piece.loop header).length_pos
        show start < start + header.chars.length + inner.chars.length
        have hchars : (Piece.loop header).chars = header.chars := rfl
        rw [hchars] at hpos
        omega
      have hafter : ∀ l ∈ loopsOf rest, inside ≤ l.1 := fun l hl =>
        Nat.le_trans (Nat.le_add_right _ _) (le_of_mem_loopsOf hl)
      have hgroup : group? (before ++ (start, header.loop) :: loopsOf rest)
          (inside, .row call header.counter) =
          some (inside, (Declared.row header inner call).probes) := by
        show (closestLoop? _ header.loop.counter inside).map _ = _
        rw [closestLoop?_eq before header.loop_counts hstart fun l hl _ _ => hafter l hl]
        rfl
      have hlater := ih (inside + (call.chars header.counter).length)
        (before ++ [(start, header.loop)])
      rw [List.append_assoc] at hlater
      show (List.filterMap (group? (before ++ (start, header.loop) :: loopsOf rest))
        ((start, .loop header) :: (inside, .row call header.counter) :: rest)).flatMap (·.2) = _
      rw [List.filterMap_cons_none rfl, List.filterMap_cons_some hgroup, List.flatMap_cons,
        List.flatMap_cons, ← hlater]
      rfl

/-! ### Long numerals -/

/-- What is wrong with the first of some numerals that has too many digits. -/
def firstOverlong? (numerals : List Numeral) : Option TooManyDigits :=
  (numerals.find? (digitLimit < ·.chars.length)).map fun numeral => .reading numeral.chars.length

theorem firstOverlong?_append (first others : List Numeral) :
    firstOverlong? (first ++ others) = (firstOverlong? first).or (firstOverlong? others) := by
  rw [firstOverlong?, List.find?_append, Option.map_or]
  rfl

theorem Header.overlong?_loop (header : Header) :
    header.loop.overlong? = firstOverlong? [header.first, header.bound] := by
  show header.first.spelled.overlong?.or header.bound.spelled.overlong? = _
  unfold Declaration.Numeral.overlong? Numeral.spelled firstOverlong?
  by_cases hfirst : digitLimit < header.first.chars.length
  · simp [hfirst, Nat.not_le.2 hfirst]
  · by_cases hbound : digitLimit < header.bound.chars.length
    · simp [hfirst, Nat.not_lt.1 hfirst, hbound, Nat.not_le.2 hbound]
    · simp [hfirst, Nat.not_lt.1 hfirst, hbound, Nat.not_lt.1 hbound]

/-- Every loop of a declaration counts, so its numerals are looked at. -/
theorem findSome?_loopsOf (declarations : List (Filler × Declared)) (place : Nat) :
    ((loopsOf (placed place (allPieces declarations))).findSome? fun l =>
      if l.2.counts then l.2.overlong? else none) =
      firstOverlong? (declarations.flatMap fun d => d.2.numerals) := by
  induction declarations generalizing place with
  | nil => rfl
  | cons d declarations ih =>
    obtain ⟨filler, declared⟩ := d
    rw [List.flatMap_cons, firstOverlong?_append]
    cases declared with
    | single call => exact ih _
    | row header inner call =>
      have hlater := ih (place + filler.chars.length + header.chars.length + inner.chars.length +
        (call.chars header.counter).length)
      show List.findSome? _ ((place + filler.chars.length, header.loop) :: loopsOf _) = _
      rw [List.findSome?_cons, if_pos header.loop_counts, header.overlong?_loop]
      show _ = (firstOverlong? [header.first, header.bound]).or _
      cases firstOverlong? [header.first, header.bound] with
      | some e => rfl
      | none => exact hlater

/-- The first numeral that is too long stops the reading. -/
theorem obstacle?_text (declarations : List (Filler × Declared)) (last : Filler) :
    obstacle? (text declarations last) =
      firstOverlong? (declarations.flatMap fun d => d.2.numerals) := by
  rw [obstacle?, text_eq_pieceText, pass_loop?.occurrences_eq]
  exact findSome?_loopsOf declarations 0

/-! ### A loop that is too long -/

/-- No blanks. -/
def noGap : Gap := ⟨[], by simp⟩

/-- One blank. -/
def oneGap : Gap := ⟨[' '], List.forall_mem_singleton.2 (by decide)⟩

/-- An identifier of one letter. -/
def letterName (c : Char) (h : startsIdentifier c = true) : Name := ⟨c, [], h, by simp⟩

/-- No filler. -/
def noFiller : Filler := ⟨[], by decide⟩

/-- The header of a loop from a number to two. -/
def headerFrom (first : Numeral) : Header where
  paren := ⟨oneGap, noGap⟩
  introducer := none
  counter := letterName 'i' (by decide)
  assign := ⟨oneGap, oneGap⟩
  first := first
  start := ⟨noGap, oneGap⟩
  less := ⟨oneGap, oneGap⟩
  bound := ⟨['2'], by simp, List.forall_mem_singleton.2 (by decide)⟩
  stop := ⟨noGap, oneGap⟩
  step := .posterior noGap
  ending := noGap

/-- A row of probes over such a loop. -/
def rowFrom (first : Numeral) : Declared :=
  .row (headerFrom first) ⟨[' ', 'd'], by decide⟩
    { opening := ⟨false, ⟨noGap, noGap⟩, .single, letterName 'p' (by decide)⟩
      plus := ⟨oneGap, oneGap⟩
      arguments :=
        ⟨[(⟨noGap, oneGap⟩, .bare ⟨.single, "int".toList, by decide, by decide, by decide⟩)],
          .gap noGap⟩ }

/-- A source with nothing but that row. -/
def rowText (first : Numeral) : List Char := text [(noFiller, rowFrom first)] noFiller

theorem rowText_eq (first : Numeral) : rowText first =
    "for (i = ".toList ++ first.chars ++ "; i < 2; i++) d.addProbe('p' + i, 'int')".toList := by
  have hloop : (headerFrom first).chars =
      "for (i = ".toList ++ (first.chars ++ "; i < 2; i++)".toList) := rfl
  show [] ++ ((headerFrom first).chars ++ " d.addProbe('p' + i, 'int')".toList) ++ [] ++ [] = _
  rw [hloop, List.append_nil, List.append_nil, List.nil_append, List.append_assoc,
    List.append_assoc, List.append_assoc]
  rfl

/-- Zero, written with one digit more than is read. -/
def longZero : Numeral where
  chars := List.replicate (digitLimit + 1) '0'
  nonempty := by simp
  digits c hc := by
    rw [List.eq_of_mem_replicate hc]
    decide

theorem obstacle?_longZero : obstacle? (rowText longZero) = some (.reading (digitLimit + 1)) := by
  have hlength : longZero.chars.length = digitLimit + 1 := List.length_replicate
  rw [rowText, obstacle?_text]
  show firstOverlong? [longZero, (headerFrom longZero).bound] = _
  rw [firstOverlong?, List.find?_cons, hlength, decide_eq_true (Nat.lt_succ_self _),
    Option.map_some, hlength]

end ProbeKit.Rendering

namespace ProbeKit

open Rendering Text

/-- **The probes that a rendered source declares are those of its declarations, in order and with
repetitions.**  They are not read if a numeral of a loop has too many digits, and then the first
such numeral is told. -/
theorem declaredProbes_text (declarations : List (Filler × Declared)) (last : Filler) :
    declaredProbes (String.ofList (text declarations last)) =
      match (declarations.flatMap fun d => d.2.numerals).find? (digitLimit < ·.chars.length) with
      | some numeral => .error (.reading numeral.chars.length)
      | none => .ok (declarations.flatMap fun d => d.2.probes) := by
  have hgroups := flatMap_group? declarations 0 []
  unfold declaredProbes
  rw [String.toList_ofList, obstacle?_text, firstOverlong?]
  cases (declarations.flatMap fun d => d.2.numerals).find? (digitLimit < ·.chars.length) with
  | some numeral => rfl
  | none =>
    rw [text_eq_pieceText, groups_eq]
    exact congrArg Except.ok hgroups

example : declaredProbes "for (i = 0; i < 2; i++) p.addProbe('a' + i, ['int', 'float',]);" =
    .ok [⟨"a0", ["int"]⟩, ⟨"a1", ["int"]⟩] := by decide +kernel

theorem declaredProbes_longZero :
    declaredProbes (String.ofList (rowText longZero)) = .error (.reading (digitLimit + 1)) := by
  rw [declaredProbes, String.toList_ofList, obstacle?_longZero]

theorem noReturn_longZero : '\r' ∉ (String.ofList (rowText longZero)).toList := by
  rw [String.toList_ofList, rowText_eq, List.mem_append, List.mem_append]
  rintro ((hmem | hmem) | hmem)
  · exact absurd hmem (by decide)
  · exact absurd (List.eq_of_mem_replicate hmem) (by decide)
  · exact absurd hmem (by decide)

/-- **A rendered source need not be read**: the two probes of a row are lost where the first value
of its loop is zero, written with one digit too many. -/
theorem not_declaredProbes_text :
    ¬ ∀ (declarations : List (Filler × Declared)) (last : Filler),
      declaredProbes (String.ofList (text declarations last)) =
        .ok (declarations.flatMap fun d => d.2.probes) := by
  intro hall
  have hread := hall [(noFiller, rowFrom longZero)] noFiller
  rw [show text [(noFiller, rowFrom longZero)] noFiller = rowText longZero from rfl,
    declaredProbes_longZero] at hread
  cases hread

end ProbeKit
