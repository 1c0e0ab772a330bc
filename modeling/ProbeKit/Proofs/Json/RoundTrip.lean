import ProbeKit.Proofs.Json.Fitting
import ProbeKit.Proofs.Json.Tokens
import ProbeKit.Proofs.Results
import ProbeKit.Text.Encoding

/-!
# Reading what was written

A document is read back as the value that it was written for (`read?_document`), in either set of
characters.  The value must be `Legible`: its objects hold each name once, as every object that was
read does, and its floating-point numbers are read back each on its own.  And it must fit into the
levels that can be read.
-/

namespace ProbeKit.Json

open Number Text

/-! ### Values that can be read back -/

/-- A floating-point number that is read back. -/
def Rereads (x : Binary64) : Prop :=
  ∀ levels fuel rest, Stops rest →
    readValue levels (fuel + 1) (floatChars x ++ rest) = .ok (.float x, rest)

mutual

/-- A value whose objects hold each name once and whose floating-point numbers are read back. -/
def Legible : Json → Prop
  | .float x => Rereads x
  | .arr items => LegibleItems items
  | .obj members => (members.map (·.1)).Nodup ∧ LegibleMembers members
  | .null | .bool _ | .int _ | .str _ => True

/-- All of some values are legible. -/
def LegibleItems : List Json → Prop
  | [] => True
  | item :: items => Legible item ∧ LegibleItems items

/-- All values of some members are legible. -/
def LegibleMembers : List (String × Json) → Prop
  | [] => True
  | (_, value) :: members => Legible value ∧ LegibleMembers members

end

theorem legibleItems_iff {items : List Json} : LegibleItems items ↔ ∀ j ∈ items, Legible j := by
  induction items with
  | nil => simp [LegibleItems]
  | cons j rest ih => simp [LegibleItems, ih]

theorem legible_str (s : String) : Legible (.str s) := trivial

/-! ### Members -/

section
variable {τ : Type} [DecidableEq τ]

theorem setMember_of_not_mem {name : τ} {members : List (τ × Json τ)}
    (h : name ∉ members.map (·.1)) (value : Json τ) :
    setMember name value members = members ++ [(name, value)] := by
  induction members with
  | nil => rfl
  | cons m rest ih =>
    obtain ⟨n, v⟩ := m
    rw [List.map_cons, List.mem_cons, not_or] at h
    rw [setMember, if_neg (by simpa using fun e => h.1 e.symm), ih h.2]
    rfl

theorem foldl_setMember {acc members : List (τ × Json τ)}
    (h : ((acc ++ members).map (·.1)).Nodup) :
    members.foldl (fun acc m => setMember m.1 m.2 acc) acc = acc ++ members := by
  induction members generalizing acc with
  | nil => rw [List.foldl_nil, List.append_nil]
  | cons m rest ih =>
    have hm : m.1 ∉ acc.map (·.1) := by
      rw [List.map_append, List.map_cons, List.nodup_append] at h
      exact fun hmem => h.2.2 _ hmem _ List.mem_cons_self rfl
    rw [List.foldl_cons, setMember_of_not_mem hm, ih, List.append_assoc]
    · rfl
    · rwa [List.append_assoc]

/-- Members with different names stay as they are. -/
theorem ofMembers_of_nodup {members : List (τ × Json τ)} (h : (members.map (·.1)).Nodup) :
    ofMembers members = members :=
  @foldl_setMember τ _ [] members h

end

/-! ### The first character -/

/-- Whether a value may begin with a character. -/
def begins (c : Char) : Bool :=
  c.isDigit || ['"', '{', '[', 'n', 't', 'f', 'N', 'I', '-'].contains c

/-- No value begins with any other character. -/
theorem readValue_of_not_begins {c : Char} (h : begins c = false) (levels fuel : Nat)
    (rest : List Char) : readValue levels (fuel + 1) (c :: rest) = refuse .value (c :: rest) := by
  obtain ⟨hdigit, hmem⟩ : c.isDigit = false ∧ c ∉ ['"', '{', '[', 'n', 't', 'f', 'N', 'I', '-'] := by
    simpa [begins] using h
  have hwhole : wholeDigits (c :: rest) = ([], c :: rest) := by
    unfold wholeDigits
    split
    · rename_i heq
      rw [(List.cons.inj heq).1] at hdigit
      cases hdigit
    · rw [List.takeWhile_cons_of_neg (by simp [hdigit]),
        List.dropWhile_cons_of_neg (by simp [hdigit])]
  rw [readValue]
  · unfold readNumber
    split
    · rename_i heq
      obtain ⟨rfl, -⟩ := List.cons.inj heq
      exact absurd hmem (by decide)
    rw [readUnsigned, hwhole]
    rfl
  -- The other ways to begin a value are none of these.
  all_goals
    intro more heq
    obtain ⟨rfl, -⟩ := List.cons.inj heq
    exact absurd hmem (by decide)

theorem begins_of_readValue {levels fuel : Nat} {cs : List Char} {read : Raw × List Char}
    (h : readValue levels fuel cs = .ok read) : ∃ c rest, cs = c :: rest ∧ begins c = true := by
  cases fuel with
  | zero =>
    rw [readValue_zero] at h
    cases h
  | succ fuel =>
    cases cs with
    | nil => exact nomatch h
    | cons c rest =>
      cases hc : begins c with
      | true => exact ⟨c, rest, rfl, hc⟩
      | false =>
        rw [readValue_of_not_begins hc] at h
        cases h

theorem not_isSpace_of_begins {c : Char} (h : begins c = true) : isSpace c = false := by
  cases hc : isSpace c with
  | false => rfl
  | true =>
    simp only [isSpace, Bool.or_eq_true, beq_iff_eq] at hc
    rcases hc with ((rfl | rfl) | rfl) | rfl <;> revert h <;> decide

/-! ### Space -/

theorem skipSpace_cons {c : Char} (h : isSpace c = false) (cs : List Char) :
    skipSpace (c :: cs) = c :: cs :=
  List.dropWhile_cons_of_neg (by simp [h])

theorem skipSpace_blank (cs : List Char) : skipSpace (' ' :: cs) = skipSpace cs :=
  List.dropWhile_cons_of_pos rfl

theorem skipSpace_newline (depth : Nat) (cs : List Char) :
    skipSpace (newline depth ++ cs) = skipSpace cs := by
  have hblanks (n : Nat) : skipSpace (List.replicate n ' ' ++ cs) = skipSpace cs := by
    induction n with
    | zero => rfl
    | succ n ih => rw [List.replicate_succ, List.cons_append, skipSpace_blank, ih]
  rw [newline, List.cons_append]
  exact (List.dropWhile_cons_of_pos rfl).trans (hblanks _)

/-- Before a value there is no space. -/
theorem skipSpace_of_readValue {levels fuel : Nat} {cs : List Char} {read : Raw × List Char}
    (h : readValue levels fuel cs = .ok read) : skipSpace cs = cs := by
  obtain ⟨c, rest, rfl, hc⟩ := begins_of_readValue h
  exact skipSpace_cons (not_isSpace_of_begins hc) rest

theorem stops_newline (depth : Nat) (cs : List Char) : Stops (newline depth ++ cs) :=
  stops_cons (by decide)

/-! ### Scalars -/

theorem textChars_append (charset : Charset) (s : String) (rest : List Char) :
    textChars charset s ++ rest = '"' :: (s.toList.flatMap (textChar charset) ++ '"' :: rest) := by
  simp [textChars]

theorem readValue_textChars (charset : Charset) (s : String) (levels fuel : Nat)
    (rest : List Char) :
    readValue levels (fuel + 1) (textChars charset s ++ rest) = .ok (.str (letters s), rest) := by
  rw [textChars_append, readValue, readText_textChars]
  rfl

/-- What begins with a digit is a number. -/
theorem readValue_of_isDigit {c : Char} (hc : c.isDigit) (levels fuel : Nat) (cs : List Char) :
    readValue levels (fuel + 1) (c :: cs) = readNumber (c :: cs) := by
  rw [readValue]
  all_goals
    intro more heq
    rw [(List.cons.inj heq).1] at hc
    cases hc

/-- After a sign and a digit there is no word for an infinity. -/
theorem readValue_of_sign {c : Char} (hc : c.isDigit) (levels fuel : Nat) (cs : List Char) :
    readValue levels (fuel + 1) ('-' :: c :: cs) = readNumber ('-' :: c :: cs) := by
  rw [readValue]
  all_goals
    intro more heq
    simp only [List.cons.injEq] at heq
    first
      | exact absurd heq.1 (by decide)
      | (rw [heq.2.1] at hc
         cases hc)

theorem readValue_intChars {n : Int} (hn : overlong n = false) (levels fuel : Nat)
    {rest : List Char} (hrest : Stops rest) :
    readValue levels (fuel + 1) (intChars n ++ rest) = .ok (.int n, rest) := by
  obtain ⟨c, ds, hdigits, hc⟩ : ∃ c ds, Nat.toDigits 10 n.natAbs = c :: ds ∧ c.isDigit := by
    rcases hd : Nat.toDigits 10 n.natAbs with _ | ⟨d, ds⟩
    · exact absurd hd Nat.toDigits_ne_nil
    · have hmem : d ∈ Nat.toDigits 10 n.natAbs := by
        rw [hd]
        exact List.mem_cons_self
      exact ⟨d, ds, rfl, isDigit_of_mem_toDigits hmem⟩
  rw [← readNumber_intChars hn hrest, intChars, hdigits]
  split
  · exact readValue_of_sign hc levels fuel _
  · exact readValue_of_isDigit hc levels fuel _

/-! ### Items and members -/

section
variable {levels fuel : Nat} {cs rest more : List Char} {item value : Raw}

theorem readItems_last (h : readValue levels fuel cs = .ok (item, rest))
    (hspace : skipSpace rest = ']' :: more) :
    readItems levels (fuel + 1) cs = .ok ([item], more) := by
  rw [readItems, h]
  dsimp only [bind, Except.bind]
  rw [hspace]
  rfl

theorem readItems_next {items : List Raw} {last : List Char}
    (h : readValue levels fuel cs = .ok (item, rest)) (hspace : skipSpace rest = ',' :: more)
    (hnext : readItems levels fuel (skipSpace more) = .ok (items, last)) :
    readItems levels (fuel + 1) cs = .ok (item :: items, last) := by
  rw [readItems, h]
  dsimp only [bind, Except.bind]
  simp only [hspace, hnext]

theorem readMembers_last {charset : Charset} {name : String}
    (h : readValue levels fuel cs = .ok (value, rest)) (hspace : skipSpace rest = '}' :: more) :
    readMembers levels (fuel + 1) (textChars charset name ++ (':' :: ' ' :: cs)) =
      .ok ([(letters name, value)], more) := by
  have hcolon : skipSpace (':' :: ' ' :: cs) = ':' :: ' ' :: cs := skipSpace_cons (by decide) _
  rw [textChars_append, readMembers, readText_textChars]
  dsimp only [bind, Except.bind]
  simp only [hcolon, skipSpace_blank, skipSpace_of_readValue h, h, hspace]

theorem readMembers_next {charset : Charset} {name : String} {members : List (List Letter × Raw)}
    {last : List Char} (h : readValue levels fuel cs = .ok (value, rest))
    (hspace : skipSpace rest = ',' :: more)
    (hnext : readMembers levels fuel (skipSpace more) = .ok (members, last)) :
    readMembers levels (fuel + 1) (textChars charset name ++ (':' :: ' ' :: cs)) =
      .ok ((letters name, value) :: members, last) := by
  have hcolon : skipSpace (':' :: ' ' :: cs) = ':' :: ' ' :: cs := skipSpace_cons (by decide) _
  rw [textChars_append, readMembers, readText_textChars]
  dsimp only [bind, Except.bind]
  simp only [hcolon, skipSpace_blank, skipSpace_of_readValue h, h, hspace, hnext]

theorem readValue_arr {items : List Raw} {c : Char} (hc : c ≠ ']')
    (hspace : skipSpace cs = c :: more) (h : readItems levels fuel (c :: more) = .ok (items, rest)) :
    readValue (levels + 1) (fuel + 1) ('[' :: cs) = .ok (.arr items, rest) := by
  rw [readValue, hspace]
  split
  · rename_i heq
    exact absurd (List.cons.inj heq).1 hc
  · dsimp only [descend]
    rw [h]
    rfl

theorem readValue_obj {members : List (List Letter × Raw)} {c : Char} (hc : c ≠ '}')
    (hspace : skipSpace cs = c :: more)
    (h : readMembers levels fuel (c :: more) = .ok (members, rest)) :
    readValue (levels + 1) (fuel + 1) ('{' :: cs) = .ok (.obj (ofMembers members), rest) := by
  rw [readValue, hspace]
  split
  · rename_i heq
    exact absurd (List.cons.inj heq).1 hc
  · dsimp only [descend]
    rw [h]
    rfl

end

theorem begins_of_readItems {levels fuel : Nat} {cs : List Char} {read : List Raw × List Char}
    (h : readItems levels fuel cs = .ok read) : ∃ c rest, cs = c :: rest ∧ begins c = true := by
  cases fuel with
  | zero =>
    rw [readItems] at h
    cases h
  | succ fuel =>
    rw [readItems] at h
    obtain ⟨first, hvalue, -⟩ := bind_eq_ok.1 h
    exact begins_of_readValue hvalue

/-! ### Values -/

/-- With some fuel every value that fits and is short enough is read from what is written for it. -/
def ReadsValues (charset : Charset) (fuel : Nat) : Prop :=
  ∀ (j : Json) (levels depth : Nat) (rest : List Char), j.Legible → j.Fits levels →
    2 * (layout charset depth j).length + 1 ≤ fuel → Stops rest →
      readValue levels fuel (layout charset depth j ++ rest) = .ok (j.map letters, rest)

/-- With some fuel items that fit and are short enough are read up to the closing bracket. -/
def ReadsItems (charset : Charset) (fuel : Nat) : Prop :=
  ∀ (item : Json) (items : List Json) (levels depth outer : Nat) (rest : List Char), item.Legible →
    LegibleItems items → (∀ j ∈ item :: items, j.Fits levels) →
    2 * ((layout charset depth item).length + (layoutItems charset depth items).length) + 2 ≤ fuel →
      readItems levels fuel (layout charset depth item ++ (layoutItems charset depth items ++
        (newline outer ++ ']' :: rest))) = .ok (mapItems letters (item :: items), rest)

/-- With some fuel members that fit and are short enough are read up to the closing bracket. -/
def ReadsMembers (charset : Charset) (fuel : Nat) : Prop :=
  ∀ (name : String) (value : Json) (members : List (String × Json)) (levels depth outer : Nat)
    (rest : List Char), value.Legible → LegibleMembers members →
    (∀ m ∈ (name, value) :: members, m.2.Fits levels) →
    2 * ((layout charset depth value).length + (layoutMembers charset depth members).length) + 2 ≤
        fuel →
      readMembers levels fuel (textChars charset name ++ (':' :: ' ' :: (layout charset depth value ++
        (layoutMembers charset depth members ++ (newline outer ++ '}' :: rest))))) =
        .ok (mapMembers letters ((name, value) :: members), rest)

section
variable {charset : Charset} {fuel : Nat}

theorem readsItems_succ (hvalues : ReadsValues charset fuel) (hitems : ReadsItems charset fuel) :
    ReadsItems charset (fuel + 1) := by
  intro item items levels depth outer rest hitem hlegible hfits hfuel
  obtain ⟨hfirst, hothers⟩ := List.forall_mem_cons.1 hfits
  cases items with
  | nil =>
    rw [layoutItems, List.nil_append]
    rw [layoutItems] at hfuel
    refine readItems_last (hvalues _ _ _ _ hitem hfirst (by omega) (stops_newline _ _)) ?_
    rw [skipSpace_newline, skipSpace_cons (by decide)]
  | cons next items =>
    rw [layoutItems] at hfuel ⊢
    simp only [List.length_cons, List.length_append] at hfuel
    have hnext := hitems next items levels depth outer rest hlegible.1 hlegible.2 hothers (by omega)
    simp only [List.cons_append, List.append_assoc]
    refine readItems_next (hvalues _ _ _ _ hitem hfirst (by omega) (stops_cons (by decide)))
      (skipSpace_cons (by decide) _) ?_
    -- The next item begins behind the indentation.
    obtain ⟨c, more, heq, hc⟩ := begins_of_readItems hnext
    rw [skipSpace_newline, heq, skipSpace_cons (not_isSpace_of_begins hc), ← heq]
    exact hnext

theorem readsMembers_succ (hvalues : ReadsValues charset fuel)
    (hmembers : ReadsMembers charset fuel) : ReadsMembers charset (fuel + 1) := by
  intro name value members levels depth outer rest hvalue hlegible hfits hfuel
  obtain ⟨hfirst, hothers⟩ := List.forall_mem_cons.1 hfits
  cases members with
  | nil =>
    rw [layoutMembers, List.nil_append]
    rw [layoutMembers] at hfuel
    refine readMembers_last (hvalues _ _ _ _ hvalue hfirst (by omega) (stops_newline _ _)) ?_
    rw [skipSpace_newline, skipSpace_cons (by decide)]
  | cons next members =>
    obtain ⟨other, next⟩ := next
    rw [layoutMembers] at hfuel ⊢
    simp only [List.length_cons, List.length_append] at hfuel
    have hnext := hmembers other next members levels depth outer rest hlegible.1 hlegible.2 hothers
      (by omega)
    simp only [List.cons_append, List.append_assoc]
    refine readMembers_next (hvalues _ _ _ _ hvalue hfirst (by omega) (stops_cons (by decide)))
      (skipSpace_cons (by decide) _) ?_
    rw [skipSpace_newline, textChars_append, skipSpace_cons (by decide), ← textChars_append]
    exact hnext

/-- The names of members differ in letters as they differ as texts. -/
theorem nodup_mapMembers {members : List (String × Json)} (h : (members.map (·.1)).Nodup) :
    ((mapMembers letters members).map (·.1)).Nodup := by
  rw [mapMembers_eq, List.map_map]
  exact List.pairwise_map.2 ((List.pairwise_map.1 h).imp fun hne heq => hne (letters_inj heq))

theorem readsValues_succ (hitems : ReadsItems charset fuel) (hmembers : ReadsMembers charset fuel) :
    ReadsValues charset (fuel + 1) := by
  intro j levels depth rest hj hfits hfuel hrest
  cases j with
  | null => rfl
  | bool b => cases b <;> rfl
  | int n => exact readValue_intChars (fits_int_iff.1 hfits) levels fuel hrest
  | float x => exact hj levels fuel rest hrest
  | str s => exact readValue_textChars charset s levels fuel rest
  | arr items =>
    -- There is a level left, for the array has one of its own.
    cases levels with
    | zero => exact absurd hfits (not_fits_arr_zero items)
    | succ levels =>
    have hfits := fits_arr_iff.1 hfits
    cases items with
    | nil => rfl
    | cons item items =>
      rw [layout] at hfuel ⊢
      simp only [List.length_cons, List.length_append, List.length_nil] at hfuel
      have hread := hitems item items levels (depth + 1) depth rest hj.1 hj.2 hfits (by omega)
      simp only [List.cons_append, List.append_assoc, List.nil_append]
      obtain ⟨c, more, heq, hc⟩ := begins_of_readItems hread
      rw [heq] at hread ⊢
      refine readValue_arr ?_ ?_ hread
      · rintro rfl
        cases hc
      · rw [skipSpace_newline, skipSpace_cons (not_isSpace_of_begins hc)]
  | obj members =>
    cases levels with
    | zero => exact absurd hfits (not_fits_obj_zero members)
    | succ levels =>
    have hfits := fits_obj_iff.1 hfits
    cases members with
    | nil => rfl
    | cons m members =>
      obtain ⟨name, value⟩ := m
      rw [layout] at hfuel ⊢
      simp only [List.length_cons, List.length_append, List.length_nil] at hfuel
      have hread := hmembers name value members levels (depth + 1) depth rest hj.2.1 hj.2.2 hfits
        (by omega)
      simp only [List.cons_append, List.append_assoc, List.nil_append]
      rw [textChars_append] at hread ⊢
      have hobj := readValue_obj (by decide)
        ((skipSpace_newline (depth + 1) _).trans (skipSpace_cons (by decide) _)) hread
      rwa [ofMembers_of_nodup (nodup_mapMembers hj.1)] at hobj

end

theorem reads_layout (charset : Charset) (fuel : Nat) :
    ReadsValues charset fuel ∧ ReadsItems charset fuel ∧ ReadsMembers charset fuel := by
  induction fuel with
  | zero =>
    refine ⟨?_, ?_, ?_⟩ <;> intro <;> intros <;> omega
  | succ fuel ih =>
    obtain ⟨hvalues, hitems, hmembers⟩ := ih
    exact ⟨readsValues_succ hitems hmembers, readsItems_succ hvalues hitems,
      readsMembers_succ hvalues hmembers⟩

/-! ### Documents -/

section
variable {room : Room}

/-- A document is read letter by letter. -/
theorem read_document (charset : Charset) {j : Json} (hj : j.Legible)
    (hfits : j.Fits room.reading) : read room (document charset j) = .ok (j.map letters) := by
  have hread := (reads_layout charset (2 * (layout charset 0 j ++ ['\n']).length + 2)).1 j
    room.reading 0 ['\n'] hj hfits (by rw [List.length_append]; omega) (stops_cons (by decide))
  obtain ⟨c, more, heq, hc⟩ := begins_of_readValue hread
  have hchars : readChars? room.reading (layout charset 0 j ++ ['\n']) = .ok (j.map letters) := by
    have hmark : ((layout charset 0 j ++ ['\n']).head? == some (Char.ofNat 0xFEFF)) = false := by
      rw [heq, List.head?_cons, beq_eq_false_iff_ne]
      intro h
      obtain rfl := Option.some.inj h
      revert hc
      decide
    rw [readChars?, hmark, if_neg Bool.false_ne_true, skipSpace_of_readValue hread, hread]
    rfl
  rw [read, document, String.toList_ofList, hchars]

/-- **A document of a value that fits is read back.** -/
theorem read?_document (charset : Charset) {j : Json} (hj : j.Legible)
    (hfits : j.Fits room.reading) : read? room (document charset j) = some j := by
  rw [read?, read_document charset hj hfits]
  exact whole?_map_letters j

theorem exists_of_readChars? {levels : Nat} {cs : List Char} {j : Raw}
    (h : readChars? levels cs = .ok j) :
    ∃ more, readValue levels (2 * cs.length + 2) (skipSpace cs) = .ok (j, more) ∧
      skipSpace more = [] := by
  unfold readChars? at h
  split at h
  · cases h
  obtain ⟨⟨value, more⟩, hread, h⟩ := bind_eq_ok.1 h
  dsimp only at h
  split at h
  · rename_i hspace
    cases h
    exact ⟨more, hread, hspace⟩
  · cases h

theorem readChars?_of_read {s : String} {j : Raw} (h : read room s = .ok j) :
    readChars? room.reading s.toList = .ok j := by
  unfold read at h
  split at h
  · rename_i hread
    cases h
    exact hread
  all_goals cases h

end

/-! ### Lines -/

theorem ne_of_mem_hexDigits {width n : Nat} {c : Char} (h : c ∈ hexDigits width n) : c ≠ '\r' := by
  have hdigit : ∀ d < 16, hexDigit d ≠ '\r' := by decide
  obtain ⟨d, hd, rfl⟩ := mem_hexDigits h
  exact hdigit d hd

theorem not_mem_textChar (charset : Charset) (c : Char) : '\r' ∉ textChar charset c := by
  have hunit (n : Nat) : '\r' ∉ unitEscape n := by
    intro h
    simp only [unitEscape, List.mem_cons] at h
    rcases h with h | h | h
    · cases h
    · cases h
    · exact ne_of_mem_hexDigits h rfl
  have hspells := spells_textChar charset c
  generalize textChar charset c = text at hspells ⊢
  cases hspells with
  | @escape letter _ h =>
    have hletter : letter ≠ '\r' := by
      rintro rfl
      cases h
    simpa using hletter.symm
  | plain _ _ h =>
    rw [List.mem_singleton]
    rintro rfl
    revert h
    decide
  | unit => exact hunit _
  | pair =>
    rw [List.mem_append, not_or]
    exact ⟨hunit _, hunit _⟩

theorem not_mem_textChars (charset : Charset) (s : String) : '\r' ∉ textChars charset s := by
  rw [textChars, List.mem_cons, List.mem_append, List.mem_flatMap]
  rintro (h | ⟨c, -, h⟩ | h)
  · cases h
  · exact not_mem_textChar charset c h
  · revert h
    decide

theorem not_mem_toDigits (n : Nat) : '\r' ∉ Nat.toDigits 10 n := by
  intro h
  have := isDigit_of_mem_toDigits h
  cases this

theorem not_mem_intChars (n : Int) : '\r' ∉ intChars n := by
  unfold intChars
  split
  · rw [List.mem_cons, not_or]
    exact ⟨by decide, not_mem_toDigits _⟩
  · exact not_mem_toDigits _

/-! ### The characters of finite numbers -/

/-- Whether a finite number may hold a character. -/
def isNumeric (c : Char) : Bool := c.isDigit || ['-', '+', '.', 'e'].contains c

theorem isNumeric_of_mem_toDigits {n : Nat} {c : Char} (h : c ∈ Nat.toDigits 10 n) :
    isNumeric c = true := by
  rw [isNumeric, isDigit_of_mem_toDigits h]
  rfl

theorem isNumeric_of_mem_significantDigits {n : Nat} {c : Char} (h : c ∈ significantDigits n) :
    isNumeric c = true := by
  rw [significantDigits, List.mem_reverse] at h
  exact isNumeric_of_mem_toDigits (List.mem_reverse.1 ((List.dropWhile_sublist _).mem h))

theorem isNumeric_of_mem_exponentText {k : Int} {c : Char} (h : c ∈ exponentText k) :
    isNumeric c = true := by
  have hdigits : ∀ c ∈ (if (Nat.toDigits 10 k.natAbs).length < 2 then
      '0' :: Nat.toDigits 10 k.natAbs else Nat.toDigits 10 k.natAbs), isNumeric c = true := by
    intro c hc
    split at hc
    · rcases List.mem_cons.1 hc with rfl | hc
      · rfl
      · exact isNumeric_of_mem_toDigits hc
    · exact isNumeric_of_mem_toDigits hc
  rcases List.mem_cons.1 h with rfl | h
  · split <;> rfl
  · exact hdigits c h

section
variable {digits : List Char} (hdigits : ∀ c ∈ digits, isNumeric c = true)
include hdigits

theorem isNumeric_of_mem_positional {k : Int} {c : Char} (h : c ∈ positional digits k) :
    isNumeric c = true := by
  have hzeros (n : Nat) : ∀ c ∈ List.replicate n '0', isNumeric c = true := by
    intro c hc
    rw [List.eq_of_mem_replicate hc]
    rfl
  unfold positional at h
  split at h
  · simp only [List.mem_cons, List.mem_append] at h
    rcases h with rfl | rfl | h | h
    · rfl
    · rfl
    · exact hzeros _ c h
    · exact hdigits c h
  · simp only [List.mem_cons, List.mem_append] at h
    rcases h with (h | h) | rfl | h
    · exact hdigits c (List.mem_of_mem_take h)
    · exact hzeros _ c h
    · rfl
    · split at h
      · rw [List.mem_singleton.1 h]
        rfl
      · exact hdigits c (List.mem_of_mem_drop h)

theorem isNumeric_of_mem_scientific {k : Int} {c : Char} (h : c ∈ scientific digits k) :
    isNumeric c = true := by
  unfold scientific at h
  split at h
  · cases h
  · simp only [List.mem_cons] at h
    rcases h with rfl | rfl | h
    · exact hdigits c List.mem_cons_self
    · rfl
    · exact isNumeric_of_mem_exponentText h
  · simp only [List.mem_cons, List.mem_append] at h
    rcases h with rfl | rfl | h | rfl | h
    · exact hdigits c List.mem_cons_self
    · rfl
    · exact hdigits c (List.mem_cons_of_mem _ h)
    · rfl
    · exact isNumeric_of_mem_exponentText h

end

theorem isNumeric_of_mem_toChars {negative : Bool} {m : Nat} {e : Int} {h : Storable m e} {c : Char}
    (hc : c ∈ (Binary64.finite negative m e h).toChars) : isNumeric c = true := by
  have hsign : ∀ c ∈ (if negative then ['-'] else []), isNumeric c = true := by
    intro c hc
    split at hc
    · rw [List.mem_singleton.1 hc]
      rfl
    · cases hc
  unfold Binary64.toChars at hc
  dsimp only at hc
  split at hc
  · rcases List.mem_append.1 hc with hc | hc
    · exact hsign c hc
    · change c ∈ ['0', '.', '0'] at hc
      simp only [List.mem_cons, List.not_mem_nil, or_false] at hc
      rcases hc with rfl | rfl | rfl <;> rfl
  · have hdigits : ∀ c ∈ (shortestDigits m e).1, isNumeric c = true :=
      fun c hc => isNumeric_of_mem_significantDigits hc
    rcases List.mem_append.1 hc with hc | hc
    · exact hsign c hc
    · split at hc
      · exact isNumeric_of_mem_positional hdigits hc
      · exact isNumeric_of_mem_scientific hdigits hc

theorem not_mem_floatChars (x : Binary64) : '\r' ∉ floatChars x := by
  cases x with
  | nan => decide
  | infinite negative => cases negative <;> decide
  | finite negative m e h =>
    intro hmem
    cases isNumeric_of_mem_toChars (h := h) hmem

/-! ### Lines of documents -/

theorem not_mem_newline (depth : Nat) : '\r' ∉ newline depth := by
  simp [newline]

mutual

theorem not_mem_layout (charset : Charset) : ∀ (depth : Nat) (j : Json),
    '\r' ∉ layout charset depth j
  | _, .null => show '\r' ∉ "null".toList by decide
  | _, .bool true => show '\r' ∉ "true".toList by decide
  | _, .bool false => show '\r' ∉ "false".toList by decide
  | _, .int n => not_mem_intChars n
  | _, .float x => not_mem_floatChars x
  | _, .str s => not_mem_textChars charset s
  | _, .arr [] => by simp [layout]
  | depth, .arr (item :: items) => by
    simp [layout, not_mem_newline, not_mem_layout charset (depth + 1) item,
      not_mem_layoutItems charset (depth + 1) items]
  | _, .obj [] => by simp [layout]
  | depth, .obj ((name, value) :: members) => by
    simp [layout, not_mem_newline, not_mem_textChars, not_mem_layout charset (depth + 1) value,
      not_mem_layoutMembers charset (depth + 1) members]

theorem not_mem_layoutItems (charset : Charset) : ∀ (depth : Nat) (items : List Json),
    '\r' ∉ layoutItems charset depth items
  | _, [] => by simp [layoutItems]
  | depth, item :: items => by
    simp [layoutItems, not_mem_newline, not_mem_layout charset depth item,
      not_mem_layoutItems charset depth items]

theorem not_mem_layoutMembers (charset : Charset) : ∀ (depth : Nat) (members : List (String × Json)),
    '\r' ∉ layoutMembers charset depth members
  | _, [] => by simp [layoutMembers]
  | depth, (name, value) :: members => by
    simp [layoutMembers, not_mem_newline, not_mem_textChars, not_mem_layout charset depth value,
      not_mem_layoutMembers charset depth members]

end

/-- The lines of a document end with line feeds only. -/
theorem not_mem_document (charset : Charset) (j : Json) : '\r' ∉ (document charset j).toList := by
  rw [document, String.toList_ofList, List.mem_append, not_or]
  exact ⟨not_mem_layout charset 0 j, by decide⟩

/-- **A document is read back from the bytes of its file.** -/
theorem read_encode_document {room : Room} (charset : Charset) {j : Json} (hj : j.Legible)
    (hfits : j.Fits room.reading) :
    (readText? (encode (document charset j))).map (read room) = some (.ok (j.map letters)) := by
  rw [readText?_encode (not_mem_document charset j), Option.map_some, read_document charset hj hfits]

end ProbeKit.Json
