import ProbeKit.Proofs.Json.Decimals
import ProbeKit.Proofs.Lookup
import Mathlib.Data.Nat.Digits.Defs

/-!
# Values that were read

Whatever was read is `Proper`: its objects hold each name once; and it fits into the levels that can
be read (`taken_of_read`).  A proper value is read back if its floating-point numbers are
(`Proper.legible`).
-/

namespace ProbeKit.Json

open Number Text

/-- A value whose objects hold each name once. -/
inductive Proper {τ : Type} : Json τ → Prop where
  | null : Proper .null
  | bool (b : Bool) : Proper (.bool b)
  | int (n : Int) : Proper (.int n)
  | float (x : Binary64) : Proper (.float x)
  | str (s : τ) : Proper (.str s)
  | arr {items : List (Json τ)} (hitems : ∀ j ∈ items, Proper j) : Proper (.arr items)
  | obj {members : List (τ × Json τ)} (hnames : (members.map (·.1)).Nodup)
      (hvalues : ∀ m ∈ members, Proper m.2) : Proper (.obj members)

/-- A floating-point number stands somewhere in a value. -/
inductive HasFloat (x : Binary64) : Json → Prop where
  | self : HasFloat x (.float x)
  | item {items : List Json} {j : Json} (hj : j ∈ items) (h : HasFloat x j) : HasFloat x (.arr items)
  | value {members : List (String × Json)} {m : String × Json} (hm : m ∈ members)
      (h : HasFloat x m.2) : HasFloat x (.obj members)

theorem legibleMembers_iff {members : List (String × Json)} :
    LegibleMembers members ↔ ∀ m ∈ members, Legible m.2 := by
  induction members with
  | nil => simp [LegibleMembers]
  | cons m rest ih => simp [LegibleMembers, ih]

/-- A proper value is read back if its floating-point numbers are. -/
theorem Proper.legible {j : Json} (h : j.Proper) (hfloats : ∀ x, j.HasFloat x → Rereads x) :
    j.Legible := by
  induction h with
  | null => trivial
  | bool b => trivial
  | int n => trivial
  | str s => trivial
  | float x => exact hfloats x .self
  | arr _ ih => exact legibleItems_iff.2 fun j hj => ih j hj fun x hx => hfloats x (.item hj hx)
  | obj hnames _ ih =>
    refine ⟨hnames, legibleMembers_iff.2 fun m hm => ?_⟩
    exact ih m hm fun x hx => hfloats x (.value hm hx)

/-! ### Members that were set -/

section
variable {τ : Type} [DecidableEq τ]

theorem nodup_setMember {members : List (τ × Json τ)} (h : (members.map (·.1)).Nodup)
    (name : τ) (value : Json τ) : ((setMember name value members).map (·.1)).Nodup := by
  rw [memberNames_setMember]
  split
  · exact h
  · rename_i hnot
    refine List.nodup_append.2 ⟨h, by simp, fun n hn k hk => ?_⟩
    rw [List.mem_singleton.1 hk]
    rintro rfl
    exact hnot hn

theorem mem_setMember {members : List (τ × Json τ)} {name : τ} {value : Json τ}
    {m : τ × Json τ} (h : m ∈ setMember name value members) : m.2 = value ∨ m ∈ members := by
  induction members with
  | nil => exact .inl (congrArg Prod.snd (List.mem_singleton.1 h))
  | cons first rest ih =>
    rw [setMember] at h
    split at h
    · rcases List.mem_cons.1 h with rfl | h
      · exact .inl rfl
      · exact .inr (List.mem_cons_of_mem _ h)
    · rcases List.mem_cons.1 h with rfl | h
      · exact .inr List.mem_cons_self
      · exact (ih h).imp_right (List.mem_cons_of_mem _)

theorem nodup_ofMembers (members : List (τ × Json τ)) : ((ofMembers members).map (·.1)).Nodup := by
  have hfold : ∀ {acc : List (τ × Json τ)}, (acc.map (·.1)).Nodup →
      ((members.foldl (fun acc m => setMember m.1 m.2 acc) acc).map (·.1)).Nodup := by
    induction members with
    | nil => exact id
    | cons first rest ih => exact fun hacc => ih (nodup_setMember hacc _ _)
  exact hfold List.nodup_nil

/-- Every value of the members of an object was given to one of them. -/
theorem exists_of_mem_ofMembers {members : List (τ × Json τ)} {m : τ × Json τ}
    (h : m ∈ ofMembers members) : ∃ given ∈ members, given.2 = m.2 := by
  have hfold : ∀ {acc : List (τ × Json τ)},
      m ∈ members.foldl (fun acc m => setMember m.1 m.2 acc) acc →
        m ∈ acc ∨ ∃ given ∈ members, given.2 = m.2 := by
    clear h
    induction members with
    | nil => exact .inl
    | cons first rest ih =>
      intro acc h
      rcases ih h with h | ⟨given, hgiven, heq⟩
      · rcases mem_setMember h with heq | h
        · exact .inr ⟨first, List.mem_cons_self, heq.symm⟩
        · exact .inl h
      · exact .inr ⟨given, List.mem_cons_of_mem _ hgiven, heq⟩
  exact (hfold h).resolve_left List.not_mem_nil

theorem Proper.member {j : Json τ} (h : j.Proper) (name : τ) : (j.member name).Proper := by
  cases h with
  | obj hnames hvalues =>
    rename_i members
    show ((members.lookup name).getD .null).Proper
    cases hlookup : members.lookup name with
    | none => exact .null
    | some value => exact hvalues (name, value) (mem_of_lookup hlookup)
  | _ => exact .null

end

/-! ### Numbers that are not too long -/

theorem isDigit_of_wholeDigits {cs whole rest : List Char} (h : wholeDigits cs = (whole, rest)) :
    ∀ c ∈ whole, c.isDigit = true := by
  unfold wholeDigits at h
  split at h
  · cases h
    exact List.forall_mem_singleton.2 rfl
  · cases h
    exact List.all_eq_true.1 List.all_takeWhile

/-- An integer has too many digits from a one with as many zeros on. -/
theorem overlong_iff {n : Int} : overlong n = true ↔ 10 ^ digitLimit ≤ n.natAbs := by
  rw [overlong, decide_eq_true_iff, ← not_iff_not, Nat.not_lt, Nat.not_le]
  constructor
  · intro h
    have hlt := digitsNat_lt fun c hc => isDigit_of_mem_toDigits (n := n.natAbs) hc
    rw [digitsNat_toDigits] at hlt
    exact Nat.lt_of_lt_of_le hlt (Nat.pow_le_pow_right (by decide) h)
  · exact Nat.toDigits_length 10 _ _ (by decide)

/-- What was read from not too many digits is written with not too many digits. -/
theorem not_overlong_of_wholeDigits {cs whole rest : List Char}
    (h : wholeDigits cs = (whole, rest)) (hlength : whole.length ≤ digitLimit) (negative : Bool) :
    overlong (if negative then -(digitsNat whole : Int) else digitsNat whole) = false := by
  have hnat : (if negative then -(digitsNat whole : Int) else digitsNat whole).natAbs =
      digitsNat whole := by
    cases negative
    · exact Int.natAbs_natCast _
    · exact (Int.natAbs_neg _).trans (Int.natAbs_natCast _)
  rw [← Bool.not_eq_true, overlong_iff, hnat, Nat.not_le]
  exact Nat.lt_of_lt_of_le (digitsNat_lt (isDigit_of_wholeDigits h))
    (Nat.pow_le_pow_right (by decide) hlength)

/-! ### Readers -/

/-- A value as a reader leaves it: its objects hold each name once, and it fits into the levels that
there were. -/
def Taken (levels : Nat) (j : Raw) : Prop := j.Proper ∧ (j.map shown).Fits levels

section
variable {levels : Nat}

theorem taken_float (x : Binary64) : Taken levels (.float x) := ⟨.float x, rfl⟩

theorem taken_arr {items : List Raw} (h : ∀ j ∈ items, Taken levels j) :
    Taken (levels + 1) (.arr items) := by
  refine ⟨.arr fun j hj => (h j hj).1, fits_arr_iff.2 ?_⟩
  rw [mapItems_eq]
  exact List.forall_mem_map.2 fun j hj => (h j hj).2

theorem taken_obj {members : List (List Letter × Raw)} (hnames : (members.map (·.1)).Nodup)
    (h : ∀ m ∈ members, Taken levels m.2) : Taken (levels + 1) (.obj members) := by
  refine ⟨.obj hnames fun m hm => (h m hm).1, fits_obj_iff.2 ?_⟩
  rw [mapMembers_eq]
  exact List.forall_mem_map.2 fun m hm => (h m hm).2

end

/-- Only where there is a level left something is read inside. -/
theorem descend_eq_ok {α : Type} {limit : Limit} {levels : Nat} {inside : Nat → Except Stop α}
    {a : α} (h : descend limit levels inside = .ok a) :
    ∃ inner, levels = inner + 1 ∧ inside inner = .ok a := by
  cases levels with
  | zero => cases h
  | succ inner => exact ⟨inner, rfl, h⟩

theorem taken_of_readNumber {levels : Nat} {cs more : List Char} {j : Raw}
    (h : readNumber cs = .ok (j, more)) : Taken levels j := by
  have hunsigned {start cs : List Char} {negative : Bool}
      (h : readUnsigned start negative cs = .ok (j, more)) : Taken levels j := by
    cases readUnsigned_eq_ok_iff.1 h with
    | integer hwhole _ _ _ hlength =>
      exact ⟨.int _, fits_int_iff.2 (not_overlong_of_wholeDigits hwhole hlength negative)⟩
    | _ => exact taken_float _
  unfold readNumber at h
  split at h
  · exact hunsigned h
  · exact hunsigned h

/-- With some fuel whatever is read is as it should be. -/
structure ReadsTaken (fuel : Nat) : Prop where
  value : ∀ levels cs j more, readValue levels fuel cs = .ok (j, more) → Taken levels j
  items : ∀ levels cs items more, readItems levels fuel cs = .ok (items, more) →
    ∀ j ∈ items, Taken levels j
  members : ∀ levels cs members more, readMembers levels fuel cs = .ok (members, more) →
    ∀ m ∈ members, Taken levels m.2

theorem readsTaken_zero : ReadsTaken 0 := by
  constructor
  · intro levels cs j more h
    rw [readValue_zero] at h
    cases h
  · intro levels cs items more h
    rw [readItems] at h
    cases h
  · intro levels cs members more h
    rw [readMembers] at h
    cases h

section
variable {fuel : Nat} (hfuel : ReadsTaken fuel) {levels : Nat} {cs more : List Char}
include hfuel

theorem ReadsTaken.readValue_succ {j : Raw} (h : readValue levels (fuel + 1) cs = .ok (j, more)) :
    Taken levels j := by
  rw [readValue.eq_def] at h
  dsimp only at h
  split at h
  · rename_i rest
    obtain ⟨⟨text, _⟩, -, h⟩ := bind_eq_ok.1 h
    cases h
    exact ⟨.str _, rfl⟩
  · obtain ⟨levels, rfl, h⟩ := descend_eq_ok h
    split at h
    · cases h
      exact taken_obj List.nodup_nil (List.forall_mem_nil _)
    · obtain ⟨⟨members, _⟩, hmembers, h⟩ := bind_eq_ok.1 h
      cases h
      refine taken_obj (nodup_ofMembers members) fun m hm => ?_
      obtain ⟨given, hgiven, heq⟩ := exists_of_mem_ofMembers hm
      rw [← heq]
      exact hfuel.members _ _ _ _ hmembers given hgiven
  · obtain ⟨levels, rfl, h⟩ := descend_eq_ok h
    split at h
    · cases h
      exact taken_arr (List.forall_mem_nil _)
    · obtain ⟨⟨items, _⟩, hitems, h⟩ := bind_eq_ok.1 h
      cases h
      exact taken_arr (hfuel.items _ _ _ _ hitems)
  · cases h; exact ⟨.null, rfl⟩
  · cases h; exact ⟨.bool true, rfl⟩
  · cases h; exact ⟨.bool false, rfl⟩
  · cases h; exact taken_float _
  · cases h; exact taken_float _
  · cases h; exact taken_float _
  · exact taken_of_readNumber h

theorem ReadsTaken.readItems_succ {items : List Raw}
    (h : readItems levels (fuel + 1) cs = .ok (items, more)) : ∀ j ∈ items, Taken levels j := by
  rw [readItems] at h
  obtain ⟨⟨item, rest⟩, hvalue, h⟩ := bind_eq_ok.1 h
  have hitem := hfuel.value _ _ _ _ hvalue
  dsimp only at h
  split at h
  · cases h
    exact List.forall_mem_singleton.2 hitem
  · obtain ⟨⟨items, _⟩, hitems, h⟩ := bind_eq_ok.1 h
    cases h
    exact List.forall_mem_cons.2 ⟨hitem, hfuel.items _ _ _ _ hitems⟩
  · cases h

theorem ReadsTaken.readMembers_succ {members : List (List Letter × Raw)}
    (h : readMembers levels (fuel + 1) cs = .ok (members, more)) :
    ∀ m ∈ members, Taken levels m.2 := by
  rw [readMembers.eq_def] at h
  dsimp only at h
  split at h
  · obtain ⟨⟨name, rest⟩, -, h⟩ := bind_eq_ok.1 h
    dsimp only at h
    split at h
    · obtain ⟨⟨value, rest⟩, hvalue, h⟩ := bind_eq_ok.1 h
      have hmember := hfuel.value _ _ _ _ hvalue
      dsimp only at h
      split at h
      · cases h
        exact List.forall_mem_singleton.2 hmember
      · obtain ⟨⟨members, _⟩, hmembers, h⟩ := bind_eq_ok.1 h
        cases h
        exact List.forall_mem_cons.2 ⟨hmember, hfuel.members _ _ _ _ hmembers⟩
      · cases h
    · cases h
  · cases h

end

theorem readsTaken (fuel : Nat) : ReadsTaken fuel := by
  induction fuel with
  | zero => exact readsTaken_zero
  | succ fuel ih =>
    exact ⟨fun _ _ _ _ h => ih.readValue_succ h, fun _ _ _ _ h => ih.readItems_succ h,
      fun _ _ _ _ h => ih.readMembers_succ h⟩

/-- **Whatever is read is proper and not too large.** -/
theorem taken_of_read {room : Room} {s : String} {j : Raw} (h : read room s = .ok j) :
    Taken room.reading j := by
  obtain ⟨more, hread, -⟩ := exists_of_readChars? (readChars?_of_read h)
  exact (readsTaken _).value _ _ _ _ hread

/-! ### Values with whole texts -/

theorem shown_inj {ls ls' : List Letter} (hls : isWhole ls = true) (hls' : isWhole ls' = true)
    (h : shown ls = shown ls') : ls = ls' := by
  rw [← letters_shown hls, h, letters_shown hls']

/-- A value with whole texts stays proper when its texts are shown. -/
theorem Proper.map_shown {j : Raw} (h : j.Proper) (hwhole : j.allTexts isWhole = true) :
    (j.map shown).Proper := by
  induction h with
  | null => exact .null
  | bool b => exact .bool b
  | int n => exact .int n
  | float x => exact .float x
  | str s => exact .str _
  | arr _ ih =>
    rw [map, mapItems_eq]
    exact .arr (List.forall_mem_map.2 fun j hj => ih j hj (allTextsOfItems_iff.1 hwhole j hj))
  | obj hnames _ ih =>
    have hwhole := allTextsOfMembers_iff.1 hwhole
    rw [map, mapMembers_eq]
    refine .obj ?_ (List.forall_mem_map.2 fun m hm => ih m hm (hwhole m hm).2)
    rw [List.map_map]
    refine List.pairwise_map.2 ((List.pairwise_map.1 hnames).imp_of_mem fun hm hn hne heq => hne ?_)
    exact shown_inj (hwhole _ hm).1 (hwhole _ hn).1 heq

/-- What a lone half shows as. -/
def replacement : Char := Char.ofNat 0xFFFD

/-- Letters show a text without the sign for halves only if they are its letters. -/
theorem shown_eq_iff {s : String} (hs : replacement ∉ s.toList) {ls : List Letter} :
    shown ls = s ↔ ls = letters s := by
  constructor
  · rintro rfl
    refine (letters_shown (List.all_eq_true.2 fun l hl => ?_)).symm
    cases l with
    | char c => rfl
    | half code =>
      refine absurd ?_ hs
      rw [shown, String.toList_ofList]
      exact List.mem_map_of_mem (f := Letter.shown) hl
  · rintro rfl
    exact shown_letters s

/-- A member by a name without the sign for halves is the member by the letters of the name. -/
theorem member?_map_shown {s : String} (hs : replacement ∉ s.toList) (j : Raw) :
    (j.map shown).member? s = (j.member? (letters s)).map (map shown) := by
  cases j with
  | obj members =>
    rw [map, mapMembers_eq]
    exact lookup_map_keys (fun ls => shown_eq_iff hs) members
  | _ => rfl

theorem member_map_shown {s : String} (hs : replacement ∉ s.toList) (j : Raw) :
    (j.map shown).member s = (j.member (letters s)).map shown := by
  rw [member, member?_map_shown hs, member]
  cases j.member? (letters s) <;> rfl

end ProbeKit.Json
