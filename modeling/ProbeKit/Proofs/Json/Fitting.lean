import ProbeKit.Json.Printer
import ProbeKit.Json.Reader
import ProbeKit.Proofs.Lookup

/-!
# Values that fit, and values with whole texts

A value fits into some levels if it is not too large to be written in them (`Json.Fits`): its arrays
and objects lie in each other no deeper, and no integer has too many digits.  With more levels it
fits all the more.

The texts of a value become lists of letters and back again without a change (`map_shown_letters`),
and what was taken from a value with whole texts has whole texts.
-/

namespace ProbeKit.Json

open Text

/-! ### Values that fit -/

/-- A value is not too large to be written in some levels. -/
def Fits (levels : Nat) (j : Json) : Prop := j.limit? levels = none

section
variable {levels : Nat}

theorem limitOfItems?_eq_none_iff {items : List Json} :
    limitOfItems? levels items = none ↔ ∀ j ∈ items, j.Fits levels := by
  induction items with
  | nil => simp [limitOfItems?]
  | cons item items ih => simp [limitOfItems?, Option.or_eq_none_iff, ih, Fits]

theorem limitOfMembers?_eq_none_iff {members : List (String × Json)} :
    limitOfMembers? levels members = none ↔ ∀ m ∈ members, m.2.Fits levels := by
  induction members with
  | nil => simp [limitOfMembers?]
  | cons m members ih => simp [limitOfMembers?, Option.or_eq_none_iff, ih, Fits]

theorem fits_int_iff {n : Int} : (Json.int n).Fits levels ↔ overlong n = false := by
  simp [Fits, limit?]

@[simp]
theorem fits_null : Json.null.Fits levels := rfl

@[simp]
theorem fits_str (s : String) : (Json.str s).Fits levels := rfl

@[simp]
theorem fits_bool (b : Bool) : (Json.bool b).Fits levels := rfl

@[simp]
theorem fits_float (x : Number.Binary64) : (Json.float x).Fits levels := rfl

theorem fits_arr_iff {items : List Json} :
    (Json.arr items).Fits (levels + 1) ↔ ∀ j ∈ items, j.Fits levels := by
  rw [Fits, limit?]
  exact limitOfItems?_eq_none_iff

theorem fits_obj_iff {members : List (String × Json)} :
    (Json.obj members).Fits (levels + 1) ↔ ∀ m ∈ members, m.2.Fits levels := by
  rw [Fits, limit?]
  exact limitOfMembers?_eq_none_iff

theorem Fits.member {j : Json} (h : j.Fits (levels + 1)) (name : String) :
    (j.member name).Fits levels := by
  cases j with
  | obj members =>
    show ((members.lookup name).getD .null).Fits levels
    cases hlookup : members.lookup name with
    | none => rfl
    | some value => exact fits_obj_iff.1 h (name, value) (mem_of_lookup hlookup)
  | _ => rfl

theorem not_fits_arr_zero (items : List Json) : ¬(Json.arr items).Fits 0 := nofun

theorem not_fits_obj_zero (members : List (String × Json)) : ¬(Json.obj members).Fits 0 := nofun

end

mutual

/-- What fits into some levels fits into one more. -/
theorem Fits.succ : ∀ {levels : Nat} {j : Json}, j.Fits levels → j.Fits (levels + 1)
  | _, .null, _ => rfl
  | _, .bool _, _ => rfl
  | _, .float _, _ => rfl
  | _, .str _, _ => rfl
  | _, .int _, h => fits_int_iff.2 (fits_int_iff.1 h)
  | _ + 1, .arr items, h => fits_arr_iff.2 (fits_succ_of_items items (fits_arr_iff.1 h))
  | _ + 1, .obj members, h =>
    fits_obj_iff.2 (fits_succ_of_members members (fits_obj_iff.1 h))

theorem fits_succ_of_items : ∀ {levels : Nat} (items : List Json), (∀ j ∈ items, j.Fits levels) →
    ∀ j ∈ items, j.Fits (levels + 1)
  | _, [], _ => List.forall_mem_nil _
  | _, _ :: items, h => List.forall_mem_cons.2 ⟨Fits.succ (List.forall_mem_cons.1 h).1,
      fits_succ_of_items items (List.forall_mem_cons.1 h).2⟩

theorem fits_succ_of_members : ∀ {levels : Nat} (members : List (String × Json)),
    (∀ m ∈ members, m.2.Fits levels) → ∀ m ∈ members, m.2.Fits (levels + 1)
  | _, [], _ => List.forall_mem_nil _
  | _, _ :: members, h => List.forall_mem_cons.2 ⟨Fits.succ (List.forall_mem_cons.1 h).1,
      fits_succ_of_members members (List.forall_mem_cons.1 h).2⟩

end

theorem Fits.mono {levels levels' : Nat} {j : Json} (h : j.Fits levels) (hle : levels ≤ levels') :
    j.Fits levels' := by
  induction hle with
  | refl => exact h
  | step _ ih => exact ih.succ

/-- What fits is written. -/
theorem write_of_fits {room : Room} {charset : Charset} {j : Json} (h : j.Fits room.writing) :
    write room charset j = .ok (document charset j) := by
  rw [write, h]

theorem write_eq_ok_iff {room : Room} {charset : Charset} {j : Json} :
    (∃ text, write room charset j = .ok text) ↔ j.Fits room.writing := by
  refine ⟨fun ⟨text, h⟩ => ?_, fun h => ⟨_, write_of_fits h⟩⟩
  unfold write at h
  split at h
  · assumption
  · cases h

/-! ### Other texts -/

variable {τ υ : Type}

theorem mapItems_eq (f : τ → υ) (items : List (Json τ)) :
    mapItems f items = items.map (map f) := by
  induction items with
  | nil => rfl
  | cons item items ih => rw [mapItems, ih, List.map_cons]

theorem mapMembers_eq (f : τ → υ) (members : List (τ × Json τ)) :
    mapMembers f members = members.map fun m => (f m.1, m.2.map f) := by
  induction members with
  | nil => rfl
  | cons m members ih =>
    obtain ⟨name, value⟩ := m
    rw [mapMembers, ih, List.map_cons]

mutual

/-- Other texts that lead back to the first ones lead back to the first value. -/
theorem map_map_cancel {f : τ → υ} {g : υ → τ} (hback : ∀ s, g (f s) = s) :
    ∀ j : Json τ, (j.map f).map g = j
  | .null => rfl
  | .bool _ => rfl
  | .int _ => rfl
  | .float _ => rfl
  | .str s => congrArg Json.str (hback s)
  | .arr items => congrArg Json.arr (mapItems_mapItems_cancel hback items)
  | .obj members => congrArg Json.obj (mapMembers_mapMembers_cancel hback members)

theorem mapItems_mapItems_cancel {f : τ → υ} {g : υ → τ} (hback : ∀ s, g (f s) = s) :
    ∀ items : List (Json τ), mapItems g (mapItems f items) = items
  | [] => rfl
  | item :: items => by
    rw [mapItems, mapItems, map_map_cancel hback item, mapItems_mapItems_cancel hback items]

theorem mapMembers_mapMembers_cancel {f : τ → υ} {g : υ → τ} (hback : ∀ s, g (f s) = s) :
    ∀ members : List (τ × Json τ), mapMembers g (mapMembers f members) = members
  | [] => rfl
  | (name, value) :: members => by
    rw [mapMembers, mapMembers, hback, map_map_cancel hback value,
      mapMembers_mapMembers_cancel hback members]

end

mutual

theorem allTexts_map {f : τ → υ} {p : υ → Bool} (hall : ∀ s, p (f s) = true) :
    ∀ j : Json τ, (j.map f).allTexts p = true
  | .null => rfl
  | .bool _ => rfl
  | .int _ => rfl
  | .float _ => rfl
  | .str s => hall s
  | .arr items => allTextsOfItems_mapItems hall items
  | .obj members => allTextsOfMembers_mapMembers hall members

theorem allTextsOfItems_mapItems {f : τ → υ} {p : υ → Bool} (hall : ∀ s, p (f s) = true) :
    ∀ items : List (Json τ), allTextsOfItems p (mapItems f items) = true
  | [] => rfl
  | item :: items => by
    rw [mapItems, allTextsOfItems, allTexts_map hall item, allTextsOfItems_mapItems hall items]
    rfl

theorem allTextsOfMembers_mapMembers {f : τ → υ} {p : υ → Bool} (hall : ∀ s, p (f s) = true) :
    ∀ members : List (τ × Json τ), allTextsOfMembers p (mapMembers f members) = true
  | [] => rfl
  | (name, value) :: members => by
    rw [mapMembers, allTextsOfMembers, hall, allTexts_map hall value,
      allTextsOfMembers_mapMembers hall members]
    rfl

end

theorem map_shown_letters (j : Json) : (j.map letters).map shown = j :=
  map_map_cancel shown_letters j

theorem allTexts_map_letters (j : Json) : (j.map letters).allTexts isWhole = true :=
  allTexts_map isWhole_letters j

/-- The letters of a value are those of the value. -/
theorem whole?_map_letters (j : Json) : Raw.whole? (j.map letters) = some j := by
  rw [Raw.whole?, if_pos (allTexts_map_letters j), map_shown_letters]

theorem letters_inj {s t : String} (h : letters s = letters t) : s = t := by
  rw [← shown_letters s, h, shown_letters]

/-! ### Parts of values with whole texts -/

section
variable {p : τ → Bool}

theorem allTextsOfItems_iff {items : List (Json τ)} :
    allTextsOfItems p items = true ↔ ∀ j ∈ items, j.allTexts p = true := by
  induction items with
  | nil => simp [allTextsOfItems]
  | cons item items ih => simp [allTextsOfItems, ih]

theorem allTextsOfMembers_iff {members : List (τ × Json τ)} :
    allTextsOfMembers p members = true ↔
      ∀ m ∈ members, p m.1 = true ∧ m.2.allTexts p = true := by
  induction members with
  | nil => simp [allTextsOfMembers]
  | cons m members ih => simp [allTextsOfMembers, ih, and_assoc]

theorem allTexts_items {j : Json τ} (h : j.allTexts p = true) :
    ∀ item ∈ j.items, item.allTexts p = true := by
  cases j with
  | arr items => exact allTextsOfItems_iff.1 h
  | _ => exact nofun

theorem allTexts_member [DecidableEq τ] {j : Json τ} (h : j.allTexts p = true) (name : τ) :
    (j.member name).allTexts p = true := by
  cases j with
  | obj members =>
    show ((members.lookup name).getD .null).allTexts p = true
    cases hlookup : members.lookup name with
    | none => rfl
    | some value => exact (allTextsOfMembers_iff.1 h (name, value) (mem_of_lookup hlookup)).2
  | _ => rfl

end

end ProbeKit.Json
