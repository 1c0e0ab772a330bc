import ProbeKit.Number.Binary64

/-!
# JSON values

Integers are exact and of any size; numbers with a point or an exponent are binary floating-point
numbers, infinities and NaN included.  An object is the list of its members in the order in which
their names first came up; `setMember` keeps a name in its place when it is given again, so an
object built by it holds each name once (`memberNames_setMember`).  The texts of a value are mostly
strings; a value that was just read has lists of letters for them, and `map` goes from the one to
the other.
-/

namespace ProbeKit

open Number

/-- A JSON value with texts of some type. -/
inductive Json (τ : Type := String) where
  /-- The null value. -/
  | null
  /-- A truth value. -/
  | bool (b : Bool)
  /-- An integer. -/
  | int (n : Int)
  /-- A floating-point number. -/
  | float (x : Binary64)
  /-- A text. -/
  | str (s : τ)
  /-- An array. -/
  | arr (items : List (Json τ))
  /-- An object, by its members. -/
  | obj (members : List (τ × Json τ))
  deriving Inhabited

namespace Json

variable {τ υ : Type}

/-! ### Members of objects -/

section
variable [DecidableEq τ]

/-- Gives a member a value: in its old place, or at the end if the name is new. -/
def setMember (name : τ) (value : Json τ) : List (τ × Json τ) → List (τ × Json τ)
  | [] => [(name, value)]
  | (n, v) :: rest => if n == name then (n, value) :: rest else (n, v) :: setMember name value rest

/-- The members that result from giving each value in turn; the last value of a name counts. -/
def ofMembers (members : List (τ × Json τ)) : List (τ × Json τ) :=
  members.foldl (fun acc m => setMember m.1 m.2 acc) []

/-- The value of a member of an object. -/
def member? (name : τ) : Json τ → Option (Json τ)
  | .obj members => members.lookup name
  | _ => none

/-- The value of a member, null when it is absent. -/
def member (name : τ) (j : Json τ) : Json τ := (j.member? name).getD .null

theorem memberNames_setMember (name : τ) (value : Json τ) (members : List (τ × Json τ)) :
    (setMember name value members).map (·.1) =
      if name ∈ members.map (·.1) then members.map (·.1) else members.map (·.1) ++ [name] := by
  induction members with
  | nil => simp [setMember]
  | cons m rest ih =>
    obtain ⟨n, v⟩ := m
    by_cases h : n = name
    · subst h; simp [setMember]
    · have h' : ¬ name = n := fun e => h e.symm
      simp only [setMember, beq_iff_eq, h, ↓reduceIte, List.map_cons, ih, List.mem_cons, h',
        false_or]
      split <;> simp

end

/-- The items of an array; no other value has items. -/
def items : Json τ → List (Json τ)
  | .arr items => items
  | _ => []

/-! ### Texts -/

/-- The text of a value that is one. -/
def str? : Json τ → Option τ
  | .str s => some s
  | _ => none

/-- The items of a value that is an array of texts only. -/
def strings? : Json τ → Option (List τ)
  | .arr items => items.mapM str?
  | _ => none

mutual

/-- A value with other texts in place of its own. -/
def map (f : τ → υ) : Json τ → Json υ
  | .null => .null
  | .bool b => .bool b
  | .int n => .int n
  | .float x => .float x
  | .str s => .str (f s)
  | .arr items => .arr (mapItems f items)
  | .obj members => .obj (mapMembers f members)

/-- Items with other texts. -/
def mapItems (f : τ → υ) : List (Json τ) → List (Json υ)
  | [] => []
  | item :: items => item.map f :: mapItems f items

/-- Members with other texts and names. -/
def mapMembers (f : τ → υ) : List (τ × Json τ) → List (υ × Json υ)
  | [] => []
  | (name, value) :: members => (f name, value.map f) :: mapMembers f members

end

mutual

/-- Whether all texts of a value are of some kind. -/
def allTexts (p : τ → Bool) : Json τ → Bool
  | .str s => p s
  | .arr items => allTextsOfItems p items
  | .obj members => allTextsOfMembers p members
  | _ => true

/-- Whether all texts of items are of some kind. -/
def allTextsOfItems (p : τ → Bool) : List (Json τ) → Bool
  | [] => true
  | item :: items => item.allTexts p && allTextsOfItems p items

/-- Whether all texts and names of members are of some kind. -/
def allTextsOfMembers (p : τ → Bool) : List (τ × Json τ) → Bool
  | [] => true
  | (name, value) :: members => p name && (value.allTexts p && allTextsOfMembers p members)

end

/-! ### Classes of values -/

/-- Whether a value counts as "nothing there": null, false, a zero, or anything empty. -/
def isVacant : Json → Bool
  | .null => true
  | .bool b => !b
  | .int n => n == 0
  | .float x => x.isZero
  | .str s => s.isEmpty
  | .arr items => items.isEmpty
  | .obj members => members.isEmpty

/-- Whether a value equals the number one; a true truth value does. -/
def isOne : Json → Bool
  | .bool b => b
  | .int n => n == 1
  | .float x => x.isOne
  | _ => false

end Json

end ProbeKit
