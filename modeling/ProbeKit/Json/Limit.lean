import ProbeKit.Json.Basic
import ProbeKit.Text.Digit

/-!
# Limits of JSON

Values can be too large to be read or written: an integer of more than `Text.digitLimit` digits is
not converted, and arrays and objects cannot lie in each other any deeper than the program has room
for when it begins to read or to write.  How much room that is depends on what the program was
doing; `Room` is what is known of it.
-/

namespace ProbeKit.Json

open Text

/-- How deep arrays and objects may lie in each other.  There is room for a manifest whose fields
are no arrays or objects themselves. -/
structure Room where
  /-- The levels that can be read. -/
  reading : Nat
  /-- The levels that can be written. -/
  writing : Nat
  /-- There is some room for reading. -/
  le_reading : 8 ≤ reading
  /-- There is some room for writing. -/
  le_writing : 8 ≤ writing

/-- The room of a program that has just begun. -/
def Room.usual : Room := ⟨980, 980, Nat.le_of_ble_eq_true rfl, Nat.le_of_ble_eq_true rfl⟩

instance : Inhabited Room := ⟨.usual⟩

/-- Why a value is too large. -/
inductive Limit where
  /-- An integer has too many digits. -/
  | digits (e : TooManyDigits)
  /-- An array is too deep to be read. -/
  | deepArray
  /-- An object is too deep to be read. -/
  | deepObject
  /-- An array or an object is too deep to be written. -/
  | deepValue
  deriving DecidableEq

/-- What is wrong, in words. -/
def Limit.message : Limit → String
  | .digits e => e.message
  | .deepArray =>
    "maximum recursion depth exceeded while decoding a JSON array from a unicode string"
  | .deepObject =>
    "maximum recursion depth exceeded while decoding a JSON object from a unicode string"
  | .deepValue => "maximum recursion depth exceeded while calling a Python object"

mutual

/-- The first thing in a value that is too large to be written, if so many levels can be. -/
def limit? (levels : Nat) : Json → Option Limit
  | .int n => if overlong n then some (.digits .writing) else none
  | .arr items =>
    match levels with
    | 0 => some .deepValue
    | levels + 1 => limitOfItems? levels items
  | .obj members =>
    match levels with
    | 0 => some .deepValue
    | levels + 1 => limitOfMembers? levels members
  | _ => none

/-- The first thing in items that is too large. -/
def limitOfItems? (levels : Nat) : List Json → Option Limit
  | [] => none
  | item :: items => (item.limit? levels).or (limitOfItems? levels items)

/-- The first thing in members that is too large. -/
def limitOfMembers? (levels : Nat) : List (String × Json) → Option Limit
  | [] => none
  | (_, value) :: members => (value.limit? levels).or (limitOfMembers? levels members)

end

end ProbeKit.Json
