import ProbeKit.Text.Digit
import ProbeKit.Text.Order

/-!
# Probes

A probe is a named trace point with a list of argument types.  The same shape serves for what a
source file declares and for what a manifest lists.  `allowedType?` brings a type into its one
spelling, `isIdentifier` says which names are proper, and `Probe.entry` is the one-line form that
snapshots keep.
-/

namespace ProbeKit

open Text

/-- A trace point: its name and the types of its arguments. -/
structure Probe where
  /-- The name. -/
  name : String
  /-- The types of the arguments, in order. -/
  types : List String := []
  deriving DecidableEq, Inhabited

/-! ### Argument types -/

/-- The argument types that a probe may have. -/
def allowedTypes : List String := ["int", "uint", "char *", "string", "double", "json"]

/-- The proper spelling of a type: the pointer type may lack its blank. -/
def properType (raw : String) : String := if raw == "char*" then "char *" else raw

/-- The proper spelling of a type, provided that it is an allowed one. -/
def allowedType? (raw : String) : Option String :=
  if allowedTypes.contains (properType raw) then some (properType raw) else none

theorem mem_of_allowedType? {raw type : String} (h : allowedType? raw = some type) :
    type ∈ allowedTypes := by
  grind [allowedType?]

/-! ### Names -/

/-- Whether a character may begin an identifier: an ASCII letter or the underscore. -/
def startsIdentifier (c : Char) : Bool := c.isAlpha || c == '_'

/-- Whether a character may stand inside an identifier. -/
def continuesIdentifier (c : Char) : Bool := c.isAlphanum || c == '_'

/-- Whether a text is an identifier. -/
def isIdentifier (name : String) : Bool :=
  match name.toList with
  | [] => false
  | c :: cs => startsIdentifier c && cs.all continuesIdentifier

/-- Whether a name is the word `probe` followed by a number, in digits of any script. -/
def isNumbered (name : String) : Bool :=
  match name.toList with
  | 'p' :: 'r' :: 'o' :: 'b' :: 'e' :: digits => !digits.isEmpty && digits.all isDecimal
  | _ => false

namespace Probe

/-- Whether a probe is declared bare under a numbered name. -/
def isBareNumbered (p : Probe) : Bool := p.types.isEmpty && isNumbered p.name

/-- Numbered probes that are declared bare take one integer. -/
def withDefault (p : Probe) : Probe := if p.isBareNumbered then ⟨p.name, ["int"]⟩ else p

/-- A probe on one line: the name, a bar, and the types with commas between them. -/
def entry (p : Probe) : String := p.name ++ "|" ++ ",".intercalate p.types

/-- The probe that a line stands for: the name ends at the first bar and empty types are
passed over. -/
def ofEntry (line : String) : Probe :=
  let name := line.toList.takeWhile (· != '|')
  let types := (line.toList.drop (name.length + 1)).splitOn ','
  ⟨String.ofList name, (types.filter (!·.isEmpty)).map String.ofList⟩

/-- The lines of probes, in order. -/
def entries (probes : List Probe) : List String := sorted (probes.map entry)

end Probe

end ProbeKit
