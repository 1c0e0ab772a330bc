import ProbeKit.Probe.Catalog

/-!
# Declarations of one name

The same probe may be declared in many places with different arguments.  An aggregate holds one
name with every list of argument types seen for it; its own types are the first of the longest.
`aggregates` makes them from a catalog, one for each name, in the order of the names.
-/

namespace ProbeKit

open Text

/-- A probe with all lists of argument types that were seen for it. -/
structure Aggregate where
  /-- The name. -/
  name : String
  /-- The types that count. -/
  types : List String
  /-- The lists of types that were seen. -/
  seen : List (List String)
  deriving DecidableEq, Inhabited

namespace Aggregate

/-- Longer lists come first; lists of one length are ordered by their texts. -/
def variantAtMost (s t : List String) : Bool :=
  t.length < s.length || (s.length == t.length && listAtMost s t)

/-- The different lists of types that were seen, the longest first. -/
def variants (a : Aggregate) : List (List String) := a.seen.eraseDups.mergeSort variantAtMost

/-- The first of the longest lists. -/
def firstLongest : List (List String) → List String
  | [] => []
  | first :: rest => rest.foldl (fun best t => if best.length < t.length then t else best) first

/-- The aggregate of one name, from the lists of types seen for it. -/
def ofSeen (name : String) (seen : List (List String)) : Aggregate :=
  ⟨name, (Probe.withDefault ⟨name, firstLongest seen⟩).types, seen⟩

/-- The aggregates of probes, one for each name, in the order of the names. -/
def ofProbes (probes : List Probe) : List Aggregate :=
  (sorted (probes.map (·.name)).eraseDups).map fun name =>
    ofSeen name ((probes.filter (·.name == name)).map (·.types))

/-- The probe that an aggregate stands for. -/
def probe (a : Aggregate) : Probe := ⟨a.name, a.types⟩

end Aggregate

/-- The aggregates of all that a catalog holds. -/
def Catalog.aggregates (c : Catalog) : List Aggregate := Aggregate.ofProbes c.probes

end ProbeKit
