import ProbeKit.Probe.Basic
import ProbeKit.Text.Quoted

/-!
# Rosters

A roster collects probes one at a time and refuses improper ones at once, so that what it holds
is proper after every call.  A probe that is added again keeps its place and takes the new types.
-/

namespace ProbeKit

open Text

/-- Why a probe is not added. -/
inductive RosterError where
  /-- The name is no identifier. -/
  | badName (name : String)
  /-- A type is not an allowed one. -/
  | badType (type : String)
  deriving DecidableEq

/-- What is wrong, in words. -/
def RosterError.message : RosterError → String
  | .badName name => "invalid probe name " ++ quoted name
  | .badType type =>
    "invalid type " ++ quoted type ++ "; expected one of " ++ ", ".intercalate allowedTypes

/-- Probes in the order in which their names were first added. -/
structure Roster where
  /-- The probes. -/
  probes : List Probe := []
  deriving DecidableEq, Inhabited

namespace Roster

/-- Puts a probe in the place of the one with its name, or at the end. -/
def put (p : Probe) : List Probe → List Probe
  | [] => [p]
  | q :: rest => if q.name == p.name then p :: rest else q :: put p rest

/-- The proper spelling of each type; the first that is not allowed is an error. -/
def properTypes : List String → Except RosterError (List String)
  | [] => .ok []
  | raw :: rest =>
    match allowedType? raw with
    | none => .error (.badType raw)
    | some type => (properTypes rest).map (type :: ·)

/-- Adds a probe to the roster at hand, or sets the types of one that is there.  The name is looked
at first and then type by type, and the roster is changed only when nothing is wrong. -/
def enter (name : String) (types : List String) : ExceptT RosterError (StateM Roster) PUnit := do
  if !isIdentifier name then throw (.badName name)
  let types ← ExceptT.mk (pure (properTypes types))
  modify fun r => ⟨put ⟨name, types⟩ r.probes⟩

/-- Adds a probe, or sets the types of one that is there. -/
def add (r : Roster) (name : String) (types : List String) : Except RosterError Roster :=
  match Id.run ((enter name types).run.run r) with
  | (.ok _, r) => .ok r
  | (.error e, _) => .error e

end Roster

end ProbeKit
