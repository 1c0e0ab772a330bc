import ProbeKit.Json.Basic
import ProbeKit.Probe.Aggregate
import ProbeKit.Text.Letter

/-!
# Manifests

A manifest lists the probes of a provider.  The fields beside the probes hold whatever a file or
a plugin put there; `flaw?` names the first thing that is wrong with a manifest, and a manifest
without a flaw is safe to keep.
-/

namespace ProbeKit

open Text

/-- The probes of a provider. -/
structure Manifest where
  /-- The version of the form, one in every sound manifest. -/
  schemaVersion : Json := .int 1
  /-- The name of the provider, a text in every sound manifest. -/
  provider : Json
  /-- The name of the module, null when there is none. -/
  moduleName : Json := .null
  /-- The probes. -/
  probes : List Probe := []
  deriving Inhabited

namespace Manifest

/-- The manifest of aggregates. -/
def ofAggregates (provider : Json) (moduleName : Json) (aggregates : List Aggregate) : Manifest :=
  { provider, moduleName, probes := aggregates.map Aggregate.probe }

/-- Numbered probes that are listed bare take one integer. -/
def withDefaults (m : Manifest) : Manifest := { m with probes := m.probes.map Probe.withDefault }

/-- The lines of the probes, in order. -/
def entries (m : Manifest) : List String := Probe.entries m.probes

/-! ### Flaws -/

/-- What may be wrong with a manifest; a probe is named by its place. -/
inductive Flaw where
  /-- The version is not one. -/
  | schemaVersion
  /-- The provider is no text, or an empty one. -/
  | provider
  /-- The module is there and no text. -/
  | moduleName
  /-- A name is no identifier. -/
  | probeName (place : Nat) (name : String)
  /-- A name came up before. -/
  | repeatedName (place : Nat) (name : String)
  /-- The type of an argument is not an allowed one. -/
  | argumentType (place : Nat) (argument : Nat) (type : String)
  /-- A name, or the type of an argument, is no text that a file can hold. -/
  | noText (place : Nat) (argument : Option Nat) (ls : List Letter)
  deriving DecidableEq

/-- What is wrong, in words. -/
def Flaw.message : Flaw → String
  | .schemaVersion => "schemaVersion must be 1"
  | .provider => "provider must be a non-empty string"
  | .moduleName => "module must be a string when present"
  | .probeName place name => s!"probe[{place}].name invalid: " ++ quoted name
  | .repeatedName place name => s!"probe[{place}].name duplicated: " ++ name
  | .argumentType place argument type =>
    s!"probe[{place}].arg_types[{argument}] invalid: " ++ quoted type
  | .noText place none ls => s!"probe[{place}].name invalid: " ++ quotedLetters ls
  | .noText place (some argument) ls =>
    s!"probe[{place}].arg_types[{argument}] invalid: " ++ quotedLetters ls

/-- The first type that is not an allowed one, with its place. -/
def badType? : List String → Option (Nat × String)
  | [] => none
  | type :: rest =>
    if allowedTypes.contains type then (badType? rest).map fun (n, t) => (n + 1, t)
    else some (0, type)

/-- The first flaw of probes, given their place and the names before them. -/
def probesFlaw? (place : Nat) (names : List String) : List Probe → Option Flaw
  | [] => none
  | p :: rest =>
    if !isIdentifier p.name then some (.probeName place p.name)
    else if names.contains p.name then some (.repeatedName place p.name)
    else
      match badType? p.types with
      | some (argument, type) => some (.argumentType place argument type)
      | none => probesFlaw? (place + 1) (p.name :: names) rest

/-- Whether a value is a text that is not empty. -/
def isNamed : Json → Bool
  | .str s => !s.isEmpty
  | _ => false

/-- Whether a value is a text or absent. -/
def isNamedOrNull : Json → Bool
  | .null => true
  | .str _ => true
  | _ => false

/-- The first flaw of a manifest. -/
def flaw? (m : Manifest) : Option Flaw :=
  if !m.schemaVersion.isOne then some .schemaVersion
  else if !isNamed m.provider then some .provider
  else if !isNamedOrNull m.moduleName then some .moduleName
  else probesFlaw? 0 [] m.probes

end Manifest

end ProbeKit
