import ProbeKit.Fault
import ProbeKit.Json.Reader

/-!
# Plugins

A plugin is a file that says how the manifest of a project is made.  Its document exports, in this
order of preference, a list of products that are given out call by call, one manifest, or calls on
a roster.  A product is a document, a manifest, a roster, or a failure with a message.
-/

namespace ProbeKit

/-- A call that adds a probe to a roster. -/
structure RosterCall where
  /-- The name. -/
  name : String
  /-- The types, as they were given. -/
  types : List String
  deriving DecidableEq, Inhabited

/-- Adds the probes of calls to a roster; the first refusal ends it. -/
def Roster.addAll (r : Roster) : List RosterCall → Except RosterError Roster
  | [] => .ok r
  | call :: rest => (r.add call.name call.types).bind fun r => r.addAll rest

/-- The manifest of a roster. -/
def Roster.manifest (r : Roster) (provider moduleName : Json) : Manifest :=
  { provider, moduleName, probes := r.probes }

/-- What a plugin gives. -/
inductive Product where
  /-- A document. -/
  | document (j : Json)
  /-- A manifest. -/
  | manifest (m : Manifest)
  /-- A roster, by its calls. -/
  | roster (provider moduleName : Json) (calls : List RosterCall)
  /-- A failure. -/
  | failure (message : String)
  deriving Inhabited

/-- What a plugin exports. -/
structure Plugin where
  /-- The message of a plugin that refuses to be loaded. -/
  refusal : Option String := none
  /-- The products that are given out call by call. -/
  products : Option (List Product) := none
  /-- The product that is made while the plugin is loaded. -/
  fixed : Option Product := none
  /-- Calls on a roster, and the product that may take its place. -/
  calls : Option (List RosterCall × Option Product) := none
  deriving Inhabited

namespace Plugin

/-! ### Reading -/

/-- The text of a value, empty if it is none. -/
def textOf (j : Json) : String := j.str?.getD ""

/-- The call that an array stands for: the name and the types. -/
def callOf (j : Json) : RosterCall :=
  match j.items with
  | [] => default
  | name :: types => ⟨textOf name, types.map textOf⟩

/-- The probe that a pair of a name and a list of types stands for. -/
def probeOf (j : Json) : Probe :=
  match j.items with
  | [name, types] => ⟨textOf name, types.items.map textOf⟩
  | _ => default

/-- The manifest that an object stands for. -/
def manifestOf (j : Json) : Manifest :=
  { schemaVersion := (j.member? "schema_version").getD (.int 1)
    provider := j.member "provider"
    moduleName := j.member "module"
    probes := (j.member "probes").items.map probeOf }

/-- The product that an object stands for. -/
def productOf (j : Json) : Product :=
  match j.member? "manifest", j.member? "builder", j.member? "raise" with
  | some m, _, _ => .manifest (manifestOf m)
  | none, some r, _ =>
    .roster (r.member "provider") (r.member "module") ((r.member "calls").items.map callOf)
  | none, none, some message => .failure (textOf message)
  | none, none, none => .document (j.member "value")

/-- The plugin that a document stands for; anything but an object exports nothing. -/
def ofJson (j : Json) : Plugin :=
  { refusal := (j.member? "raise").map textOf
    products := (j.member? "to_manifest").map fun l => l.items.map productOf
    fixed := (j.member? "manifest").map productOf
    calls := (j.member? "build_probes").map fun c =>
      ((c.member "calls").items.map callOf, (c.member? "returns").map productOf) }

/-- The plugin in the bytes of a file; what is no document exports nothing. -/
def ofBytes (bytes : ByteArray) : Plugin :=
  (((Text.readText? bytes).bind (Json.read? .usual)).map ofJson).getD {}

/-- Whether a file can be a plugin at all, by its name. -/
def isPlugin (p : Path) : Bool := ".py".toList.isSuffixOf p.name.toList

/-! ### Manifests from products -/

/-- The word for the kind of a value. -/
def kindName : Json → String
  | .null => "NoneType"
  | .bool _ => "bool"
  | .int _ => "int"
  | .float _ => "float"
  | .str _ => "str"
  | .arr _ => "list"
  | .obj _ => "dict"

/-- The manifest of a document that a plugin gave. -/
def coerce (plugin : Path) (j : Json) : Except Fault Manifest :=
  match j with
  | .obj _ => (Manifest.ofJson j).mapError fun e => .source (.malformed plugin e)
  | _ => .error (.source (.noManifest plugin (kindName j)))

/-- The manifest of a roster. -/
def ofCalls (provider moduleName : Json) (calls : List RosterCall) : Except Fault Manifest :=
  match Roster.addAll {} calls with
  | .ok r => .ok (r.manifest provider moduleName)
  | .error e => .error (.roster e)

/-- The manifest of a product. -/
def manifestOfProduct (plugin : Path) : Product → Except Fault Manifest
  | .document j => coerce plugin j
  | .manifest m => .ok m
  | .roster provider moduleName calls => ofCalls provider moduleName calls
  | .failure message => .error (.plugin message)

end Plugin

/-- How a plugin makes manifests. -/
inductive Recipe where
  /-- The products are given out call by call, and the last one for good. -/
  | products (next : List Product)
  /-- It is always the same manifest. -/
  | fixed (m : Manifest)
  /-- Calls on a roster of the project, and the product that may take its place. -/
  | adding (provider moduleName : Json) (calls : List RosterCall) (instead : Option Product)
  deriving Inhabited

namespace Recipe

/-- Makes a manifest; the recipe is then ready for the next one. -/
def make (plugin : Path) : Recipe → Except Fault Manifest × Recipe
  | .products [] => (Plugin.coerce plugin .null, .products [])
  | .products [p] => (Plugin.manifestOfProduct plugin p, .products [p])
  | .products (p :: rest) => (Plugin.manifestOfProduct plugin p, .products rest)
  | .fixed m => (.ok m, .fixed m)
  | .adding provider moduleName calls instead =>
    let own := Plugin.ofCalls provider moduleName calls
    let made :=
      match instead with
      | none => own
      | some (.document .null) => own
      | some p => own.bind fun _ => Plugin.manifestOfProduct plugin p
    (made, .adding provider moduleName calls instead)

/-- Loads a plugin.  A product that is made while loading may fail; there is no recipe if the
plugin exports nothing. -/
def ofPlugin (path : Path) (provider moduleName : Json) (p : Plugin) :
    Except Fault (Option Recipe) := do
  let failed (message : String) : Fault := .source (.loading path message)
  if let some message := p.refusal then throw (failed message)
  let fixed ←
    match p.fixed with
    | some (.failure message) => throw (failed message)
    | some (.roster provider moduleName calls) =>
      match Plugin.ofCalls provider moduleName calls with
      | .ok m => pure (some (Product.manifest m))
      | .error f => throw (failed f.message)
    | other => pure other
  match p.products, fixed, p.calls with
  | some list, _, _ => return some (.products list)
  | none, some product, _ => return some (.fixed (← Plugin.manifestOfProduct path product))
  | none, none, some (calls, instead) => return some (.adding provider moduleName calls instead)
  | none, none, none => return none

end Recipe

end ProbeKit
