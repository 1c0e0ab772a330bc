import ProbeKit.Digest.Sha256
import ProbeKit.Json.Printer
import ProbeKit.Manifest.Basic

/-!
# The text of a manifest

`canonicalText` is the one text of what a manifest says: the members in a fixed order, the probes
sorted by name.  Its digest stands for the manifest wherever two of them are compared.
`developmentText` adds to each probe the argument lists that were seen for it; the digest never
depends on those.  A manifest without a flaw can always be written; any other may be too large for
it, which `canonicalize` and `render` say.
-/

namespace ProbeKit.Manifest

open Text

/-- The probes sorted by name; of one name the earlier stays first. -/
def sortedProbes (m : Manifest) : List Probe :=
  m.probes.mergeSort fun p q => atMost p.name q.name

/-- A list of texts as an array. -/
def textArray (texts : List String) : Json := .arr (texts.map Json.str)

/-- The members that every probe has. -/
def probeMembers (p : Probe) : List (String × Json) :=
  [("name", .str p.name), ("arg_types", textArray p.types)]

/-- The document of a manifest whose probes are already written down. -/
def documentWith (m : Manifest) (probes : List Json) : Json :=
  .obj <|
    [("schemaVersion", m.schemaVersion), ("provider", m.provider)] ++
      (if m.moduleName.isVacant then [] else [("module", m.moduleName)]) ++
      [("probes", .arr probes)]

/-- The document of a manifest. -/
def document (m : Manifest) : Json :=
  m.documentWith (m.sortedProbes.map fun p => .obj (probeMembers p))

/-- The one text of what a manifest says. -/
def canonicalText (m : Manifest) : String := Json.document .unicode m.document

/-- The digest of what a manifest says. -/
def digest (m : Manifest) : String := Digest.hexDigest m.canonicalText

/-- The different argument lists of a name, from the last aggregate that has it. -/
def variantsOf (aggregates : List Aggregate) (name : String) : List (List String) :=
  ((aggregates.reverse.find? (·.name == name)).map Aggregate.variants).getD []

/-- The member that lists the different argument lists of a name, if there are any. -/
def variantMembers (aggregates : List Aggregate) (name : String) : List (String × Json) :=
  match variantsOf aggregates name with
  | [] => []
  | variants => [("variants", .arr (variants.map textArray))]

/-- The document of a manifest with the argument lists that were seen for each name. -/
def developmentDocument (m : Manifest) (aggregates : List Aggregate) : Json :=
  m.documentWith <| m.sortedProbes.map fun p =>
    .obj (probeMembers p ++ variantMembers aggregates p.name)

/-- The text of a manifest with the argument lists that were seen for each name. -/
def developmentText (m : Manifest) (aggregates : List Aggregate) : String :=
  Json.document .unicode (m.developmentDocument aggregates)

/-- The text that is written to disk. -/
def fileText (m : Manifest) (aggregates : List Aggregate) (development : Bool) : String :=
  if development then m.developmentText aggregates else m.canonicalText

/-! ### Manifests that may be too large -/

/-- The one text of what a manifest says, if it can be written. -/
def canonicalize (room : Json.Room) (m : Manifest) : Except Json.Limit String :=
  Json.write room .unicode m.document

/-- The text for the disk, if it can be written. -/
def render (room : Json.Room) (m : Manifest) (aggregates : List Aggregate) (development : Bool) :
    Except Json.Limit String :=
  if development then Json.write room .unicode (m.developmentDocument aggregates)
  else m.canonicalize room

end ProbeKit.Manifest
