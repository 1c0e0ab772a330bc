import ProbeKit.Json.Reader
import ProbeKit.Manifest.Basic
import ProbeKit.Text.Encoding

/-!
# Reading manifests

`ofJson` takes a manifest from a document and `parse` from its text.  Only the shape is checked:
a root with a list of probes, each with a name and perhaps a list of types.  Types are brought
into their proper spelling, unknown ones are kept, and a module that is empty counts as absent.

A text can also be too large to be read, or spell lone halves of surrogate pairs.  Halves that the
manifest does not keep are of no account.  With others it is a manifest all the same, but one that
no file can hold; `Unread.broken` says what flaw it has, if any.
-/

namespace ProbeKit.Manifest

open Text

/-- Why a document is no manifest; a probe is named by its place. -/
inductive Malformed where
  /-- The text is not JSON. -/
  | notJson (refusal : Json.Refusal)
  /-- The root is no object. -/
  | root
  /-- There is no list of probes. -/
  | probes
  /-- A probe is no object. -/
  | probe (place : Nat)
  /-- The name of a probe is no text. -/
  | probeName (place : Nat)
  /-- The types of a probe are no list of texts. -/
  | probeTypes (place : Nat)

/-- What is wrong, in words. -/
def Malformed.message : Malformed → String
  | .notJson refusal => "manifest is not valid JSON: " ++ refusal.message
  | .root => "manifest root must be an object"
  | .probes => "probes must be an array"
  | .probe place => s!"probe[{place}] must be an object"
  | .probeName place => s!"probe[{place}].name must be a string"
  | .probeTypes place => s!"probe[{place}].arg_types must be an array of strings"

/-- The probe that an object stands for. -/
def probeOfJson (place : Nat) (j : Json) : Except Malformed Probe :=
  match j with
  | .obj _ =>
    match j.member "name" with
    | .str name =>
      match ((j.member? "arg_types").getD (.arr [])).strings? with
      | some types => .ok ⟨name, types.map properType⟩
      | none => .error (.probeTypes place)
    | _ => .error (.probeName place)
  | _ => .error (.probe place)

/-- The probes that the items of an array stand for. -/
def probesOfJson (place : Nat) : List Json → Except Malformed (List Probe)
  | [] => .ok []
  | j :: rest => do
    let p ← probeOfJson place j
    return p :: (← probesOfJson (place + 1) rest)

/-- The manifest that a document stands for. -/
def ofJson (j : Json) : Except Malformed Manifest :=
  match j with
  | .obj _ =>
    match j.member "probes" with
    | .arr items => do
      let probes ← probesOfJson 0 items
      let moduleName := j.member "module"
      return {
        schemaVersion := j.member "schemaVersion"
        provider := j.member "provider"
        moduleName := if moduleName.isVacant then .null else moduleName
        probes }
    | _ => .error .probes
  | _ => .error .root

/-! ### Texts that are not whole -/

/-- Why a text gives no manifest that a file can hold. -/
inductive Unread where
  /-- It is no manifest. -/
  | malformed (reason : Malformed)
  /-- Something in it is too large. -/
  | limit (l : Json.Limit)
  /-- Its manifest holds a lone half of a surrogate pair; with the flaw that it has, if any. -/
  | broken (flaw : Option Flaw)

/-- What a manifest keeps of a document. -/
def kept (j : Json.Raw) : List Json.Raw :=
  j.member (letters "schemaVersion") :: j.member (letters "provider") ::
    j.member (letters "module") ::
      (j.member (letters "probes")).items.flatMap fun p =>
        [p.member (letters "name"), p.member (letters "arg_types")]

/-- The letters of a name, or of the type of an argument, in a document. -/
def lettersAt (j : Json.Raw) (place : Nat) (argument : Option Nat) : List Letter :=
  let p := (j.member (letters "probes")).items[place]?.getD .null
  let text := match argument with
    | none => p.member (letters "name")
    | some argument => (p.member (letters "arg_types")).items[argument]?.getD .null
  text.str?.getD []

/-- A flaw as the document spells it. -/
def Flaw.spelled (j : Json.Raw) (flaw : Flaw) : Flaw :=
  let respelled (place : Nat) (argument : Option Nat) : Flaw :=
    if isWhole (lettersAt j place argument) then flaw
    else .noText place argument (lettersAt j place argument)
  match flaw with
  | .probeName place _ => respelled place none
  | .argumentType place argument _ => respelled place (some argument)
  | flaw => flaw

/-- The manifest that a document just read stands for. -/
def ofRaw (j : Json.Raw) : Except Unread Manifest :=
  match ofJson (j.map shown) with
  | .error reason => .error (.malformed reason)
  | .ok m =>
    if (kept j).all (·.allTexts isWhole) then .ok m
    else .error (.broken (m.flaw?.map (Flaw.spelled j)))

/-- The manifest that a text stands for. -/
def parse (room : Json.Room) (text : String) : Except Unread Manifest :=
  match Json.read room text with
  | .ok j => ofRaw j
  | .error (.refused refusal) => .error (.malformed (.notJson refusal))
  | .error (.limit l) => .error (.limit l)

/-- What reading the bytes of a file gives, if they are a text. -/
def parseBytes? (room : Json.Room) (bytes : ByteArray) : Option (Except Unread Manifest) :=
  (readText? bytes).map (parse room)

/-- The manifest in the bytes of a file, if there is one that a file can hold. -/
def ofBytes? (room : Json.Room) (bytes : ByteArray) : Option Manifest :=
  (parseBytes? room bytes).bind Except.toOption

end ProbeKit.Manifest
