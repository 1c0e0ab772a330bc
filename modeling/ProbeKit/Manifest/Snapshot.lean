import ProbeKit.Json.Printer
import ProbeKit.Json.Reader
import ProbeKit.Manifest.Basic
import ProbeKit.Text.Encoding

/-!
# Snapshots

A snapshot keeps the probes of the last build as a sorted list of lines.  A file is taken for a
snapshot only if it is an array of texts that all have a bar.  A file that is too large to be read,
and lines that no file can hold, stop whoever asks for them.  `Change.between` lists what came and
what went.
-/

namespace ProbeKit.Snapshot

open Text

/-- The text of the snapshot of a manifest. -/
def text (m : Manifest) : String :=
  Json.document .ascii (.arr (m.entries.map Json.str))

/-- Why the lines of a snapshot cannot be used. -/
inductive Unusable where
  /-- Something in the file is too large. -/
  | limit (l : Json.Limit)
  /-- A line holds a lone half of a surrogate pair. -/
  | broken
  deriving DecidableEq

/-- The lines of a document, if it is a snapshot. -/
def ofRaw (j : Json.Raw) : Except Unusable (Option (List String)) :=
  match j.strings? with
  | none => .ok none
  | some lines =>
    if !lines.all fun line => line.contains (.char '|') then .ok none
    else if lines.all isWhole then .ok (some (lines.map shown))
    else .error .broken

/-- The lines in the bytes of a file, if it is a snapshot. -/
def read (room : Json.Room) (bytes : ByteArray) : Except Unusable (Option (List String)) :=
  match (readText? bytes).map (Json.read room) with
  | some (.ok j) => ofRaw j
  | some (.error (.limit l)) => .error (.limit l)
  | _ => .ok none

/-- The probes that lines stand for. -/
def probes (lines : List String) : List Probe := lines.map Probe.ofEntry

/-- The lines that came and those that went. -/
structure Change where
  /-- The lines that came, in order. -/
  added : List String
  /-- The lines that went, in order. -/
  removed : List String
  deriving DecidableEq, Inhabited

/-- The different lines of the first list that are not in the second, in order. -/
def missing (lines others : List String) : List String :=
  sorted (lines.filter fun line => !others.contains line).eraseDups

/-- What changed from one list of lines to another. -/
def Change.between (before after : List String) : Change :=
  ⟨missing after before, missing before after⟩

/-- Whether nothing changed. -/
def Change.isEmpty (c : Change) : Bool := c.added.isEmpty && c.removed.isEmpty

end ProbeKit.Snapshot
