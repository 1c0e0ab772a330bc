import ProbeKit.Path.Basic

/-!
# Events

An event says that a file was added, changed or removed.  A notice names files in the words of
whoever noticed; a report is what a file system says, and most reports stand for a notice.
-/

namespace ProbeKit

/-! ### Kinds of events -/

/-- What is said to have happened to a file. -/
inductive EventKind where
  /-- It was added. -/
  | add
  /-- It was changed. -/
  | change
  /-- It was removed. -/
  | unlink
  /-- It was renamed, or something was renamed to it. -/
  | raw
  /-- Something else. -/
  | other (name : String)
  deriving DecidableEq, Inhabited

namespace EventKind

/-- The word for a kind. -/
def text : EventKind → String
  | .add => "add"
  | .change => "change"
  | .unlink => "unlink"
  | .raw => "raw"
  | .other name => name

/-- The kind that a word stands for. -/
def ofString (s : String) : EventKind :=
  if s == "add" then .add
  else if s == "change" then .change
  else if s == "unlink" then .unlink
  else if s == "raw" then .raw
  else .other s

/-- What a look at a renamed file shows; nothing if it is to be looked at again. -/
def ofLook (present tracked : Bool) (retriesLeft : Int) : Option EventKind :=
  if present then some (if tracked then .change else .add)
  else if 0 < retriesLeft then none
  else some .unlink

end EventKind

/-- An event: a file, and what happened to it. -/
structure Event where
  /-- What happened. -/
  kind : EventKind
  /-- The file. -/
  path : Path
  deriving DecidableEq, Inhabited

/-- A notice: files by their names, and what happened to them. -/
structure Notice where
  /-- What happened. -/
  kind : EventKind
  /-- The names. -/
  names : List String
  deriving DecidableEq, Inhabited

/-! ### Notices from a file system -/

/-- What a file system reports. -/
inductive NativeKind where
  /-- Something was made. -/
  | created
  /-- Something was changed. -/
  | modified
  /-- Something was removed. -/
  | deleted
  /-- Something was renamed. -/
  | moved
  /-- Anything else. -/
  | other
  deriving DecidableEq, Inhabited

/-- A report of a file system. -/
structure NativeReport where
  /-- What happened. -/
  kind : NativeKind
  /-- The name. -/
  source : String
  /-- The new name, empty if there is none. -/
  target : String
  /-- Whether it happened to a directory. -/
  isDirectory : Bool
  deriving DecidableEq, Inhabited

/-- The notice that a report stands for; directories and all else make none. -/
def NativeReport.notice? (r : NativeReport) : Option Notice :=
  if r.isDirectory then none
  else
    match r.kind with
    | .created => some ⟨.add, [r.source]⟩
    | .modified => some ⟨.change, [r.source]⟩
    | .deleted => some ⟨.unlink, [r.source]⟩
    | .moved => some ⟨.raw, [r.source, r.target].filter (!·.isEmpty)⟩
    | .other => none

end ProbeKit
