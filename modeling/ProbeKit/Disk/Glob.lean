import ProbeKit.Disk.Basic
import ProbeKit.Path.Wildcard

/-!
# Patterns for paths

A pattern is a path whose names may be wildcards.  A name of two stars stands for a directory and
all directories below it, links left aside, and a slash at the end asks for directories.
`Disk.matching` lists the paths under a base that fit.
-/

namespace ProbeKit

/-- One name of a pattern. -/
inductive GlobPart where
  /-- The directory itself and all directories below it. -/
  | anywhere
  /-- The directory above. -/
  | up
  /-- Any name that fits a wildcard. -/
  | wildcard (parts : List WildcardPart)
  /-- One name. -/
  | name (name : String)
  /-- The place that was reached. -/
  | here
  deriving DecidableEq

/-- Why a text is no pattern. -/
inductive GlobError where
  /-- The text is empty. -/
  | empty
  /-- The pattern begins at the top. -/
  | absolute
  /-- Two stars stand beside something else. -/
  | stars
  /-- The pattern has no names. -/
  | noNames
  /-- The pattern has no names and asks for a directory. -/
  | noNamesBeforeSlash
  deriving DecidableEq

/-- What is wrong, in words. -/
def GlobError.message : GlobError → String
  | .empty => "Unacceptable pattern: ''"
  | .absolute => "Non-relative patterns are unsupported"
  | .stars => "Invalid pattern: '**' can only be an entire path component"
  | .noNames => "tuple index out of range"
  | .noNamesBeforeSlash => "'_TerminatingSelector' object has no attribute 'select_from'"

namespace Glob

/-- Whether two stars stand side by side. -/
def hasStars : List Char → Bool
  | '*' :: '*' :: _ => true
  | _ :: cs => hasStars cs
  | [] => false

/-- Whether a name has anything that makes it a wildcard. -/
def isWildcard (cs : List Char) : Bool := cs.any fun c => c == '*' || c == '?' || c == '['

/-- What a name of a pattern stands for. -/
def part (name : String) : Except GlobError GlobPart :=
  if name == "**" then .ok .anywhere
  else if name == ".." then .ok .up
  else if hasStars name.toList then .error .stars
  else if isWildcard name.toList then .ok (.wildcard (Wildcard.parse name))
  else .ok (.name name)

/-- The parts of a pattern. -/
def parse (pattern : String) : Except GlobError (List GlobPart) := do
  let path := Path.ofString pattern
  if pattern.isEmpty then throw .empty
  if path.isAbsolute then throw .absolute
  let wantsDirectory := pattern.toList.getLast? == some '/'
  if path.names.isEmpty then throw (if wantsDirectory then .noNamesBeforeSlash else .noNames)
  let parts ← path.names.mapM part
  return if wantsDirectory then parts ++ [.here] else parts

/-- The paths from a base that fit the parts. -/
def select (d : Disk) : List GlobPart → Path → Except DiskError (List Path)
  | [], p => .ok [p]
  | .here :: _, p => .ok [p]
  | .up :: rest, p => select d rest (p.child "..")
  | .name name :: rest, p => do
    let node ← d.look (p.child name)
    if node.any fun node => rest.isEmpty || node.isDir then select d rest (p.child name)
    else return []
  | .wildcard parts :: rest, p => do
    let names := (d.namesIn p).filter (Wildcard.covers parts)
    return (← names.mapM fun name => do
      let fits := rest.isEmpty || ((← d.look (p.child name)).any Node.isDir)
      if fits then select d rest (p.child name) else return []).flatten
  | .anywhere :: rest, p => do
    let places := ((d.node? p).map Node.directories).getD []
    return (← places.mapM fun names => select d rest ⟨p.anchor, p.names ++ names⟩).flatten

end Glob

/-- The paths under a base that fit the parts of a pattern. -/
def Disk.matching (d : Disk) (base : Path) (parts : List GlobPart) :
    Except DiskError (List Path) := do
  if (← d.look base).any Node.isDir then Glob.select d parts base else return []

end ProbeKit
