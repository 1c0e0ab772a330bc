import ProbeKit.Path.Wildcard
import ProbeKit.Text.Blank

/-!
# Exclusions

An exclusion is a wildcard that takes files out of a scan.  A slash at its end restricts it to
directories, and a slash at its beginning, or anywhere inside, makes it look at whole paths; any
other exclusion looks at each name of a path on its own.
-/

namespace ProbeKit

/-- A wildcard that takes paths out of a scan. -/
structure Exclusion where
  /-- The text of the wildcard, without the slashes at its ends. -/
  pattern : String
  /-- Whether it applies to directories only. -/
  directoriesOnly : Bool
  /-- Whether a slash stood in front. -/
  anchored : Bool
  deriving DecidableEq, Inhabited

namespace Exclusion

/-- The exclusion that a text stands for; blanks around it do not count. -/
def ofString? (text : String) : Option Exclusion :=
  let cs := Text.trim text.toList
  let directoriesOnly := cs.getLast? == some '/'
  let cs := if directoriesOnly then cs.dropLast else cs
  let anchored := cs.head? == some '/'
  let cs := if anchored then cs.drop 1 else cs
  if cs.isEmpty then none else some ⟨String.ofList cs, directoriesOnly, anchored⟩

/-- Whether the wildcard looks at whole paths. -/
def takesWholePath (e : Exclusion) : Bool := e.anchored || e.pattern.toList.contains '/'

/-- Whether a path, relative and with slashes, is taken out. -/
def excludes (e : Exclusion) (path : String) (isDirectory : Bool) : Bool :=
  let parts := Wildcard.parse e.pattern
  if e.directoriesOnly && !isDirectory then false
  else if e.takesWholePath then Wildcard.covers parts path
  else (path.toList.splitOn '/').any fun name => Wildcard.covers parts (String.ofList name)

end Exclusion

end ProbeKit
