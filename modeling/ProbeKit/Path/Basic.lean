import ProbeKit.Text.Order

/-!
# Paths

A path is a list of names behind an anchor.  Empty names and single dots vanish when a path is
read or joined, double dots stay, and an absolute path on the right of a join replaces the left.
Two leading slashes are an anchor of their own.
-/

namespace ProbeKit

/-- Where a path begins. -/
inductive Anchor where
  /-- At the place that it is joined to. -/
  | relative
  /-- At the root. -/
  | root
  /-- At the root, written with two slashes. -/
  | doubleRoot
  deriving DecidableEq, Inhabited

/-- The slashes of an anchor. -/
def Anchor.text : Anchor → String
  | .relative => ""
  | .root => "/"
  | .doubleRoot => "//"

/-- A path: names behind an anchor. -/
structure Path where
  /-- Where the path begins. -/
  anchor : Anchor := .relative
  /-- The names on the way, the last one at the end. -/
  names : List String := []
  deriving DecidableEq, Inhabited

namespace Path

/-- The names between slashes; empty ones and single dots are dropped. -/
def namesOf (cs : List Char) : List String :=
  ((cs.splitOn '/').filter fun name => !name.isEmpty && name != ['.']).map String.ofList

/-- The anchor that leading slashes make: three and more count as one. -/
def anchorOf : List Char → Anchor
  | '/' :: '/' :: '/' :: _ => .root
  | '/' :: '/' :: _ => .doubleRoot
  | '/' :: _ => .root
  | _ => .relative

/-- The path that a text stands for. -/
def ofString (s : String) : Path := ⟨anchorOf s.toList, namesOf s.toList⟩

/-- Whether a path does not depend on where it is joined. -/
def isAbsolute (p : Path) : Bool := p.anchor != .relative

/-- A path seen from another. -/
def append (p q : Path) : Path := if q.isAbsolute then q else ⟨p.anchor, p.names ++ q.names⟩

instance : HAppend Path Path Path := ⟨append⟩

/-- A path that is one name longer. -/
def child (p : Path) (name : String) : Path := ⟨p.anchor, p.names ++ [name]⟩

/-- A path seen from another, given by its text. -/
def join (p : Path) (s : String) : Path := p ++ ofString s

/-- The text of a path; a single dot for the empty one. -/
def text (p : Path) : String :=
  if p.anchor == .relative && p.names.isEmpty then "."
  else p.anchor.text ++ "/".intercalate p.names

/-- The last name; empty if there is none. -/
def name (p : Path) : String := p.names.getLastD ""

/-- The path without its last name; a path without names stays. -/
def parent (p : Path) : Path := ⟨p.anchor, p.names.dropLast⟩

theorem length_names_parent_lt {p : Path} (h : p.names ≠ []) :
    p.parent.names.length < p.names.length := by
  have := List.length_pos_iff.2 h
  simp only [parent, List.length_dropLast]
  omega

/-- The last dot of a name and what follows it, unless the dot begins or ends the name. -/
def suffixOf (name : List Char) : List Char :=
  let afterDot := (name.reverse.takeWhile (· != '.')).reverse
  let stem := name.take (name.length - afterDot.length - 1)
  if name.contains '.' && !afterDot.isEmpty && !stem.isEmpty then '.' :: afterDot else []

/-- The suffix of the last name. -/
def suffix (p : Path) : String := String.ofList (suffixOf p.name.toList)

/-- The names of a path behind those of another, provided that the other leads to it. -/
def below? (p base : Path) : Option (List String) :=
  if p.anchor = base.anchor ∧ base.names.isPrefixOf p.names then
    some (p.names.drop base.names.length)
  else none

/-- A path from the place of another if that leads to it, and else the path itself. -/
def relativeTo (p base : Path) : Path :=
  match p.below? base with
  | some names => ⟨.relative, names⟩
  | none => p

/-- What paths are ordered by: the anchor and the names, one after the other. -/
def orderKey (p : Path) : List String :=
  if p.anchor == .relative then p.names else p.anchor.text :: p.names

/-- Whether a path comes before another or equals it. -/
def atMost (p q : Path) : Bool := Text.listAtMost p.orderKey q.orderKey

/-- Different paths in order. -/
def sorted (paths : List Path) : List Path := paths.eraseDups.mergeSort atMost

end Path

end ProbeKit
