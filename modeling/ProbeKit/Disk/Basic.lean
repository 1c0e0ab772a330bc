import ProbeKit.Disk.Node
import ProbeKit.Path.Basic
import ProbeKit.Text.Quoted

/-!
# Disks

A disk is a tree of files with a working directory.  `locate` follows a path through the tree the
way a file system does, links included, and every operation on files goes through it.  `resolve`
makes a path absolute and free of links; names that lead nowhere stay as they are, and only links
that lead to themselves are an error.

One file may be held open for appending.  It stays the same file when it is moved, and once it is
removed nothing that is appended can be seen.
-/

namespace ProbeKit

/-- A tree of files with a working directory. -/
structure Disk where
  /-- The top directory. -/
  top : Node
  /-- The place of the working directory. -/
  here : List String
  /-- The place of the file that is held open, unless there is none or it was removed. -/
  held : Option (List String) := none
  deriving Inhabited

/-- Why a file system refuses. -/
inductive Refused where
  /-- A name leads nowhere. -/
  | missing
  /-- A file stands where a directory is needed. -/
  | notDirectory
  /-- A directory stands where a file is needed. -/
  | isDirectory
  /-- The name is taken. -/
  | taken
  /-- What a name leads to must not be used in this way. -/
  | forbidden
  /-- Too many links. -/
  | tooManyLinks
  /-- A name is longer than any can be. -/
  | tooLong
  /-- A name holds a null character. -/
  | nullCharacter
  deriving DecidableEq

/-- A refusal in words. -/
def Refused.words : Refused → String
  | .missing => "No such file or directory"
  | .notDirectory => "Not a directory"
  | .isDirectory => "Is a directory"
  | .taken => "File exists"
  | .forbidden => "Permission denied"
  | .tooManyLinks => "Too many levels of symbolic links"
  | .tooLong => "File name too long"
  | .nullCharacter => "embedded null byte"

/-- The number of a refusal; null characters have none, for they never reach a file system. -/
def Refused.number? : Refused → Option Nat
  | .missing => some 2
  | .notDirectory => some 20
  | .isDirectory => some 21
  | .taken => some 17
  | .forbidden => some 13
  | .tooManyLinks => some 40
  | .tooLong => some 36
  | .nullCharacter => none

/-- The refusal of a name, with its number and the name if it has a number. -/
def Refused.message (reason : Refused) (name : String) : String :=
  match reason.number? with
  | some n => s!"[Errno {n}] " ++ reason.words ++ ": " ++ Text.quoted name
  | none => reason.words

/-- Why an operation on a disk fails. -/
inductive DiskError where
  /-- The file system refuses a path. -/
  | refused (reason : Refused) (path : Path)
  /-- A path runs into links that lead to themselves. -/
  | linkLoop (path : Path)
  deriving DecidableEq

/-- What went wrong, in words. -/
def DiskError.message : DiskError → String
  | .refused reason path => reason.message path.text
  | .linkLoop path => "Symlink loop from " ++ Text.quoted path.text

namespace Disk

/-- The names of a path from the top. -/
def absoluteNames (d : Disk) (p : Path) : List String :=
  if p.isAbsolute then p.names else d.here ++ p.names

/-! ### Following paths -/

/-- How many links a path may lead through. -/
def linkLimit : Nat := 40

/-- How many bytes a name may have. -/
def nameLimit : Nat := 255

/-- Where a path leads. -/
inductive Spot where
  /-- To a node. -/
  | found (place : List String) (node : Node)
  /-- To a free name in a directory. -/
  | free (place : List String)

/-- What a path is followed for. -/
inductive Aim where
  /-- For what the last name stands for, be it a link. -/
  | entry
  /-- For what a link at the end leads to. -/
  | target
  /-- For a file that is made if there is none. -/
  | creation
  deriving DecidableEq

/-- Whether a text begins at the top. -/
def fromTop (target : String) : Bool := target.toList.head? == some '/'

/-- The names in the text of a link.  A slash at the end stays as an empty name and a dot as a dot:
both ask for a directory. -/
def linkNames (target : String) : List String :=
  let names := Path.namesOf target.toList
  match target.toList.reverse with
  | '/' :: _ => names ++ [""]
  | ['.'] | '.' :: '/' :: _ => names ++ ["."]
  | _ => names

/-- Follows names from a place, which is always that of a directory.  The second number counts the
links that may still be met. -/
def walk (top : Node) (aim : Aim) (links : Nat) (place : List String) (names : List String) :
    Except Refused Spot :=
  match names with
  | [] => .ok (.found place ((top.at? place).getD top))
  | name :: rest =>
    if name == ".." then walk top aim links place.dropLast rest
    else if name == "" || name == "." then walk top aim links place rest
    else if aim = .creation && rest == [""] then .error .isDirectory
    else if nameLimit < name.utf8ByteSize then .error .tooLong
    else
      match top.at? (place ++ [name]) with
      | none => if rest.isEmpty then .ok (.free (place ++ [name])) else .error .missing
      | some (.dir _) => walk top aim links (place ++ [name]) rest
      | some (.file bytes) =>
        if rest.isEmpty then .ok (.found (place ++ [name]) (.file bytes)) else .error .notDirectory
      | some (.link target) =>
        if rest.isEmpty && aim = .entry then .ok (.found (place ++ [name]) (.link target))
        else
          -- The target stands in for the link: below the same directory, or from the top.
          match links with
          | 0 => .error .tooManyLinks
          | k + 1 =>
            walk top aim k (if fromTop target then [] else place) (linkNames target ++ rest)
  termination_by (links, names.length)

/-- Whether a text holds a null character. -/
def hasNull (s : String) : Bool := s.toList.contains '\x00'

/-- Where a path leads. -/
def locateFor (aim : Aim) (d : Disk) (p : Path) : Except Refused Spot :=
  if p.names.any hasNull then .error .nullCharacter
  else walk d.top aim linkLimit [] (d.absoluteNames p)

/-- Where a path leads, links included. -/
def locate (d : Disk) (p : Path) : Except Refused Spot := d.locateFor .target p

/-- The node that a path leads to. -/
def node? (d : Disk) (p : Path) : Option Node :=
  match d.locate p with
  | .ok (.found _ node) => some node
  | _ => none

/-- Whether a path leads to something. -/
def hasNode (d : Disk) (p : Path) : Bool := (d.node? p).isSome

/-- Whether a path leads to a directory. -/
def hasDirectory (d : Disk) (p : Path) : Bool := (d.node? p).any Node.isDir

/-- The node that a path leads to, if any.  Only a name that is longer than any can be is an
error. -/
def look (d : Disk) (p : Path) : Except DiskError (Option Node) :=
  match d.locate p with
  | .ok (.found _ node) => .ok (some node)
  | .error .tooLong => .error (.refused .tooLong p)
  | _ => .ok none

/-- The names in the directory that a path leads to. -/
def namesIn (d : Disk) (p : Path) : List String :=
  ((d.node? p).map fun node => node.entries.map (·.1)).getD []

/-! ### Reading and writing -/

/-- The bytes of a file. -/
def read (d : Disk) (p : Path) : Except DiskError ByteArray :=
  match d.locate p with
  | .ok (.found _ (.file bytes)) => .ok bytes
  | .ok (.found _ _) => .error (.refused .isDirectory p)
  | .ok (.free _) => .error (.refused .missing p)
  | .error reason => .error (.refused reason p)

/-- The bytes of a file, if it can be read. -/
def read? (d : Disk) (p : Path) : Option ByteArray := (d.read p).toOption

/-- The bytes of a file, if it can be read.  Only a path that no file can have is an error. -/
def readIfAny (d : Disk) (p : Path) : Except DiskError (Option ByteArray) :=
  match d.read p with
  | .ok bytes => .ok (some bytes)
  | .error (.refused .nullCharacter p) => .error (.refused .nullCharacter p)
  | .error _ => .ok none

/-- Gives a file its bytes; the file is made if its name is free. -/
def write (d : Disk) (p : Path) (bytes : ByteArray) : Except DiskError Disk :=
  match d.locateFor .creation p with
  | .ok (.found place (.file _)) => .ok { d with top := d.top.put place (.file bytes) }
  | .ok (.found _ _) => .error (.refused .isDirectory p)
  | .ok (.free place) => .ok { d with top := d.top.put place (.file bytes) }
  | .error reason => .error (.refused reason p)

/-- Makes a directory under a free name. -/
def makeDirectory (d : Disk) (p : Path) : Except Refused Disk :=
  match d.locateFor .entry p with
  | .ok (.found _ _) => .error .taken
  | .ok (.free place) => .ok { d with top := d.top.put place (.dir []) }
  | .error reason => .error reason

/-- Makes a directory unless it is there; the directory that is to hold it must be there. -/
def ensureDirectory (d : Disk) (p : Path) : Except DiskError Disk :=
  match d.makeDirectory p with
  | .ok d => .ok d
  | .error .missing => .error (.refused .missing p)
  | .error reason => if d.hasDirectory p then .ok d else .error (.refused reason p)

/-- Makes a directory and those that are to hold it, unless they are there. -/
def ensureDirectories (d : Disk) (p : Path) : Except DiskError Disk :=
  match d.ensureDirectory p with
  | .error (.refused .missing q) =>
    if _h : p.names = [] then .error (.refused .missing q)
    else (d.ensureDirectories p.parent).bind fun d => d.ensureDirectory p
  | result => result
  termination_by p.names.length
  decreasing_by exact Path.length_names_parent_lt _h

/-- Removes what is at a place, and lets go of the file that is held open if it is there. -/
def eraseAt (d : Disk) (place : List String) : Disk :=
  { d with top := d.top.erase place, held := d.held.filter fun held => !place.isPrefixOf held }

/-- Puts a node at a place instead of what is there. -/
def putAt (d : Disk) (place : List String) (node : Node) : Disk :=
  let d := d.eraseAt place
  { d with top := d.top.put place node }

/-- Removes the file, the link or the whole directory at a path, if there is one. -/
def remove (d : Disk) (p : Path) : Disk :=
  match d.locateFor .entry p with
  | .ok (.found place _) => d.eraseAt place
  | _ => d

/-- Puts a node at a path in place of what is there. -/
def place (d : Disk) (p : Path) (node : Node) : Disk :=
  match d.locateFor .entry p with
  | .ok (.found place _) => d.putAt place node
  | .ok (.free place) => d.putAt place node
  | .error _ => d

/-- Moves what is at one place to another, in place of what is there. -/
def moveTo (d : Disk) (source target : List String) (node : Node) : Disk :=
  if source = target then d
  else
    let held := d.held.bind fun place =>
      if source.isPrefixOf place then some (target ++ place.drop source.length)
      else if target.isPrefixOf place then none
      else some place
    { (d.eraseAt source).putAt target node with held }

/-- Moves what is at one path to another. -/
def rename (d : Disk) (source target : Path) : Disk :=
  match d.locateFor .entry source, d.locateFor .entry target with
  | .ok (.found from_ node), .ok (.found to_ _) => d.moveTo from_ to_ node
  | .ok (.found from_ node), .ok (.free to_) => d.moveTo from_ to_ node
  | _, _ => d

/-! ### The file that is held open -/

/-- Opens a file for appending, makes it if there is none, and holds it open. -/
def hold (d : Disk) (p : Path) : Except DiskError Disk := do
  let d ← d.write p ((d.read? p).getD ByteArray.empty)
  match d.locate p with
  | .ok (.found place _) => return { d with held := some place }
  | _ => return { d with held := none }

/-- Appends bytes to the file at a place, if there is one. -/
def appendAt (d : Disk) (place : List String) (bytes : ByteArray) : Disk :=
  match d.top.at? place with
  | some (.file old) => { d with top := d.top.put place (.file (old ++ bytes)) }
  | _ => d

/-- Appends bytes to the file that is held open. -/
def appendHeld (d : Disk) (bytes : ByteArray) : Disk :=
  match d.held with
  | some place => d.appendAt place bytes
  | none => d

/-! ### Resolving paths -/

/-- Links met so far, each with the place it leads to once that is known. -/
abbrev Met := List (List String × Option (List String))

/-- Goes on to names behind a place, given with the empty names between slashes; an empty name in
front of others leads back to the top. -/
def joinNames (place names : List String) : List String :=
  match names with
  | "" :: _ :: _ => names
  | _ => place ++ names

/-- Replaces links in names from a place.  The flag of the result is false if a link led to
itself; the names from there on are kept.  The first argument bounds the nesting of links. -/
def follow (top : Node) (depth : Nat) (met : Met) (place names : List String) :
    Met × List String × Bool :=
  match names with
  | [] => (met, place, true)
  | name :: rest =>
    if name == ".." then follow top depth met place.dropLast rest
    else if name == "" || name == "." then follow top depth met place rest
    else
      let next := place ++ [name]
      match top.at? next with
      | some (.link target) =>
        match met.lookup next with
        -- A link that was followed to its end leads to the same place again.
        | some (some known) => follow top depth met known rest
        -- A link that is still being followed has led to itself.
        | some none => (met, joinNames next rest, false)
        | none =>
          match depth with
          | 0 => (met, joinNames next rest, false)
          | k + 1 =>
            match follow top k ((next, none) :: met) (if fromTop target then [] else place)
                (target.splitOn "/") with
            | (met, led, true) => follow top (k + 1) ((next, some led) :: met) led rest
            | (met, led, false) => (met, joinNames led rest, false)
      | _ => follow top depth met next rest
  termination_by (depth, names.length)

/-- Takes out each pair of dots with the name before it, and what stands for no name. -/
def withoutDots (names : List String) : List String :=
  names.foldl (fun place name =>
    if name == ".." then place.dropLast
    else if name == "" || name == "." then place
    else place ++ [name]) []

/-- The absolute path that a path stands for if no link is followed. -/
def absolute (d : Disk) (p : Path) : Path := ⟨.root, withoutDots (d.absoluteNames p)⟩

/-- The absolute path without links that a path stands for; what does not exist stays as it
is. -/
def resolve (d : Disk) (p : Path) : Except DiskError Path :=
  if p.names.any hasNull then .error (.refused .nullCharacter p)
  else
    let (_, place, _) := follow d.top (d.top.linkCount + 1) [] [] (d.absoluteNames p)
    let q : Path := ⟨.root, withoutDots place⟩
    match d.locate q with
    | .error .tooManyLinks => .error (.linkLoop q)
    | _ => .ok q

end Disk

end ProbeKit
