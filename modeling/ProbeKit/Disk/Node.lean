/-!
# Trees of files

A node is a file, a symbolic link or a directory with named nodes in it.  A place is the list of
names that leads to a node from the top; no link is followed on the way.
-/

namespace ProbeKit

/-- What a name in a directory stands for. -/
inductive Node where
  /-- A file with its bytes. -/
  | file (bytes : ByteArray)
  /-- A symbolic link with the text that it holds. -/
  | link (target : String)
  /-- A directory with its entries in the order in which they are listed. -/
  | dir (entries : List (String × Node))
  deriving Inhabited

namespace Node

/-- The entries of a directory. -/
def entries : Node → List (String × Node)
  | .dir entries => entries
  | _ => []

/-- Whether a node is a directory. -/
def isDir : Node → Bool
  | .dir _ => true
  | _ => false

/-- Whether a node is a file. -/
def isFile : Node → Bool
  | .file _ => true
  | _ => false

/-- The node at a place. -/
def at? : Node → List String → Option Node
  | node, [] => some node
  | node, name :: rest => (node.entries.lookup name).bind fun child => child.at? rest

/-- Gives a name a node: in its old place, or at the end if the name is new. -/
def setEntry (name : String) (node : Node) : List (String × Node) → List (String × Node)
  | [] => [(name, node)]
  | (n, old) :: rest => if n == name then (n, node) :: rest else (n, old) :: setEntry name node rest

/-- Puts a node at a place, provided that a directory is there to hold it. -/
def put : Node → List String → Node → Node
  | _, [], new => new
  | .dir entries, [name], new => .dir (setEntry name new entries)
  | .dir entries, name :: rest, new =>
    match entries.lookup name with
    | some child => .dir (setEntry name (child.put rest new) entries)
    | none => .dir entries
  | node, _ :: _, _ => node

/-- Removes what is at a place. -/
def erase : Node → List String → Node
  | node, [] => node
  | .dir entries, [name] => .dir (entries.filter (·.1 != name))
  | .dir entries, name :: rest =>
    match entries.lookup name with
    | some child => .dir (setEntry name (child.erase rest) entries)
    | none => .dir entries
  | node, _ :: _ => node

mutual

/-- What comes of putting a node over another: directories are joined, and anything else takes the
place of what was there. -/
def overlay : Node → Node → Node
  | .dir entries, .dir old => .dir (overlayIn entries old)
  | new, _ => new

/-- Puts entries over others, one after the other. -/
def overlayIn : List (String × Node) → List (String × Node) → List (String × Node)
  | [], old => old
  | (name, node) :: rest, old =>
    let joined := match old.lookup name with
      | some there => overlay node there
      | none => node
    overlayIn rest (setEntry name joined old)

end

/-! ### Everything below a node -/

mutual

/-- The files below a node with their places. -/
def files : Node → List (List String × ByteArray)
  | .file bytes => [([], bytes)]
  | .link _ => []
  | .dir entries => filesIn entries

/-- The files below entries with their places. -/
def filesIn : List (String × Node) → List (List String × ByteArray)
  | [] => []
  | (name, node) :: rest => (files node).map (fun f => (name :: f.1, f.2)) ++ filesIn rest

end

mutual

/-- The places of a directory and of all directories below it, each before those below it. -/
def directories : Node → List (List String)
  | .dir entries => [] :: directoriesIn entries
  | _ => []

/-- The places of the directories among entries and below them. -/
def directoriesIn : List (String × Node) → List (List String)
  | [] => []
  | (name, node) :: rest => (directories node).map (name :: ·) ++ directoriesIn rest

end

mutual

/-- All nodes below a directory with their places, each before those below it. -/
def descendants : Node → List (List String × Node)
  | .dir entries => descendantsIn entries
  | _ => []

/-- All nodes among entries and below them, with their places. -/
def descendantsIn : List (String × Node) → List (List String × Node)
  | [] => []
  | (name, node) :: rest =>
    ([name], node) :: (descendants node).map (fun (names, n) => (name :: names, n)) ++
      descendantsIn rest

end

mutual

/-- How many links there are below a node. -/
def linkCount : Node → Nat
  | .file _ => 0
  | .link _ => 1
  | .dir entries => linkCountIn entries

/-- How many links there are among entries and below them. -/
def linkCountIn : List (String × Node) → Nat
  | [] => 0
  | (_, node) :: rest => linkCount node + linkCountIn rest

end

end Node

end ProbeKit
