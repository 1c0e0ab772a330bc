import ProbeKit.Outside.Yaml.Scalar
import ProbeKit.Outside.Yaml.Scan

/-!
# YAML nodes

A node is what tokens make: a text, a list of items, a mapping, or an alias of a node that was
named before.  Each node but an alias has a kind, from its tag or from the look of its text.
`Tree.ofTokens?` reads the nodes of a text that holds one document at most.  Every step looks at
the next token alone, so the first fault of a text is found wherever it is.
-/

namespace ProbeKit.Outside.Yaml

/-- A part of a document. -/
inductive Node where
  /-- A text. -/
  | scalar (kind : Kind) (text : String)
  /-- A list. -/
  | items (kind : Kind) (nodes : List Node)
  /-- A mapping. -/
  | members (kind : Kind) (nodes : List (Node × Node))
  /-- A node that was named before. -/
  | alias (name : String)
  deriving Inhabited

/-- A document: its root, and the nodes that have names. -/
structure Tree where
  /-- The root. -/
  root : Node
  /-- The nodes that have names. -/
  named : List (String × Node)

/-- The node that nothing at all stands for. -/
def Node.nothing : Node := .scalar .null ""

/-! ### Kinds from tags -/

/-- The beginning of the tags of the language. -/
def languageTags : String := "tag:yaml.org,2002:"

/-- The kinds by the ends of their tags. -/
def tagKinds : List (String × Kind) :=
  [("null", .null), ("bool", .bool), ("int", .int), ("float", .float), ("binary", .binary),
    ("timestamp", .moment), ("omap", .pairs), ("pairs", .pairs), ("set", .set), ("str", .str),
    ("seq", .items), ("map", .members), ("merge", .merge), ("value", .default)]

/-- The kind that a tag asks for. -/
def Kind.ofTag (tag : String) : Kind :=
  ((tagKinds.find? fun k => languageTags ++ k.1 == tag).map (·.2)).getD .unknown

/-- The kind of a text. -/
def Kind.ofScalar (tag : Option String) (text : String) (plain : Bool) : Kind :=
  match tag with
  | none => if plain then .ofPlain text else .str
  | some tag => if tag == "!" then .ofPlain text else .ofTag tag

/-- The kind of a list or a mapping that is of a kind by itself. -/
def Kind.ofCollection (tag : Option String) (own : Kind) : Kind :=
  match tag with
  | none => own
  | some tag => if tag == "!" then own else .ofTag tag

/-! ### Reading nodes -/

/-- What is known while nodes are read. -/
structure Reading where
  /-- The tokens to come. -/
  tokens : List Token
  /-- The handles of tags. -/
  handles : List (String × String)
  /-- The names that were given. -/
  names : List String := []
  /-- The nodes that have names and are complete. -/
  named : List (String × Node) := []
  /-- What is wrong where the tokens end. -/
  ending : Problem

namespace Reading

/-- The reading behind the next token. -/
def next (r : Reading) : Reading := { r with tokens := r.tokens.drop 1 }

/-- Fails at the next token. -/
def fail {α : Type} (r : Reading) : Except Problem α :=
  .error (if r.tokens.isEmpty then r.ending else .malformed)

/-- Whether the next token is among some; there has to be one. -/
def sees (r : Reading) (among : List Token) : Except Problem Bool :=
  match r.tokens with
  | [] => r.fail
  | token :: _ => .ok (among.contains token)

/-- Remembers a node under its name. -/
def keep (r : Reading) (anchor : Option String) (node : Node) : Reading :=
  match anchor with
  | some name => { r with named := (name, node) :: r.named }
  | none => r

/-- The name and the tag in front of a node, in either order. -/
def properties (r : Reading) : Option String × Option (Option String × String) × Reading :=
  match r.tokens with
  | .anchor name :: .tag handle rest :: more =>
    (some name, some (handle, rest), { r with tokens := more })
  | .tag handle rest :: .anchor name :: more =>
    (some name, some (handle, rest), { r with tokens := more })
  | .anchor name :: more => (some name, none, { r with tokens := more })
  | .tag handle rest :: more => (none, some (handle, rest), { r with tokens := more })
  | _ => (none, none, r)

/-- A tag in full. -/
def fullTag (r : Reading) : Option (Option String × String) → Except Problem (Option String)
  | none => .ok none
  | some (none, rest) => .ok (some rest)
  | some (some handle, rest) =>
    match r.handles.lookup handle with
    | some start => .ok (some (start ++ rest))
    | none => .error .malformed

/-- Gives a name to the node that follows; no name is given twice. -/
def register (r : Reading) : Option String → Except Problem Reading
  | none => .ok r
  | some name =>
    if r.names.contains name then .error .malformed else .ok { r with names := name :: r.names }

end Reading

mutual

/-- Reads a node.  `block` says whether it may be a block, and `bare` whether its items may stand
without a block of their own. -/
def readNode (block bare : Bool) : Nat → Reading → Except Problem (Node × Reading)
  | 0, _ => .error .malformed
  | fuel + 1, r =>
    match r.tokens with
    | .alias name :: _ =>
      if r.names.contains name then .ok (.alias name, r.next) else .error .malformed
    | _ => do
      let (anchor, tag, r) := r.properties
      if r.tokens.isEmpty then r.fail
      let tag ← r.fullTag tag
      let r ← r.register anchor
      match r.tokens with
      | .scalar text plain :: _ =>
        let node := Node.scalar (.ofScalar tag text plain) text
        return (node, r.next.keep anchor node)
      | .openBracket :: _ => do
        let (nodes, r) ← readFlowItems true fuel r.next
        let node := Node.items (.ofCollection tag .items) nodes
        return (node, r.keep anchor node)
      | .openBrace :: _ => do
        let (nodes, r) ← readFlowMembers true fuel r.next
        let node := Node.members (.ofCollection tag .members) nodes
        return (node, r.keep anchor node)
      | first :: _ =>
        if bare && first == .dash then do
          let (nodes, r) ← readBareItems fuel r
          let node := Node.items (.ofCollection tag .items) nodes
          return (node, r.keep anchor node)
        else if block && first == .blockItems then do
          let (nodes, r) ← readItems fuel r.next
          let node := Node.items (.ofCollection tag .items) nodes
          return (node, r.keep anchor node)
        else if block && first == .blockMembers then do
          let (nodes, r) ← readMembers fuel r.next
          let node := Node.members (.ofCollection tag .members) nodes
          return (node, r.keep anchor node)
        else if anchor.isSome || tag.isSome then
          let node := Node.scalar (.ofScalar tag "" true) ""
          return (node, r.keep anchor node)
        else r.fail
      | [] => r.fail

/-- Reads a node unless one of some tokens comes next. -/
def readUnless (among : List Token) (block bare : Bool) :
    Nat → Reading → Except Problem (Node × Reading)
  | 0, _ => .error .malformed
  | fuel + 1, r => do
    if ← r.sees among then return (.nothing, r)
    readNode block bare fuel r

/-- Reads the items of a block. -/
def readItems : Nat → Reading → Except Problem (List Node × Reading)
  | 0, _ => .error .malformed
  | fuel + 1, r =>
    match r.tokens with
    | .dash :: _ => do
      let (node, r) ← readUnless [.dash, .blockEnd] true false fuel r.next
      let (nodes, r) ← readItems fuel r
      return (node :: nodes, r)
    | .blockEnd :: _ => .ok ([], r.next)
    | _ => r.fail

/-- Reads items that stand without a block of their own. -/
def readBareItems : Nat → Reading → Except Problem (List Node × Reading)
  | 0, _ => .error .malformed
  | fuel + 1, r =>
    match r.tokens with
    | .dash :: _ => do
      let (node, r) ← readUnless [.dash, .key, .value, .blockEnd] true false fuel r.next
      let (nodes, r) ← readBareItems fuel r
      return (node :: nodes, r)
    | [] => r.fail
    | _ => .ok ([], r)

/-- Reads the members of a block. -/
def readMembers : Nat → Reading → Except Problem (List (Node × Node) × Reading)
  | 0, _ => .error .malformed
  | fuel + 1, r =>
    match r.tokens with
    | .key :: _ => do
      let (key, r) ← readUnless [.key, .value, .blockEnd] true true fuel r.next
      let (value, r) ←
        match r.tokens with
        | .value :: _ => readUnless [.key, .value, .blockEnd] true true fuel r.next
        | [] => r.fail
        | _ => .ok (.nothing, r)
      let (nodes, r) ← readMembers fuel r
      return ((key, value) :: nodes, r)
    | .blockEnd :: _ => .ok ([], r.next)
    | _ => r.fail

/-- Reads the items between brackets; `first` says whether none was read yet. -/
def readFlowItems (first : Bool) : Nat → Reading → Except Problem (List Node × Reading)
  | 0, _ => .error .malformed
  | fuel + 1, r =>
    match r.tokens with
    | .closeBracket :: _ => .ok ([], r.next)
    | _ => do
      let r ←
        if first then pure r
        else if ← r.sees [.comma] then pure r.next
        else r.fail
      match r.tokens with
      | .closeBracket :: _ => return ([], r.next)
      | .key :: _ => do
        let (key, r) ← readUnless [.value, .comma, .closeBracket] false false fuel r.next
        let (value, r) ←
          match r.tokens with
          | .value :: _ => readUnless [.comma, .closeBracket] false false fuel r.next
          | [] => r.fail
          | _ => .ok (.nothing, r)
        let (nodes, r) ← readFlowItems false fuel r
        return (.members .members [(key, value)] :: nodes, r)
      | _ => do
        let (node, r) ← readNode false false fuel r
        let (nodes, r) ← readFlowItems false fuel r
        return (node :: nodes, r)

/-- Reads the members between braces; `first` says whether none was read yet. -/
def readFlowMembers (first : Bool) : Nat → Reading → Except Problem (List (Node × Node) × Reading)
  | 0, _ => .error .malformed
  | fuel + 1, r =>
    match r.tokens with
    | .closeBrace :: _ => .ok ([], r.next)
    | _ => do
      let r ←
        if first then pure r
        else if ← r.sees [.comma] then pure r.next
        else r.fail
      match r.tokens with
      | .closeBrace :: _ => return ([], r.next)
      | .key :: _ => do
        let (key, r) ← readUnless [.value, .comma, .closeBrace] false false fuel r.next
        let (value, r) ←
          match r.tokens with
          | .value :: _ => readUnless [.comma, .closeBrace] false false fuel r.next
          | [] => r.fail
          | _ => .ok (.nothing, r)
        let (nodes, r) ← readFlowMembers false fuel r
        return ((key, value) :: nodes, r)
      | _ => do
        let (key, r) ← readNode false false fuel r
        let (nodes, r) ← readFlowMembers false fuel r
        return ((key, .nothing) :: nodes, r)

end

/-! ### Documents -/

/-- The handles that are always known. -/
def commonHandles : List (String × String) := [("!", "!"), ("!!", languageTags)]

/-- Reads the directives before a document: at most one version, which has to be the first, and
each handle once.  The last argument is what is wrong where the tokens end. -/
def readDirectives (versioned : Bool) (handles : List (String × String)) (ending : Problem) :
    List Token → Except Problem (List (String × String) × List Token)
  | .directive d :: rest =>
    match d with
    | .version major =>
      if versioned || major != 1 then .error .malformed
      else readDirectives true handles ending rest
    | .handle name tags =>
      if (handles.lookup name).isSome then .error .malformed
      else readDirectives versioned ((name, tags) :: handles) ending rest
    | .other => readDirectives versioned handles ending rest
  | [] => .error ending
  | tokens => .ok (handles ++ commonHandles, tokens)

/-- Makes sure that nothing comes behind a document but marks of its end. -/
def checkOver (ending : Problem) : List Token → Except Problem Unit
  | .documentEnd :: rest => checkOver ending rest
  | [.textEnd] => .ok ()
  | tokens => do
    let _ ← readDirectives false [] ending tokens
    throw .malformed

/-- The nodes of a text, unless it holds no document. -/
def Tree.ofTokens? (t : Tokens) : Except Problem (Option Tree) := do
  let ending := t.problem.getD .malformed
  let fuel := 4 * t.tokens.length + 4
  match t.tokens with
  | [.textEnd] => return none
  | .directive _ :: _ | .documentStart :: _ =>
    let (handles, rest) ← readDirectives false [] ending t.tokens
    match rest with
    | .documentStart :: rest =>
      match rest with
      | .directive _ :: _ | .documentStart :: _ | .documentEnd :: _ | .textEnd :: _ =>
        checkOver ending rest
        return some ⟨.nothing, []⟩
      | _ =>
        let (root, r) ← readNode true false fuel { tokens := rest, handles, ending }
        checkOver ending r.tokens
        return some ⟨root, r.named⟩
    | _ => throw .malformed
  | tokens =>
    let (root, r) ← readNode true false fuel { tokens, handles := commonHandles, ending }
    checkOver ending r.tokens
    return some ⟨root, r.named⟩

end ProbeKit.Outside.Yaml
