import ProbeKit.Outside.Yaml.Node
import ProbeKit.Settings.Value

/-!
# YAML documents

`Document.read` gives the value of a text.  Nodes that were named once stay shared: an alias keeps
the name, and `Document.look` follows it, so that a document may contain itself.  Members that a
mapping takes over from others stand before its own, and the last member with a key counts.

The faults of a document are found level by level from the root, and the first one is reported.

`reader` makes settings of a text: the value of its document with every alias replaced by what it
stands for.  A document may contain itself, so the replacing stops below the depth that the settings
look at.
-/

namespace ProbeKit.Outside.Yaml

/-- A value. -/
inductive Value where
  /-- A value without parts. -/
  | scalar (s : Scalar)
  /-- A list. -/
  | items (values : List Value)
  /-- A mapping. -/
  | members (values : List (Value × Value))
  /-- The key of members that are taken over. -/
  | merge
  /-- A value that is of no further use. -/
  | sealed
  /-- A value that was named before. -/
  | alias (name : String)
  deriving Inhabited

/-! ### Faults -/

/-- The node that an alias stands for. -/
def Node.target (named : List (String × Node)) : Node → Node
  | .alias name => (named.lookup name).getD (.alias name)
  | node => node

/-- Whether a node is a mapping. -/
def Node.isMembers : Node → Bool
  | .members .. => true
  | _ => false

/-- Whether a node can stand as a key. -/
def Node.isKey : Node → Bool
  | .items .. => false
  | .members .. => false
  | _ => true

/-- Whether a node is the key of members that are taken over. -/
def Node.isMergeKey : Node → Bool
  | .scalar .merge _ => true
  | .items .merge _ => true
  | .members .merge _ => true
  | _ => false

/-- Whether members can be taken over from a node. -/
def Node.isMergeable (named : List (String × Node)) (node : Node) : Bool :=
  match node.target named with
  | .members .. => true
  | .items _ nodes => nodes.all fun n => (n.target named).isMembers
  | _ => false

/-- The text that a mapping has as a value of its own. -/
def ownText? : List (Node × Node) → Option String
  | [] => none
  | (.scalar .default _, .scalar _ text) :: _ => some text
  | (.scalar .default _, _) :: _ => none
  | _ :: rest => ownText? rest

/-- Whether a node is a mapping with a single member. -/
def Node.isPair (named : List (String × Node)) (node : Node) : Bool :=
  match node.target named with
  | .members _ [_] => true
  | _ => false

mutual

/-- The faults of a node at a level, each with the level at which it shows. -/
def faults (named : List (String × Node)) (level : Nat) : Node → List (Nat × Problem)
  | .alias _ => []
  | .scalar kind text =>
    match Scalar.read kind text with
    | .ok _ => []
    | .error p => [(level, p)]
  | .items kind nodes =>
    match kind with
    | .items => faultsOfItems named (level + 1) nodes
    | .pairs =>
      if nodes.all (Node.isPair named) then faultsOfPairs named (level + 1) nodes
      else [(level + 1, .malformed)]
    | .members | .set => [(level + 1, .malformed)]
    | _ => [(level, .malformed)]
  | .members kind nodes =>
    match kind with
    | .members | .set =>
      if nodes.all fun n => !n.1.isMergeKey || n.2.isMergeable named then
        faultsOfMembers named (level + 1) nodes
      else [(level + 1, .malformed)]
    | .items | .pairs => [(level + 1, .malformed)]
    | _ =>
      match ownText? nodes with
      | none => [(level, .malformed)]
      | some text =>
        match Scalar.read kind text with
        | .ok _ => []
        | .error p => [(level, p)]

/-- The faults of items. -/
def faultsOfItems (named : List (String × Node)) (level : Nat) : List Node → List (Nat × Problem)
  | [] => []
  | node :: rest => faults named level node ++ faultsOfItems named level rest

/-- The faults of mappings that have one member each. -/
def faultsOfPairs (named : List (String × Node)) (level : Nat) : List Node → List (Nat × Problem)
  | [] => []
  | .members _ nodes :: rest => faultsOfValues named level nodes ++ faultsOfPairs named level rest
  | _ :: rest => faultsOfPairs named level rest

/-- The faults of keys and values, whatever the keys are. -/
def faultsOfValues (named : List (String × Node)) (level : Nat) :
    List (Node × Node) → List (Nat × Problem)
  | [] => []
  | (key, value) :: rest =>
    faults named level key ++ (faults named level value ++ faultsOfValues named level rest)

/-- The faults of members; members that are taken over have theirs where they stand. -/
def faultsOfMembers (named : List (String × Node)) (level : Nat) :
    List (Node × Node) → List (Nat × Problem)
  | [] => []
  | (.scalar .default _, value) :: rest =>
    faults named level value ++ faultsOfMembers named level rest
  | (.scalar .merge _, value) :: rest =>
    faultsOfMerge named level value ++ faultsOfMembers named level rest
  | (key, value) :: rest =>
    faults named level key ++
      ((if (key.target named).isKey then [] else [(level, Problem.malformed)]) ++
        (faults named level value ++ faultsOfMembers named level rest))

/-- The faults of a node whose members are taken over. -/
def faultsOfMerge (named : List (String × Node)) (level : Nat) : Node → List (Nat × Problem)
  | .members _ nodes => faultsOfMembers named level nodes
  | .items _ nodes => faultsOfMerges named level nodes
  | _ => []

/-- The faults of nodes whose members are taken over. -/
def faultsOfMerges (named : List (String × Node)) (level : Nat) : List Node → List (Nat × Problem)
  | [] => []
  | node :: rest => faultsOfMerge named level node ++ faultsOfMerges named level rest

end

/-! ### Values -/

/-- The value of a text as a kind. -/
def scalarValue (kind : Kind) (text : String) : Value :=
  match Scalar.read kind text with
  | .ok s => .scalar s
  | .error _ => .sealed

/-- The value of a key that is a text. -/
def keyValue (kind : Kind) (text : String) : Value :=
  match kind with
  | .merge => .merge
  | .default => .scalar (.str text)
  | _ => scalarValue kind text

mutual

/-- The value of a node without faults. -/
def value : Node → Value
  | .alias name => .alias name
  | .scalar kind text => scalarValue kind text
  | .items kind nodes =>
    match kind with
    | .items => .items (valuesOf nodes)
    | .pairs => .items (nodes.map fun _ => .sealed)
    | _ => .sealed
  | .members kind nodes =>
    match kind with
    | .members => .members (membersOf nodes)
    | .set => .sealed
    | _ => ((ownText? nodes).map (scalarValue kind)).getD .sealed

/-- The values of items. -/
def valuesOf : List Node → List Value
  | [] => []
  | node :: rest => value node :: valuesOf rest

/-- The values of members. -/
def membersOf : List (Node × Node) → List (Value × Value)
  | [] => []
  | (.scalar kind text, node) :: rest => (keyValue kind text, value node) :: membersOf rest
  | (key, node) :: rest => (value key, value node) :: membersOf rest

end

mutual

/-- How deep lists and mappings lie in each other. -/
def Value.depth : Value → Nat
  | .items values => depthOfItems values + 1
  | .members values => depthOfMembers values + 1
  | _ => 0

/-- How deep the items of a list are. -/
def depthOfItems : List Value → Nat
  | [] => 0
  | v :: rest => max v.depth (depthOfItems rest)

/-- How deep the members of a mapping are. -/
def depthOfMembers : List (Value × Value) → Nat
  | [] => 0
  | (key, v) :: rest => max (max key.depth v.depth) (depthOfMembers rest)

end

/-- A document: its value, and the values that have names. -/
structure Document where
  /-- The value. -/
  root : Value
  /-- The values that have names. -/
  named : List (String × Value)

namespace Document

/-- The value that an alias stands for. -/
def look (d : Document) : Value → Value
  | .alias name => (d.named.lookup name).getD .sealed
  | v => v

/-- Whether a member asks to take over the members of its value. -/
def isMerge (m : Value × Value) : Bool :=
  match m.1 with
  | .merge => true
  | _ => false

/-- The members that a mapping has itself. -/
def ownMembers : Value → List (Value × Value)
  | .members values => values.filter (!isMerge ·)
  | _ => []

/-- The members of a mapping, those that are taken over first, or those of the mappings in a list,
the last mapping first.  From a node whose name was passed on the way only its own members are
taken.  The first argument bounds the way. -/
def members (d : Document) : Nat → List String → Value → List (Value × Value)
  | 0, _, _ => []
  | fuel + 1, passed, v =>
    match v with
    | .alias name =>
      if passed.contains name then ownMembers (d.look v)
      else d.members fuel (name :: passed) (d.look v)
    | .members values =>
      (values.filter isMerge).flatMap (fun m => d.members fuel passed m.2) ++
        values.filter (!isMerge ·)
    | .items values => values.reverse.flatMap (d.members fuel passed)
    | _ => []

/-- A bound for the way to the members of a mapping: between two names it only goes inwards. -/
def reach (d : Document) : Nat :=
  (d.named.length + 2) * (((d.root :: d.named.map (·.2)).map Value.depth).foldl max 0 + 2)

/-- The members of a mapping. -/
def entries (d : Document) (v : Value) : List (Value × Value) :=
  match d.look v with
  | .members _ => d.members d.reach [] v
  | _ => []

/-- The value of the last member with a key. -/
def member? (d : Document) (v : Value) (key : String) : Option Value :=
  let hasKey (m : Value × Value) : Bool :=
    match d.look m.1 with
    | .scalar (.str s) => s == key
    | _ => false
  ((d.entries v).reverse.find? hasKey).map fun m => d.look m.2

/-- The document in a text. -/
def read (text : String) : Except Problem Document := do
  match ← Tree.ofTokens? (Tokens.ofText text) with
  | none => return ⟨.scalar .null, []⟩
  | some tree =>
    match (faults tree.named 0 tree.root).mergeSort fun a b => decide (a.1 ≤ b.1) with
    | (_, p) :: _ => throw p
    | [] => return ⟨value tree.root, tree.named.map fun n => (n.1, value n.2)⟩

end Document

/-! ### Settings -/

/-- The setting of a value without parts. -/
def Scalar.setting : Scalar → Setting
  | .null => .null
  | .bool b => .bool b
  | .int n => .int n
  | .float x => .float x
  | .str s => .text s
  | .moment => .other
  | .bytes found => .bytes found

/-- The setting of a value, down to some depth. -/
def Document.settingOf (d : Document) : Nat → Value → Setting
  | 0, _ => .other
  | depth + 1, v =>
    match d.look v with
    | .scalar s => s.setting
    | .items values => .items (values.map (d.settingOf depth))
    | .members _ =>
      .members ((d.entries v).map fun m => (d.settingOf depth m.1, d.settingOf depth m.2))
    | _ => .other

/-- How deep settings are looked at: the root, a mapping in it, a list in that, and its items. -/
def settingDepth : Nat := 4

/-- Reads settings files in YAML. -/
def reader : Setting.Reader := fun text =>
  match Document.read text with
  | .ok d => .ok (d.settingOf settingDepth d.root)
  | .error .malformed => .error .malformed
  | .error p => .error (.mishap p.kind p.message)

end ProbeKit.Outside.Yaml
