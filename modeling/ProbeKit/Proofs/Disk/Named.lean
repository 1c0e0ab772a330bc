import ProbeKit.Proofs.Disk.View
import ProbeKit.Proofs.Lookup

/-!
# The names in a tree

Whatever is put into a tree stands under a name that following a path takes for a name: it is not
empty, no dot or pair of dots, and not too long.  `Node.Named` says so of all names in a tree, and
`Node.named_put` keeps it.
-/

namespace ProbeKit

namespace Disk

/-- A name that leads one step down. -/
structure IsStep (name : String) : Prop where
  /-- It does not stand for the directory above. -/
  notUp : (name == "..") = false
  /-- It does not stand for the directory itself. -/
  notHere : (name == "" || name == ".") = false
  /-- It is not too long. -/
  short : name.utf8ByteSize ≤ nameLimit

end Disk

namespace Node

open Disk (IsStep)

mutual

/-- All names below a node lead one step down. -/
def Named : Node → Prop
  | .dir entries => NamedIn entries
  | _ => True

/-- All names of entries and below them lead one step down. -/
def NamedIn : List (String × Node) → Prop
  | [] => True
  | (name, node) :: rest => IsStep name ∧ Named node ∧ NamedIn rest

end

theorem namedIn_iff {entries : List (String × Node)} :
    NamedIn entries ↔ ∀ e ∈ entries, IsStep e.1 ∧ Named e.2 := by
  induction entries with
  | nil => simp [NamedIn]
  | cons e rest ih =>
    obtain ⟨name, node⟩ := e
    rw [NamedIn, ih, List.forall_mem_cons, and_assoc]

theorem Named.of_lookup {entries : List (String × Node)} {name : String} {child : Node}
    (h : NamedIn entries) (hl : entries.lookup name = some child) : IsStep name ∧ Named child :=
  namedIn_iff.1 h _ (mem_of_lookup hl)

/-- What is below a named node is named. -/
theorem named_of_at? {node found : Node} {place : List String} (h : node.Named)
    (hat : node.at? place = some found) : found.Named := by
  induction place generalizing node with
  | nil => exact Option.some.inj hat ▸ h
  | cons name rest ih =>
    obtain ⟨entries, child, rfl, hlookup, hchild⟩ := exists_entry_of_at? hat
    exact ih (Named.of_lookup h hlookup).2 hchild

/-- Whatever stands in a named tree stands below proper names. -/
theorem isStep_of_at? {node found : Node} {place : List String} (h : node.Named)
    (hat : node.at? place = some found) : ∀ n ∈ place, IsStep n := by
  induction place generalizing node with
  | nil => exact fun n hn => absurd hn List.not_mem_nil
  | cons name rest ih =>
    obtain ⟨entries, child, rfl, hlookup, hchild⟩ := exists_entry_of_at? hat
    obtain ⟨hname, hnamed⟩ := Named.of_lookup h hlookup
    exact List.forall_mem_cons.2 ⟨hname, ih hnamed hchild⟩

theorem namedIn_setEntry {entries : List (String × Node)} {name : String} {node : Node}
    (h : NamedIn entries) (hname : IsStep name) (hnode : Named node) :
    NamedIn (setEntry name node entries) := by
  induction entries with
  | nil => exact ⟨hname, hnode, trivial⟩
  | cons e rest ih =>
    obtain ⟨n, old⟩ := e
    obtain ⟨hn, hold, hrest⟩ := h
    rw [setEntry]
    split
    · exact ⟨hn, hnode, hrest⟩
    · exact ⟨hn, hold, ih hrest⟩

/-- Putting a node into a directory brings in no name but the last one of the place. -/
theorem named_put {node : Node} {place : List String} {new : Node} (h : node.Named)
    (hnew : new.Named) (hplace : node.Holds place)
    (hlast : node.view place = none → ∀ name, place.getLast? = some name → IsStep name) :
    (node.put place new).Named := by
  fun_induction put node place new with
  | case1 => exact hnew
  | case2 entries name new =>
    -- A name that the directory lists is already proper; only a new one has to be.
    have hname : IsStep name := by
      cases hl : entries.lookup name with
      | none => exact hlast (by rw [view_dir_cons, hl]; rfl) name rfl
      | some child => exact (Named.of_lookup h hl).1
    exact namedIn_setEntry h hname hnew
  | case3 entries name rest new hrest child hl ih =>
    obtain ⟨hname, hchild⟩ := Named.of_lookup h hl
    refine namedIn_setEntry h hname (ih hchild hnew (hplace.of_entry hl) fun hnone n hn => ?_)
    refine hlast ?_ n ?_
    · rw [view_dir_cons, hl]
      exact hnone
    · rwa [List.getLast?_cons_of_ne_nil hrest]
  | case4 entries name rest new hrest hl => exact absurd hl (hplace.lookup_ne_none hrest)
  | case5 node name rest new _ hleaf =>
    obtain ⟨entries, hentries⟩ := hplace.exists_entries
    exact (hleaf entries hentries).elim

/-- Nothing is named by removing. -/
theorem named_erase {node : Node} (h : node.Named) (place : List String) :
    (node.erase place).Named := by
  fun_induction erase node place with
  | case1 => exact h
  | case2 entries name =>
    exact namedIn_iff.2 fun e he => namedIn_iff.1 h e (List.mem_filter.1 he).1
  | case3 entries name rest hrest child hl ih =>
    obtain ⟨hname, hchild⟩ := Named.of_lookup h hl
    exact namedIn_setEntry h hname (ih hchild)
  | case4 => exact h
  | case5 => exact h

end Node

end ProbeKit
