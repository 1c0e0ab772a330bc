import ProbeKit.Probe.Basic

/-!
# Probes by file

A catalog says which probes each source file declares.  It is kept in the order of the file
names, each name once, so that two catalogs with the same files and probes are equal and nothing
can depend on the order in which files were read.
-/

namespace ProbeKit

/-! ### Sorted lists of pairs -/

namespace Catalog

/-- Gives a key a value in a list that is sorted by key. -/
def insertInto {β : Type} (key : String) (value : β) : List (String × β) → List (String × β)
  | [] => [(key, value)]
  | (k, v) :: rest =>
    if key < k then (key, value) :: (k, v) :: rest
    else if key = k then (key, value) :: rest
    else (k, v) :: insertInto key value rest

theorem mem_insertInto {β : Type} {key : String} {value : β} {entries : List (String × β)}
    {p : String × β} (h : p ∈ insertInto key value entries) : p = (key, value) ∨ p ∈ entries := by
  induction entries with
  | nil => simpa [insertInto] using h
  | cons e rest ih =>
    obtain ⟨k, v⟩ := e
    simp only [insertInto] at h
    split at h
    · simpa using h
    · split at h
      · rcases List.mem_cons.1 h with h | h <;> simp [h]
      · rcases List.mem_cons.1 h with h | h
        · simp [h]
        · rcases ih h with h | h <;> simp [h]

theorem pairwise_insertInto {β : Type} (key : String) (value : β) {entries : List (String × β)}
    (h : entries.Pairwise (·.1 < ·.1)) : (insertInto key value entries).Pairwise (·.1 < ·.1) := by
  induction entries with
  | nil => simp [insertInto]
  | cons e rest ih =>
    obtain ⟨k, v⟩ := e
    obtain ⟨hk, hrest⟩ := List.pairwise_cons.1 h
    simp only [insertInto]
    split
    · rename_i hlt
      refine List.pairwise_cons.2 ⟨fun p hp => ?_, h⟩
      rcases List.mem_cons.1 hp with rfl | hp
      · exact hlt
      · exact String.lt_trans hlt (hk p hp)
    · split
      · rename_i heq
        subst heq
        exact List.pairwise_cons.2 ⟨hk, hrest⟩
      · rename_i hlt hne
        refine List.pairwise_cons.2 ⟨fun p hp => ?_, ih hrest⟩
        rcases mem_insertInto hp with rfl | hp
        · rcases String.le_total k key with hle | hle
          · exact Classical.byContradiction fun hn =>
              hne (String.le_antisymm (String.not_lt.1 hn) hle)
          · exact absurd (String.le_antisymm hle (String.not_lt.1 hlt)) hne
        · exact hk p hp

end Catalog

/-- The probes that each source file declares, by the name of the file. -/
structure Catalog where
  /-- The files with their probes. -/
  entries : List (String × List Probe)
  /-- The files stand in order, each once. -/
  inOrder : entries.Pairwise (·.1 < ·.1)

namespace Catalog

instance : Inhabited Catalog := ⟨[], .nil⟩

instance : EmptyCollection Catalog := ⟨[], .nil⟩

/-- Sets what a file declares. -/
def insert (c : Catalog) (file : String) (probes : List Probe) : Catalog :=
  ⟨insertInto file probes c.entries, pairwise_insertInto file probes c.inOrder⟩

/-- Forgets a file. -/
def erase (c : Catalog) (file : String) : Catalog :=
  ⟨c.entries.filter (·.1 != file), c.inOrder.filter _⟩

/-- What a file declares, provided that it is known. -/
def find? (c : Catalog) (file : String) : Option (List Probe) := c.entries.lookup file

/-- Whether a file is known. -/
def contains (c : Catalog) (file : String) : Bool := (c.find? file).isSome

/-- The names of the files, in order. -/
def files (c : Catalog) : List String := c.entries.map (·.1)

/-- How many files there are. -/
def size (c : Catalog) : Nat := c.entries.length

/-- The catalog of files with their probes; of a file given twice the last counts. -/
def ofList (files : List (String × List Probe)) : Catalog :=
  files.foldl (fun c f => c.insert f.1 f.2) ∅

/-- All probes, by file and in the order of each file. -/
def probes (c : Catalog) : List Probe := c.entries.flatMap (·.2)

end Catalog

end ProbeKit
