import ProbeKit.Manifest.Canonical
import ProbeKit.Manifest.Reading
import ProbeKit.Proofs.Json.Floats
import ProbeKit.Proofs.Manifest.Flaws

/-!
# Reading manifests that were written

The file of a manifest is read as `Manifest.reread`: the same manifest with its probes in order, with
each type in its proper spelling and with nothing for an empty module (`ofBytes?_fileText`).  A
manifest without a flaw and what is read for it have the same digest (`digest_reread`).
-/

namespace ProbeKit

open Json Text

namespace Json

/-! ### The number one -/

theorem exact_one : Exact (Number.Binary64.ofInt 1) := by
  have hchars : floatChars (Number.Binary64.ofInt 1) = ['1', '.', '0'] := by decide +kernel
  have hvalue : Number.Binary64.ofDecimal false (Number.digitsNat ['1', '0']) (-1) =
      Number.Binary64.ofInt 1 := by decide +kernel
  have hline : line .unicode (.float (Number.Binary64.ofInt 1)) = String.ofList ['1', '.', '0'] :=
    congrArg String.ofList hchars
  intro room
  have hread : read room (String.ofList ['1', '.', '0']) =
      .ok (.float (Number.Binary64.ofDecimal false (Number.digitsNat ['1', '0']) (-1))) := rfl
  rw [hline, hread, hvalue]

/-- Whatever counts as one is read back. -/
theorem legible_of_isOne {j : Json} (h : j.isOne = true) : j.Legible := by
  cases j with
  | float x =>
    have hx : x = Number.Binary64.ofInt 1 := by simpa [isOne, Number.Binary64.isOne] using h
    rw [hx]
    exact exact_one.rereads
  | arr items => cases h
  | obj members => cases h
  | _ => trivial

end Json

namespace Manifest

/-! ### Documents -/

/-- What is read for a manifest that was written. -/
def reread (m : Manifest) : Manifest :=
  { m with
    moduleName := if m.moduleName.isVacant then .null else m.moduleName
    probes := m.sortedProbes.map fun p => ⟨p.name, p.types.map properType⟩ }

/-- The fields of a manifest can be read back. -/
structure Plain (m : Manifest) : Prop where
  /-- The version can be read back. -/
  schemaVersion : m.schemaVersion.Legible
  /-- The provider can be read back. -/
  provider : m.provider.Legible
  /-- The module can be read back. -/
  moduleName : m.moduleName.Legible

theorem legible_textArray (texts : List String) : (textArray texts).Legible := by
  refine legibleItems_iff.2 fun j hj => ?_
  obtain ⟨s, -, rfl⟩ := List.mem_map.1 hj
  exact legible_str s

theorem strings?_textArray (texts : List String) : (textArray texts).strings? = some texts := by
  show (texts.map Json.str).mapM str? = some texts
  induction texts with
  | nil => rfl
  | cons s rest ih =>
    rw [List.map_cons, List.mapM_cons, ih]
    rfl

/-- A probe with the argument lists that were seen for it, if any are to be listed. -/
def probeDocument (aggregates : List Aggregate) (p : Probe) : Json :=
  .obj (probeMembers p ++ variantMembers aggregates p.name)

theorem variantMembers_nil (name : String) : variantMembers [] name = [] := rfl

theorem document_eq (m : Manifest) :
    m.document = m.documentWith (m.sortedProbes.map (probeDocument [])) := by
  have hbare : (fun p => Json.obj (probeMembers p)) = probeDocument [] := by
    funext p
    rw [probeDocument, variantMembers_nil, List.append_nil]
  rw [document, hbare]

theorem fileText_eq (m : Manifest) (aggregates : List Aggregate) (development : Bool) :
    m.fileText aggregates development =
      Json.document .unicode (m.documentWith (m.sortedProbes.map
        (probeDocument (if development then aggregates else [])))) := by
  cases development with
  | true => rfl
  | false => exact congrArg (Json.document .unicode) m.document_eq

theorem legible_probeDocument (aggregates : List Aggregate) (p : Probe) :
    (probeDocument aggregates p).Legible := by
  unfold probeDocument variantMembers
  split
  · exact ⟨by simp [probeMembers], legible_str _, legible_textArray _, trivial⟩
  · rename_i variants _
    refine ⟨by simp [probeMembers], legible_str _, legible_textArray _, ?_, trivial⟩
    refine legibleItems_iff.2 fun j hj => ?_
    obtain ⟨types, -, rfl⟩ := List.mem_map.1 hj
    exact legible_textArray types

theorem probeOfJson_probeDocument (place : Nat) (aggregates : List Aggregate) (p : Probe) :
    probeOfJson place (probeDocument aggregates p) = .ok ⟨p.name, p.types.map properType⟩ := by
  have hname : (probeDocument aggregates p).member "name" = .str p.name := rfl
  have htypes : (probeDocument aggregates p).member? "arg_types" = some (textArray p.types) := rfl
  unfold probeOfJson
  rw [hname, htypes]
  dsimp only [probeDocument, Option.getD_some]
  rw [strings?_textArray]

theorem probesOfJson_map (place : Nat) (aggregates : List Aggregate) (probes : List Probe) :
    probesOfJson place (probes.map (probeDocument aggregates)) =
      .ok (probes.map fun p => ⟨p.name, p.types.map properType⟩) := by
  induction probes generalizing place with
  | nil => rfl
  | cons p rest ih =>
    rw [List.map_cons, probesOfJson, probeOfJson_probeDocument, ih]
    rfl

theorem legible_documentWith {m : Manifest} (h : m.Plain) {probes : List Json}
    (hprobes : ∀ j ∈ probes, Legible j) : (m.documentWith probes).Legible := by
  have hitems : Legible (.arr probes) := legibleItems_iff.2 hprobes
  unfold documentWith
  split
  · exact ⟨by simp, h.schemaVersion, h.provider, hitems, trivial⟩
  · exact ⟨by simp, h.schemaVersion, h.provider, h.moduleName, hitems, trivial⟩

theorem legible_probes {m : Manifest} (h : m.Plain) (aggregates : List Aggregate) :
    (m.documentWith (m.sortedProbes.map (probeDocument aggregates))).Legible := by
  refine legible_documentWith h fun j hj => ?_
  obtain ⟨p, -, rfl⟩ := List.mem_map.1 hj
  exact legible_probeDocument _ p

theorem members_documentWith (m : Manifest) (probes : List Json) :
    (m.documentWith probes).member "schemaVersion" = m.schemaVersion ∧
      (m.documentWith probes).member "provider" = m.provider ∧
      (m.documentWith probes).member "module" =
        (if m.moduleName.isVacant then .null else m.moduleName) ∧
      (m.documentWith probes).member "probes" = .arr probes := by
  unfold documentWith
  split
  · exact ⟨rfl, rfl, rfl, rfl⟩
  · exact ⟨rfl, rfl, rfl, rfl⟩

theorem ofJson_documentWith (m : Manifest) (aggregates : List Aggregate) :
    ofJson (m.documentWith (m.sortedProbes.map (probeDocument aggregates))) = .ok m.reread := by
  have hprobes := probesOfJson_map 0 aggregates m.sortedProbes
  obtain ⟨h₁, h₂, h₃, h₄⟩ :=
    m.members_documentWith (m.sortedProbes.map (probeDocument aggregates))
  have hmodule : (if (if m.moduleName.isVacant then Json.null else m.moduleName).isVacant then
      Json.null else (if m.moduleName.isVacant then Json.null else m.moduleName)) =
      if m.moduleName.isVacant then .null else m.moduleName := by
    split
    · rfl
    · rfl
  unfold ofJson
  rw [h₄]
  unfold documentWith at h₁ h₂ h₃ ⊢
  dsimp only
  rw [hprobes]
  show Except.ok (Manifest.mk _ _ _ _) = _
  rw [h₁, h₂, h₃, hmodule]
  rfl

/-! ### Documents that fit -/

theorem fits_textArray (levels : Nat) (texts : List String) :
    (textArray texts).Fits (levels + 1) := by
  refine fits_arr_iff.2 fun j hj => ?_
  obtain ⟨s, -, rfl⟩ := List.mem_map.1 hj
  exact fits_str s

/-- A probe takes three levels, whatever was seen for it. -/
theorem fits_probeDocument (levels : Nat) (aggregates : List Aggregate) (p : Probe) :
    (probeDocument aggregates p).Fits (levels + 3) := by
  have hvariants : ∀ m ∈ variantMembers aggregates p.name, m.2.Fits (levels + 2) := by
    unfold variantMembers
    split
    · exact List.forall_mem_nil _
    · rename_i variants _
      refine List.forall_mem_singleton.2 (fits_arr_iff.2 fun j hj => ?_)
      obtain ⟨types, -, rfl⟩ := List.mem_map.1 hj
      exact fits_textArray levels types
  refine fits_obj_iff.2 (List.forall_mem_append.2 ⟨?_, hvariants⟩)
  exact List.forall_mem_cons.2
    ⟨fits_str _, List.forall_mem_singleton.2 (fits_textArray (levels + 1) _)⟩

/-- A document fits if its fields do and its probes do. -/
theorem fits_documentWith_iff {m : Manifest} {levels : Nat} {probes : List Json} :
    (m.documentWith probes).Fits (levels + 1) ↔ m.schemaVersion.Fits levels ∧
      m.provider.Fits levels ∧ (m.moduleName.isVacant = false → m.moduleName.Fits levels) ∧
      (Json.arr probes).Fits levels := by
  unfold documentWith
  rw [fits_obj_iff]
  split <;> simp_all

/-- Whether the document of a manifest fits does not depend on what was seen for its probes. -/
theorem fits_documentWith_probes {m : Manifest} {levels : Nat} (aggregates : List Aggregate)
    (probes : List Probe) :
    (m.documentWith (probes.map (probeDocument aggregates))).Fits (levels + 5) ↔
      m.schemaVersion.Fits (levels + 4) ∧ m.provider.Fits (levels + 4) ∧
        (m.moduleName.isVacant = false → m.moduleName.Fits (levels + 4)) := by
  have hprobes : (Json.arr (probes.map (probeDocument aggregates))).Fits (levels + 4) := by
    refine fits_arr_iff.2 fun j hj => ?_
    obtain ⟨p, -, rfl⟩ := List.mem_map.1 hj
    exact fits_probeDocument levels aggregates p
  rw [fits_documentWith_iff, and_iff_left hprobes]

/-- There is always room for a manifest around its fields. -/
theorem exists_reading (room : Room) : ∃ levels, room.reading = levels + 5 :=
  Nat.exists_eq_add_of_le' (Nat.le_trans (by decide) room.le_reading)

/-- A document fits if the fields of its manifest do. -/
theorem fits_of_fields {m : Manifest} (levels : Nat)
    (hversion : m.schemaVersion.Fits (levels + 4)) (hprovider : m.provider.Fits (levels + 4))
    (hmodule : m.moduleName.isVacant = false → m.moduleName.Fits (levels + 4)) :
    m.document.Fits (levels + 5) := by
  rw [document_eq]
  exact (fits_documentWith_probes [] _).2 ⟨hversion, hprovider, hmodule⟩

/-- Whatever was seen for the probes fits as soon as the rest does. -/
theorem fits_probes {m : Manifest} {levels : Nat} (hlevels : 8 ≤ levels)
    (h : m.document.Fits levels) (aggregates : List Aggregate) :
    (m.documentWith (m.sortedProbes.map (probeDocument aggregates))).Fits levels := by
  obtain ⟨levels, rfl⟩ := Nat.exists_eq_add_of_le' (Nat.le_trans (by decide : 5 ≤ 8) hlevels)
  rw [document_eq] at h
  exact (fits_documentWith_probes aggregates _).2 ((fits_documentWith_probes [] _).1 h)

/-! ### Reading what was written -/

theorem allTexts_kept {j : Raw} (h : j.allTexts isWhole = true) :
    (kept j).all (·.allTexts isWhole) = true := by
  refine List.all_eq_true.2 ?_
  unfold kept
  simp only [List.forall_mem_cons, List.mem_flatMap, forall_exists_index, and_imp]
  refine ⟨allTexts_member h _, allTexts_member h _, allTexts_member h _, ?_⟩
  intro part p hp hpart
  have hitem := allTexts_items (allTexts_member h _) p hp
  simp only [List.mem_cons, List.not_mem_nil, or_false] at hpart
  rcases hpart with rfl | rfl <;> exact allTexts_member hitem _

/-- The letters of a document stand for the manifest of the document. -/
theorem ofRaw_map_letters {j : Json} {m : Manifest} (h : ofJson j = .ok m) :
    ofRaw (j.map letters) = .ok m := by
  unfold ofRaw
  rw [map_shown_letters, h]
  exact if_pos (allTexts_kept (allTexts_map_letters j))

section
variable {room : Room} {m : Manifest}

/-- **What was written for a manifest that fits is read as the same manifest**, whether or not the
argument lists that were seen are written down as well. -/
theorem parse_fileText (h : m.Plain) (hfits : m.document.Fits room.reading)
    (aggregates : List Aggregate) (development : Bool) :
    parse room (m.fileText aggregates development) = .ok m.reread := by
  rw [fileText_eq, parse,
    read_document .unicode (legible_probes h _) (fits_probes room.le_reading hfits _)]
  exact ofRaw_map_letters (ofJson_documentWith m _)

theorem parseBytes?_fileText (h : m.Plain) (hfits : m.document.Fits room.reading)
    (aggregates : List Aggregate) (development : Bool) :
    parseBytes? room (encode (m.fileText aggregates development)) = some (.ok m.reread) := by
  have hreturn : '\r' ∉ (m.fileText aggregates development).toList := by
    rw [fileText_eq]
    exact not_mem_document _ _
  rw [parseBytes?, readText?_encode hreturn, Option.map_some, parse_fileText h hfits]

theorem ofBytes?_eq_some_iff {bytes : ByteArray} :
    ofBytes? room bytes = some m ↔ parseBytes? room bytes = some (.ok m) := by
  rw [ofBytes?]
  rcases parseBytes? room bytes with _ | _ | made <;> simp [Except.toOption]

theorem ofBytes?_fileText (h : m.Plain) (hfits : m.document.Fits room.reading)
    (aggregates : List Aggregate) (development : Bool) :
    ofBytes? room (encode (m.fileText aggregates development)) = some m.reread :=
  ofBytes?_eq_some_iff.2 (parseBytes?_fileText h hfits _ _)

end

section
variable {m : Manifest} (htypes : ∀ p ∈ m.probes, ∀ t ∈ p.types, properType t = t)
include htypes

/-- Types in their proper spelling are read as they are. -/
theorem probes_reread : m.reread.probes = m.sortedProbes := by
  have hself : ∀ p ∈ m.sortedProbes, (⟨p.name, p.types.map properType⟩ : Probe) = p := by
    intro p hp
    have hmap : p.types.map properType = p.types :=
      (List.map_congr_left fun t ht => htypes p (List.mem_mergeSort.1 hp) t ht).trans
        (List.map_id _)
    rw [hmap]
  exact (List.map_congr_left hself).trans (List.map_id _)

/-- Reading changes nothing of the document of such a manifest. -/
theorem document_reread : m.reread.document = m.document := by
  have hsorted : m.reread.sortedProbes = m.sortedProbes := by
    rw [sortedProbes, probes_reread htypes, sortedProbes]
    refine List.mergeSort_of_pairwise ?_
    refine List.pairwise_mergeSort (fun p q r => ?_) (fun p q => ?_) _
    · exact atMost_trans _ _ _
    · exact atMost_total _ _
  rw [document, hsorted, document]
  unfold documentWith reread
  by_cases hvacant : m.moduleName.isVacant
  · rw [if_pos hvacant, if_pos hvacant]
    rfl
  · simp only [hvacant, Bool.false_eq_true, if_false]

theorem canonicalText_reread : m.reread.canonicalText = m.canonicalText :=
  congrArg (Json.document .unicode) (document_reread htypes)

end

/-! ### Manifests without a flaw -/

theorem plain_of_flaw?_eq_none {m : Manifest} (h : m.flaw? = none) : m.Plain := by
  obtain ⟨hversion, hprovider, hmodule, -⟩ := of_flaw?_eq_none h
  refine ⟨legible_of_isOne hversion, ?_, ?_⟩
  · rcases m with ⟨version, provider, moduleName, probes⟩
    cases provider with
    | str s => exact legible_str s
    | _ => cases hprovider
  · rcases m with ⟨version, provider, moduleName, probes⟩
    cases moduleName with
    | null => trivial
    | str s => exact legible_str s
    | _ => cases hmodule

/-- A manifest without a flaw is never too large. -/
theorem fits_of_flaw?_eq_none {m : Manifest} (h : m.flaw? = none) {levels : Nat}
    (hlevels : 8 ≤ levels) : m.document.Fits levels := by
  obtain ⟨hversion, hprovider, hmodule, -⟩ := of_flaw?_eq_none h
  obtain ⟨levels, rfl⟩ := Nat.exists_eq_add_of_le' (Nat.le_trans (by decide : 5 ≤ 8) hlevels)
  rcases m with ⟨version, provider, moduleName, probes⟩
  refine fits_of_fields _ ?_ ?_ fun _ => ?_
  · cases version with
    | int n =>
      obtain rfl : n = 1 := by simpa [isOne] using hversion
      exact fits_int_iff.2 (by decide)
    | arr items => cases hversion
    | obj members => cases hversion
    | _ => rfl
  · cases provider with
    | str s => rfl
    | _ => cases hprovider
  · cases moduleName with
    | null => rfl
    | str s => rfl
    | _ => cases hmodule

/-- Whatever room there is, a manifest without a flaw can be written. -/
theorem canonicalize_of_flaw?_eq_none {m : Manifest} (h : m.flaw? = none) (room : Room) :
    m.canonicalize room = .ok m.canonicalText :=
  write_of_fits (fits_of_flaw?_eq_none h room.le_writing)

/-- Whatever room there is, what was written for a manifest without a flaw can be read. -/
theorem parse_canonicalText_of_flaw?_eq_none (room : Room) {m : Manifest} (h : m.flaw? = none) :
    parse room m.canonicalText = .ok m.reread :=
  parse_fileText (plain_of_flaw?_eq_none h) (fits_of_flaw?_eq_none h room.le_reading) [] false

theorem ofBytes?_fileText_of_flaw?_eq_none (room : Room) {m : Manifest} (h : m.flaw? = none)
    (aggregates : List Aggregate) (development : Bool) :
    ofBytes? room (encode (m.fileText aggregates development)) = some m.reread :=
  ofBytes?_fileText (plain_of_flaw?_eq_none h) (fits_of_flaw?_eq_none h room.le_reading) _ _

theorem properType_of_mem {type : String} (h : type ∈ allowedTypes) : properType type = type := by
  revert type
  decide

/-- **What is read for a manifest without a flaw has its digest.** -/
theorem digest_reread {m : Manifest} (h : m.flaw? = none) : m.reread.digest = m.digest := by
  obtain ⟨-, -, -, htypes⟩ := of_flaw?_eq_none h
  rw [digest, canonicalText_reread fun p hp t ht => properType_of_mem (htypes p hp t ht)]
  rfl

end Manifest

end ProbeKit
