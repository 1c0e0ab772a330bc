import Mathlib.Data.List.Forall2
import ProbeKit.Proofs.Digest
import ProbeKit.Proofs.Manifest.Development
import ProbeKit.Proofs.Manifest.Version
import ProbeKit.Proofs.Probe.Merging

/-!
# What development adds, and what is read of it

The file that is written in development is the one text of the manifest with one more member for some
probes (`Manifest.development_adds_variants`).  The member lists what the last aggregate of the name
has seen (`Manifest.Adds`), each list of types once and in the one order that there is for them
(`Aggregate.Lists.eq`).  A reader does not look at it, so that the same is read from both texts: the
manifest, but for types in another spelling (`Manifest.canonicalText_reread_eq_iff`).
-/

namespace ProbeKit

open Json Text

/-! ### The order of what was seen -/

/-- The order of lists of texts is the lexicographic one. -/
theorem Text.lt_of_listAtMost {ss ts : List String} (h : listAtMost ss ts) (hne : ss ≠ ts) :
    ss < ts := by
  induction ss generalizing ts with
  | nil =>
    cases ts with
    | nil => exact absurd rfl hne
    | cons t ts => exact List.nil_lt_cons t ts
  | cons s ss ih =>
    cases ts with
    | nil => cases h
    | cons t ts =>
      rw [List.cons_lt_cons_iff]
      rw [listAtMost] at h
      split at h
      · rename_i heq
        subst heq
        exact .inr ⟨rfl, ih h fun heq => hne (heq ▸ rfl)⟩
      · rename_i hst
        have hle : s ≤ t := by simpa [atMost] using h
        exact .inl (String.not_le.1 fun hge => hst (String.le_antisymm hle hge))

namespace Aggregate

/-- A list of types comes before another: it is longer, or it is as long and comes first in
lexicographic order. -/
def Precedes (s t : List String) : Prop := t.length < s.length ∨ (s.length = t.length ∧ s < t)

/-- Of what was seen, `variants` lists everything once, the longest first and those of one length in
lexicographic order. -/
structure Lists (seen variants : List (List String)) : Prop where
  /-- No list of types stands there twice. -/
  nodup : variants.Nodup
  /-- What stands there was seen, and the other way round. -/
  mem_iff : ∀ types, types ∈ variants ↔ types ∈ seen
  /-- They stand in order. -/
  ordered : variants.Pairwise Precedes

variable {s t : List String} {seen seen' variants variants' : List (List String)}

theorem Precedes.asymm (h : Precedes s t) : ¬Precedes t s := by
  rintro (h' | ⟨h', hlt'⟩)
  · rcases h with h | ⟨h, -⟩ <;> omega
  · rcases h with h | ⟨-, hlt⟩
    · omega
    · exact List.lt_asymm hlt hlt'

/-- There is one such list for all that hold the same. -/
theorem Lists.eq (h : Lists seen variants) (h' : Lists seen' variants')
    (hsame : ∀ types, types ∈ seen ↔ types ∈ seen') : variants = variants' := by
  have hperm : variants.Perm variants' := (List.perm_ext_iff_of_nodup h.nodup h'.nodup).2
    fun types => (h.mem_iff types).trans ((hsame types).trans (h'.mem_iff types).symm)
  exact hperm.eq_of_pairwise (fun s t _ _ hst hts => absurd hts hst.asymm) h.ordered h'.ordered

theorem variantAtMost_iff : variantAtMost s t = true ↔
    t.length < s.length ∨ (s.length = t.length ∧ listAtMost s t = true) := by
  simp [variantAtMost]

/-- What is listed of an aggregate is listed as it should be. -/
theorem lists_variants (a : Aggregate) : Lists a.seen a.variants where
  nodup := a.nodup_variants
  mem_iff := fun _ => mem_variants
  ordered := by
    have hsorted : a.variants.Pairwise (variantAtMost · ·) := by
      refine List.pairwise_mergeSort (fun r s t hrs hst => ?_) (fun s t => ?_) _
      · rw [variantAtMost_iff] at *
        rcases hrs with hrs | ⟨hrs, hle⟩
        · rcases hst with hst | ⟨hst, -⟩ <;> exact .inl (by omega)
        · rcases hst with hst | ⟨hst, hle'⟩
          · exact .inl (by omega)
          · exact .inr ⟨hrs.trans hst, listAtMost_trans _ _ _ hle hle'⟩
      · rw [Bool.or_eq_true, variantAtMost_iff, variantAtMost_iff]
        have htotal := listAtMost_total s t
        rw [Bool.or_eq_true] at htotal
        rcases Nat.lt_trichotomy s.length t.length with hlt | heq | hgt
        · exact .inr (.inl hlt)
        · exact htotal.imp (fun h => .inr ⟨heq, h⟩) fun h => .inr ⟨heq.symm, h⟩
        · exact .inl (.inl hgt)
    refine (hsorted.and a.nodup_variants).imp fun ⟨hle, hne⟩ => ?_
    exact (variantAtMost_iff.1 hle).imp_right
      fun ⟨hlength, hle⟩ => ⟨hlength, lt_of_listAtMost hle hne⟩

/-! ### The last aggregate of a name -/

/-- Among some aggregates this is the last one of a name. -/
def IsLast (aggregates : List Aggregate) (name : String) (a : Aggregate) : Prop :=
  ∃ before after, aggregates = before ++ a :: after ∧ a.name = name ∧ ∀ b ∈ after, b.name ≠ name

/-- Aggregates of the same names that have seen the same, in whatever order and however often. -/
def SeeSame (aggregates aggregates' : List Aggregate) : Prop :=
  List.Forall₂ (fun a b : Aggregate => a.name = b.name ∧ ∀ types, types ∈ a.seen ↔ types ∈ b.seen)
    aggregates aggregates'

theorem isLast_iff {aggregates : List Aggregate} {name : String} {a : Aggregate} :
    IsLast aggregates name a ↔ aggregates.reverse.find? (·.name == name) = some a := by
  rw [List.find?_eq_some_iff_append]
  constructor
  · rintro ⟨before, after, rfl, hname, hafter⟩
    refine ⟨beq_iff_eq.2 hname, after.reverse, before.reverse, ?_, fun b hb => ?_⟩
    · simp
    · simpa using hafter b (List.mem_reverse.1 hb)
  · rintro ⟨hname, before, after, hsplit, hbefore⟩
    refine ⟨after.reverse, before.reverse, ?_, beq_iff_eq.1 hname, fun b hb => ?_⟩
    · rw [← List.reverse_reverse aggregates, hsplit]
      simp
    · simpa using hbefore b (List.mem_reverse.1 hb)

end Aggregate

namespace Manifest

open Aggregate

variable {aggregates aggregates' : List Aggregate} {name : String} {m : Manifest}

theorem variantsOf_of_isLast {a : Aggregate} (h : IsLast aggregates name a) :
    variantsOf aggregates name = a.variants := by
  rw [variantsOf, isLast_iff.1 h]
  rfl

/-- The members `added` to a probe list what the last aggregate of its name has seen, if there is one
and it has seen anything, and otherwise there are none. -/
structure Adds (aggregates : List Aggregate) (name : String) (added : List (String × Json)) :
    Prop where
  /-- Everything is listed that the last aggregate has seen. -/
  listed : ∀ a, IsLast aggregates name a → a.seen ≠ [] →
    ∃ variants, Lists a.seen variants ∧ added = [("variants", .arr (variants.map textArray))]
  /-- Nothing is added if there is nothing to list. -/
  unlisted : (∀ a, IsLast aggregates name a → a.seen = []) → added = []

theorem adds_variantMembers (aggregates : List Aggregate) (name : String) :
    Adds aggregates name (variantMembers aggregates name) where
  listed := by
    intro a ha hseen
    refine ⟨a.variants, a.lists_variants, ?_⟩
    unfold variantMembers
    rw [variantsOf_of_isLast ha]
    split
    · rename_i hnil
      exact absurd hnil (variants_ne_nil hseen)
    · rfl
  unlisted := by
    intro hnone
    rw [variantMembers_eq_nil_iff, variantsOf]
    cases hfound : aggregates.reverse.find? (·.name == name) with
    | none => rfl
    | some a =>
      have hseen := hnone a (isLast_iff.2 hfound)
      refine List.eq_nil_iff_forall_not_mem.2 fun types htypes => ?_
      have := mem_variants.1 htypes
      rw [hseen] at this
      cases this

theorem variantsOf_eq_of_seeSame (h : SeeSame aggregates aggregates') (name : String) :
    variantsOf aggregates name = variantsOf aggregates' name := by
  unfold variantsOf
  have hreverse := List.forall₂_reverse_iff.2 h
  generalize aggregates.reverse = reversed at hreverse ⊢
  generalize aggregates'.reverse = reversed' at hreverse ⊢
  induction hreverse with
  | nil => rfl
  | @cons a b rest rest' hab _ ih =>
    obtain ⟨hname, hseen⟩ := hab
    rw [List.find?_cons, List.find?_cons, hname]
    cases b.name == name with
    | true => exact a.lists_variants.eq b.lists_variants hseen
    | false => exact ih

/-- In which order something was seen makes no difference. -/
theorem developmentText_eq_of_seeSame (h : SeeSame aggregates aggregates') :
    m.developmentText aggregates = m.developmentText aggregates' := by
  have hmembers (p : Probe) :
      variantMembers aggregates p.name = variantMembers aggregates' p.name := by
    unfold variantMembers
    rw [variantsOf_eq_of_seeSame h]
  unfold developmentText developmentDocument
  simp only [hmembers]

/-! ### What is read -/

/-- The document that is written in development is read back. -/
theorem read?_developmentText {room : Room} (h : m.Plain) (hfits : m.document.Fits room.reading)
    (aggregates : List Aggregate) :
    read? room (m.developmentText aggregates) = some (m.documentWith (m.sortedProbes.map
      (probeDocument aggregates))) :=
  read?_document .unicode (legible_probes h aggregates)
    (fits_probes room.le_reading hfits aggregates)

/-- What can be written at all can be written in development. -/
theorem render_of_fits {room : Room} (h : m.document.Fits room.writing)
    (aggregates : List Aggregate) (development : Bool) :
    m.render room aggregates development = .ok (m.fileText aggregates development) := by
  cases development with
  | true => exact write_of_fits (fits_probes room.le_writing h aggregates)
  | false => exact write_of_fits h

theorem fits_of_render {room : Room} {text : String}
    (h : m.render room aggregates true = .ok text) :
    (m.documentWith (m.sortedProbes.map (probeDocument aggregates))).Fits room.writing :=
  write_eq_ok_iff.1 ⟨text, h⟩

theorem Plain.reread (h : m.Plain) : m.reread.Plain where
  schemaVersion := h.schemaVersion
  provider := h.provider
  moduleName := by
    show Legible (if m.moduleName.isVacant then .null else m.moduleName)
    split
    · trivial
    · exact h.moduleName

theorem sortedProbes_reread : m.reread.sortedProbes = m.reread.probes := by
  refine List.mergeSort_of_pairwise ?_
  show (m.sortedProbes.map fun p => (⟨p.name, p.types.map properType⟩ : Probe)).Pairwise _
  refine List.pairwise_map.2 (m.pairwise_sortedProbes.imp fun hle => ?_)
  simpa [atMost] using hle

theorem textArray_inj {texts texts' : List String} (h : textArray texts = textArray texts') :
    texts = texts' := by
  have hstrings := congrArg strings? h
  rw [strings?_textArray, strings?_textArray] at hstrings
  exact Option.some.inj hstrings

theorem properType_eq_self_iff {type : String} : properType type = type ↔ type ≠ "char*" := by
  constructor
  · rintro h rfl
    exact absurd h (by decide)
  · intro h
    simp [properType, h]

/-- What was read fits where what was written does. -/
theorem fits_document_reread {room : Room} (h : m.document.Fits room.reading) :
    m.reread.document.Fits room.reading := by
  obtain ⟨levels, hlevels⟩ := exists_reading room
  rw [hlevels, document_eq, fits_documentWith_probes] at h ⊢
  refine ⟨h.1, h.2.1, ?_⟩
  show (if m.moduleName.isVacant then Json.null else m.moduleName).isVacant = false →
    (if m.moduleName.isVacant then Json.null else m.moduleName).Fits (levels + 4)
  split
  · exact fun _ => rfl
  · exact h.2.2

/-- What is read has the same one text exactly if no type was in another spelling. -/
theorem canonicalText_reread_eq_iff {room : Room} (h : m.Plain)
    (hfits : m.document.Fits room.reading) :
    m.reread.canonicalText = m.canonicalText ↔ ∀ p ∈ m.probes, "char*" ∉ p.types := by
  constructor
  · intro htext p hp hmem
    have hdocument : m.document = m.reread.document := by
      have hread := read?_canonicalText h.reread (fits_document_reread hfits)
      rw [htext, read?_canonicalText h hfits] at hread
      exact Option.some.inj hread
    have hprobes : Json.arr (m.sortedProbes.map fun p => .obj (probeMembers p)) =
        .arr (m.reread.sortedProbes.map fun p => .obj (probeMembers p)) := by
      rw [← (m.members_documentWith _).2.2.2, ← (m.reread.members_documentWith _).2.2.2]
      exact congrArg (Json.member "probes") hdocument
    rw [Json.arr.injEq, sortedProbes_reread] at hprobes
    have hprobe : Json.obj (probeMembers p) = .obj (probeMembers ⟨p.name, p.types.map properType⟩) :=
      List.map_inj_left.1 (hprobes.trans List.map_map) p (List.mem_mergeSort.2 hp)
    have htypes : textArray p.types = textArray (p.types.map properType) :=
      congrArg (Json.member "arg_types") hprobe
    have hself : properType "char*" = id "char*" := List.map_inj_left.1
      ((textArray_inj htypes).symm.trans (List.map_id _).symm) _ hmem
    exact properType_eq_self_iff.1 hself rfl
  · intro hnone
    exact canonicalText_reread fun p hp t ht =>
      properType_eq_self_iff.2 fun heq => hnone p hp (heq ▸ ht)

/-! ### The main result -/

/-- **Development adds what was seen and nothing else.**  A manifest that is not too large can be
written in development and without.  The same manifest is read from the file that is written in
development and from the one text; it has that one text and its digest again,
provided that no type stands in a spelling that is not its proper one.  The two documents differ in
nothing but the members that are added to the probes: a probe lists everything that the last aggregate
of its name has seen, and any other probe lists nothing.  In which order it was seen makes no
difference to the file. -/
theorem development_adds_variants {room : Room} {m : Manifest} (h : m.Proper)
    (hreading : m.document.Fits room.reading) (hwriting : m.document.Fits room.writing)
    (aggregates : List Aggregate) :
    (m.render room aggregates true = .ok (m.developmentText aggregates) ∧
      m.canonicalize room = .ok m.canonicalText) ∧
    (∃ m', parse room (m.developmentText aggregates) = .ok m' ∧
      parse room m.canonicalText = .ok m' ∧
      (m'.canonicalText = m.canonicalText ↔ ∀ p ∈ m.probes, "char*" ∉ p.types) ∧
      ((∀ p ∈ m.probes, "char*" ∉ p.types) → m'.digest = m.digest)) ∧
    (∃ added : String → List (String × Json), (∀ name, Adds aggregates name (added name)) ∧
      read? room m.canonicalText = some (m.documentWith (m.sortedProbes.map fun p =>
        .obj (probeMembers p))) ∧
      read? room (m.developmentText aggregates) = some (m.documentWith (m.sortedProbes.map fun p =>
        .obj (probeMembers p ++ added p.name)))) ∧
    ∀ aggregates', SeeSame aggregates aggregates' →
      m.developmentText aggregates' = m.developmentText aggregates := by
  have hplain := h.plain
  have htexts := canonicalText_reread_eq_iff hplain hreading
  refine ⟨⟨render_of_fits hwriting aggregates true, canonicalize_of_fits hwriting⟩,
    ⟨m.reread, parse_fileText hplain hreading aggregates true,
      parse_fileText hplain hreading [] false, htexts,
      fun hnone => congrArg Digest.hexDigest (htexts.2 hnone)⟩, ?_,
    fun _ hsame => (developmentText_eq_of_seeSame hsame).symm⟩
  exact ⟨variantMembers aggregates, adds_variantMembers aggregates,
    read?_canonicalText hplain hreading, read?_developmentText hplain hreading aggregates⟩

/-- Of two aggregates of one name the second counts, and a probe of another name stays as it is. -/
theorem development_adds_variants_untidy :
    ∃ (m' : Manifest) (added : String → List (String × Json)),
      parse .usual (untidy.developmentText [⟨"b", ["any"], [["any"]]⟩,
        ⟨"b", ["int"], [["int"], ["any", "int"], ["int"]]⟩]) = .ok m' ∧
      parse .usual untidy.canonicalText = .ok m' ∧
      read? .usual (untidy.developmentText [⟨"b", ["any"], [["any"]]⟩,
        ⟨"b", ["int"], [["int"], ["any", "int"], ["int"]]⟩]) = some (untidy.documentWith
          (untidy.sortedProbes.map fun p => .obj (probeMembers p ++ added p.name))) ∧
      added "a" = [] ∧
      added "b" = [("variants", .arr [textArray ["any", "int"], textArray ["int"]])] := by
  obtain ⟨-, ⟨m', hdevelopment, hcanonical, -⟩, ⟨added, hadds, -, hread⟩, -⟩ :=
    @development_adds_variants .usual _ proper_untidy fits_untidy fits_untidy
      [⟨"b", ["any"], [["any"]]⟩, ⟨"b", ["int"], [["int"], ["any", "int"], ["int"]]⟩]
  obtain ⟨variants, hlists, hadded⟩ := (hadds "b").listed ⟨"b", ["int"], _⟩
    ⟨[_], [], rfl, rfl, fun _ hb => absurd hb List.not_mem_nil⟩ (List.cons_ne_nil _ _)
  have hexplicit : Lists [["int"], ["any", "int"], ["int"]] [["any", "int"], ["int"]] :=
    ⟨by decide, fun types => by simp [or_comm], by simp [Precedes]⟩
  rw [hlists.eq hexplicit fun _ => Iff.rfl] at hadded
  refine ⟨m', added, hdevelopment, hcanonical, hread, (hadds "a").unlisted ?_, hadded⟩
  rintro a ⟨before, after, hsplit, hname, -⟩
  have ha : a ∈ before ++ a :: after := List.mem_append_right _ List.mem_cons_self
  rw [← hsplit] at ha
  simp only [List.mem_cons, List.not_mem_nil, or_false] at ha
  rcases ha with rfl | rfl
  · exact absurd hname (by decide)
  · exact absurd hname (by decide)

/-- A manifest of one probe. -/
def oneProbe (types : List String) : Manifest :=
  { provider := .str "nodeapp", probes := [⟨"p", types⟩] }

theorem proper_oneProbe (types : List String) : (oneProbe types).Proper := ⟨.int 1, .str _, .null⟩

theorem document_oneProbe (types : List String) : (oneProbe types).document =
    (oneProbe types).documentWith [.obj (probeMembers ⟨"p", types⟩)] := by
  rw [document, sortedProbes, oneProbe, List.mergeSort_singleton]
  rfl

theorem digest_oneProbe_spaced : (oneProbe ["char *"]).digest =
    "39a4601107c360e27ff2ca5a6289d0c0149ec9c1bcb9517a5b275d73d704cbfd" := by
  rw [digest, Digest.hexDigest_eq, canonicalText, document_oneProbe]
  decide +kernel

theorem digest_oneProbe_unspaced : (oneProbe ["char*"]).digest =
    "baf4479f38833776a77c34b9b79c318cdd3f03d225949f547d9969704078d5ce" := by
  rw [digest, Digest.hexDigest_eq, canonicalText, document_oneProbe]
  decide +kernel

/-- **Not everything that was seen is listed, not every file has the digest of its manifest, and not
every manifest has a file.**  Of two aggregates of one name the last counts even if it has seen
nothing.  A type in another spelling is read in its proper one, so that what is read has another
digest.  And an integer with too many digits is not written. -/
theorem exists_unlisted_respelled_unwritten :
    (∃ (m : Manifest) (aggregates : List Aggregate), m.Proper ∧
      (∃ p ∈ m.probes, ∃ a ∈ aggregates, a.name = p.name ∧ a.seen ≠ []) ∧
      m.developmentText aggregates = m.canonicalText) ∧
    (∃ m m' : Manifest, m.Proper ∧ parse .usual (m.developmentText []) = .ok m' ∧
      m'.digest ≠ m.digest) ∧
    ∃ m : Manifest, m.Proper ∧ ∀ text, m.render .usual [] true ≠ .ok text := by
  have hplain (types : List String) : (oneProbe types).Plain := (proper_oneProbe types).plain
  have hfits (types : List String) : (oneProbe types).document.Fits 980 :=
    fits_of_fields 975 rfl rfl fun _ => rfl
  refine ⟨?_, ?_, ?_⟩
  · refine ⟨oneProbe ["int"], [⟨"p", ["int"], [["int"]]⟩, ⟨"p", ["int"], []⟩], proper_oneProbe _,
      ⟨_, List.mem_singleton_self _, _, List.mem_cons_self, rfl, List.cons_ne_nil _ _⟩, ?_⟩
    refine (developmentText_eq_iff (hplain _) (by decide) (hfits _)).2 fun p hp => ?_
    obtain rfl := List.mem_singleton.1 hp
    have hlast : IsLast [⟨"p", ["int"], [["int"]]⟩, ⟨"p", ["int"], []⟩] "p" ⟨"p", ["int"], []⟩ :=
      ⟨[_], [], rfl, rfl, fun _ hb => absurd hb List.not_mem_nil⟩
    rw [variantsOf_of_isLast hlast, variants]
    exact List.mergeSort_nil
  · refine ⟨oneProbe ["char*"], (oneProbe ["char*"]).reread, proper_oneProbe _,
      parse_fileText (hplain _) (hfits _) [] true, ?_⟩
    have hreread : (oneProbe ["char*"]).reread = oneProbe ["char *"] := by
      rw [reread, sortedProbes, oneProbe, List.mergeSort_singleton]
      rfl
    rw [hreread, digest_oneProbe_spaced, digest_oneProbe_unspaced]
    decide
  · refine ⟨overlongProvider, proper_overlongProvider, fun text hwritten => ?_⟩
    have hfits := fits_of_render hwritten
    exact not_fits_overlongProvider [] 975 hfits

end Manifest

end ProbeKit
