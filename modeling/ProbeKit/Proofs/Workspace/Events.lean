import ProbeKit.Proofs.Digest
import ProbeKit.Proofs.Disk.Again
import ProbeKit.Proofs.Workspace.Built
import ProbeKit.Proofs.Workspace.Opening

/-!
# What the actions of a workspace change

For a workspace whose manifest comes from a scan: what an event, the beginning of a cycle and the end
of a cycle change, and what they leave as it was.  Each lemma gives the workspace afterwards but for
its desk, and says of the desk only what it has to.

The small project at the end has one source, whose text may be changed, and a build tool that does
nothing.  Every action goes well in it (`Small.Open.on_beginCycle`, `Small.Open.on_endCycle`).
-/

namespace ProbeKit

open Act
open Desk (Noted)

namespace Workspace

variable {w w' : Workspace}

/-- The manifest of what a catalog holds. -/
def manifestOf (w : Workspace) (c : Catalog) : Manifest :=
  Manifest.ofAggregates w.settings.providerValue w.settings.moduleValue c.aggregates

theorem noted_noteAll (records : List Record) (d : Desk) : Noted d (d.noteAll records) :=
  ⟨d.tool_noteAll records, d.mayWrite_noteAll records⟩

/-! ### Manifests -/

theorem on_sound_eq_ok {m m' : Manifest} :
    (sound m).on w = (.ok m', w') ↔ m.flaw? = none ∧ m' = m ∧ w' = w := by
  unfold sound
  cases m.flaw? with
  | none => simp [eq_comm]
  | some flaw => simp

/-- Without a scan the manifest is that of the catalog as it is. -/
theorem on_currentManifest_false (h : w.source = .scan) :
    (currentManifest false).on w = (sound (w.manifestOf w.scanner.catalog)).on
      { w with aggregates := w.scanner.catalog.aggregates } := by
  rw [on_currentManifest_of_scan h, if_neg Bool.false_ne_true, on_pure_bind,
    on_bind_of_ok (on_scanned w)]
  rfl

/-- With a scan it is that of the sources. -/
theorem on_currentManifest_true (h : w.source = .scan) {scanner : Scanner} {records : List Record}
    (hrescan : w.scanner.rescan w.desk.disk = (.ok scanner, records)) :
    (currentManifest true).on w = (sound (w.manifestOf scanner.catalog)).on
      { w with
        scanner, aggregates := scanner.catalog.aggregates, desk := w.desk.noteAll records } := by
  rw [on_currentManifest_of_scan h, if_pos rfl, on_bind_of_ok (on_rescan hrescan),
    on_bind_of_ok (on_scanned _)]
  rfl

/-- **A manifest that could be made with a scan is that of the sources**, so these could be read. -/
theorem currentManifest_true_ok {m : Manifest} (h : (currentManifest true).on w = (.ok m, w'))
    (hsource : w.source = .scan) :
    ∃ scanner records, w.scanner.rescan w.desk.disk = (.ok scanner, records) ∧
      m.flaw? = none ∧ m = w.manifestOf scanner.catalog ∧
      w' = { w with
        scanner, aggregates := scanner.catalog.aggregates, desk := w.desk.noteAll records } := by
  rcases hrescan : w.scanner.rescan w.desk.disk with ⟨e | scanner, records⟩
  · rw [on_currentManifest_of_scan hsource, if_pos rfl] at h
    obtain ⟨_, _, hread, -⟩ := on_bind_eq_ok.1 h
    unfold rescan at hread
    rw [on_get_bind, hrescan, on_bind_of_ok (on_noteAll _ _)] at hread
    cases hread
  · rw [on_currentManifest_true hsource hrescan] at h
    obtain ⟨hflaw, rfl, rfl⟩ := on_sound_eq_ok.1 h
    exact ⟨scanner, records, rfl, hflaw, rfl, rfl⟩

/-! ### Events -/

/-- What an event that is applied without a fault changes. -/
theorem on_applyEvent_of_update {e : Event} (hkind : e.kind = .add ∨ e.kind = .change)
    {updated : Bool} {scanner : Scanner} {records : List Record}
    (h : w.scanner.update w.desk.disk e.path = .ok (updated, scanner, records)) :
    (applyEvent e).on w = (.ok (), { w with scanner, desk := w.desk.noteAll records }) := by
  unfold applyEvent
  rcases hkind with hkind | hkind
  all_goals
    rw [hkind]
    exact on_bind_of_ok (on_update h) _

theorem on_applyEvent_of_forget {e : Event} (hkind : e.kind = .unlink) {known : Bool}
    {scanner : Scanner} (h : w.scanner.forget w.desk.disk e.path = .ok (known, scanner)) :
    (applyEvent e).on w = (.ok (), { w with scanner }) := by
  unfold applyEvent
  rw [hkind]
  exact on_bind_of_ok (on_forget h) _

/-- **An event that is applied tells whether the manifest changed**, and the manifest is computed. -/
theorem on_absorb {e : Event} {w₁ : Workspace} (happly : (applyEvent e).on w = (.ok (), w₁))
    (hsource : w₁.source = .scan) (hflaw : (w₁.manifestOf w₁.scanner.catalog).flaw? = none) :
    ∃ records, (absorb e).on w =
      (.ok (w₁.detector.changed (w₁.manifestOf w₁.scanner.catalog).digest w₁.force),
        { w₁ with
          aggregates := w₁.scanner.catalog.aggregates
          detector := w₁.detector.observe (w₁.manifestOf w₁.scanner.catalog).digest
          desk := w₁.desk.noteAll records }) := by
  have hmanifest : (currentManifest false).on w₁ = (.ok (w₁.manifestOf w₁.scanner.catalog),
      { w₁ with aggregates := w₁.scanner.catalog.aggregates }) := by
    rw [on_currentManifest_false hsource]
    exact on_sound_eq_ok.2 ⟨hflaw, rfl, rfl⟩
  unfold absorb
  rw [on_bind_of_ok happly, on_bind_of_ok hmanifest, on_get_bind, on_set_bind]
  dsimp only
  generalize w₁.detector.changed (w₁.manifestOf w₁.scanner.catalog).digest w₁.force = changed
  cases changed with
  | true =>
    rw [if_pos rfl, on_bind_of_ok (on_say _ _ _ _)]
    exact ⟨[_], rfl⟩
  | false =>
    rw [if_neg Bool.false_ne_true, on_bind_of_ok (on_say _ _ _ _)]
    exact ⟨[_], rfl⟩

/-! ### Cycles -/

/-- **The beginning of a cycle scans the sources and writes their manifest**, if it goes well. -/
theorem prepare_ok {m : Manifest} (h : prepare.on w = (.ok m, w')) (hsource : w.source = .scan)
    (houtputs : w.settings.OutputsApart w.desk.disk) :
    ∃ scanner records, w.scanner.rescan w.desk.disk = (.ok scanner, records) ∧
      m = w.manifestOf scanner.catalog ∧ w.settings.FileHas w'.desk.disk m.digest ∧
      w' = { w with
        scanner, aggregates := scanner.catalog.aggregates
        detector := w.detector.observe m.digest, desk := w'.desk } := by
  unfold prepare at h
  obtain ⟨m', w₁, hm, h⟩ := on_bind_eq_ok.1 h
  have hm := on_currentManifest_of_manifestToWrite hm
  have hmade := relates_currentManifest true w
  rw [hm] at hmade
  have houtputs₁ := houtputs.of_writes (hmade.disk houtputs.isDir)
  obtain ⟨scanner, records, hrescan, hflaw, rfl, rfl⟩ := currentManifest_true_ok hm hsource
  refine ⟨scanner, records, hrescan, ?_⟩
  obtain ⟨digest, w₂, hd, h⟩ := on_bind_eq_ok.1 h
  have hfile := fileHas_writeManifest hflaw houtputs₁.isDir hd
  have hwritten := writes_writeManifest (w.manifestOf scanner.catalog)
    { w with scanner, aggregates := scanner.catalog.aggregates, desk := w.desk.noteAll records }
  rw [hd] at hwritten
  have houtputs₂ := houtputs₁.of_writes (hwritten.disk houtputs₁.isDir)
  obtain rfl := digest_of_writeManifest hd
  -- To write the manifest changes the disk and nothing else.
  have hshape : ∃ disk, w₂ = { w with
      scanner, aggregates := scanner.catalog.aggregates
      desk := { w.desk.noteAll records with disk } } := by
    unfold writeManifest at hd
    rw [on_get_bind] at hd
    obtain ⟨_, w₃, h₃, hd⟩ := on_bind_eq_ok.1 hd
    obtain ⟨_, w₄, h₄, hd⟩ := on_bind_eq_ok.1 hd
    obtain ⟨d₃, -, rfl⟩ := on_onDisk_eq.1 h₃
    obtain ⟨d₄, -, rfl⟩ := on_onDisk_eq.1 h₄
    cases hd
    exact ⟨d₄, rfl⟩
  obtain ⟨disk, rfl⟩ := hshape
  rw [on_modify_bind, on_get_bind, on_bind_of_ok (on_say _ _ _ _)] at h
  cases h
  have hnoted := Desk.mayWrite_note
    ⟨.info, "build", "Running native build: " ++ " ".intercalate w.settings.command⟩
    { w.desk.noteAll records with disk } houtputs₂.isDir
  exact ⟨rfl, hfile.of_writes hnoted houtputs₂ fun _ hq => hq.elim, rfl⟩

end Workspace

/-! ### A small project -/

namespace Small

/-- The settings of a project with one directory of sources and without artifacts. -/
def settings : Settings :=
  { Settings.ofRoot ⟨.root, ["p"]⟩ with
    snapshotPath := ⟨.root, ["p", "snapshot.json"]⟩, sourceDirs := ["t"], artifacts := [] }

/-- The settings if there are artifacts. -/
def settingsFor (artifacts : List String) : Settings := { settings with artifacts }

/-- Its disk, with the text of its one source and with some outputs. -/
def disk (text : String) (outputs : List (String × ByteArray)) : Disk :=
  { top := .dir [("p", .dir (("t", .dir [("a.js", .file (Text.encode text))]) ::
      outputs.map fun output => (output.1, .file output.2)))]
    here := [] }

/-- What the source declares. -/
def catalog (text : String) : Catalog :=
  Catalog.ofList [("t/a.js", (declaredProbes text).toOption.getD [])]

/-- What is scanned there. -/
def manifest (text : String) : Manifest :=
  Manifest.ofAggregates settings.providerValue settings.moduleValue (catalog text).aggregates

/-- A text that can be read and whose manifest has no flaw. -/
structure Good (text : String) : Prop where
  /-- It has no line ends of another kind. -/
  noReturn : '\r' ∉ text.toList
  /-- No numeral in it is too long. -/
  declared : ∃ probes, declaredProbes text = .ok probes
  /-- The manifest is in order. -/
  flawless : (manifest text).flaw? = none

theorem linkFree_disk (text : String) (outputs : List (String × ByteArray)) :
    (disk text outputs).top.LinkFree := by
  refine Node.linkFree_of_linkCount_eq_zero ?_
  have hfiles :
      Node.linkCountIn (outputs.map fun output => (output.1, Node.file output.2)) = 0 := by
    induction outputs with
    | nil => rfl
    | cons output rest ih => rw [List.map_cons, Node.linkCountIn, Node.linkCount, ih]
  simp [disk, Node.linkCount, Node.linkCountIn, hfiles]

/-- The outputs once one of them is written. -/
def output (name : String) (bytes : ByteArray) :
    List (String × ByteArray) → List (String × ByteArray)
  | [] => [(name, bytes)]
  | (other, old) :: rest =>
    if other == name then (name, bytes) :: rest else (other, old) :: output name bytes rest

theorem lookup_output (name : String) (bytes : ByteArray) (outputs : List (String × ByteArray))
    (wanted : String) : (output name bytes outputs).lookup wanted =
      if wanted = name then some bytes else outputs.lookup wanted := by
  induction outputs with
  | nil => exact lookup_cons_ite name wanted bytes []
  | cons first rest ih =>
    obtain ⟨other, old⟩ := first
    by_cases hother : other = name
    · subst hother
      rw [output, if_pos (beq_self_eq_true _), lookup_cons_ite, lookup_cons_ite]
      split <;> rfl
    · rw [output, if_neg (by simpa using hother), lookup_cons_ite, ih, lookup_cons_ite]
      by_cases hwanted : wanted = other
      · rw [if_pos hwanted, if_neg (hwanted ▸ hother), if_pos hwanted]
      · rw [if_neg hwanted, if_neg hwanted]

theorem setEntry_outputs (name : String) (bytes : ByteArray) (outputs : List (String × ByteArray)) :
    Node.setEntry name (.file bytes) (outputs.map fun output => (output.1, Node.file output.2)) =
      (output name bytes outputs).map fun output => (output.1, Node.file output.2) := by
  induction outputs with
  | nil => rfl
  | cons first rest ih =>
    by_cases hname : first.1 = name
    · simp [Node.setEntry, output, hname]
    · simp [Node.setEntry, output, hname, ih]

theorem at?_output (text : String) (outputs : List (String × ByteArray)) {name : String}
    (hne : name ≠ "t") :
    (disk text outputs).top.at? ["p", name] = (outputs.lookup name).map Node.file := by
  have hbeq : (name == "t") = false := by simpa using hne
  have hfiles := lookup_map_keys (f := id) (g := Node.file)
    (fun k => (Iff.rfl : id k = name ↔ k = name)) outputs
  simp only [id_eq] at hfiles
  simp [disk, Node.at?, Node.entries, List.lookup_cons, hbeq, hfiles]

/-- Each output can be written. -/
theorem write_output (text : String) (outputs : List (String × ByteArray)) {name : String}
    (hname : Disk.IsName name) (hne : name ≠ "t") (bytes : ByteArray) :
    (disk text outputs).write ⟨.root, ["p", name]⟩ bytes =
      .ok (disk text (output name bytes outputs)) := by
  have hnames : ∀ n ∈ (disk text outputs).absoluteNames ⟨.root, ["p", name]⟩, Disk.IsName n := by
    intro n hn
    change n ∈ ["p", name] at hn
    obtain rfl | rfl : n = "p" ∨ n = name := by simpa using hn
    · decide
    · exact hname
  have hput : (disk text outputs).top.put ["p", name] (.file bytes) =
      (disk text (output name bytes outputs)).top := by
    simp [disk, Node.put, Node.setEntry, hne.symm, setEntry_outputs]
  have hat := at?_output text outputs hne
  cases hlookup : outputs.lookup name with
  | none =>
    rw [hlookup] at hat
    have hl : (disk text outputs).locateFor .creation ⟨.root, ["p", name]⟩ =
        .ok (.free ["p", name]) :=
      Disk.locateFor_free hnames rfl ["p"] rfl rfl (Node.view_eq_none_iff.2 hat)
    rw [Disk.write, hl]
    dsimp only
    rw [hput]
    rfl
  | some old =>
    rw [hlookup] at hat
    have hl : (disk text outputs).locateFor .creation ⟨.root, ["p", name]⟩ =
        .ok (.found ["p", name] (.file old)) :=
      Disk.locateFor_found hnames (linkFree_disk text outputs) rfl hat
    rw [Disk.write, hl]
    dsimp only
    rw [hput]
    rfl

theorem hasDirectory_disk (text : String) (outputs : List (String × ByteArray)) {names : List String}
    (hnames : names = ["p"] ∨ names = ["p", "t"]) :
    (disk text outputs).hasDirectory ⟨.root, names⟩ = true := by
  have hfree := linkFree_disk text outputs
  rcases hnames with rfl | rfl
  · rw [Disk.hasDirectory_of_linkFree (by show ∀ n ∈ ["p"], Disk.IsName n; decide) hfree rfl]
    rfl
  · rw [Disk.hasDirectory_of_linkFree (by show ∀ n ∈ ["p", "t"], Disk.IsName n; decide) hfree rfl]
    rfl

theorem ensureDirectories_disk (text : String) (outputs : List (String × ByteArray)) :
    (disk text outputs).ensureDirectories ⟨.root, ["p"]⟩ = .ok (disk text outputs) :=
  Disk.ensureDirectories_eq_self (hasDirectory_disk text outputs (.inl rfl))

/-- The path of its source. -/
def source : Path := ⟨.root, ["p", "t", "a.js"]⟩

theorem read?_source (text : String) (outputs : List (String × ByteArray)) :
    (disk text outputs).hasDirectory source = false ∧
      (disk text outputs).read? source = some (Text.encode text) := by
  have hnames : ∀ n ∈ (disk text outputs).absoluteNames source, Disk.IsName n := by
    show ∀ n ∈ ["p", "t", "a.js"], Disk.IsName n
    decide
  have hfree := linkFree_disk text outputs
  constructor
  · rw [Disk.hasDirectory_of_linkFree hnames hfree rfl]
    rfl
  · rw [Disk.read?_eq_some_of_linkFree hnames hfree rfl]
    rfl

theorem reading?_source {text : String} (htext : '\r' ∉ text.toList)
    (outputs : List (String × ByteArray)) :
    Scanner.reading? (disk text outputs) source = some (declaredProbes text) := by
  rw [Scanner.reading?, (read?_source text outputs).2, Option.bind_some, Text.readText?_encode htext,
    Option.map_some]

/-- A scanner of the project. -/
def scanner (catalog : Catalog) : Scanner :=
  { root := ⟨.root, ["p"]⟩, roots := [⟨.root, ["p", "t"]⟩]
    extensions := [".js", ".mjs", ".cjs", ".ts"], exclusions := [], catalog }

theorem rescan_disk (known : Catalog) {text : String} (h : Good text)
    (outputs : List (String × ByteArray)) :
    ∃ records, (scanner known).rescan (disk text outputs) =
      (.ok (scanner (catalog text)), records) := by
  have hroot : (disk text outputs).look ⟨.root, ["p", "t"]⟩ =
      .ok (some (.dir [("a.js", .file (Text.encode text))])) :=
    Disk.look_of_linkFree (by show ∀ n ∈ ["p", "t"], Disk.IsName n; decide)
      (linkFree_disk text outputs) rfl
  have hfile := (read?_source text outputs).1
  have hextension : (scanner known).hasExtension source = true := by
    show (scanner ∅).hasExtension source = true
    decide +kernel
  have hfiles : (scanner known).sourcesBelow (disk text outputs) (scanner known).roots =
      ([source], none) := by
    have hexcludes (p : Path) (isDirectory : Bool) :
        (scanner known).excludes p isDirectory = false := rfl
    rw [show (scanner known).roots = [⟨.root, ["p", "t"]⟩] from rfl, Scanner.sourcesBelow, hroot]
    have hchild : (⟨.root, ["p", "t"]⟩ : Path).child "a.js" = source := rfl
    simp [Scanner.sourcesBelow, Scanner.sourcesIn, Scanner.sourcesInEntries, Node.isDir, hchild,
      hfile, hextension, Text.sorted, hexcludes]
  obtain ⟨probes, hprobes⟩ := h.declared
  have hreading := reading?_source h.noReturn outputs
  rw [hprobes] at hreading
  have hoverlong : Scanner.overlong? (disk text outputs) source = none := by
    rw [Scanner.overlong?, hreading]
  have hdeclared : Scanner.declared? (disk text outputs) source = some probes := by
    rw [Scanner.declared?, hreading]
    rfl
  rw [Scanner.rescan, hfiles]
  dsimp only
  rw [List.findSome?_cons, hoverlong, List.findSome?_nil]
  dsimp only
  rw [Scanner.catalogOf, List.foldl_cons, hdeclared, catalog, hprobes]
  exact ⟨_, rfl⟩

/-- Its snapshot is that of some manifest, if there is one. -/
def Kept (outputs : List (String × ByteArray)) : Prop :=
  ∀ bytes, outputs.lookup "snapshot.json" = some bytes →
    ∃ m : Manifest, bytes = Text.encode (Snapshot.text m)

theorem kept_nil : Kept [] := fun _ h => by cases h

theorem Kept.output {outputs : List (String × ByteArray)} (h : Kept outputs) {name : String}
    (hname : name ≠ "snapshot.json") (bytes : ByteArray) : Kept (output name bytes outputs) := by
  intro bytes' hbytes
  rw [lookup_output, if_neg hname.symm] at hbytes
  exact h bytes' hbytes

theorem kept_snapshot (m : Manifest) (outputs : List (String × ByteArray)) :
    Kept (output "snapshot.json" (Text.encode (Snapshot.text m)) outputs) := by
  intro bytes hbytes
  rw [lookup_output, if_pos rfl] at hbytes
  exact ⟨m, (Option.some.inj hbytes).symm⟩

theorem on_makeRoom_disk (text name : String) (outputs : List (String × ByteArray)) :
    (Disk.makeRoom ⟨.root, ["p", name]⟩).on (disk text outputs) = (.ok (), disk text outputs) :=
  Disk.on_makeRoom (ensureDirectories_disk text outputs)

theorem on_writeText_disk (text : String) (outputs : List (String × ByteArray)) {name : String}
    (hname : Disk.IsName name) (hne : name ≠ "t") (content : String) :
    (Disk.writeText ⟨.root, ["p", name]⟩ content).on (disk text outputs) =
      (.ok (), disk text (output name (Text.encode content) outputs)) :=
  Disk.on_writeText (write_output text outputs hname hne (Text.encode content))

/-- The name of the sidecar. -/
def sidecarName : String := "probes.manifest.json.sha256"

theorem on_sidecar_disk (text digest : String) (outputs : List (String × ByteArray)) :
    (Sidecar.write settings.manifestPath digest settings.root settings.artifacts).on
      (disk text outputs) = (.ok [⟨.root, ["p", sidecarName]⟩],
        disk text (output sidecarName (Text.encode (digest ++ "\n")) outputs)) := by
  have hwrite := on_writeText_disk text outputs (by decide : Disk.IsName sidecarName) (by decide)
    (digest ++ "\n")
  have hfound : Sidecar.artifacts
      (disk text (output sidecarName (Text.encode (digest ++ "\n")) outputs)) settings.root
      settings.artifacts = .ok [] := by
    show Except.ok (Path.sorted []) = _
    simp [Path.sorted]
  rw [Sidecar.write, show Sidecar.path settings.manifestPath = .ok ⟨.root, ["p", sidecarName]⟩ from
    rfl, on_bind_of_ok (on_ofExcept_ok _ _ _), on_bind_of_ok hwrite, on_get_bind, hfound,
    on_bind_of_ok (on_ofExcept_ok _ _ _)]
  rfl

theorem on_keepSnapshot_disk (text : String) (m : Manifest) (outputs : List (String × ByteArray)) :
    (Sidecar.keepSnapshot (some settings.snapshotPath) m).on (disk text outputs) =
      (.ok (), disk text (output "snapshot.json" (Text.encode (Snapshot.text m)) outputs)) := by
  have hwrite := on_writeText_disk text outputs (by decide : Disk.IsName "snapshot.json")
    (by decide) (Snapshot.text m)
  show (Disk.makeRoom ⟨.root, ["p", "snapshot.json"]⟩ >>= fun _ =>
    Disk.writeText ⟨.root, ["p", "snapshot.json"]⟩ (Snapshot.text m)).on _ = _
  rw [on_bind_of_ok (on_makeRoom_disk text "snapshot.json" outputs), hwrite]

/-! ### Its outputs -/

theorem outputsApart_disk (text : String) (outputs : List (String × ByteArray)) :
    settings.OutputsApart (disk text outputs) := by
  refine ⟨Settings.recordsApart_of_linkFree (linkFree_disk text outputs) rfl rfl ?_ ?_ ?_ ?_ ?_,
    fun place _ h => by cases h⟩
  · show ∀ n ∈ settings.manifestPath.names, Disk.IsName n
    decide
  · show ∀ n ∈ settings.snapshotPath.names, Disk.IsName n
    decide
  · show settings.snapshotPath.names ≠ settings.manifestPath.names
    decide
  · show settings.snapshotPath.names.getLast? ≠ _
    decide
  · intro name hname
    obtain rfl : "probes.manifest.json" = name := Option.some.inj hname
    decide

/-- An output does not depend on the text of the source. -/
theorem read?_output (text text' : String) (outputs : List (String × ByteArray)) {name : String}
    (hname : Disk.IsName name) (hne : name ≠ "t") :
    (disk text' outputs).read? ⟨.root, ["p", name]⟩ =
        (disk text outputs).read? ⟨.root, ["p", name]⟩ ∧
      (disk text' outputs).file? ⟨.root, ["p", name]⟩ =
        (disk text outputs).file? ⟨.root, ["p", name]⟩ := by
  have hnames (text : String) :
      ∀ n ∈ (disk text outputs).absoluteNames ⟨.root, ["p", name]⟩, Disk.IsName n := by
    intro n hn
    change n ∈ ["p", name] at hn
    obtain rfl | rfl : n = "p" ∨ n = name := by simpa using hn
    · decide
    · exact hname
  have hview : (disk text' outputs).top.view ["p", name] =
      (disk text outputs).top.view ["p", name] := by
    rw [Node.view, Node.view, at?_output text' outputs hne, at?_output text outputs hne]
  constructor
  · refine Option.ext fun bytes => ?_
    rw [Disk.read?_eq_some_of_linkFree (hnames text') (linkFree_disk text' outputs) rfl,
      Disk.read?_eq_some_of_linkFree (hnames text) (linkFree_disk text outputs) rfl]
    exact hview ▸ Iff.rfl
  · have hhome (text : String) : (disk text outputs).home? ⟨.root, ["p", name]⟩ =
        some ["p", name] := Disk.home?_of_linkFree (hnames text) (linkFree_disk text outputs)
    rw [Disk.file?, Disk.file?, hhome, hhome, Option.bind_some, Option.bind_some, hview]

theorem lookup_of_read? {text : String} {outputs : List (String × ByteArray)} {name : String}
    {bytes : ByteArray} (hname : Disk.IsName name) (hne : name ≠ "t")
    (h : (disk text outputs).read? ⟨.root, ["p", name]⟩ = some bytes) :
    outputs.lookup name = some bytes := by
  have hnames : ∀ n ∈ (disk text outputs).absoluteNames ⟨.root, ["p", name]⟩, Disk.IsName n := by
    intro n hn
    change n ∈ ["p", name] at hn
    obtain rfl | rfl : n = "p" ∨ n = name := by simpa using hn
    · decide
    · exact hname
  rw [Disk.read?_eq_some_of_linkFree hnames (linkFree_disk text outputs) rfl,
    Node.view_eq_file_iff] at h
  simpa using (at?_output text outputs hne).symm.trans h

/-- Writing the source leaves the outputs alone. -/
theorem leavesOutputs_disk (text text' : String) (outputs : List (String × ByteArray)) :
    settings.LeavesOutputs (disk text outputs) (disk text' outputs) := by
  have hown {own : Path} (h : Sidecar.path settings.manifestPath = .ok own) :
      own = ⟨.root, ["p", sidecarName]⟩ := (Except.ok.inj h).symm
  have hsidecar := read?_output text text' outputs
    (by decide : Disk.IsName sidecarName) (by decide)
  have hmanifest := read?_output text text' outputs
    (by decide : Disk.IsName "probes.manifest.json") (by decide)
  have hapart := outputsApart_disk text' outputs
  exact ⟨⟨hapart.toSidecarApart, fun own h => hown h ▸ hsidecar.1,
    fun own h => hown h ▸ hsidecar.2⟩, hapart, hmanifest.1, hmanifest.2⟩

/-! ### What is scanned -/

/-- Another text of the source. -/
def other : String := "t.addProbe('p', 'int');"

theorem declaredProbes_empty : declaredProbes "" = .ok [] := by decide +kernel

theorem declaredProbes_other : declaredProbes other = .ok [⟨"p", ["int"]⟩] := by decide +kernel

theorem manifest_empty : manifest "" = { provider := .str "nodeapp" } := by
  rw [manifest, catalog, declaredProbes_empty, Catalog.aggregates]
  dsimp only [Except.toOption, Option.getD_some]
  have hnone : (Catalog.ofList [("t/a.js", [])]).probes = [] := rfl
  rw [hnone]
  simp [Aggregate.ofProbes, Text.sorted, Manifest.ofAggregates, Settings.providerValue,
    Settings.moduleValue, settings, Settings.ofRoot]

theorem manifest_other :
    manifest other = { provider := .str "nodeapp", probes := [⟨"p", ["int"]⟩] } := by
  rw [manifest, catalog, declaredProbes_other, Catalog.aggregates]
  dsimp only [Except.toOption, Option.getD_some]
  have hone : (Catalog.ofList [("t/a.js", [⟨"p", ["int"]⟩])]).probes = [⟨"p", ["int"]⟩] := rfl
  have hnames : ["p"].eraseDups = ["p"] := by decide
  have hseen : Aggregate.ofSeen "p" [["int"]] = ⟨"p", ["int"], [["int"]]⟩ := by decide +kernel
  rw [hone, Aggregate.ofProbes, Text.sorted, List.map_singleton, hnames, List.mergeSort_singleton,
    List.map_singleton]
  change Manifest.ofAggregates _ _ [Aggregate.ofSeen "p" [["int"]]] = _
  rw [hseen]
  rfl

theorem digest_ne : (manifest "").digest ≠ (manifest other).digest := by
  rw [manifest_empty, manifest_other, Manifest.digest, Manifest.digest, Digest.hexDigest_eq,
    Digest.hexDigest_eq]
  decide +kernel

theorem flaw?_empty : (manifest "").flaw? = none := by
  rw [manifest_empty]
  decide +kernel

theorem flaw?_other : (manifest other).flaw? = none := by
  rw [manifest_other]
  decide +kernel

theorem good_empty : Good "" := ⟨by decide, ⟨_, declaredProbes_empty⟩, flaw?_empty⟩

theorem good_other : Good other := ⟨by decide, ⟨_, declaredProbes_other⟩, flaw?_other⟩

/-! ### Its workspace -/

/-- A build tool that does nothing.  Its command ends with a status or goes on running. -/
def tool (ended : Option Int) : Tool := ⟨fun _ _ d => .ok (d, ended)⟩

theorem leavesOutputs_tool (ended : Option Int) : (tool ended).LeavesOutputs settings := by
  intro d d' status h hapart
  cases h
  exact ⟨⟨hapart.toSidecarApart, fun _ _ => rfl, fun _ _ => rfl⟩, hapart, rfl, rfl⟩

/-- The project is open, with a text of its source, with a build tool and perhaps with artifacts. -/
structure Open (ended : Option Int) (artifacts : List String) (text : String) (w : Workspace) :
    Prop where
  /-- The settings are those of the project. -/
  settings : w.settings = settingsFor artifacts
  /-- The sources are scanned. -/
  source : w.source = .scan
  /-- No build is forced. -/
  force : w.force = false
  /-- The scanner is one of the project. -/
  scanner : ∃ catalog, w.scanner = scanner catalog
  /-- The journal is not shown. -/
  sink : w.desk.sink = none
  /-- The build tool does nothing. -/
  tool : w.desk.tool = tool ended
  /-- The source has a text, and a snapshot that is there can be read. -/
  disk : ∃ outputs, Kept outputs ∧ w.desk.disk = disk text outputs

theorem noteAll_desk {d : Desk} (h : d.sink = none) (records : List Record) :
    (d.noteAll records).disk = d.disk ∧ (d.noteAll records).sink = none ∧
      (d.noteAll records).tool = d.tool := by
  induction records generalizing d with
  | nil => exact ⟨rfl, h, rfl⟩
  | cons r rest ih =>
    have hnote : (d.note r).disk = d.disk := by
      rw [Desk.note, Desk.logged, Desk.sinkOf, h]
      rfl
    obtain ⟨hdisk, hsink, htool⟩ := ih (d := d.note r) h
    exact ⟨hdisk.trans hnote, hsink, htool⟩

variable {ended : Option Int} {artifacts : List String} {text : String} {w : Workspace}

theorem Open.noteAll (h : Open ended artifacts text w) (records : List Record) :
    Open ended artifacts text { w with desk := w.desk.noteAll records } := by
  obtain ⟨hdisk, hsink, htool⟩ := noteAll_desk h.sink records
  obtain ⟨outputs, hkept, houtputs⟩ := h.disk
  exact ⟨h.settings, h.source, h.force, h.scanner, hsink, htool.trans h.tool, outputs, hkept,
    hdisk.trans houtputs⟩

/-- The manifest is made. -/
theorem Open.on_currentManifest (h : Open ended artifacts text w) (hgood : Good text) :
    ∃ w', (Workspace.currentManifest true).on w = (.ok (manifest text), w') ∧
      Open ended artifacts text w' ∧ w'.detector = w.detector := by
  obtain ⟨known, hscanner⟩ := h.scanner
  obtain ⟨outputs, -, hdisk⟩ := h.disk
  obtain ⟨records, hrescan⟩ := rescan_disk known hgood outputs
  rw [← hscanner, ← hdisk] at hrescan
  have hopen := h.noteAll records
  rw [Workspace.on_currentManifest_of_scan h.source, if_pos rfl,
    on_bind_of_ok (Workspace.on_rescan hrescan), on_bind_of_ok (Workspace.on_scanned _)]
  dsimp only
  rw [h.settings]
  change ∃ w', (Workspace.sound (manifest text)).on _ = _ ∧ _
  rw [Workspace.sound, hgood.flawless]
  exact ⟨_, rfl, ⟨rfl, hopen.source, hopen.force, ⟨_, rfl⟩, hopen.sink, hopen.tool, hopen.disk⟩,
    rfl⟩

theorem Open.on_manifestToWrite (h : Open ended artifacts text w) :
    Workspace.manifestToWrite.on w = (Workspace.currentManifest true).on w := by
  refine Workspace.on_manifestToWrite_of_whole fun path => ?_
  rw [h.source]
  nofun

theorem Open.withDetector (h : Open ended artifacts text w) (detector : Detector) :
    Open ended artifacts text { w with detector } :=
  ⟨h.settings, h.source, h.force, h.scanner, h.sink, h.tool, h.disk⟩

theorem Open.withDisk (h : Open ended artifacts text w) {outputs : List (String × ByteArray)}
    (hkept : Kept outputs) : Open ended artifacts text (w.withDisk (Small.disk text outputs)) :=
  ⟨h.settings, h.source, h.force, h.scanner, h.sink, h.tool, outputs, hkept, rfl⟩

/-- What is done to the outputs is done in the workspace. -/
theorem Open.on_onDisk (h : Open ended artifacts text w) {α : Type} {a : Act Disk α} {x : α}
    (ha : ∀ outputs, Kept outputs → ∃ outputs', Kept outputs' ∧
      a.on (Small.disk text outputs) = (.ok x, Small.disk text outputs')) :
    ∃ w', (Workspace.onDisk a).on w = (.ok x, w') ∧ Open ended artifacts text w' ∧
      w'.detector = w.detector := by
  obtain ⟨outputs, hkept, hdisk⟩ := h.disk
  obtain ⟨outputs', hkept', ha⟩ := ha outputs hkept
  rw [Workspace.on_onDisk, hdisk, ha]
  exact ⟨_, rfl, h.withDisk hkept', rfl⟩

/-- The manifest is written. -/
theorem Open.on_writeManifest (h : Open ended artifacts text w) (m : Manifest) :
    ∃ w', (Workspace.writeManifest m).on w = (.ok m.digest, w') ∧ Open ended artifacts text w' ∧
      w'.detector = w.detector := by
  have hpath : w.settings.manifestPath = ⟨.root, ["p", "probes.manifest.json"]⟩ := by
    rw [h.settings]
    rfl
  obtain ⟨w₁, h₁, hopen₁, hdetector₁⟩ := h.on_onDisk fun outputs hkept =>
    ⟨outputs, hkept, on_makeRoom_disk text "probes.manifest.json" outputs⟩
  obtain ⟨w₂, h₂, hopen₂, hdetector₂⟩ := hopen₁.on_onDisk fun outputs hkept =>
    ⟨_, hkept.output (by decide) _, on_writeText_disk text outputs
      (by decide : Disk.IsName "probes.manifest.json") (by decide)
      (m.fileText w.aggregates w.settings.development)⟩
  rw [Workspace.writeManifest, on_get_bind, hpath, on_bind_of_ok h₁, on_bind_of_ok h₂]
  exact ⟨w₂, rfl, hopen₂, hdetector₂.trans hdetector₁⟩

theorem Open.on_say (h : Open ended artifacts text w) (level : Level) (speaker message : String) :
    ∃ w', (Workspace.say level speaker message).on w = (.ok (), w') ∧ Open ended artifacts text w' ∧
      w'.detector = w.detector :=
  ⟨_, Workspace.on_say level speaker message w, h.noteAll [⟨level, speaker, message⟩], rfl⟩

/-- A cycle begins well. -/
theorem Open.on_beginCycle (h : Open ended artifacts text w) (hgood : Good text) :
    ∃ w', Workspace.beginCycle.on w =
        (.ok (⟨manifest text, (manifest text).digest⟩, ended), w') ∧
      Open ended artifacts text w' ∧ w'.detector = w.detector.observe (manifest text).digest := by
  obtain ⟨w₁, h₁, hopen₁, hdetector₁⟩ := h.on_currentManifest hgood
  obtain ⟨w₂, h₂, hopen₂, hdetector₂⟩ := hopen₁.on_writeManifest (manifest text)
  have hopen₃ := hopen₂.withDetector (w₂.detector.observe (manifest text).digest)
  obtain ⟨w₄, h₄, hopen₄, hdetector₄⟩ := hopen₃.on_say .info "build"
    ("Running native build: " ++ " ".intercalate w₂.settings.command)
  have hprepared : Workspace.prepare.on w = (.ok (manifest text), w₄) := by
    rw [Workspace.prepare, on_bind_of_ok (h.on_manifestToWrite.trans h₁), on_bind_of_ok h₂,
      on_modify_bind, on_get_bind, on_bind_of_ok h₄]
    rfl
  have hbegin := Workspace.on_beginCycle w
  rw [hprepared] at hbegin
  dsimp only at hbegin
  rw [hopen₄.tool] at hbegin
  refine ⟨_, hbegin, ⟨hopen₄.settings, hopen₄.source, hopen₄.force, hopen₄.scanner, hopen₄.sink,
    hopen₄.tool, hopen₄.disk⟩, ?_⟩
  rw [← hdetector₁, ← hdetector₂]
  exact hdetector₄

/-- A cycle ends well. -/
theorem Open.on_endCycle (h : Open ended [] text w) (m : Manifest) :
    ∃ w', (Workspace.endCycle ⟨m, m.digest⟩ 0).on w = (.ok (), w') ∧ Open ended [] text w' ∧
      w'.detector.lastBuilt = some m.digest := by
  have hsettings : w.settings = Small.settings := h.settings
  rw [Workspace.endCycle_zero, hsettings]
  obtain ⟨w₁, h₁, hopen₁, -⟩ := h.on_onDisk fun outputs hkept =>
    ⟨_, hkept.output (by decide) _, on_sidecar_disk text m.digest outputs⟩
  rw [on_bind_of_ok h₁]
  dsimp only
  have hopen₂ := hopen₁.withDetector (w₁.detector.record m.digest)
  obtain ⟨w₃, h₃, hopen₃, hdetector₃⟩ := hopen₂.on_onDisk fun outputs _ =>
    ⟨_, kept_snapshot m outputs, on_keepSnapshot_disk text m outputs⟩
  have hrecord : (Workspace.recordBuild ⟨m, m.digest⟩).on w₁ = (.ok (), w₃) := by
    rw [Workspace.recordBuild, on_modify_bind, on_get_bind]
    dsimp only
    rw [show w₁.settings.snapshotPath = Small.settings.snapshotPath by rw [hopen₁.settings]; rfl]
    exact h₃
  rw [on_bind_of_ok hrecord]
  obtain ⟨w₄, h₄, hopen₄, hdetector₄⟩ := hopen₃.on_say .info "orchestrator" _
  refine ⟨w₄, h₄, hopen₄, ?_⟩
  rw [hdetector₄, hdetector₃]
  rfl

/-- A cycle fails behind its build command if no file can be looked for. -/
theorem Open.on_endCycle_of_refused (h : Open ended [""] text w) (c : Cycle) :
    ∃ f w', (Workspace.endCycle c 0).on w = (.error f, w') ∧ w'.detector = w.detector := by
  obtain ⟨outputs, -, hdisk⟩ := h.disk
  have hwrite := write_output text outputs (by decide : Disk.IsName sidecarName) (by decide)
    (Text.encode (c.digest ++ "\n"))
  rw [← hdisk] at hwrite
  have hpath : Sidecar.path w.settings.manifestPath = .ok ⟨.root, ["p", sidecarName]⟩ := by
    rw [h.settings]
    rfl
  have hrefused : Sidecar.artifacts
      (Small.disk text (output sidecarName (Text.encode (c.digest ++ "\n")) outputs)) w.settings.root
      w.settings.artifacts = .error (.pattern .empty) := by
    rw [h.settings]
    rfl
  exact ⟨_, _, Workspace.endCycle_of_artifacts_error hpath hwrite hrefused, rfl⟩

/-- A cycle goes well. -/
theorem Open.on_runCycle (h : Open ended [] text w) (hgood : Good text) {status : Int}
    (hended : ended.getD status = 0) :
    ∃ w', (Workspace.runCycle status).on w = (.ok (), w') ∧ Open ended [] text w' ∧
      w'.detector.lastBuilt = some (manifest text).digest := by
  obtain ⟨w₁, h₁, hopen₁, -⟩ := h.on_beginCycle hgood
  rw [Workspace.runCycle, on_bind_of_ok h₁]
  dsimp only
  rw [hended]
  exact hopen₁.on_endCycle (manifest text)

/-- The snapshot can be looked at. -/
theorem Kept.exists_snapshot {outputs : List (String × ByteArray)} (h : Kept outputs)
    (room : Json.Room) (text : String) : ∃ snapshot,
      Sidecar.snapshot room (Small.disk text outputs) (some Small.settings.snapshotPath) =
        .ok snapshot := by
  change ∃ snapshot, Sidecar.snapshot room _ (some ⟨.root, ["p", "snapshot.json"]⟩) = _
  cases hread : (Small.disk text outputs).read? ⟨.root, ["p", "snapshot.json"]⟩ with
  | none =>
    rw [Sidecar.snapshot_some, if_neg (by decide), hread]
    exact ⟨_, rfl⟩
  | some bytes =>
    obtain ⟨m, rfl⟩ := h bytes (lookup_of_read? (by decide) (by decide) hread)
    exact ⟨_, Sidecar.snapshot_of_read? _ hread⟩

theorem Open.exists_snapshot (h : Open ended artifacts text w) : ∃ snapshot,
    Sidecar.snapshot w.desk.room w.desk.disk (some w.settings.snapshotPath) = .ok snapshot := by
  obtain ⟨outputs, hkept, hdisk⟩ := h.disk
  rw [h.settings, hdisk]
  exact hkept.exists_snapshot w.desk.room text

/-- The manifest is compared with what was built last. -/
theorem Open.on_compareAll (h : Open ended artifacts text w) (m : Manifest) :
    ∃ report w', (Workspace.compareAll m).on w = (.ok report, w') ∧ Open ended artifacts text w' ∧
      w'.detector = w.detector.observe m.digest ∧ report.digest = m.digest ∧
      report.due = (w.detector.lastBuilt != some m.digest) := by
  obtain ⟨snapshot, hsnapshot⟩ := h.exists_snapshot
  have hopen := (h.noteAll (Detector.snapshotRecords m snapshot)).withDetector
    (w.detector.observe m.digest)
  refine ⟨_, _, Workspace.on_compareAll (m := m) hsnapshot, hopen, rfl, rfl, ?_⟩
  rw [h.force]
  rfl

/-- A check goes well. -/
theorem Open.on_check (h : Open ended artifacts text w) (hgood : Good text) :
    ∃ report w', Workspace.check.on w = (.ok report, w') ∧ Open ended artifacts text w' ∧
      w'.detector.lastBuilt = w.detector.lastBuilt ∧ report.digest = (manifest text).digest ∧
      report.due = (w.detector.lastBuilt != some (manifest text).digest) := by
  obtain ⟨w₁, h₁, hopen₁, hdetector₁⟩ := h.on_currentManifest hgood
  obtain ⟨report, w₂, h₂, hopen₂, hdetector₂, hdigest, hdue⟩ := hopen₁.on_compareAll (manifest text)
  rw [hdetector₁] at hdetector₂ hdue
  have hlast : w₂.detector.lastBuilt = w.detector.lastBuilt := by
    rw [hdetector₂]
    rfl
  rw [Workspace.check, on_bind_of_ok h₁, on_bind_of_ok h₂]
  split
  · rw [on_bind_of_ok (Workspace.on_say _ _ _ _)]
    exact ⟨_, _, rfl, hopen₂.noteAll [_], hlast, hdigest, hdue⟩
  · exact ⟨_, _, rfl, hopen₂, hlast, hdigest, hdue⟩

/-- A run goes well and builds unless the manifest was built last. -/
theorem Open.on_runOnce (h : Open ended [] text w) (hgood : Good text) {status : Int}
    (hended : ended.getD status = 0) :
    ∃ w', (Workspace.runOnce status).on w = (.ok ⟨(manifest text).digest,
        w.detector.lastBuilt != some (manifest text).digest⟩, w') ∧
      Open ended [] text w' ∧ w'.detector.lastBuilt = some (manifest text).digest := by
  obtain ⟨report, w₁, h₁, hopen₁, hlast₁, hdigest, hdue⟩ := h.on_check hgood
  rw [Workspace.runOnce, on_bind_of_ok h₁, ← hdue]
  cases hd : report.due with
  | true =>
    obtain ⟨w₂, h₂, hopen₂, hlast₂⟩ := hopen₁.on_runCycle hgood hended
    rw [if_pos rfl, on_bind_of_ok h₂, on_get_bind, on_pure, hlast₂]
    exact ⟨w₂, rfl, hopen₂, hlast₂⟩
  | false =>
    rw [hd] at hdue
    refine ⟨w₁, by rw [← hdigest]; rfl, hopen₁, hlast₁.trans ?_⟩
    simpa using hdue.symm

/-- However its build command ends, a run leaves the source and the snapshot in order. -/
theorem Open.runOnce (h : Open ended [] text w) (hgood : Good text) (status : Int) :
    Open ended [] text ((Workspace.runOnce status).on w).2 := by
  by_cases hended : ended.getD status = 0
  · obtain ⟨w', hrun, hopen, -⟩ := h.on_runOnce hgood hended
    rw [hrun]
    exact hopen
  obtain ⟨report, w₁, hcheck, hopen₁, -, -, -⟩ := h.on_check hgood
  rw [Workspace.runOnce, on_bind_of_ok hcheck]
  split
  · obtain ⟨w₂, hbegin, hopen₂, -⟩ := hopen₁.on_beginCycle hgood
    have hcycle : (Workspace.runCycle status).on w₁ =
        (Workspace.endCycle ⟨manifest text, (manifest text).digest⟩ (ended.getD status)).on w₂ :=
      on_bind_of_ok hbegin _
    rw [Workspace.endCycle_of_ne hended] at hcycle
    rw [on_bind_of_error hcycle]
    exact hopen₂
  · exact hopen₁

/-- An emit goes well. -/
theorem Open.on_emit (h : Open ended artifacts text w) (hgood : Good text) :
    ∃ made w', Workspace.emit.on w = (.ok made, w') ∧ made.digest = (manifest text).digest ∧
      Open ended artifacts text w' ∧ w'.detector.lastBuilt = w.detector.lastBuilt := by
  obtain ⟨w₁, h₁, hopen₁, hdetector₁⟩ := h.on_currentManifest hgood
  obtain ⟨w₂, h₂, hopen₂, hdetector₂⟩ := hopen₁.on_writeManifest (manifest text)
  rw [Workspace.emit, on_bind_of_ok (h.on_manifestToWrite.trans h₁), on_bind_of_ok h₂, on_get_bind,
    on_bind_of_ok (Workspace.on_say _ _ _ _)]
  exact ⟨_, _, rfl, rfl, hopen₂.noteAll [_],
    congrArg Detector.lastBuilt (hdetector₂.trans hdetector₁)⟩

/-! ### Its opening -/

/-- The project at first: its source is empty, and there is no output yet. -/
def desk (ended : Option Int) : Desk := { disk := disk "" [], tool := tool ended }

theorem read?_sidecar : (disk "" []).file? ⟨.root, ["p", sidecarName]⟩ = none ∧
    (disk "" []).read? ⟨.root, ["p", sidecarName]⟩ = none := by
  have hfree := linkFree_disk "" []
  have hnames : ∀ n ∈ (disk "" []).absoluteNames ⟨.root, ["p", sidecarName]⟩,
      Disk.IsName n := by
    show ∀ n ∈ ["p", "probes.manifest.json.sha256"], Disk.IsName n
    decide
  constructor
  · rw [Disk.file?, Disk.home?_of_linkFree hnames hfree]
    rfl
  · refine Option.eq_none_iff_forall_not_mem.2 fun bytes h => ?_
    cases (Disk.read?_eq_some_of_linkFree hnames hfree rfl).1 h

theorem ofSettings_disk (text : String) (outputs : List (String × ByteArray)) :
    Scanner.ofSettings (disk text outputs) settings = .ok (scanner ∅) := by
  have hfree := linkFree_disk text outputs
  have hroot : (disk text outputs).resolve ⟨.root, ["p"]⟩ = .ok ⟨.root, ["p"]⟩ :=
    Disk.resolve_eq_self (by show ∀ n ∈ ["p"], Disk.IsName n; decide) hfree rfl
  have hdir : (disk text outputs).resolve ⟨.root, ["p", "t"]⟩ = .ok ⟨.root, ["p", "t"]⟩ :=
    Disk.resolve_eq_self (by show ∀ n ∈ ["p", "t"], Disk.IsName n; decide) hfree rfl
  have hroots : settings.sourceRoots = [⟨.root, ["p", "t"]⟩] := by decide +kernel
  have hextensions : settings.extensions.map Text.lowercase = [".js", ".mjs", ".cjs", ".ts"] := by
    decide +kernel
  rw [Scanner.ofSettings, show settings.root = ⟨.root, ["p"]⟩ from rfl, hroot, hroots,
    List.mapM_cons, hdir, hextensions]
  rfl

/-- The project is opened, whatever was done in it. -/
theorem on_openUp_of_disk {d : Desk} {outputs : List (String × ByteArray)} (artifacts : List String)
    (hsink : d.sink = none) (htool : d.tool = tool ended) (hkept : Kept outputs)
    (hdisk : d.disk = disk text outputs) :
    ∃ w, (Workspace.openUp (settingsFor artifacts) true false).on d = (.ok w, d) ∧ w.desk = d ∧
      Open ended artifacts text w ∧ w.scanner = scanner ∅ ∧
      w.detector = Detector.ofSidecar (d.disk.read? ⟨.root, ["p", sidecarName]⟩) := by
  have hscan : (openScanner (settingsFor artifacts)).on d = (.ok (scanner ∅), d) := by
    rw [openScanner, on_get_bind, hdisk,
      show Scanner.ofSettings (disk text outputs) (settingsFor artifacts) = _ from
        ofSettings_disk text outputs]
    rfl
  have hpath : Sidecar.path (settingsFor artifacts).manifestPath =
      .ok ⟨.root, ["p", sidecarName]⟩ := rfl
  have hsidecar : d.disk.readIfAny ⟨.root, ["p", sidecarName]⟩ =
      .ok (d.disk.read? ⟨.root, ["p", sidecarName]⟩) := by
    rw [Disk.readIfAny_eq, if_neg (by decide)]
  rw [Workspace.openUp, on_bind_of_ok (show (Source.resolve (settingsFor artifacts) true).on _ =
    (.ok .scan, _) from rfl), on_bind_of_ok hscan, hpath, on_bind_of_ok (on_ofExcept_ok _ _ _),
    on_get_bind, hsidecar]
  exact ⟨_, rfl, rfl, ⟨rfl, rfl, rfl, ⟨∅, rfl⟩, hsink, htool, outputs, hkept, hdisk⟩, rfl, rfl⟩

/-- The project is opened for the first time. -/
theorem on_openUp (ended : Option Int) (artifacts : List String) :
    ∃ w, (Workspace.openUp (settingsFor artifacts) true false).on (desk ended) =
        (.ok w, desk ended) ∧ Open ended artifacts "" w ∧ w.scanner = scanner ∅ ∧
      w.detector.lastBuilt = none := by
  obtain ⟨w, hopened, -, hopen, hscanner, hdetector⟩ := on_openUp_of_disk (d := desk ended) artifacts
    rfl rfl kept_nil rfl
  refine ⟨w, hopened, hopen, hscanner, ?_⟩
  rw [hdetector, show (desk ended).disk.read? _ = _ from read?_sidecar.2]
  rfl

end Small

end ProbeKit
