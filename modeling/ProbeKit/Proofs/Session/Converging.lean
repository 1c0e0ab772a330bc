import ProbeKit.Proofs.Probe.Extraction
import ProbeKit.Proofs.Session.Beginning

/-!
# Sessions that watch come to agree with their sources

A session that has started to watch takes the steps of a session that watches (`Watched.Reached`),
and no step loses a source.  So once nothing is left to be done the catalog is that of a fresh scan,
and its manifest was built (`Watched.converges`).  Two things may go wrong on the way, and then the
session need not agree with its sources: a cycle fails, or an event interrupts the watching
(`Watched.not_settled_of_broken`).
-/

namespace ProbeKit

open Act Session
open Desk (Noted)

namespace Watched

variable {P : Watched} {w : Workspace} {s s' : Session}

/-! ### Sessions that watch -/

/-- The sessions that are reached from one that starts to watch, by steps to sessions that are good
in some sense. -/
inductive Reached (P : Watched) (good : Session → Prop) : Session → Prop where
  /-- The session has just started to watch. -/
  | start {s s' : Session} (hopened : P.Opened s)
      (hstart : (Session.start []).on s = (.ok (), s')) : Reached P good s'
  /-- It has taken one more step. -/
  | step {s s' : Session} (h : Reached P good s) (hstep : P.Step s s') (hgood : good s') :
      Reached P good s'

/-- Fewer sessions may be good. -/
theorem Reached.mono {good good' : Session → Prop} (h : P.Reached good s)
    (hgood : ∀ s, good s → good' s) : P.Reached good' s := by
  induction h with
  | start hopened hstart => exact .start hopened hstart
  | step _ hstep hnext ih => exact .step ih hstep (hgood _ hnext)

/-- **No source is lost while no run fails and no event interrupts the watching**, whatever steps
are taken. -/
theorem Reached.watches (h : P.Reached (fun s => ¬s.Broken) s) (htool : P.LeavesAlone) :
    P.Watches s := by
  induction h with
  | start hopened hstart => exact watches_of_start hopened hstart
  | step _ hstep hgood ih => exact ih.step htool hstep hgood

end Watched

/-- Nothing is left to be done. -/
structure Session.Quiet (s : Session) : Prop where
  /-- All notices were delivered. -/
  notices : s.notices = []
  /-- No file is to be looked at. -/
  timers : ∀ f, s.front = some f → f.timers = []
  /-- The scheduler is idle. -/
  idle : s.scheduler.building = false

/-- A session agrees with the sources and with what was built: the manifest with a digest is that of
the sources, and it is the last one that was computed and the last one that was built. -/
structure Session.Settled (s : Session) (digest : String) : Prop where
  /-- A scan finds what is in the catalog, whatever was known before. -/
  scanned : ∀ before, ∃ records,
    { s.workspace.scanner with catalog := before }.rescan s.desk.disk =
      (.ok s.workspace.scanner, records)
  /-- The digest is that of the manifest of the catalog. -/
  manifest : (s.workspace.manifestOf s.workspace.scanner.catalog).digest = digest
  /-- The manifest was computed last. -/
  lastComputed : s.workspace.detector.lastComputed = some digest
  /-- It was built last. -/
  lastBuilt : s.workspace.detector.lastBuilt = some digest
  /-- All that its build leaves behind is there. -/
  built : s.workspace.settings.Built s.desk.disk digest

namespace Watched

variable {P : Watched} {w : Workspace} {s : Session}

theorem Fresh.declared?_eq {p : Path} (h : P.Fresh w p) :
    Scanner.declared? w.desk.disk p = w.scanner.catalog.find? (P.scanner.keyFor p) := by
  rw [Scanner.declared?, h]
  cases w.scanner.catalog.find? (P.scanner.keyFor p) <;> rfl

theorem Fresh.overlong?_eq {p : Path} (h : P.Fresh w p) :
    Scanner.overlong? w.desk.disk p = none := by
  rw [Scanner.overlong?, h]
  cases w.scanner.catalog.find? (P.scanner.keyFor p) <;> rfl

/-- If all sources are known as they are, the catalog describes the disk. -/
theorem Fits.describes (h : P.Fits w) (hfresh : P.AllFresh w) :
    P.scanner.Describes w.desk.disk w.scanner.catalog := by
  intro k v
  constructor
  · intro hfound
    obtain ⟨p, text, hp, hclean, rfl, -⟩ := h.knows k v hfound
    exact ⟨p, hp, rfl, (hfresh p hp hclean).declared?_eq.trans hfound⟩
  · rintro ⟨p, hp, rfl, hdeclared⟩
    have hclean := h.disk.tidy.clean p hp (by rw [Scanner.declared?_eq_some_iff.1 hdeclared]; rfl)
    exact (hfresh p hp hclean).declared?_eq.symm.trans hdeclared

/-- If all sources are known as they are, a scan finds what is in the catalog. -/
theorem Fits.rescan_of_allFresh (h : P.Fits w) (hfresh : P.AllFresh w) (before : Catalog) :
    ∃ records, { w.scanner with catalog := before }.rescan w.desk.disk =
      (.ok w.scanner, records) := by
  rw [h.scanner]
  rcases h.disk.rescan_cases before with ⟨e, records, -, p, hp, hlong⟩ | ⟨c, records, hrescan, hscans⟩
  · -- A source with too long a numeral would not be known as it is.
    have hclean := h.disk.tidy.clean p hp (by rw [Scanner.overlong?_eq_some_iff.1 hlong]; rfl)
    rw [(hfresh p hp hclean).overlong?_eq] at hlong
    cases hlong
  · obtain rfl := hscans.describes.eq (h.describes hfresh)
    exact ⟨records, hrescan⟩

/-- Once nothing waits to be looked at all sources are known as they are. -/
theorem Watches.allFresh (h : P.Watches s) (hquiet : s.Quiet) : P.AllFresh s.workspace := by
  intro p hp hclean
  rcases (h.tracks p hp hclean).found with hfresh | ⟨f, hf, t, ht, -⟩ | hmentioned
  · exact hfresh
  · rw [hquiet.timers f hf] at ht
    cases ht
  · rw [hquiet.notices] at hmentioned
    exact absurd rfl hmentioned

end Watched

/-! ### Sessions on a small project -/

namespace Small

variable {text : String} {outputs : List (String × ByteArray)} {p : Path}

/-- The project as it is watched. -/
def watched (artifacts : List String) : Watched where
  settings := settingsFor artifacts
  scanner := scanner ∅
  tool := tool (some 0)
  rootsApart := fun _ hr _ hr' _ _ => (List.mem_singleton.1 hr).trans (List.mem_singleton.1 hr').symm

theorem leavesAlone_watched (artifacts : List String) : (watched artifacts).LeavesAlone := by
  intro d d' status h hdisk
  cases h
  exact ⟨hdisk, fun _ _ => rfl, rfl⟩

/-- The sources lie below the one root. -/
theorem exists_of_sees (h : (scanner ∅).Sees p) : ∃ names, names ≠ [] ∧
    p.names = "p" :: "t" :: names ∧ (scanner ∅).hasExtension p = true := by
  have hne : p.names ≠ [] := by
    intro hnil
    have haccepted := h.accepted
    have hp : p = ⟨.root, []⟩ := by rw [← hnil, ← h.anchor]
    rw [hp, Scanner.acceptsResolved?,
      show (scanner ∅).hasExtension ⟨.root, []⟩ = false by decide +kernel] at haccepted
    cases haccepted
  obtain ⟨root, hroot, names, rfl, hclears⟩ :=
    (Scanner.acceptsResolved?_iff (watched []).rootsApart hne).1 h.accepted
  obtain rfl := List.mem_singleton.1 hroot
  have hc := Scanner.clears_iff.1 hclears
  exact ⟨names, hc.ne_nil, rfl, hc.extension⟩

/-- The sidecar of an artifact has no extension of a source. -/
theorem not_sidecar_of_hasExtension (h : (scanner ∅).hasExtension p = true) :
    ¬Sidecar.artifactSuffix.toList <:+ p.name.toList := by
  rintro ⟨stem, hstem⟩
  have hsuffix : p.suffix = ".sha256" := by
    rw [Path.suffix, ← hstem, Path.suffixOf]
    simp [Sidecar.artifactSuffix]
  have hnone : (scanner ∅).extensions.contains (Text.lowercase ".sha256") = false := by
    decide +kernel
  rw [Scanner.hasExtension, hsuffix, hnone] at h
  cases h

/-- The file of the source is the only one below the root. -/
theorem eq_of_view_file {names : List String} {bytes : ByteArray} (hne : names ≠ [])
    (h : (disk text outputs).top.view ("p" :: "t" :: names) = some (.file bytes)) :
    names = ["a.js"] := by
  obtain ⟨name, rest, rfl⟩ := List.exists_cons_of_ne_nil hne
  rw [Node.view_eq_file_iff] at h
  by_cases hname : name = "a.js"
  · subst hname
    cases rest with
    | nil => rfl
    | cons below more =>
      have hbelow : (disk text outputs).top.at? ("p" :: "t" :: "a.js" :: below :: more) = none := by
        simp [disk, Node.at?, Node.entries]
      rw [hbelow] at h
      cases h
  · have hnone : (disk text outputs).top.at? ("p" :: "t" :: name :: rest) = none := by
      have hbeq : (name == "a.js") = false := by simpa using hname
      simp [disk, Node.at?, Node.entries, List.lookup_cons, hbeq]
    rw [hnone] at h
    cases h

/-- What a source declares on the disk of the project was read from the file at `/p/t/a.js`. -/
theorem clean_of_declared (h : (scanner ∅).Sees p)
    (hdeclared : (Scanner.reading? (disk "" []) p).isSome) : p.Clean := by
  obtain ⟨names, hne, hnames, -⟩ := exists_of_sees h
  obtain ⟨probes, hprobes⟩ := Option.isSome_iff_exists.1 hdeclared
  obtain ⟨bytes, hread⟩ := Scanner.exists_read?_of_reading? hprobes
  have habs := Scanner.absoluteNames_of_root (disk "" []) h.anchor
  rw [Disk.read?_eq_some_of_linkFree (habs ▸ h.names) (linkFree_disk "" []) rfl, habs, hnames]
    at hread
  obtain rfl := eq_of_view_file hne hread
  rw [Path.Clean, hnames]
  decide

theorem tidy_watched (artifacts : List String) :
    (watched artifacts).scanner.Tidy (disk "" []) := by
  refine ⟨rfl, linkFree_disk "" [], ?_, ?_, ?_, ?_, fun p hp => clean_of_declared hp⟩
  · have hp : Disk.IsName "p" := by decide
    have ht : Disk.IsName "t" := by decide
    have ha : Disk.IsName "a.js" := by decide
    exact ⟨hp.toIsStep, ⟨ht.toIsStep, ⟨ha.toIsStep, trivial, trivial⟩, trivial⟩, trivial⟩
  · intro r hr
    rw [List.mem_singleton.1 hr]
  · intro r hr
    rw [List.mem_singleton.1 hr]
    decide
  · intro r hr
    rw [List.mem_singleton.1 hr]
    rfl

/-- A path that is none of the outputs with a name of their own, and is not named like the sidecar
of an artifact, keeps apart from all outputs. -/
theorem apart_output (hanchor : p.anchor = .root) (hnames : ∀ n ∈ p.names, Disk.IsName n)
    (hne : p.names ≠ [])
    (hother : ∀ name ∈ ["probes.manifest.json", sidecarName, "snapshot.json"], p.names ≠ ["p", name])
    (hsuffix : ¬Sidecar.artifactSuffix.toList <:+ p.name.toList) (artifacts : List String) {q : Path}
    (hq : (watched artifacts).settings.IsOutput q) : (disk text outputs).Apart p q := by
  have hfree := linkFree_disk text outputs
  have hhome {q : Path} (hanchor : q.anchor = .root) (hnames : ∀ n ∈ q.names, Disk.IsName n) :
      (disk text outputs).home? q = some q.names := by
    have habs := Scanner.absoluteNames_of_root (disk text outputs) hanchor
    rw [Disk.home?_of_linkFree (habs ▸ hnames) hfree, habs]
  have hapart (name : String) (hname : ∀ n ∈ ["p", name], Disk.IsName n)
      (hmem : name ∈ ["probes.manifest.json", sidecarName, "snapshot.json"]) :
      (disk text outputs).Apart p ⟨.root, ["p", name]⟩ := by
    intro place hplace hplace'
    rw [hhome hanchor hnames] at hplace
    rw [hhome rfl hname] at hplace'
    exact hother name hmem ((Option.some.inj hplace).trans (Option.some.inj hplace').symm)
  rcases hq with rfl | (hown | hartifact) | rfl
  · exact hapart "probes.manifest.json" (by decide) (by decide)
  · obtain rfl : ⟨.root, ["p", sidecarName]⟩ = q := Except.ok.inj hown
    exact hapart sidecarName (by decide) (by decide)
  · have habs := Scanner.absoluteNames_of_root (disk text outputs) hanchor
    refine (Sidecar.apart_of_linkFree hfree (habs ▸ hnames) (fun name hname => ?_) hartifact).symm
    rw [Disk.getLast?_absoluteNames _ hne] at hname
    rw [← Option.some.inj hname]
    exact hsuffix
  · exact hapart "snapshot.json" (by decide) (by decide)

/-- No output is a source: all but the sidecars of artifacts stand beside the directory of the
sources, and those have no extension of a source. -/
theorem apart_of_sees (hp : (scanner ∅).Sees p) (artifacts : List String) {q : Path}
    (hq : (watched artifacts).settings.IsOutput q) : (disk text outputs).Apart p q := by
  obtain ⟨names, hne, hnames, hextension⟩ := exists_of_sees hp
  refine apart_output hp.anchor hp.names ?_ (fun name _ hsame => ?_)
    (not_sidecar_of_hasExtension hextension) artifacts hq
  · rw [hnames]
    exact List.cons_ne_nil _ _
  · rw [hnames] at hsame
    exact hne (List.cons.inj (List.cons.inj hsame).2).2

theorem holds_watched (artifacts : List String) : (watched artifacts).Holds (disk "" []) := by
  have houtputs := outputsApart_disk "" []
  exact ⟨tidy_watched artifacts,
    ⟨⟨⟨houtputs.isDir, houtputs.manifest, houtputs.snapshot, houtputs.log⟩, houtputs.manifests,
      houtputs.logs⟩, houtputs.manifestLog⟩,
    fun p hp q hq => apart_of_sees hp artifacts hq, fun p _ place _ hheld => by cases hheld⟩

/-! ### Its edits -/

theorem proper_source : source.Proper := ⟨rfl, by decide, by decide⟩

theorem sees_source : (scanner ∅).Sees source := ⟨rfl, by decide, by decide +kernel⟩

/-- The path of a draft that is to take the place of the source. -/
def draft : Path := ⟨.root, ["p", "a.js.tmp"]⟩

theorem proper_draft : draft.Proper := ⟨rfl, by decide, by decide⟩

/-- A draft is no source. -/
theorem acceptsResolved?_draft : (scanner ∅).acceptsResolved? draft = some false := by decide +kernel

theorem editable_source (artifacts : List String) :
    (watched artifacts).Editable (disk text outputs) source :=
  ⟨proper_source, fun _ hq => apart_of_sees sees_source artifacts hq, fun _ hheld => by cases hheld⟩

theorem editable_draft (artifacts : List String) :
    (watched artifacts).Editable (disk text outputs) draft :=
  ⟨proper_draft, fun _ hq => apart_output rfl proper_draft.names (by decide) (by decide) (by decide)
    artifacts hq, fun _ hheld => by cases hheld⟩

/-- The source is written. -/
theorem edit_source (artifacts : List String) (text' : String) :
    (watched artifacts).Edit (disk text outputs) ⟨.modified, source.text, "", false⟩
      (disk text' outputs) := by
  have hensured : (disk text outputs).ensureDirectories source.parent = .ok (disk text outputs) :=
    Disk.ensureDirectories_eq_self (hasDirectory_disk text outputs (.inr rfl))
  suffices hwritten : (disk text outputs).write source (Text.encode text') =
      .ok (disk text' outputs) from
    .write (editable_source artifacts) (.inr rfl) hensured hwritten
  have hl : (disk text outputs).locateFor .creation source =
      .ok (.found ["p", "t", "a.js"] (.file (Text.encode text))) :=
    Disk.locateFor_found (by show ∀ n ∈ ["p", "t", "a.js"], Disk.IsName n; decide)
      (linkFree_disk text outputs) rfl rfl
  rw [Disk.write, hl]
  rfl

/-- A draft is written. -/
theorem edit_draft (artifacts : List String) (text' : String) :
    (watched artifacts).Edit (disk text outputs) ⟨.created, draft.text, "", false⟩
      (disk text (output "a.js.tmp" (Text.encode text') outputs)) :=
  .write (editable_draft artifacts) (.inl rfl) (ensureDirectories_disk text outputs)
    (write_output text outputs (by decide) (by decide) (Text.encode text'))

/-- Without the draft the snapshot is as it was. -/
theorem Kept.without_draft (h : Kept outputs) : Kept (outputs.filter (·.1 != "a.js.tmp")) := by
  intro bytes hbytes
  rw [lookup_filter_ne, if_neg (by decide)] at hbytes
  exact h bytes hbytes

/-- The draft takes the place of the source. -/
theorem edit_rename (artifacts : List String) {text' : String}
    (hdraft : outputs.lookup "a.js.tmp" = some (Text.encode text')) :
    (watched artifacts).Edit (disk text outputs) ⟨.moved, draft.text, source.text, false⟩
      (disk text' (outputs.filter (·.1 != "a.js.tmp"))) := by
  have hfree := linkFree_disk text outputs
  have hat := at?_output text outputs (by decide : "a.js.tmp" ≠ "t")
  rw [hdraft] at hat
  have hnames : ∀ n ∈ (disk text outputs).absoluteNames draft, Disk.IsName n := proper_draft.names
  have hread : (disk text outputs).read? draft = some (Text.encode text') := by
    rw [Disk.read?_eq_some_of_linkFree hnames hfree rfl]
    exact Node.view_eq_file_iff.2 hat
  have hfrom : (disk text outputs).locateFor .entry draft =
      .ok (.found ["p", "a.js.tmp"] (.file (Text.encode text'))) :=
    Disk.locateFor_found hnames hfree rfl hat
  have hto : (disk text outputs).locateFor .entry source =
      .ok (.found ["p", "t", "a.js"] (.file (Text.encode text))) :=
    Disk.locateFor_found (by show ∀ n ∈ ["p", "t", "a.js"], Disk.IsName n; decide) hfree rfl rfl
  have hrenamed : (disk text outputs).rename draft source =
      disk text' (outputs.filter (·.1 != "a.js.tmp")) := by
    have hfilter : (outputs.map fun output => (output.1, Node.file output.2)).filter
        (fun entry => entry.1 != "a.js.tmp") =
          (outputs.filter (·.1 != "a.js.tmp")).map fun output => (output.1, Node.file output.2) := by
      rw [List.filter_map]
      rfl
    rw [Disk.rename, hfrom, hto]
    simp [disk, Disk.moveTo, Disk.eraseAt, Disk.putAt, Node.erase, Node.put, Node.setEntry, hfilter]
  rw [← hrenamed]
  exact .rename (editable_draft artifacts) (editable_source artifacts) hread
    (hasDirectory_disk text outputs (.inr rfl)) (read?_source text outputs).1

/-! ### Its sessions -/

variable {ended : Option Int} {artifacts : List String} {good : Session → Prop} {s : Session}

/-- A session on the project is opened. -/
theorem exists_opened (artifacts : List String) :
    ∃ w, (watched artifacts).Opened { workspace := w } ∧ Open (some 0) artifacts "" w ∧
      w.detector.lastBuilt = none := by
  obtain ⟨w, hopened, hopen, hscanner, hlast⟩ := on_openUp (some 0) artifacts
  have hsession := Session.on_openUp (settingsFor artifacts) true false (desk (some 0))
  rw [hopened] at hsession
  have houtputs := (holds_watched artifacts).outputs
  have hown {own : Path} (h : Sidecar.path settings.manifestPath = .ok own) :
      own = ⟨.root, ["p", "probes.manifest.json.sha256"]⟩ := (Except.ok.inj h).symm
  have htells : (settingsFor artifacts).Tells (disk "" []) none :=
    ⟨houtputs.toSidecarApart, fun own h => hown h ▸ read?_sidecar.2,
      fun own h => hown h ▸ read?_sidecar.1, fun digest h => by cases h⟩
  exact ⟨w, ⟨⟨_, _, true, false, hsession, rfl, holds_watched artifacts, .inl htells⟩, hopen.source,
    hscanner⟩, hopen, hlast⟩

theorem Open.on_makeFront (h : Open ended artifacts text s.workspace) :
    ∃ f, makeFront.on s = (.ok f, s) ∧ f.roots = [⟨.root, ["p", "t"]⟩] ∧ f.timers = [] ∧
      f.backlog = [] := by
  obtain ⟨outputs, -, hdisk⟩ := h.disk
  obtain ⟨catalog, hscanner⟩ := h.scanner
  have hdir : (Small.disk text outputs).resolve ⟨.root, ["p", "t"]⟩ = .ok ⟨.root, ["p", "t"]⟩ :=
    Disk.resolve_eq_self (by show ∀ n ∈ ["p", "t"], Disk.IsName n; decide)
      (linkFree_disk text outputs) rfl
  have hresolve : s.workspace.scanner.roots.mapM s.workspace.desk.disk.resolve =
      .ok [⟨.root, ["p", "t"]⟩] := by
    rw [hscanner, hdisk]
    show [(⟨.root, ["p", "t"]⟩ : Path)].mapM (Small.disk text outputs).resolve = _
    rw [List.mapM_cons, hdir]
    rfl
  rw [makeFront, on_get_bind]
  dsimp only
  rw [hresolve]
  exact ⟨_, rfl, rfl, rfl, rfl⟩

theorem Open.exists_observe (h : Open ended artifacts text s.workspace) {f : FrontEnd}
    (hroots : f.roots = [⟨.root, ["p", "t"]⟩]) :
    ∃ s', (observe f []).on s = (.ok (), s') := by
  obtain ⟨outputs, -, hdisk⟩ := h.disk
  have hlook : (Small.disk text outputs).look ⟨.root, ["p", "t"]⟩ =
      .ok ((Small.disk text outputs).top.at? ["p", "t"]) :=
    Disk.look_of_linkFree (by show ∀ n ∈ ["p", "t"], Disk.IsName n; decide)
      (linkFree_disk text outputs) rfl
  have hnone : f.obstacle? s.desk.disk = none := by
    rw [FrontEnd.obstacle?, hroots, show s.desk.disk = _ from hdisk]
    simp [hlook]
  rw [observe, on_get_bind, on_modify_bind, hnone]
  exact ⟨_, rfl⟩

/-- Where nothing was built yet a build is asked for once the sources were scanned. -/
theorem Open.on_onReady (h : Open ended artifacts text s.workspace) (hgood : Good text)
    (hlast : s.workspace.detector.lastBuilt = none) :
    ∃ w, Open ended artifacts text w ∧ w.detector.lastBuilt = none ∧
      onReady.on s = (.ok (), ({ s with workspace := w } : Session).requestBuild.2) := by
  obtain ⟨w₁, h₁, hopen₁, hdetector₁⟩ := h.on_currentManifest hgood
  obtain ⟨report, w₂, h₂, hopen₂, hdetector₂, -, hdue⟩ := hopen₁.on_compareAll (manifest text)
  have hlast₁ : w₁.detector.lastBuilt = none := by rw [hdetector₁, hlast]
  rw [hlast₁] at hdue
  refine ⟨w₂, hopen₂, by rw [hdetector₂]; exact hlast₁, ?_⟩
  rw [onReady, onWorkspace, on_bind, on_within, on_bind_of_ok h₁, h₂]
  dsimp only
  rw [hdue]
  rfl

/-- A session has just started to watch the project and is about to build. -/
structure Begins (artifacts : List String) (ended : Option Int) (text : String) (tasks : List Task)
    (s : Session) : Prop where
  /-- The tasks. -/
  tasks : s.tasks = tasks
  /-- The watching goes on. -/
  signal : s.signal = some {}
  /-- The project is open. -/
  opened : Open ended artifacts text s.workspace
  /-- Nothing was built. -/
  lastBuilt : s.workspace.detector.lastBuilt = none
  /-- A run is about to begin. -/
  ready : s.ready = [.beginRun]
  /-- It has not ended. -/
  run : s.scheduler.run = .pending
  /-- No other one is asked for. -/
  queued : s.scheduler.queued = false
  /-- No file is to be looked at. -/
  timers : ∀ f, s.front = some f → f.timers = []

/-- It starts to watch and asks for a build. -/
theorem Open.on_start {w : Workspace} (h : Open ended artifacts text w) (hgood : Good text)
    (hlast : w.detector.lastBuilt = none) (tasks : List Task) :
    ∃ s, (Session.start []).on { workspace := w, tasks } = (.ok (), s) ∧
      Begins artifacts ended text tasks s := by
  let s₀ : Session := { workspace := w, tasks, signal := some {} }
  have hopen₀ : Open ended artifacts text s₀.workspace := h
  obtain ⟨f, hmade, hroots, htimers, hbacklog⟩ := hopen₀.on_makeFront
  obtain ⟨s₁, hobserve⟩ := hopen₀.exists_observe hroots
  obtain ⟨calls, records, hs₁⟩ := Watched.on_observe hobserve
  have hopen₁ : Open ended artifacts text s₁.workspace := by
    have hcalls : Open ended artifacts text { w with desk := { w.desk with calls } } :=
      ⟨h.settings, h.source, h.force, h.scanner, h.sink, h.tool, h.disk⟩
    rw [hs₁]
    exact hcalls.noteAll records
  have hlast₁ : s₁.workspace.detector.lastBuilt = none := by rw [hs₁]; exact hlast
  obtain ⟨w₂, hopen₂, hlast₂, hready⟩ := hopen₁.on_onReady hgood hlast₁
  -- The session once a build is asked for.
  obtain ⟨s₂, hs₂⟩ : ∃ s₂, ({ s₁ with workspace := w₂ } : Session).requestBuild.2 = s₂ := ⟨_, rfl⟩
  rw [hs₂] at hready
  have hbuilding : ({ s₁ with workspace := w₂ } : Session).scheduler.building = false := by rw [hs₁]
  rw [Watched.requestBuild_of_rest hbuilding] at hs₂
  have hfront : s₂.front = some { f with observing := true } := by rw [← hs₂, hs₁]
  let f' : FrontEnd := { f with observing := true, ready := true, backlog := [] }
  have hdeliver : (deliver ({ f with observing := true }.openUp s₂.sight)).on s₂ =
      (.ok (), { s₂ with front := some f' }) := by
    rw [FrontEnd.openUp, hbacklog]
    rfl
  refine ⟨{ s₂ with front := some f' }, ?_, ?_, ?_, ?_, ?_, ?_, ?_, ?_,
    fun g hg => Option.some.inj hg ▸ htimers⟩
  · unfold Session.start
    simp only [on_get_bind, Option.isSome_none, Bool.false_eq_true, if_false, on_modify_bind]
    rw [on_bind_of_ok hmade, on_bind_of_ok hobserve, on_bind_of_ok hready, on_get_bind, hfront]
    exact hdeliver
  · rw [← hs₂, hs₁]
  · rw [← hs₂, hs₁]
  · rw [← hs₂]
    exact hopen₂
  · rw [← hs₂]
    exact hlast₂
  · rw [← hs₂, hs₁]
    rfl
  · rw [← hs₂]
  · rw [← hs₂, hs₁]

/-- A run for which nobody has asked again ends with its one cycle. -/
theorem Open.on_beginRun (h : Open (some 0) artifacts text s.workspace) (hgood : Good text)
    (hqueued : s.scheduler.queued = false) :
    ∃ w, Open (some 0) artifacts text w ∧
      w.detector = s.workspace.detector.observe (manifest text).digest ∧
      ∀ outcome w' ready,
        (Workspace.endCycle ⟨manifest text, (manifest text).digest⟩ 0).on w = (outcome, w') →
          ({ s with ready } : Session).beginRun =
            { s with
              workspace := w'
              scheduler := (s.scheduler.beginCycle.finish outcome).2
              ready := ready ++ s.scheduler.listeners.map fun who => .runEnded who outcome } := by
  obtain ⟨w, hbegin, hopen, hdetector⟩ := h.on_beginCycle hgood
  refine ⟨w, hopen, hdetector, fun outcome w' ready hend => ?_⟩
  let t : Session := { s with ready, scheduler := s.scheduler.beginCycle }
  have hlaunch : launch .run t = (some outcome, { t with workspace := w' }) := by
    rw [launch_of_ended (s := t) hbegin, hend]
  unfold Session.beginRun
  rw [show launch .run _ = _ from hlaunch]
  exact goOn_of_not_queued (s := { t with workspace := w' }) hqueued outcome

/-! ### While it is watched -/

/-- A session that watches the project has nothing to do but perhaps to build. -/
structure Calm (artifacts : List String) (text : String) (s : Session) : Prop where
  /-- The project is open. -/
  opened : Open (some 0) artifacts text s.workspace
  /-- No run is asked for behind another one. -/
  queued : s.scheduler.queued = false
  /-- If there is something to build, that is about to begin. -/
  work : s.scheduler.building = true → s.work = [.beginRun]
  /-- No file is to be looked at. -/
  timers : ∀ f, s.front = some f → f.timers = []
  /-- No notice waits. -/
  notices : s.notices = []
  /-- No run has failed. -/
  run : ¬s.Failed

theorem Begins.calm {tasks : List Task} (h : Begins artifacts (some 0) text tasks s) :
    Calm artifacts text s := by
  refine ⟨h.opened, h.queued, fun _ => ?_, h.timers, ?_, fun ⟨f, hf⟩ => ?_⟩
  · rw [work, h.ready]
    rfl
  · rw [notices, h.ready]
    rfl
  · rw [h.run] at hf
    cases hf

theorem Calm.quiet (h : Calm artifacts text s) (hidle : s.scheduler.building = false) : s.Quiet :=
  ⟨h.notices, h.timers, hidle⟩

theorem exists_begins (artifacts : List String) (good : Session → Prop) :
    ∃ s, (watched artifacts).Reached good s ∧ Begins artifacts (some 0) "" [] s := by
  obtain ⟨w, hopened, hopen, hlast⟩ := exists_opened artifacts
  obtain ⟨s, hstart, hbegins⟩ := hopen.on_start good_empty hlast []
  exact ⟨s, .start hopened hstart, hbegins⟩

/-- The run begins, and its command ends at once. -/
theorem Calm.exists_beginRun (h : Calm artifacts text s) (hgood : Good text)
    (hwork : s.work = [.beginRun]) :
    ∃ w, Open (some 0) artifacts text w ∧
      w.detector = s.workspace.detector.observe (manifest text).digest ∧
      ∀ outcome w', (Workspace.endCycle ⟨manifest text, (manifest text).digest⟩ 0).on w =
          (outcome, w') →
        ∃ s', (watched artifacts).Step s s' ∧ s'.workspace = w' ∧ s'.Quiet ∧
          s'.scheduler.queued = false ∧ s'.scheduler.run = .ended outcome ∧
          s'.signal = s.signal := by
  obtain ⟨w, hopen, hdetector, hrun⟩ := h.opened.on_beginRun hgood h.queued
  refine ⟨w, hopen, hdetector, fun outcome w' hend => ?_⟩
  have hmem : Job.beginRun ∈ s.ready.filter Job.isWork := by
    show _ ∈ s.work
    rw [hwork]
    exact List.mem_cons_self
  obtain ⟨before, after, hready⟩ := List.append_of_mem (List.mem_filter.1 hmem).1
  have hstep := @Watched.Step.perform (watched artifacts) s before after .beginRun hready
    fun n hn => by cases hn
  rw [show Session.perform _ .beginRun = _ from hrun outcome w' (before ++ after) hend] at hstep
  refine ⟨_, hstep, rfl, ⟨List.filterMap_eq_nil_iff.2 fun job hjob => ?_, h.timers, rfl⟩, rfl, rfl,
    rfl⟩
  have hnone := List.filterMap_eq_nil_iff.1 h.notices
  rcases List.mem_append.1 hjob with hjob | hjob
  · refine hnone job ?_
    rw [hready]
    exact (List.sublist_cons_self _ after).append_left before |>.subset hjob
  · obtain ⟨who, -, rfl⟩ := List.mem_map.1 hjob
    rfl

/-- A session that watches the project without artifacts, in which nothing has gone wrong. -/
structure Watching (text : String) (s : Session) : Prop extends Calm [] text s where
  /-- It was reached. -/
  reached : (watched []).Reached (fun s => ¬s.Broken) s

theorem Watching.watches (h : Watching text s) : (watched []).Watches s :=
  h.reached.watches (leavesAlone_watched [])

theorem not_broken (hrun : ¬s.Failed) (hsignal : ∃ waiter, s.signal = some ⟨none, waiter⟩) :
    ¬s.Broken := by
  rintro (hfailed | ⟨f, waiter, hbroken⟩)
  · exact hrun hfailed
  · obtain ⟨_, hsignal⟩ := hsignal
    rw [hsignal] at hbroken
    cases hbroken

/-- What is to be built is built, and then nothing is left to be done. -/
theorem Watching.settle (h : Watching text s) (hgood : Good text) :
    ∃ s', Relation.ReflTransGen (watched []).Step s s' ∧ Watching text s' ∧ s'.Quiet := by
  cases hbuilding : s.scheduler.building with
  | false => exact ⟨s, .refl, h, h.quiet hbuilding⟩
  | true =>
    obtain ⟨w, hopen, -, hrun⟩ := h.exists_beginRun hgood (h.work hbuilding)
    obtain ⟨w', hend, hopen', -⟩ := hopen.on_endCycle (manifest text)
    obtain ⟨s', hstep, hworkspace, hquiet, hqueued, hended, hsignal⟩ := hrun _ _ hend
    have hwell : ¬s'.Failed := by
      rintro ⟨f, hf⟩
      rw [hended] at hf
      cases hf
    refine ⟨s', .single hstep, ⟨⟨hworkspace ▸ hopen', hqueued, fun hagain => ?_, hquiet.timers,
      hquiet.notices, hwell⟩, h.reached.step hstep (not_broken hwell ?_)⟩, hquiet⟩
    · rw [hquiet.idle] at hagain
      cases hagain
    · rw [hsignal]
      exact h.watches.signal

/-- The disk is another one. -/
theorem Open.edited (h : Open ended artifacts text s.workspace) {text' : String}
    {outputs : List (String × ByteArray)} (hkept : Kept outputs) :
    Open ended artifacts text'
      (s.withDesk { s.desk with disk := Small.disk text' outputs }).workspace :=
  ⟨h.settings, h.source, h.force, h.scanner, h.sink, h.tool, outputs, hkept, rfl⟩

/-- Where nothing is left to be done no run is about to go on. -/
theorem Watching.work_eq_nil (h : Watching text s) (hquiet : s.Quiet) : s.work = [] := by
  have hbuilding (hpending : s.Pending) : s.work = [] := by
    have hgoes := hpending.building
    rw [hquiet.idle] at hgoes
    cases hgoes
  cases h.watches.phase with
  | rest _ _ work => exact work
  | start pending => exact hbuilding pending
  | build pending => exact hbuilding pending

/-- In a session where nothing was left to be done the disk was edited, and a notice of that waits
behind what is ready. -/
structure Reported (text : String) (n : Notice) (s t : Session) : Prop extends Calm [] text t where
  /-- Nothing is to be built yet. -/
  idle : t.scheduler.building = false
  /-- So nothing of a run is ready. -/
  rests : t.work = []
  /-- The edit is a step. -/
  step : (watched []).Step s { t with ready := t.ready ++ [.notice t.frontNumber n] }
  /-- Nothing has gone wrong. -/
  reached : (watched []).Reached (fun s => ¬s.Broken)
    { t with ready := t.ready ++ [.notice t.frontNumber n] }

theorem Watching.report (h : Watching text s) (hquiet : s.Quiet) {r : NativeReport} {n : Notice}
    {text' : String} (hkept : Kept outputs)
    (hedit : (watched []).Edit s.desk.disk r (disk text' outputs)) (hnotice : r.notice? = some n) :
    ∃ t, Reported text' n s t ∧ t.desk.disk = disk text' outputs := by
  have hwatches := h.watches
  have hconnected : s.connected = some s.frontNumber :=
    hwatches.connected.resolve_right fun hnone => List.cons_ne_nil _ _ hnone.2
  have hstep := Watched.Step.edit hedit
  rw [Watched.report_of_connected (s := s.withDesk { s.desk with disk := disk text' outputs })
    hconnected hnotice] at hstep
  exact ⟨s.withDesk { s.desk with disk := disk text' outputs },
    ⟨⟨h.opened.edited hkept, h.queued, h.work, h.timers, h.notices, h.run⟩, hquiet.idle,
      h.work_eq_nil hquiet, hstep, h.reached.step hstep (not_broken h.run hwatches.signal)⟩, rfl⟩

section
variable {n : Notice} {t : Session} (h : Reported text n s t)
include h

theorem Reported.fits : (watched []).Fits t.workspace :=
  (h.reached.watches (leavesAlone_watched [])).fits

theorem Reported.exists_front : ∃ f, t.front = some f ∧ f.ready = true ∧ f.timers = [] := by
  obtain ⟨f, hfront, hlooks⟩ := (h.reached.watches (leavesAlone_watched [])).front
  exact ⟨f, hfront, hlooks.ready, h.timers f hfront⟩

theorem Reported.signal : ∃ waiter, t.signal = some ⟨none, waiter⟩ :=
  (h.reached.watches (leavesAlone_watched [])).signal

/-- The notice of the edit is delivered, for no other one waits. -/
theorem Reported.step_deliver :
    (watched []).Step { t with ready := t.ready ++ [.notice t.frontNumber n] }
      ((dispatch n).on t).2 := by
  have hstep := @Watched.Step.perform (watched [])
    { t with ready := t.ready ++ [.notice t.frontNumber n] } t.ready [] (.notice t.frontNumber n) rfl
    fun _ _ => h.notices
  rw [List.append_nil] at hstep
  have hperform : t.perform (.notice t.frontNumber n) = ((dispatch n).on t).2 := if_pos rfl
  rwa [show Session.perform _ _ = _ from hperform] at hstep

/-- Behind the notice the session watches on if nothing has gone wrong. -/
theorem Reported.delivered {u : Session} (hu : ((dispatch n).on t).2 = u) (hcalm : Calm [] text' u)
    (hsignal : u.signal = t.signal) : Watching text' u := by
  refine ⟨hcalm, h.reached.step (hu ▸ h.step_deliver) (not_broken hcalm.run ?_)⟩
  rw [hsignal]
  exact h.signal

end

/-- What is read of a good source has no numeral that is too long. -/
theorem overlong?_source (hgood : Good text) (outputs : List (String × ByteArray)) :
    Scanner.overlong? (disk text outputs) source = none := by
  obtain ⟨probes, hprobes⟩ := hgood.declared
  rw [Scanner.overlong?, reading?_source hgood.noReturn, hprobes]

/-- An event about the source is handled, and a build is asked for if the manifest changes. -/
theorem Calm.onEvent (h : Calm [] text s) (hfits : (watched []).Fits s.workspace)
    (hidle : s.scheduler.building = false) (hwork : s.work = []) (hgood : Good text)
    {kind : EventKind} (hkind : kind = .add ∨ kind = .change) :
    Calm [] text (s.onEvent ⟨kind, source⟩) ∧ (s.onEvent ⟨kind, source⟩).signal = s.signal := by
  obtain ⟨known, hscanner⟩ := h.opened.scanner
  obtain ⟨outputs, -, hdisk⟩ := h.opened.disk
  obtain ⟨changed, c, aggregates, detector, records, habsorb⟩ :=
    hfits.exists_absorb (e := ⟨kind, source⟩) sees_source proper_source.clean
      (hkind.elim .inl fun hkind => .inr (.inl hkind)) fun _ => by
        rw [hdisk]
        exact overlong?_source hgood outputs
  obtain ⟨w, hw⟩ : ∃ w, { s.workspace with
      scanner := { s.workspace.scanner with catalog := c }, aggregates, detector
      desk := s.workspace.desk.noteAll records } = w := ⟨_, rfl⟩
  rw [hw] at habsorb
  have hopen : Open (some 0) [] text w := by
    have hnoted := h.opened.noteAll records
    rw [← hw]
    exact ⟨hnoted.settings, hnoted.source, hnoted.force, ⟨c, by rw [hscanner]; rfl⟩, hnoted.sink,
      hnoted.tool, hnoted.disk⟩
  rw [Watched.onEvent_of_absorb habsorb]
  cases changed with
  | false =>
    rw [if_neg Bool.false_ne_true]
    exact ⟨⟨hopen, h.queued, h.work, h.timers, h.notices, h.run⟩, rfl⟩
  | true =>
    have hrequest := Watched.requestBuild_of_rest (s := { s with workspace := w }) hidle
    rw [if_pos rfl, hrequest]
    refine ⟨⟨hopen, h.queued, fun _ => ?_, h.timers, ?_, fun ⟨f, hf⟩ => by cases hf⟩, rfl⟩
    · exact (work_push { s with workspace := w } .beginRun).trans
        (congrArg (· ++ [.beginRun]) hwork :)
    · exact (notices_push { s with workspace := w } rfl).trans h.notices

/-- A notice about one file is handed on if the file is a source. -/
theorem dispatch_single (hfits : (watched []).Fits s.workspace) {f : FrontEnd}
    (hfront : s.front = some f) (hready : f.ready = true) {kind : EventKind}
    (hkind : kind = .add ∨ kind = .change) (hp : p.Proper) {accepted : Bool}
    (haccepted : (scanner ∅).acceptsResolved? p = some accepted) :
    ((dispatch ⟨kind, [p.text]⟩).on s).2 = if accepted then s.onEvent ⟨kind, p⟩ else s := by
  have habout : (⟨kind, [p.text]⟩ : Notice).About [p] :=
    ⟨rfl, by simpa using hp, by rcases hkind with rfl | rfl <;> simp⟩
  have htold : ∀ q ∈ [p], (scanner ∅).acceptsResolved? q ≠ none := by
    intro q hq
    rw [List.mem_singleton.1 hq, haccepted]
    exact Option.some_ne_none _
  have htake := FrontEnd.take_of_about (f := f) (Watched.sees_sight hfits) habout htold hready
    (by rcases hkind with rfl | rfl <;> nofun)
  have hfilter : ([p].filter fun p => (scanner ∅).acceptsResolved? p == some true) =
      if accepted then [p] else [] := by
    rw [List.filter_cons, haccepted]
    cases accepted <;> rfl
  have hsame : ({ s with front := some f } : Session) = s := by rw [← hfront]
  rw [Watched.dispatch_eq hfront, htake, show (watched []).scanner = scanner ∅ from rfl, hfilter,
    hsame]
  cases accepted <;> rfl

/-- The source is written, and the notice of it is delivered. -/
theorem Watching.change (h : Watching text s) (hquiet : s.Quiet) {text' : String}
    (hgood : Good text') :
    ∃ s₁ s₂, (watched []).Reached (fun s => ¬s.Broken) s₁ ∧
      s₁.notices = [⟨.change, [source.text]⟩] ∧ (watched []).Step s₁ s₂ ∧ Watching text' s₂ := by
  obtain ⟨outputs, hkept, hdisk⟩ := h.opened.disk
  have hedit : (watched []).Edit s.desk.disk ⟨.modified, source.text, "", false⟩
      (disk text' outputs) := by
    rw [show s.desk.disk = _ from hdisk]
    exact edit_source [] text'
  obtain ⟨t, ht, -⟩ := h.report hquiet hkept hedit rfl
  obtain ⟨f, hfront, hready, -⟩ := ht.exists_front
  have hdispatch : ((dispatch ⟨.change, [source.text]⟩).on t).2 = t.onEvent ⟨.change, source⟩ :=
    dispatch_single ht.fits hfront hready (.inr rfl) proper_source sees_source.accepted
  obtain ⟨hcalm, hsignal⟩ :=
    ht.onEvent ht.fits ht.idle ht.rests hgood (.inr rfl : EventKind.change = .add ∨ _)
  refine ⟨_, _, ht.reached, ?_, ht.step_deliver, ht.delivered rfl (hdispatch ▸ hcalm)
    (hdispatch ▸ hsignal)⟩
  show (t.ready ++ [_]).filterMap Job.notice? = _
  rw [List.filterMap_append, show t.ready.filterMap Job.notice? = [] from ht.notices]
  rfl

/-- A draft is written, and nobody minds the notice of it. -/
theorem Watching.draft (h : Watching text s) (hquiet : s.Quiet) (text' : String) :
    ∃ s', Relation.ReflTransGen (watched []).Step s s' ∧ Watching text s' ∧ s'.Quiet ∧
      ∃ outputs, Kept outputs ∧ s'.desk.disk = disk text outputs ∧
        outputs.lookup "a.js.tmp" = some (Text.encode text') := by
  obtain ⟨outputs, hkept, hdisk⟩ := h.opened.disk
  have hkept' := hkept.output (by decide : "a.js.tmp" ≠ "snapshot.json") (Text.encode text')
  have hedit : (watched []).Edit s.desk.disk ⟨.created, Small.draft.text, "", false⟩
      (disk text (output "a.js.tmp" (Text.encode text') outputs)) := by
    rw [show s.desk.disk = _ from hdisk]
    exact edit_draft [] text'
  obtain ⟨t, ht, hdisk'⟩ := h.report (n := ⟨.add, [Small.draft.text]⟩) hquiet hkept' hedit rfl
  obtain ⟨f, hfront, hready, -⟩ := ht.exists_front
  have hdispatch : ((dispatch ⟨.add, [Small.draft.text]⟩).on t).2 = t :=
    dispatch_single ht.fits hfront hready (.inl rfl) proper_draft acceptsResolved?_draft
  have hstep := ht.step_deliver
  rw [hdispatch] at hstep
  refine ⟨t, (Relation.ReflTransGen.single ht.step).tail hstep,
    ht.delivered hdispatch ht.toCalm rfl, ht.quiet ht.idle, _, hkept', hdisk', ?_⟩
  rw [lookup_output, if_pos rfl]

/-- A raw notice about the draft and the source sets a timer for the source. -/
theorem take_rename (hfits : (watched []).Fits s.workspace) {f : FrontEnd} (hready : f.ready = true)
    (htimers : f.timers = []) :
    f.take s.sight ⟨.raw, [draft.text, source.text]⟩ = (f.setTimer s.sight source 0, [], none) := by
  have hsees := Watched.sees_sight hfits
  have hdraft := hsees.accepts draft proper_draft false acceptsResolved?_draft
  have hsource := hsees.accepts source proper_source true sees_source.accepted
  have hcandidates : f.candidates s.sight [draft.text, source.text] = .ok [source] := by
    rw [FrontEnd.candidates, List.flatMap_cons, List.flatMap_cons,
      FrontEnd.options_text f proper_draft, FrontEnd.options_text f proper_source]
    show FrontEnd.gather s.sight [] [draft, source] = _
    rw [FrontEnd.gather, hsees.resolve draft proper_draft]
    show (s.sight.accepts draft >>= _) = _
    rw [hdraft]
    show FrontEnd.gather s.sight [] [source] = _
    rw [FrontEnd.gather, hsees.resolve source proper_source]
    show (s.sight.accepts source >>= _) = _
    rw [hsource]
    rfl
  have hset : f.setTimers s.sight [source] = f.setTimer s.sight source 0 := by
    rw [FrontEnd.setTimers, List.foldl_cons, htimers]
    rfl
  rw [FrontEnd.take, hready, if_neg (by simp), if_pos rfl, hcandidates, ← hset]

/-- The one timer fires, and there is an event about the source. -/
theorem fire_source (hfits : (watched []).Fits s.workspace) {f : FrontEnd}
    (hfront : s.front = some (f.setTimer s.sight source 0)) (htimers : f.timers = [])
    (hdisk : s.desk.disk = disk text outputs) :
    ∃ (kind : EventKind) (g : FrontEnd) (records : List Record),
      (kind = .add ∨ kind = .change) ∧ g.timers = [] ∧
        s.fire f.nextNumber =
          (({ s with front := some g } : Session).noted records).onEvent ⟨kind, source⟩ := by
  obtain ⟨known, htracks⟩ := (Watched.sees_sight hfits).tracks source proper_source
  have hlook : s.sight.disk.look source = .ok (some (.file (Text.encode text))) := by
    rw [show s.sight.disk = _ from hdisk]
    exact Disk.look_of_linkFree (by show ∀ n ∈ ["p", "t", "a.js"], Disk.IsName n; decide)
      (linkFree_disk text outputs) rfl
  have htimer : (f.setTimer s.sight source 0).timers =
      [⟨source, 0, f.delay.map (s.sight.now + ·), f.nextNumber⟩] := by
    rw [FrontEnd.setTimer, htimers]
    rfl
  have hfired : ∃ kind g records, (kind = EventKind.add ∨ kind = .change) ∧ g.timers = [] ∧
      (f.setTimer s.sight source 0).fire s.sight f.nextNumber = (g, [⟨kind, source⟩], records) := by
    have hfind : [(⟨source, 0, f.delay.map (s.sight.now + ·), f.nextNumber⟩ : Timer)].find?
        (·.number == f.nextNumber) = some ⟨source, 0, f.delay.map (s.sight.now + ·), f.nextNumber⟩ := by
      simp
    rw [FrontEnd.fire, htimer, hfind]
    dsimp only
    rw [FrontEnd.look, hlook, htracks, htimer]
    refine ⟨if known then .change else .add, _, _, ?_, ?_, rfl⟩
    · cases known
      · exact .inl rfl
      · exact .inr rfl
    · simp
  obtain ⟨kind, g, records, hkind, hg, hfired⟩ := hfired
  refine ⟨kind, g, records, hkind, hg, ?_⟩
  rw [fire, hfront]
  dsimp only
  rw [hfired]
  rfl

/-- The draft takes the place of the source: a timer is set, and when it fires the source is
read. -/
theorem Watching.rename (h : Watching text s) (hquiet : s.Quiet) (hkept : Kept outputs)
    (hdisk : s.desk.disk = disk text outputs) {text' : String}
    (hdraft : outputs.lookup "a.js.tmp" = some (Text.encode text')) (hgood : Good text') :
    ∃ s₁ s₂, Relation.ReflTransGen (watched []).Step s s₁ ∧
      (∃ f, s₁.front = some f ∧ f.HasTimer source) ∧ (watched []).Step s₁ s₂ ∧
      Watching text' s₂ := by
  have hedit : (watched []).Edit s.desk.disk ⟨.moved, Small.draft.text, source.text, false⟩
      (disk text' (outputs.filter (·.1 != "a.js.tmp"))) := by
    rw [hdisk]
    exact edit_rename [] hdraft
  have hnotice : (⟨.moved, Small.draft.text, source.text, false⟩ : NativeReport).notice? =
      some ⟨.raw, [Small.draft.text, source.text]⟩ := by
    simp [NativeReport.notice?, Watched.isEmpty_text proper_draft, Watched.isEmpty_text proper_source]
  obtain ⟨t, ht, hdisk'⟩ := h.report hquiet hkept.without_draft hedit hnotice
  obtain ⟨f, hfront, hready, htimers⟩ := ht.exists_front
  -- The raw notice is delivered.
  obtain ⟨u, hu⟩ : ∃ u, { t with front := some (f.setTimer t.sight source 0) } = u := ⟨_, rfl⟩
  have hdispatch : ((dispatch ⟨.raw, [Small.draft.text, source.text]⟩).on t).2 = u := by
    rw [Watched.dispatch_eq hfront, take_rename ht.fits hready htimers]
    exact hu
  have hsignal : u.signal = t.signal := by rw [← hu]
  have hrun : ¬u.Failed := by
    rw [← hu]
    exact ht.run
  have hstep := ht.step_deliver
  rw [hdispatch] at hstep
  have hreached := ht.reached.step hstep (not_broken hrun (hsignal ▸ ht.signal))
  -- The timer fires.
  have hfits : (watched []).Fits u.workspace := by
    rw [← hu]
    exact ht.fits
  obtain ⟨kind, g, records, hkind, hg, hfire⟩ := fire_source (s := u) hfits (f := f)
    (by rw [← hu]; rfl) htimers (by rw [← hu]; exact hdisk')
  have hfired := Watched.Step.timer (P := watched []) (s := u) f.nextNumber
  have hperform : u.perform (.timer u.frontNumber f.nextNumber) = u.fire f.nextNumber := if_pos rfl
  rw [hperform, hfire] at hfired
  have hnoted : Calm [] text' (({ u with front := some g } : Session).noted records) := by
    rw [← hu]
    exact ⟨ht.opened.noteAll records, ht.queued, ht.work, fun f' hf' => Option.some.inj hf' ▸ hg,
      ht.notices, ht.run⟩
  have hkeeps : (watched []).Kept (fun _ => False) { u with front := some g }
      (({ u with front := some g } : Session).noted records) :=
    .noted (s := { u with front := some g }) hfits records
  obtain ⟨hcalm, hsame⟩ := hnoted.onEvent hkeeps.fits (by rw [← hu]; exact ht.idle)
    (by rw [← hu]; exact ht.rests) hgood hkind
  refine ⟨u, _, (Relation.ReflTransGen.single ht.step).tail hstep,
    ⟨_, by rw [← hu], (FrontEnd.hasTimer_setTimer f _ source 0 source).2 (.inr rfl)⟩, hfired, hcalm,
    hreached.step hfired (not_broken hcalm.run ?_)⟩
  rw [hsame]
  exact hsignal ▸ ht.signal

/-- Nothing but the signal and what waits for it is changed by a failure. -/
theorem same_fail (s : Session) (f : Fault) : (s.fail f).workspace = s.workspace ∧
    (s.fail f).scheduler = s.scheduler ∧ (s.fail f).front = s.front ∧
      (s.fail f).notices = s.notices := by
  unfold fail resolve
  split
  · split
    · exact ⟨rfl, rfl, rfl, notices_push _ rfl⟩
    · exact ⟨rfl, rfl, rfl, rfl⟩
  · exact ⟨rfl, rfl, rfl, rfl⟩

/-- The source is written with too long a numeral: the notice of that interrupts the watching, and
no scan succeeds any more. -/
theorem Watching.exists_interrupted (h : Watching text s) (hquiet : s.Quiet) :
    ∃ s', (watched []).Reached (fun s => ¬s.Failed) s' ∧ s'.Quiet ∧
      ∀ before scanner records, { s'.workspace.scanner with catalog := before }.rescan s'.desk.disk ≠
        (.ok scanner, records) := by
  obtain ⟨outputs, hkept, hdisk⟩ := h.opened.disk
  let long := String.ofList (Rendering.rowText Rendering.longZero)
  have hedit : (watched []).Edit s.desk.disk ⟨.modified, source.text, "", false⟩
      (disk long outputs) := by
    rw [show s.desk.disk = _ from hdisk]
    exact edit_source [] long
  obtain ⟨t, ht, hdisk'⟩ := h.report (n := ⟨.change, [source.text]⟩) hquiet hkept hedit rfl
  obtain ⟨f, hfront, hready, -⟩ := ht.exists_front
  have hlong : Scanner.overlong? t.workspace.desk.disk source =
      some (.reading (Text.digitLimit + 1)) := by
    rw [show t.workspace.desk.disk = _ from hdisk', Scanner.overlong?_eq_some_iff,
      reading?_source noReturn_longZero, declaredProbes_longZero]
  have hfits := ht.fits
  have habsorb : (Workspace.absorb ⟨.change, source⟩).on t.workspace =
      (.error (.numeral (.reading (Text.digitLimit + 1))), t.workspace) := by
    have hupdate : (Workspace.update source).on t.workspace =
        (.error (.numeral (.reading (Text.digitLimit + 1))), t.workspace) := by
      rw [Workspace.update, on_get_bind, Scanner.update_of_overlong
        (hfits.tidy.resolve_eq rfl proper_source.names)
        ((hfits.sees_iff source).2 sees_source).accepted hlong]
      rfl
    exact on_bind_of_error (on_bind_of_error hupdate _) _
  have hdispatch : ((dispatch ⟨.change, [source.text]⟩).on t).2 =
      t.fail (.numeral (.reading (Text.digitLimit + 1))) := by
    have hevent : ((dispatch ⟨.change, [source.text]⟩).on t).2 = t.onEvent ⟨.change, source⟩ :=
      dispatch_single hfits hfront hready (.inr rfl) proper_source sees_source.accepted
    rw [hevent, Watched.onEvent_of_error habsorb]
  obtain ⟨hworkspace, hscheduler, hsame, hnotices⟩ :=
    same_fail t (.numeral (.reading (Text.digitLimit + 1)))
  have hstep := ht.step_deliver
  rw [hdispatch] at hstep
  have hreached := ht.reached.mono fun _ hgood hfailed => hgood (.inl hfailed)
  refine ⟨_, hreached.step hstep ?_, ⟨?_, ?_, ?_⟩, fun before scanner records hscan => ?_⟩
  · rintro ⟨f, hf⟩
    rw [hscheduler] at hf
    exact ht.run ⟨f, hf⟩
  · rw [hnotices]
    exact ht.notices
  · rw [hsame]
    exact ht.timers
  · rw [hscheduler]
    exact ht.idle
  · rw [Session.desk, hworkspace, hfits.scanner] at hscan
    obtain ⟨c, -, hscans⟩ := hfits.disk.scans_of_rescan hscan
    rw [hscans.short source sees_source] at hlong
    cases hlong

end Small

/-! ### Convergence -/

namespace Watched

variable {P : Watched} {s : Session}

/-- **A session that watches converges**: unless a run has failed or an event has interrupted the
watching on the way, it agrees with the sources and with what was built whenever nothing is left to
be done. -/
theorem converges (htool : P.LeavesAlone) (h : P.Reached (fun s => ¬s.Broken) s)
    (hquiet : s.Quiet) : ∃ digest, s.Settled digest := by
  have hwatches := h.watches htool
  have hfits := hwatches.fits
  have hscanned := hfits.rescan_of_allFresh (hwatches.allFresh hquiet)
  -- Only a phase of rest is quiet: in the other two a run goes on.
  cases hwatches.phase with
  | @rest digest building queued work running lastBuilt lastComputed built =>
    have hdigest := hfits.computed
    rw [lastComputed] at hdigest
    exact ⟨digest, hscanned, (Option.some.inj hdigest).symm, lastComputed, lastBuilt,
      hfits.settings ▸ built⟩
  | start pending =>
    have hbuilding := pending.building
    rw [hquiet.idle] at hbuilding
    cases hbuilding
  | build pending =>
    have hbuilding := pending.building
    rw [hquiet.idle] at hbuilding
    cases hbuilding

/-- The source of a project is edited while it is watched, and then a draft that undoes the edit is
renamed to it: there is a notice of the edit, and there is a timer for the renamed file. -/
theorem converges_after_rename : ∃ (edited renamed s : Session) (digest : String),
    (Small.watched []).LeavesAlone ∧
    (Small.watched []).Reached (fun s => ¬s.Broken) edited ∧
      edited.notices = [⟨.change, [Small.source.text]⟩] ∧
    Relation.ReflTransGen (Small.watched []).Step edited renamed ∧
      (∃ f, renamed.front = some f ∧ f.HasTimer Small.source) ∧
    Relation.ReflTransGen (Small.watched []).Step renamed s ∧
      (Small.watched []).Reached (fun s => ¬s.Broken) s ∧ s.Quiet ∧ s.Settled digest := by
  obtain ⟨s₀, hreached, hbegins⟩ := Small.exists_begins [] fun s => ¬s.Broken
  obtain ⟨s₁, -, h₁, hquiet₁⟩ := (⟨hbegins.calm, hreached⟩ : Small.Watching "" s₀).settle
    Small.good_empty
  obtain ⟨edited, s₂, hedited, hnotices, hnotice, h₂⟩ := h₁.change hquiet₁ Small.good_other
  obtain ⟨s₃, hbuild, h₃, hquiet₃⟩ := h₂.settle Small.good_other
  obtain ⟨s₄, hdraft, h₄, hquiet₄, outputs, hkept, hdisk, hlookup⟩ := h₃.draft hquiet₃ ""
  obtain ⟨renamed, s₅, hrename, htimer, hfire, h₅⟩ :=
    h₄.rename hquiet₄ hkept hdisk hlookup Small.good_empty
  obtain ⟨s, hsettle, h, hquiet⟩ := h₅.settle Small.good_empty
  obtain ⟨digest, hsettled⟩ := converges (Small.leavesAlone_watched []) h.reached hquiet
  have hrenamed := (hbuild.head hnotice).trans (hdraft.trans hrename)
  exact ⟨edited, renamed, s, digest, Small.leavesAlone_watched [], hedited, hnotices, hrenamed,
    htimer, hsettle.head hfire, h.reached, hquiet, hsettled⟩

/-- **Behind a run that has failed or an event that has interrupted the watching a session need not
agree with its sources.**  No artifacts can be looked for by an empty pattern, and so a cycle fails
that has written its manifest although its build command has ended well; and a source with too long
a numeral is not read when it is edited. -/
theorem not_settled_of_broken :
    (¬∀ {P : Watched} {s : Session}, P.LeavesAlone → P.Reached (fun s => ¬s.Interrupted) s →
      s.Quiet → ∃ digest, s.Settled digest) ∧
    ¬∀ {P : Watched} {s : Session}, P.LeavesAlone → P.Reached (fun s => ¬s.Failed) s →
      s.Quiet → ∃ digest, s.Settled digest := by
  constructor
  · intro hclaim
    obtain ⟨s, hreached, hbegins⟩ := Small.exists_begins [""] fun s => ¬s.Interrupted
    have hwork : s.work = [.beginRun] := by
      rw [work, hbegins.ready]
      rfl
    obtain ⟨w, hopen, hdetector, hrun⟩ := hbegins.calm.exists_beginRun Small.good_empty hwork
    obtain ⟨f, w', hend, hsame⟩ :=
      hopen.on_endCycle_of_refused ⟨Small.manifest "", (Small.manifest "").digest⟩
    obtain ⟨s', hstep, hworkspace, hquiet, -, -, hsignal⟩ := hrun _ _ hend
    have hgood : ¬s'.Interrupted := by
      rintro ⟨_, _, hbroken⟩
      rw [hsignal, hbegins.signal] at hbroken
      cases hbroken
    obtain ⟨digest, hsettled⟩ :=
      hclaim (Small.leavesAlone_watched [""]) (hreached.step hstep hgood) hquiet
    have hnone : (s.workspace.detector.observe (Small.manifest "").digest).lastBuilt = none :=
      hbegins.lastBuilt
    have hlast := hsettled.lastBuilt
    rw [hworkspace, hsame, hdetector, hnone] at hlast
    cases hlast
  · intro hclaim
    obtain ⟨s₀, hreached, hbegins⟩ := Small.exists_begins [] fun s => ¬s.Broken
    obtain ⟨s, -, h, hquiet⟩ := (⟨hbegins.calm, hreached⟩ : Small.Watching "" s₀).settle
      Small.good_empty
    obtain ⟨s', hreached', hquiet', hunscanned⟩ := h.exists_interrupted hquiet
    obtain ⟨digest, hsettled⟩ := hclaim (Small.leavesAlone_watched []) hreached' hquiet'
    obtain ⟨records, hscanned⟩ := hsettled.scanned ∅
    exact hunscanned _ _ _ hscanned

end Watched

end ProbeKit
