import ProbeKit.Proofs.Manifest.Scanned
import ProbeKit.Proofs.Watch.Notices
import ProbeKit.Proofs.Workspace.Events
import ProbeKit.Session.Loop

/-!
# What an event does to a session

While a session watches a project, its workspace has always computed the manifest of its catalog
(`Watched.Fits`), and the builds are in one of three phases (`Watched.Phase`): at rest with
everything built, about to begin, or at work on a manifest.  An event makes the catalog right about
its file, and a manifest that it changes is not forgotten: another cycle is asked for
(`Watched.kept_onEvent`).  The one thing that may go wrong is that the event interrupts the
watching, for a numeral of its source is too long (`Watched.interrupted_onEvent_iff`).
-/

namespace ProbeKit

open Act Session
open Desk (Noted)

namespace Watched

variable {P : Watched} {w w' : Workspace} {s s' : Session}

/-! ### Workspaces -/

/-- A catalog holds what sources of a project declared at some time. -/
def Knows (P : Watched) (c : Catalog) : Prop :=
  ∀ k v, c.find? k = some v → ∃ p text, P.scanner.Sees p ∧ p.Clean ∧ P.scanner.keyFor p = k ∧
    declaredProbes text = .ok v

/-- A workspace that is open on a project, has a catalog of its sources and has computed the manifest
of that catalog. -/
structure Fits (P : Watched) (w : Workspace) : Prop where
  /-- The settings are those of the project. -/
  settings : w.settings = P.settings
  /-- The manifest comes from a scan. -/
  source : w.source = .scan
  /-- The scanner is that of the project. -/
  scanner : w.scanner = { P.scanner with catalog := w.scanner.catalog }
  /-- The build tool is that of the project. -/
  tool : w.desk.tool = P.tool
  /-- The disk is as it should be. -/
  disk : P.Holds w.desk.disk
  /-- The provider has a name. -/
  provider : Manifest.isNamed P.settings.providerValue = true
  /-- The module is a text or absent. -/
  moduleName : Manifest.isNamedOrNull P.settings.moduleValue = true
  /-- The catalog holds what sources declared. -/
  knows : P.Knows w.scanner.catalog
  /-- The manifest of the catalog was computed last. -/
  computed : w.detector.lastComputed = some (w.manifestOf w.scanner.catalog).digest

/-- What a session knows of a source is what the source declares; no numeral of it is too long. -/
def Fresh (P : Watched) (w : Workspace) (p : Path) : Prop :=
  Scanner.reading? w.desk.disk p = (w.scanner.catalog.find? (P.scanner.keyFor p)).map .ok

theorem sound_of_mem_probes {c : Catalog} (h : P.Knows c) : ∀ p ∈ c.probes, p.Sound := by
  intro p hp
  obtain ⟨⟨k, v⟩, hentry, hp⟩ := List.mem_flatMap.1 hp
  obtain ⟨-, text, -, -, -, hdeclared⟩ := h k v ((Catalog.lookup_eq_some_iff c.inOrder).2 hentry)
  exact sound_of_declaredProbes hdeclared p hp

/-- **The manifest of such a catalog has no flaw.** -/
theorem Fits.flaw?_manifestOf (h : P.Fits w) {c : Catalog} (hc : P.Knows c) :
    (w.manifestOf c).flaw? = none := by
  rw [Workspace.manifestOf, h.settings]
  exact Manifest.flaw?_ofAggregates h.provider h.moduleName (sound_of_mem_probes hc)

theorem Holds.tidy_withCatalog {d : Disk} (h : P.Holds d) (c : Catalog) :
    ({ P.scanner with catalog := c } : Scanner).Tidy d := by
  have ht := h.tidy
  exact ⟨ht.isDir, ht.linkFree, ht.named, ht.anchor, ht.names, ht.roots, fun p hp =>
    ht.clean p ((P.scanner.sees_withCatalog _ p).1 hp)⟩

theorem Fits.tidy (h : P.Fits w) : w.scanner.Tidy w.desk.disk := by
  rw [h.scanner]
  exact h.disk.tidy_withCatalog _

theorem Fits.sees_iff (h : P.Fits w) (p : Path) : w.scanner.Sees p ↔ P.scanner.Sees p := by
  rw [h.scanner]
  exact P.scanner.sees_withCatalog _ p

theorem Fits.keyFor_eq (h : P.Fits w) (p : Path) : w.scanner.keyFor p = P.scanner.keyFor p := by
  rw [h.scanner]
  rfl

/-! ### Events -/

/-- The kinds of the events that change a catalog. -/
def IsChange (kind : EventKind) : Prop := kind = .add ∨ kind = .change ∨ kind = .unlink

/-- A workspace where files of some paths were looked at again: they alone may not be known as they
are any more. -/
structure Moved (P : Watched) (about : Path → Prop) (w w' : Workspace) : Prop where
  /-- The workspace still fits. -/
  fits : P.Fits w'
  /-- The sources declare what they declared. -/
  declared : ∀ p, P.scanner.Sees p →
    Scanner.reading? w'.desk.disk p = Scanner.reading? w.desk.disk p
  /-- Other sources are known as they are if they were. -/
  fresh : ∀ p, P.scanner.Sees p → p.Clean → ¬about p → P.Fresh w p → P.Fresh w' p

theorem Moved.refl {about : Path → Prop} (h : P.Fits w) : P.Moved about w w :=
  ⟨h, fun _ _ => rfl, fun _ _ _ _ hfresh => hfresh⟩

theorem Moved.trans {about about' : Path → Prop} {w'' : Workspace} (h : P.Moved about w w')
    (h' : P.Moved about' w' w'') : P.Moved (fun p => about p ∨ about' p) w w'' := by
  refine ⟨h'.fits, fun p hp => (h'.declared p hp).trans (h.declared p hp),
    fun p hp hclean hnot hfresh => ?_⟩
  rw [not_or] at hnot
  exact h'.fresh p hp hclean hnot.2 (h.fresh p hp hclean hnot.1 hfresh)

theorem Moved.mono {about about' : Path → Prop} (h : P.Moved about w w')
    (hsub : ∀ p, about p → about' p) : P.Moved about' w w' :=
  ⟨h.fits, h.declared, fun p hp hclean hnot => h.fresh p hp hclean fun habout =>
    hnot (hsub p habout)⟩

theorem Fits.withDesk {desk : Desk} (h : P.Fits w) (htool : desk.tool = w.desk.tool)
    (hdisk : P.Holds desk.disk) : P.Fits { w with desk } :=
  ⟨h.settings, h.source, h.scanner, htool.trans h.tool, hdisk, h.provider, h.moduleName, h.knows,
    h.computed⟩

/-- A workspace where only the desk is another one. -/
theorem Moved.of_desk {about : Path → Prop} {desk : Desk} (h : P.Fits w)
    (htool : desk.tool = w.desk.tool) (hdisk : P.Holds desk.disk)
    (hdeclared : ∀ p, P.scanner.Sees p →
      Scanner.reading? desk.disk p = Scanner.reading? w.desk.disk p) :
    P.Moved about w { w with desk } :=
  ⟨h.withDesk htool hdisk, hdeclared, fun p hp _ _ hfresh => (hdeclared p hp).trans hfresh⟩

theorem Moved.of_noted {about : Path → Prop} {desk : Desk} (h : P.Fits w)
    (hnoted : Noted w.desk desk) : P.Moved about w { w with desk } := by
  have hwrites := hnoted.disk h.disk.tidy.isDir
  exact .of_desk h hnoted.tool (h.disk.of_writes hwrites fun _ hq => hq.elim)
    fun p hp => h.disk.reading?_eq hwrites hp fun _ hq => hq.elim

/-- What an event about a source does to a workspace. -/
structure Absorbed (P : Watched) (w w' : Workspace) (e : Event) (changed : Bool) : Prop
    extends P.Moved (· = e.path) w w' where
  /-- Nothing but the log is written. -/
  writes : w.desk.disk.Writes (fun _ => False) w'.desk.disk
  /-- The build that was made last stays. -/
  lastBuilt : w'.detector.lastBuilt = w.detector.lastBuilt
  /-- If the manifest did not change, neither did its digest. -/
  lastComputed : changed = false → w'.detector.lastComputed = w.detector.lastComputed
  /-- The source is known as it is, unless the event says that it is not there and it is. -/
  self : (e.kind = .unlink → Scanner.reading? w.desk.disk e.path = none) → P.Fresh w' e.path

/-- A catalog that took in what one source declares, or forgot it, as an event says. -/
structure TakesIn (P : Watched) (w : Workspace) (e : Event) (c : Catalog) : Prop where
  /-- Other sources are known as before. -/
  others : ∀ k, k ≠ P.scanner.keyFor e.path → c.find? k = w.scanner.catalog.find? k
  /-- The source is forgotten if it was removed, and known as it is otherwise. -/
  self : (c.find? (P.scanner.keyFor e.path)).map .ok =
    if e.kind = .unlink then none else Scanner.reading? w.desk.disk e.path

theorem IsChange.add_or_change {kind : EventKind} (h : IsChange kind) (hnot : kind ≠ .unlink) :
    kind = .add ∨ kind = .change := by
  rcases h with h | h | h
  · exact .inl h
  · exact .inr h
  · exact absurd h hnot

/-- A source whose numerals are too long is not read again. -/
theorem Fits.overlong?_of_applyEvent (h : P.Fits w) {e : Event} (hsees : P.scanner.Sees e.path)
    (hkind : IsChange e.kind) (hnot : e.kind ≠ .unlink)
    (happly : (Workspace.applyEvent e).on w = (.ok (), w')) :
    Scanner.overlong? w.desk.disk e.path = none := by
  have hresolve := h.tidy.resolve_eq hsees.anchor hsees.names
  have haccepted := ((h.sees_iff e.path).2 hsees).accepted
  refine Option.eq_none_iff_forall_ne_some.2 fun error hlong => ?_
  have hfails : (Workspace.update e.path).on w = (.error (.numeral error), w) := by
    unfold Workspace.update
    rw [on_get_bind, Scanner.update_of_overlong hresolve haccepted hlong]
    rfl
  unfold Workspace.applyEvent at happly
  rcases hkind.add_or_change hnot with hread | hread
  all_goals
    rw [hread] at happly
    rw [on_bind_of_error hfails] at happly
    cases happly

/-- What an event about a source makes of a workspace that it is applied to. -/
theorem Fits.takesIn_of_applyEvent (h : P.Fits w) {e : Event} (hsees : P.scanner.Sees e.path)
    (hkind : IsChange e.kind) (happly : (Workspace.applyEvent e).on w = (.ok (), w')) :
    ∃ c records, w' = { w with
        scanner := { w.scanner with catalog := c }, desk := w.desk.noteAll records } ∧
      P.TakesIn w e c := by
  by_cases hunlink : e.kind = .unlink
  · obtain ⟨known, hforget⟩ := Scanner.forget_of_tidy h.tidy hsees.anchor hsees.names
    rw [Workspace.on_applyEvent_of_forget hunlink hforget] at happly
    refine ⟨_, [], (congrArg Prod.snd happly).symm, fun k hk => ?_, ?_⟩
    · rw [Catalog.find?_erase, h.keyFor_eq, if_neg hk]
    · rw [Catalog.find?_erase, h.keyFor_eq, if_pos rfl, if_pos hunlink]
      rfl
  · have hread := hkind.add_or_change hunlink
    have hshort := h.overlong?_of_applyEvent hsees hkind hunlink happly
    obtain ⟨_, c, records, hupdate, hothers, hself⟩ := Scanner.update_of_accepted
      (h.tidy.resolve_eq hsees.anchor hsees.names) ((h.sees_iff e.path).2 hsees).accepted hshort
    rw [h.keyFor_eq] at hothers hself
    rw [Workspace.on_applyEvent_of_update hread hupdate] at happly
    refine ⟨c, records, (congrArg Prod.snd happly).symm, hothers, ?_⟩
    rw [hself, if_neg hunlink, Scanner.reading?_of_overlong? hshort]

theorem TakesIn.knows {e : Event} {c : Catalog} (hc : P.TakesIn w e c) (h : P.Knows w.scanner.catalog)
    (hsees : P.scanner.Sees e.path) (hclean : e.path.Clean) : P.Knows c := by
  intro k v hv
  by_cases hk : k = P.scanner.keyFor e.path
  · subst hk
    have hself := hc.self
    rw [hv] at hself
    split at hself
    · cases hself
    · unfold Scanner.reading? at hself
      obtain ⟨text, -, hdeclared⟩ := Option.map_eq_some_iff.1 hself.symm
      exact ⟨e.path, text, hsees, hclean, rfl, hdeclared⟩
  · rw [hc.others k hk] at hv
    exact h k v hv

/-- An event is applied if no numeral of its source is too long, or the source was removed. -/
theorem Fits.exists_applyEvent (h : P.Fits w) {e : Event} (hsees : P.scanner.Sees e.path)
    (hkind : IsChange e.kind)
    (hshort : e.kind ≠ .unlink → Scanner.overlong? w.desk.disk e.path = none) :
    ∃ w', (Workspace.applyEvent e).on w = (.ok (), w') := by
  by_cases hunlink : e.kind = .unlink
  · obtain ⟨known, hforget⟩ := Scanner.forget_of_tidy h.tidy hsees.anchor hsees.names
    exact ⟨_, Workspace.on_applyEvent_of_forget hunlink hforget⟩
  · have hread := hkind.add_or_change hunlink
    obtain ⟨updated, c, records, hupdate, -⟩ := Scanner.update_of_accepted
      (h.tidy.resolve_eq hsees.anchor hsees.names) ((h.sees_iff e.path).2 hsees).accepted
      (hshort hunlink)
    exact ⟨_, Workspace.on_applyEvent_of_update hread hupdate⟩

/-- So it is absorbed, and but for the catalog, the aggregates, the detector and the journal nothing
changes. -/
theorem Fits.exists_absorb (h : P.Fits w) {e : Event} (hsees : P.scanner.Sees e.path)
    (hclean : e.path.Clean) (hkind : IsChange e.kind)
    (hshort : e.kind ≠ .unlink → Scanner.overlong? w.desk.disk e.path = none) :
    ∃ changed c aggregates detector records, (Workspace.absorb e).on w =
      (.ok changed, { w with
        scanner := { w.scanner with catalog := c }, aggregates, detector
        desk := w.desk.noteAll records }) := by
  obtain ⟨w₁, happly⟩ := h.exists_applyEvent hsees hkind hshort
  obtain ⟨c, records, rfl, htakes⟩ := h.takesIn_of_applyEvent hsees hkind happly
  obtain ⟨records', habsorb⟩ := Workspace.on_absorb happly h.source
    (h.flaw?_manifestOf (htakes.knows h.knows hsees hclean))
  have hnotes : (w.desk.noteAll records).noteAll records' = w.desk.noteAll (records ++ records') :=
    List.foldl_append.symm
  rw [hnotes] at habsorb
  exact ⟨_, c, _, _, _, habsorb⟩

/-- **An event about a source is absorbed**: the catalog takes it in, and the manifest of that
catalog is computed. -/
theorem absorbed_of_absorb (h : P.Fits w) {e : Event} {changed : Bool}
    (hsees : P.scanner.Sees e.path) (hclean : e.path.Clean) (hkind : IsChange e.kind)
    (habsorb : (Workspace.absorb e).on w = (.ok changed, w')) : P.Absorbed w w' e changed := by
  obtain ⟨⟨⟩, w₁, happly, -⟩ := on_bind_eq_ok.1 habsorb
  obtain ⟨c, records, rfl, htakes⟩ := h.takesIn_of_applyEvent hsees hkind happly
  have hnoted := Workspace.noted_noteAll records w.desk
  have hdisk := h.disk.of_writes (hnoted.disk h.disk.tidy.isDir) fun _ hq => hq.elim
  have hknows := htakes.knows h.knows hsees hclean
  obtain ⟨records', hafter⟩ := Workspace.on_absorb happly h.source (h.flaw?_manifestOf hknows)
  have hnoted' := Workspace.noted_noteAll records' (w.desk.noteAll records)
  obtain ⟨hsame, rfl⟩ := Prod.mk.inj (habsorb.symm.trans hafter)
  -- The log alone is written, and no source is the log.
  have hwrites := (hnoted.disk h.disk.tidy.isDir).trans (hnoted'.disk hdisk.tidy.isDir)
  have hdeclared : ∀ p, P.scanner.Sees p →
      Scanner.reading? ((w.desk.noteAll records).noteAll records').disk p =
        Scanner.reading? w.desk.disk p :=
    fun p hp => h.disk.reading?_eq hwrites hp fun _ hq => hq.elim
  refine ⟨⟨⟨h.settings, h.source, ?_, ?_, ?_, h.provider, h.moduleName, hknows, rfl⟩,
    hdeclared, fun p hp hpclean hne hfresh => ?_⟩, hwrites, rfl, fun hchanged => ?_,
    fun hgone => ?_⟩
  · exact (congrArg (fun sc : Scanner => { sc with catalog := c }) h.scanner :)
  · exact hnoted'.tool.trans (hnoted.tool.trans h.tool)
  · exact h.disk.of_writes hwrites fun _ hq => hq.elim
  · have hkey : P.scanner.keyFor p ≠ P.scanner.keyFor e.path := fun hkey =>
      hne ((Scanner.keyFor_inj hpclean hclean hp.anchor hsees.anchor).1 hkey)
    refine ((hdeclared p hp).trans hfresh).trans ?_
    exact congrArg (Option.map Except.ok) (htakes.others _ hkey).symm
  · have hchange : w.detector.changed (w.manifestOf c).digest w.force = false :=
      (Except.ok.inj hsame).symm.trans hchanged
    rw [Detector.changed, Bool.or_eq_false_iff, bne_eq_false_iff_eq] at hchange
    exact hchange.2.symm
  · refine (hdeclared e.path hsees).trans (Eq.trans ?_ htakes.self.symm)
    split
    · rename_i hunlink
      exact hgone hunlink
    · rfl

end Watched

/-! ### What is ready -/

namespace Session

/-- Whether something that is ready is part of a run of the scheduler. -/
def Job.isWork : Job → Bool
  | .beginRun | .buildEnded _ _ => true
  | _ => false

/-- The notice that is ready, if it is one. -/
def Job.notice? : Job → Option Notice
  | .notice _ n => some n
  | _ => none

/-- What is ready of a run of the scheduler. -/
def work (s : Session) : List Job := s.ready.filter Job.isWork

/-- The notices that have not been delivered yet, the oldest first. -/
def notices (s : Session) : List Notice := s.ready.filterMap Job.notice?

/-- Something that is no notice may become ready while the same notices wait. -/
theorem notices_push (s : Session) {job : Job} (h : job.notice? = none) :
    (s.push job).notices = s.notices := by
  show (s.ready ++ [job]).filterMap Job.notice? = _
  rw [List.filterMap_append, List.filterMap_cons, h]
  exact List.append_nil _

theorem work_push (s : Session) (job : Job) :
    (s.push job).work = s.work ++ [job].filter Job.isWork := List.filter_append _ _

/-- An event could not be handled, and the watching has ended with its fault. -/
def Interrupted (s : Session) : Prop := ∃ f waiter, s.signal = some ⟨some (.error f), waiter⟩

/-- A run goes on, and the session is told how it ends. -/
structure Pending (s : Session) : Prop where
  /-- It goes on. -/
  building : s.scheduler.building = true
  /-- It has not ended. -/
  run : s.scheduler.run = .pending
  /-- The session is told. -/
  listeners : s.scheduler.listeners = [.session]

end Session

namespace Watched

/-- The phases of the builds while a project is watched. -/
inductive Phase (P : Watched) (s : Session) : Prop where
  /-- Nothing is to be done: the manifest was built. -/
  | rest {digest : String} (building : s.scheduler.building = false)
      (queued : s.scheduler.queued = false) (work : s.work = []) (running : s.running = [])
      (lastBuilt : s.workspace.detector.lastBuilt = some digest)
      (lastComputed : s.workspace.detector.lastComputed = some digest)
      (built : P.settings.Built s.desk.disk digest)
  /-- A run is about to begin. -/
  | start (pending : s.Pending) (work : s.work = [.beginRun]) (running : s.running = [])
  /-- The build command of a cycle runs, or its end has not been noticed yet.  The manifest is still
  that of the cycle, unless one more cycle is asked for. -/
  | build {b : RunningBuild} (pending : s.Pending)
      (command : s.work = [] ∧ s.running = [b] ∨ s.work = [.buildEnded b 0] ∧ s.running = [])
      (owner : b.owner = .run) (digest : b.cycle.digest = b.cycle.manifest.digest)
      (file : P.settings.FileHas s.desk.disk b.cycle.digest)
      (due : s.scheduler.queued = true ∨
        s.workspace.detector.lastComputed = some b.cycle.digest)

variable {P : Watched} {s s' : Session} {paths : Path → Prop}

/-- A phase goes on while no output is written. -/
theorem Phase.of_writes (h : P.Phase s) (hscheduler : s'.scheduler = s.scheduler)
    (hrunning : s'.running = s.running) (hwork : s'.work = s.work)
    (hlastBuilt : s'.workspace.detector.lastBuilt = s.workspace.detector.lastBuilt)
    (hlastComputed : s'.workspace.detector.lastComputed = s.workspace.detector.lastComputed)
    (hw : s.desk.disk.Writes paths s'.desk.disk) (houtputs : P.settings.OutputsApart s.desk.disk)
    (hpaths : ∀ q, paths q → ∀ output, P.settings.IsOutput output → s.desk.disk.Apart output q) :
    P.Phase s' := by
  have hpending (hp : s.Pending) : s'.Pending :=
    ⟨hscheduler ▸ hp.building, hscheduler ▸ hp.run, hscheduler ▸ hp.listeners⟩
  cases h with
  | rest building queued work running lastBuilt lastComputed built =>
    exact .rest (hscheduler ▸ building) (hscheduler ▸ queued) (hwork.trans work)
      (hrunning.trans running) (hlastBuilt.trans lastBuilt) (hlastComputed.trans lastComputed)
      (built.of_writes hw houtputs hpaths)
  | start pending work running =>
    exact .start (hpending pending) (hwork.trans work) (hrunning.trans running)
  | build pending command owner digest file due =>
    refine .build (hpending pending) ?_ owner digest
      (file.of_writes hw houtputs fun q hq => hpaths q hq _ (.inl rfl)) ?_
    · rw [hwork, hrunning]
      exact command
    · rw [hscheduler, hlastComputed]
      exact due

/-! ### Requests -/

/-- At rest a request begins a run. -/
theorem requestBuild_of_rest (h : s.scheduler.building = false) :
    s.requestBuild.2 = { s with
      scheduler := { s.scheduler with
        building := true, run := .pending, listeners := [.session] }
      ready := s.ready ++ [.beginRun] } := by
  unfold requestBuild requestRun Scheduler.request
  rw [h]
  rfl

/-- During a run it asks for one more cycle. -/
theorem requestBuild_of_pending (h : s.scheduler.building = true) : s.requestBuild.2 =
    { s with scheduler := { s.scheduler with building := true, queued := true } }.noted
      s.scheduler.request.2.1 := by
  unfold requestBuild requestRun Scheduler.request
  rw [h]
  rfl

/-! ### Handling events -/

/-- What may be ready while a front end of some number watches. -/
def Expected (P : Watched) (front : Nat) : Job → Prop
  | .notice number n => number = front ∧ ∃ paths, P.Reports n paths
  | .beginRun | .buildEnded _ _ => True
  | .runEnded who outcome => who = .session ∧ outcome = .ok ()
  | .beginTask _ | .stopped _ _ | .timer _ _ => False

/-- A session that goes on watching, with the same notices waiting; the sources of some paths may not
be known as they are any more. -/
structure Kept (P : Watched) (about : Path → Prop) (s s' : Session) : Prop
    extends P.Moved about s.workspace s'.workspace where
  /-- The front end stays. -/
  front : s'.front = s.front
  /-- Its number stays. -/
  frontNumber : s'.frontNumber = s.frontNumber
  /-- Reports reach the same front end. -/
  connected : s'.connected = s.connected
  /-- The watching goes on as before. -/
  signal : s'.signal = s.signal
  /-- The same notices wait. -/
  notices : s'.notices = s.notices
  /-- Nothing unexpected has become ready. -/
  jobs : (∀ job ∈ s.ready, P.Expected s.frontNumber job) →
    ∀ job ∈ s'.ready, P.Expected s'.frontNumber job

namespace Kept

variable {about about' : Path → Prop}

theorem refl (h : P.Fits s.workspace) : P.Kept about s s :=
  ⟨.refl h, rfl, rfl, rfl, rfl, rfl, fun hjobs => hjobs⟩

theorem trans {s'' : Session} (h : P.Kept about s s') (h' : P.Kept about' s' s'') :
    P.Kept (fun p => about p ∨ about' p) s s'' :=
  ⟨h.toMoved.trans h'.toMoved, h'.front.trans h.front, h'.frontNumber.trans h.frontNumber,
    h'.connected.trans h.connected, h'.signal.trans h.signal, h'.notices.trans h.notices,
    fun hjobs => h'.jobs (h.jobs hjobs)⟩

theorem mono (h : P.Kept about s s') (hsub : ∀ p, about p → about' p) : P.Kept about' s s' :=
  ⟨h.toMoved.mono hsub, h.front, h.frontNumber, h.connected, h.signal, h.notices, h.jobs⟩

/-- Something may become ready besides. -/
theorem pushed (h : P.Kept about s s') (job : Job) (hnone : job.notice? = none)
    (hexpected : P.Expected s'.frontNumber job) : P.Kept about s (s'.push job) := by
  refine ⟨h.toMoved, h.front, h.frontNumber, h.connected, h.signal,
    (s'.notices_push hnone).trans h.notices, fun hjobs other hother => ?_⟩
  rcases List.mem_append.1 hother with hother | hother
  · exact h.jobs hjobs other hother
  · obtain rfl := List.mem_singleton.1 hother
    exact hexpected

/-- Records in the journal change nothing else. -/
theorem noted (h : P.Fits s.workspace) (records : List Record) :
    P.Kept about s (s.noted records) :=
  ⟨.of_noted h (Workspace.noted_noteAll records s.desk), rfl, rfl, rfl, rfl, rfl,
    fun hjobs => hjobs⟩

end Kept

theorem Phase.noted (h : P.Phase s) (hfits : P.Fits s.workspace) (records : List Record) :
    P.Phase (s.noted records) := by
  have hwrites := s.desk.mayWrite_noteAll records hfits.disk.tidy.isDir
  exact h.of_writes rfl rfl rfl rfl rfl hwrites hfits.disk.outputs fun _ hq => hq.elim

theorem onEvent_of_absorb {e : Event} {changed : Bool} {w : Workspace}
    (h : (Workspace.absorb e).on s.workspace = (.ok changed, w)) :
    s.onEvent e = if changed then ({ s with workspace := w } : Session).requestBuild.2
      else { s with workspace := w } := by
  have habsorb : (onWorkspace (Workspace.absorb e)).on s =
      (.ok changed, { s with workspace := w }) := by
    rw [onWorkspace, on_within, h]
  unfold onEvent handle
  rw [on_bind_of_ok habsorb]
  cases changed <;> rfl

theorem onEvent_of_error {e : Event} {f : Fault} {w : Workspace}
    (h : (Workspace.absorb e).on s.workspace = (.error f, w)) :
    s.onEvent e = ({ s with workspace := w } : Session).fail f := by
  have habsorb : (onWorkspace (Workspace.absorb e)).on s =
      (.error f, { s with workspace := w }) := by
    rw [onWorkspace, on_within, h]
  unfold onEvent handle
  rw [on_bind_of_error habsorb]

/-- A request leaves the watching as it is. -/
theorem signal_requestBuild (s : Session) : s.requestBuild.2.signal = s.signal := by
  cases hbuilding : s.scheduler.building with
  | false => rw [requestBuild_of_rest hbuilding]
  | true =>
    rw [requestBuild_of_pending hbuilding]
    rfl

/-- An event that cannot be absorbed interrupts the watching. -/
theorem interrupted_of_error {e : Event} {f : Fault} {w : Workspace}
    (hsignal : ∃ waiter, s.signal = some ⟨none, waiter⟩)
    (h : (Workspace.absorb e).on s.workspace = (.error f, w)) : (s.onEvent e).Interrupted := by
  obtain ⟨waiter, hsignal⟩ := hsignal
  refine ⟨f, waiter, ?_⟩
  rw [onEvent_of_error h, fail, resolve, hsignal]
  cases waiter <;> rfl

/-- **An event interrupts the watching exactly if it makes a source be read again that has too long
a numeral.** -/
theorem interrupted_onEvent_iff (hfits : P.Fits s.workspace)
    (hsignal : ∃ waiter, s.signal = some ⟨none, waiter⟩) {e : Event}
    (hsees : P.scanner.Sees e.path) (hclean : e.path.Clean) (hkind : IsChange e.kind) :
    (s.onEvent e).Interrupted ↔
      e.kind ≠ .unlink ∧ Scanner.overlong? s.desk.disk e.path ≠ none := by
  constructor
  · intro hinterrupted
    rw [← Classical.not_not (a := _ ∧ _), not_and, not_not]
    intro hshort
    obtain ⟨changed, c, aggregates, detector, records, habsorb⟩ :=
      hfits.exists_absorb hsees hclean hkind hshort
    obtain ⟨f, waiter', hbroken⟩ := hinterrupted
    obtain ⟨waiter, hsignal⟩ := hsignal
    have hsame : (s.onEvent e).signal = s.signal := by
      rw [onEvent_of_absorb habsorb]
      cases changed with
      | true => exact signal_requestBuild _
      | false => rfl
    rw [hsame, hsignal] at hbroken
    cases hbroken
  · rintro ⟨hnot, hlong⟩
    rcases habsorb : (Workspace.absorb e).on s.workspace with ⟨f | changed, w⟩
    · exact interrupted_of_error hsignal habsorb
    · obtain ⟨⟨⟩, w₁, happly, -⟩ := on_bind_eq_ok.1 habsorb
      exact absurd (hfits.overlong?_of_applyEvent hsees hkind hnot happly) hlong

/-- A watching that was interrupted stays so. -/
theorem interrupted_onEvent (h : s.Interrupted) (e : Event) : (s.onEvent e).Interrupted := by
  obtain ⟨f, waiter, hsignal⟩ := h
  refine ⟨f, waiter, ?_⟩
  rcases habsorb : (Workspace.absorb e).on s.workspace with ⟨f' | changed, w⟩
  · rw [onEvent_of_error habsorb, fail, resolve, hsignal]
  · rw [onEvent_of_absorb habsorb]
    cases changed with
    | true => exact (signal_requestBuild _).trans hsignal
    | false => exact hsignal

theorem interrupted_foldl (h : s.Interrupted) (events : List Event) :
    (events.foldl onEvent s).Interrupted := by
  induction events generalizing s with
  | nil => exact h
  | cons e rest ih => exact ih (interrupted_onEvent h e)

/-- **An event about a source leaves nothing undone** unless it interrupts the watching, and the
source is known as it is afterwards unless the event says that the file is not there and it is. -/
theorem kept_onEvent (hfits : P.Fits s.workspace) (hphase : P.Phase s)
    (hsignal : ∃ waiter, s.signal = some ⟨none, waiter⟩) {e : Event}
    (hsees : P.scanner.Sees e.path) (hclean : e.path.Clean) (hkind : IsChange e.kind)
    (hgood : ¬(s.onEvent e).Interrupted) :
    P.Kept (· = e.path) s (s.onEvent e) ∧ P.Phase (s.onEvent e) ∧
      ((e.kind = .unlink → Scanner.reading? s.desk.disk e.path = none) →
        P.Fresh (s.onEvent e).workspace e.path) := by
  rcases habsorb : (Workspace.absorb e).on s.workspace with ⟨f | changed, w⟩
  · exact absurd (interrupted_of_error hsignal habsorb) hgood
  have hw := absorbed_of_absorb hfits hsees hclean hkind habsorb
  have houtputs := hfits.disk.outputs
  rw [onEvent_of_absorb habsorb]
  cases changed with
  | false =>
    refine ⟨⟨hw.toMoved, rfl, rfl, rfl, rfl, rfl, fun hjobs => hjobs⟩, ?_, hw.self⟩
    exact hphase.of_writes rfl rfl rfl hw.lastBuilt (hw.lastComputed rfl) hw.writes houtputs
      fun _ hq => hq.elim
  | true =>
    rw [if_pos rfl]
    -- Whoever runs already has one more cycle to run.
    have hasked (hpending : s.Pending) (hnext : P.Phase { s with
        workspace := w, scheduler := { s.scheduler with building := true, queued := true } }) :
        P.Kept (· = e.path) s ({ s with workspace := w } : Session).requestBuild.2 ∧
          P.Phase ({ s with workspace := w } : Session).requestBuild.2 ∧
          ((e.kind = .unlink → Scanner.reading? s.desk.disk e.path = none) →
            P.Fresh ({ s with workspace := w } : Session).requestBuild.2.workspace e.path) := by
      have hfirst : P.Kept (· = e.path) s { s with
          workspace := w, scheduler := { s.scheduler with building := true, queued := true } } :=
        ⟨hw.toMoved, rfl, rfl, rfl, rfl, rfl, fun hjobs => hjobs⟩
      have hnoted : P.Kept (fun _ => False) _ _ := .noted hfirst.fits s.scheduler.request.2.1
      rw [requestBuild_of_pending (s := { s with workspace := w }) hpending.building]
      refine ⟨(hfirst.trans hnoted).mono fun p hp => hp.elim id False.elim,
        hnext.noted hfirst.fits s.scheduler.request.2.1, fun hgone => ?_⟩
      exact hnoted.fresh e.path hsees hclean id (hw.self hgone)
    cases hphase with
    | rest building queued work running =>
      have hfirst : P.Kept (· = e.path) s { s with
          workspace := w
          scheduler := { s.scheduler with
            building := true, run := .pending, listeners := [.session] } } :=
        ⟨hw.toMoved, rfl, rfl, rfl, rfl, rfl, fun hjobs => hjobs⟩
      rw [requestBuild_of_rest (s := { s with workspace := w }) building]
      refine ⟨hfirst.pushed .beginRun rfl trivial, .start ⟨rfl, rfl, rfl⟩ ?_ running, hw.self⟩
      exact (work_push _ .beginRun).trans (congrArg (· ++ [.beginRun]) work :)
    | start pending work running =>
      exact hasked pending (.start ⟨rfl, pending.run, pending.listeners⟩ work running)
    | build pending command owner digest file due =>
      exact hasked pending (.build ⟨rfl, pending.run, pending.listeners⟩ command owner digest
        (file.of_writes hw.writes houtputs fun _ hq => hq.elim) (.inl rfl))

/-- What events are about is known as it is after the last of them, unless they say that it was
removed and it was not. -/
theorem kept_events (hfits : P.Fits s.workspace) (hphase : P.Phase s)
    (hsignal : ∃ waiter, s.signal = some ⟨none, waiter⟩) {events : List Event}
    (hevents : ∀ e ∈ events, P.scanner.Sees e.path ∧ e.path.Clean ∧ IsChange e.kind)
    (hgood : ¬(events.foldl onEvent s).Interrupted) :
    P.Kept (fun p => ∃ e ∈ events, e.path = p) s (events.foldl onEvent s) ∧
      P.Phase (events.foldl onEvent s) ∧
      ∀ p, (∃ e ∈ events, e.path = p) →
        (∀ e ∈ events, e.path = p → e.kind = .unlink → Scanner.reading? s.desk.disk p = none) →
        P.Fresh (events.foldl onEvent s).workspace p := by
  induction events generalizing s with
  | nil =>
    refine ⟨.refl hfits, hphase, fun p hp => ?_⟩
    obtain ⟨e, he, -⟩ := hp
    cases he
  | cons e rest ih =>
    obtain ⟨hsees, hclean, hkind⟩ := hevents e List.mem_cons_self
    rw [List.foldl_cons] at hgood ⊢
    obtain ⟨hkept, hnext, hself⟩ := kept_onEvent hfits hphase hsignal hsees hclean hkind
      fun hfirst => hgood (interrupted_foldl hfirst rest)
    obtain ⟨hkept', hnext', hself'⟩ := ih hkept.fits hnext (hkept.signal ▸ hsignal)
      (fun e' he' => hevents e' (List.mem_cons_of_mem _ he')) hgood
    refine ⟨(hkept.trans hkept').mono fun p hp => ?_, hnext', fun p hp hgone => ?_⟩
    · rcases hp with rfl | ⟨e', he', hpath⟩
      · exact ⟨e, List.mem_cons_self, rfl⟩
      · exact ⟨e', List.mem_cons_of_mem _ he', hpath⟩
    · by_cases hrest : ∃ e' ∈ rest, e'.path = p
      · -- The rest is about the same file again, whose declaration has not changed.
        refine hself' p hrest fun e' he' hpath hunlink => ?_
        have hgone' := hgone e' (List.mem_cons_of_mem _ he') hpath hunlink
        obtain ⟨hsees', -⟩ := hevents e' (List.mem_cons_of_mem _ he')
        rw [hpath] at hsees'
        exact (hkept.declared p hsees').trans hgone'
      · obtain ⟨e', he', rfl⟩ := hp
        rcases List.mem_cons.1 he' with rfl | he'
        · exact hkept'.fresh _ hsees hclean hrest (hself (hgone _ List.mem_cons_self rfl))
        · exact absurd ⟨e', he', rfl⟩ hrest

end Watched

end ProbeKit
