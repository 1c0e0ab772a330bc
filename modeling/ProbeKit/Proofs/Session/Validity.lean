import ProbeKit.Proofs.Session.Building
import ProbeKit.Proofs.Session.OneShot
import ProbeKit.Proofs.Workspace.Choosing
import ProbeKit.Proofs.Workspace.Validity

/-!
# Sessions write valid manifests only

`Session.Does` is a step of a session: an emit, a one-shot run, or anything else that it does, with
the digests that it computed.  A step that changes the manifest file leaves a valid manifest there
with such a digest (`Session.Does.vouches`), and so do steps in any number with other edits in
between (`Session.Works.vouches`).  Whatever fails because no manifest can be made
(`Session.Refused`) changes no file but the log, and no digest.  A manifest that no file can hold,
for it has a lone half of a surrogate pair in it, is the exception: to write it spoils the file.
-/

namespace ProbeKit

open Act

namespace Session

open Workspace (Accounted Still Vouches currentManifest)

/-! ### Cycles -/

theorem still_noted (s : Session) (records : List Record) :
    s.workspace.Still (s.noted records).workspace := ⟨unwritten_noted s records, rfl⟩

/-- A cycle that a session launches accounts for the manifest file. -/
theorem accounted_launch (owner : Owner) (s : Session)
    (hwhole : s.workspace.Whole) (hapart : s.workspace.settings.ManifestApart s.desk.disk)
    (htool : s.desk.tool.SparesManifest s.workspace.settings) :
    Accounted s.workspace (launch owner s).2.workspace := by
  have hbegun := Workspace.accounted_beginCycle hwhole hapart htool
  rcases hb : Workspace.beginCycle.on s.workspace with ⟨f | ⟨c, _ | status⟩, w⟩
  all_goals rw [hb] at hbegun
  · rwa [launch_of_error hb]
  · rwa [launch_of_running hb]
  · rw [launch_of_ended hb]
    exact hbegun.trans (Workspace.accounted_endCycle c status hbegun.apart)

/-- So does whatever follows the end of a cycle: by induction on the cycles that were asked for. -/
theorem accounted_goOn (s : Session) (outcome : Except Fault Unit)
    (hwhole : s.workspace.Whole) (hapart : s.workspace.settings.ManifestApart s.desk.disk)
    (htool : s.desk.tool.SparesManifest s.workspace.settings) :
    Accounted s.workspace (s.goOn outcome).workspace := by
  fun_induction goOn s outcome with
  | case1 s outcome listeners records scheduler h =>
    exact (still_noted { s with scheduler } records).accounted hapart
  | case2 s outcome records scheduler h t hl =>
    have hnoted := (still_noted { s with scheduler } records).accounted hapart
    have hfirst := hnoted.next hwhole htool
      (accounted_launch .run (noted { s with scheduler } records))
    rwa [hl] at hfirst
  | case3 s outcome records scheduler h outcome' t hl ih =>
    have hnoted := (still_noted { s with scheduler } records).accounted hapart
    have hfirst := hnoted.next hwhole htool
      (accounted_launch .run (noted { s with scheduler } records))
    rw [hl] at hfirst
    exact hfirst.next hwhole htool ih

theorem accounted_beginRun (s : Session)
    (hwhole : s.workspace.Whole) (hapart : s.workspace.settings.ManifestApart s.desk.disk)
    (htool : s.desk.tool.SparesManifest s.workspace.settings) :
    Accounted s.workspace s.beginRun.workspace := by
  have hlaunched := accounted_launch .run { s with scheduler := s.scheduler.beginCycle } hwhole
    hapart htool
  unfold beginRun
  split
  · rename_i t hl
    rwa [hl] at hlaunched
  · rename_i outcome t hl
    rw [hl] at hlaunched
    exact hlaunched.next hwhole htool (accounted_goOn t outcome)

theorem accounted_buildEnded (s : Session) (build : RunningBuild) (status : Int)
    (hwhole : s.workspace.Whole) (hapart : s.workspace.settings.ManifestApart s.desk.disk)
    (htool : s.desk.tool.SparesManifest s.workspace.settings) :
    Accounted s.workspace (s.buildEnded build status).workspace := by
  have hended := Workspace.accounted_endCycle build.cycle status hapart
  unfold buildEnded endCycle
  dsimp only
  split
  · let t : Session := { s with workspace := ((Workspace.endCycle build.cycle status).on s.workspace).2 }
    exact hended.next hwhole htool (accounted_goOn t _)
  · exact hended

/-! ### Steps -/

/-- The digest that was computed last, if any was. -/
def computed (s : Session) : List String := s.workspace.detector.lastComputed.toList

/-- A task that runs a cycle of its own begins it. -/
theorem accounted_beginTask {s : Session} {number : Nat} {task : Task}
    (htask : s.tasks[number]? = some task) (herrand : task.errand = .cycle)
    (hwhole : s.workspace.Whole) (hapart : s.workspace.settings.ManifestApart s.desk.disk)
    (htool : s.desk.tool.SparesManifest s.workspace.settings) :
    Accounted s.workspace (s.beginTask number).workspace := by
  have hlaunched := accounted_launch (.task number) s hwhole hapart htool
  unfold beginTask
  rw [htask]
  dsimp only
  rw [herrand]
  dsimp only
  split
  all_goals
    rename_i hl
    rw [hl] at hlaunched
    exact hlaunched

/-- **Whatever is ready goes on and leaves the manifest file alone, or a valid manifest there** with the
digest that was computed last. -/
theorem vouches_perform (s : Session) (job : Job)
    (hwhole : s.workspace.Whole) (hapart : s.workspace.settings.ManifestApart s.desk.disk)
    (htool : s.desk.tool.SparesManifest s.workspace.settings) :
    Vouches (s.perform job).computed s.workspace (s.perform job).workspace := by
  by_cases hbeside : s.Beside job
  · exact (unwritten_perform s hbeside).vouches hapart _
  cases job with
  | beginTask number =>
    obtain ⟨task, htask, herrand⟩ :
        ∃ task, s.tasks[number]? = some task ∧ task.errand = .cycle := by
      simpa [Beside] using hbeside
    exact (accounted_beginTask htask herrand hwhole hapart htool).vouches
  | beginRun => exact (accounted_beginRun s hwhole hapart htool).vouches
  | buildEnded build status => exact (accounted_buildEnded s build status hwhole hapart htool).vouches
  | runEnded who outcome => exact absurd trivial hbeside
  | stopped number outcome => exact absurd trivial hbeside
  | notice front n => exact absurd trivial hbeside
  | timer front number => exact absurd trivial hbeside

/-- A step of a session, with the digests that it computed for the manifest. -/
inductive Does (s : Session) : List String → Session → Prop where
  /-- The manifest is made and written. -/
  | emit : Does s s.workspace.emitWrites ((onWorkspace Workspace.emit).on s).2
  /-- While nothing else goes on, the session builds once. -/
  | once (hidle : s.Idle) (status : Int) : Does s (s.buildOnce status).computed (s.buildOnce status)
  /-- Something that is ready goes on, and other things stay ready. -/
  | perform (ready : List Job) (job : Job) :
      Does s ({ s with ready }.perform job).computed ({ s with ready }.perform job)
  /-- The session does something that is no part of a cycle. -/
  | acts {t : Session} (h : s.Acts t) : Does s t.computed t
  /-- Watching starts. -/
  | start (early : List Notice) : Does s ((start early).on s).2.computed ((start early).on s).2
  /-- Watching stops. -/
  | stop : Does s s.stop.computed s.stop
  /-- The front end takes a notice. -/
  | dispatch (n : Notice) : Does s ((dispatch n).on s).2.computed ((dispatch n).on s).2

theorem Does.vouches {s t : Session} {digests : List String} (h : s.Does digests t)
    (hwhole : s.workspace.Whole) (hapart : s.workspace.settings.ManifestApart s.desk.disk)
    (htool : s.desk.tool.SparesManifest s.workspace.settings) :
    Vouches digests s.workspace t.workspace := by
  cases h with
  | emit =>
    rw [onWorkspace, on_within]
    exact Workspace.vouches_emit hwhole hapart
  | once hidle status =>
    obtain ⟨scheduler, -, -, hbuilt⟩ := buildOnce_eq hidle status
    rw [hbuilt]
    exact Workspace.vouches_runOnce status hapart htool
  | perform ready job => exact vouches_perform { s with ready } job hwhole hapart htool
  | acts h => exact h.unwritten.vouches hapart _
  | start early => exact (relates_start early s).vouches hapart _
  | stop => exact (unwritten_stop s).vouches hapart _
  | dispatch n => exact (relates_dispatch n s).vouches hapart _

/-! ### Runs -/

/-- Steps of a session in any number, while time passes and other programs make edits that leave the
manifest alone.  The digests are those that the steps computed. -/
inductive Works (s : Session) : List String → Session → Prop where
  /-- Nothing has happened yet. -/
  | refl : Works s [] s
  /-- The session does something. -/
  | does {digests more : List String} {t u : Session} (h : Works s digests t)
      (hdoes : t.Does more u) : Works s (digests ++ more) u
  /-- Someone else changes the disk. -/
  | edit {digests : List String} {t : Session} {d : Disk} (h : Works s digests t)
      (hspares : t.workspace.settings.SparesManifest t.desk.disk d) :
      Works s digests (t.withDesk { t.desk with disk := d })
  /-- Time passes. -/
  | tick {digests : List String} {t : Session} (h : Works s digests t) (now : Nat) :
      Works s digests (t.withDesk { t.desk with now })

/-- **However long a session works, its manifest file is the one from before or holds a valid manifest**
with a digest that the session has computed. -/
theorem Works.vouches {s t : Session} {digests : List String} (h : s.Works digests t)
    (hwhole : s.workspace.Whole) (hapart : s.workspace.settings.ManifestApart s.desk.disk)
    (htool : s.desk.tool.SparesManifest s.workspace.settings) :
    Vouches digests s.workspace t.workspace := by
  induction h with
  | refl => exact ⟨rfl, rfl, id, .inl (.refl hapart)⟩
  | does _ hdoes ih =>
    exact ih.trans (hdoes.vouches (ih.whole hwhole) ih.apart (ih.sparesTool htool))
  | @edit digests t d _ hspares ih =>
    rw [← List.append_nil digests]
    exact ih.trans ⟨rfl, rfl, id, .inl hspares⟩
  | @tick digests t _ now ih =>
    rw [← List.append_nil digests]
    exact ih.trans ⟨rfl, rfl, id, .inl (.refl ih.apart)⟩

/-! ### Manifests that cannot be made -/

/-- Something that a session does fails because no manifest can be made, and this is what becomes of the
session. -/
inductive Refused (s : Session) (f : Fault) : Session → Prop where
  /-- An emit. -/
  | emit {w : Workspace} (h : (currentManifest true).on s.workspace = (.error f, w)) :
      Refused s f ((onWorkspace Workspace.emit).on s).2
  /-- The check before a build. -/
  | once {w : Workspace} (h : (currentManifest true).on s.workspace = (.error f, w))
      (number : Nat) : Refused s f (s.beginOnce number)
  /-- The check as watching begins. -/
  | ready {w : Workspace} (h : (currentManifest true).on s.workspace = (.error f, w)) :
      Refused s f (onReady.on s).2
  /-- The first cycle of a run. -/
  | run {w : Workspace} (h : (currentManifest true).on s.workspace = (.error f, w)) :
      Refused s f s.beginRun
  /-- A cycle behind another one. -/
  | again {outcome : Except Fault Unit} {records : List Record} {scheduler : Scheduler Listener}
      {w : Workspace} (hagain : s.scheduler.endCycle outcome = (.again, records, scheduler))
      (h : (currentManifest true).on ({ s with scheduler }.noted records).workspace = (.error f, w)) :
      Refused s f (s.goOn outcome)
  /-- The cycle of a task. -/
  | cycle {number : Nat} {task : Task} {w : Workspace} (htask : s.tasks[number]? = some task)
      (herrand : task.errand = .cycle)
      (h : (currentManifest true).on s.workspace = (.error f, w)) :
      Refused s f (s.beginTask number)
  /-- An event. -/
  | event {e : Event} {w w' : Workspace}
      (happly : (Workspace.applyEvent e).on s.workspace = (.ok (), w))
      (h : (currentManifest false).on w = (.error f, w')) : Refused s f (s.onEvent e)

section
variable {s t : Session} {f : Fault} {w : Workspace}

/-- A cycle whose manifest cannot be made is over at once. -/
theorem launch_of_refused (hwhole : s.workspace.Whole)
    (h : (currentManifest true).on s.workspace = (.error f, w)) (owner : Owner) :
    launch owner s = (some (.error f), { s with workspace := w }) := by
  have hmade := (Workspace.on_manifestToWrite_of_whole hwhole).trans h
  have hbegin : Workspace.beginCycle.on s.workspace = (.error f, w) := by
    unfold Workspace.beginCycle
    rw [on_bind_of_error hmade]
  exact launch_of_error hbegin

/-- A failure ends the run. -/
theorem still_goOn {v : Workspace} (h : v.Still s.workspace) (f : Fault) :
    v.Still (s.goOn (.error f)).workspace := by
  have hover : s.goOn (.error f) = _ := goOn_of_over rfl
  rw [hover]
  exact h

/-- **What fails because no manifest can be made changes no file but the log, and no digest.** -/
theorem Refused.still (hwhole : s.workspace.Whole) (h : s.Refused f t) :
    s.workspace.Still t.workspace := by
  have hmade {again : Bool} {v w : Workspace} (h : (currentManifest again).on v = (.error f, w)) :
      v.Still w := by
    have hstill := Workspace.still_currentManifest again v
    rwa [h] at hstill
  -- Wherever the manifest is made, its failure is what the session goes on with.
  cases h with
  | emit h =>
    rw [onWorkspace, on_within, Workspace.emit,
      on_bind_of_error ((Workspace.on_manifestToWrite_of_whole hwhole).trans h)]
    exact hmade h
  | @once w h number =>
    have hcompared : compareOnce.on s = (.error f, { s with workspace := w }) := by
      rw [compareOnce, onWorkspace, on_within, on_bind_of_error h]
    rw [beginOnce, hcompared]
    exact hmade h
  | @ready w h =>
    have hcompared : (onWorkspace (currentManifest true >>= Workspace.compareAll)).on s =
        (.error f, { s with workspace := w }) := by
      rw [onWorkspace, on_within, on_bind_of_error h]
    rw [onReady, on_bind_of_error hcompared]
    exact hmade h
  | run h =>
    have hlaunched := launch_of_refused (s := { s with scheduler := s.scheduler.beginCycle }) hwhole
      h .run
    rw [beginRun, hlaunched]
    exact still_goOn (hmade h) f
  | @again outcome records scheduler w hagain h =>
    have hnoted := still_noted { s with scheduler } records
    have hlaunched := launch_of_refused (s := noted { s with scheduler } records)
      (hnoted.whole hwhole) h .run
    have hstill := hnoted.trans (hmade h)
    rw [goOn_of_again hagain, hlaunched]
    exact still_goOn hstill f
  | cycle htask herrand h =>
    rw [beginTask, htask]
    dsimp only
    rw [herrand]
    dsimp only
    rw [launch_of_refused hwhole h]
    exact hmade h
  | @event e w w' happly h =>
    have happlied := Workspace.still_applyEvent e s.workspace
    rw [happly] at happlied
    have habsorbed : (Workspace.absorb e).on s.workspace = (.error f, w') := by
      rw [Workspace.absorb, on_bind_of_ok happly, on_bind_of_error h]
    have hhandled : (handle e).on s = (.error f, { s with workspace := w' }) := by
      rw [handle, onWorkspace, on_bind_of_error (by rw [on_within, habsorbed])]
    have hfailed : (s.onEvent e).workspace = w' := by
      rw [onEvent, hhandled]
      exact workspace_resolve _ _
    rw [hfailed]
    exact happlied.trans (hmade h)

end

/-! ### The main result -/

/-- **Only valid manifests reach the disk.**  The manifest is not one that no file can hold, its
file is at no other output's place, and the build command leaves it alone.  Then each step of a
session leaves the file as it is or leaves a valid manifest there, with a digest that the step
computed.  And whatever fails because no manifest can be made changes no file but the log, and
neither the digest that was built last nor the one that was computed last. -/
theorem writes_valid_only {s : Session} (hwhole : s.workspace.Whole)
    (hapart : s.workspace.settings.ManifestApart s.desk.disk)
    (htool : s.desk.tool.SparesManifest s.workspace.settings) :
    (∀ digests t, s.Does digests t →
      t.desk.disk.file? s.workspace.settings.manifestPath =
          s.desk.disk.file? s.workspace.settings.manifestPath ∨
        ∃ digest ∈ digests, s.workspace.settings.HasValid t.desk.disk digest) ∧
      ∀ f t, s.Refused f t → s.workspace.Still t.workspace := by
  refine ⟨fun digests t hdoes => ?_, fun f t hrefused => hrefused.still hwhole⟩
  rcases (hdoes.vouches hwhole hapart htool).manifest with hspares | ⟨-, hvalid⟩
  · exact .inl hspares.file
  · exact .inr hvalid

end Session

/-! ### A plugin that gives a manifest -/

namespace Small

/-- A manifest without probes. -/
def bare (provider : String) : Manifest := { provider := .str provider }

/-- A project whose plugin gives some products. -/
def plugged (s : Settings) (products : List Product) (tool : Tool) : Workspace :=
  { settings := s, scanner := default, detector := {}
    source := .plugin ⟨.root, ["p", "b.py"]⟩ (.products products)
    desk := { disk := disk "" [], tool } }

/-- No manifest was written yet. -/
theorem file?_manifest_disk : (disk "" []).file? settings.manifestPath = none := by
  have hnames : ∀ n ∈ (disk "" []).absoluteNames settings.manifestPath, Disk.IsName n := by
    show ∀ n ∈ ["p", "probes.manifest.json"], Disk.IsName n
    decide
  rw [Disk.file?, Disk.home?_of_linkFree hnames (linkFree_disk "" [])]
  rfl

/-- The cycle of a plugin that gives one manifest begins. -/
theorem on_beginCycle_plugged (s : Settings) (tool : Tool) {status : Option Int}
    (hpath : s.manifestPath = settings.manifestPath)
    (htool : ∀ outputs, ∃ outputs',
      tool.start s.command s.root (disk "" outputs) = .ok (disk "" outputs', status)) :
    ∃ w outputs outputs', Workspace.beginCycle.on (plugged s [.manifest (bare "p")] tool) =
        (.ok (⟨bare "p", (bare "p").digest⟩, status), w) ∧
      w.settings = s ∧ w.desk.sink = none ∧ w.desk.disk = disk "" outputs' ∧
      (∃ bytes, (disk "" outputs).read? settings.manifestPath = some bytes) ∧
      tool.start s.command s.root (disk "" outputs) = .ok (disk "" outputs', status) := by
  let w := plugged s [.manifest (bare "p")] tool
  have hfile : w.settings.manifestPath = settings.manifestPath := hpath
  have hmade : Workspace.manifestToWrite.on w = (.ok (bare "p"), w) := rfl
  have hroom : w.desk.disk.ensureDirectories w.settings.manifestPath.parent =
      .ok (disk "" []) := by
    rw [hfile]
    exact ensureDirectories_disk "" []
  let bytes := Text.encode ((bare "p").fileText w.aggregates w.settings.development)
  let outputs := output "probes.manifest.json" bytes []
  have hwrite : (disk "" []).write settings.manifestPath bytes = .ok (disk "" outputs) :=
    write_output "" [] (by decide) (by decide) bytes
  have hwritten : (Workspace.writeManifest (bare "p")).on w =
      (.ok (bare "p").digest, w.withDisk (disk "" outputs)) := by
    refine Workspace.on_writeManifest hroom ?_
    rw [hfile]
    exact hwrite
  obtain ⟨outputs', hstart⟩ := htool outputs
  obtain ⟨w₁, hprepared, hsettings, htool₁, hsink, hdisk⟩ : ∃ w₁,
      Workspace.prepare.on w = (.ok (bare "p"), w₁) ∧ w₁.settings = s ∧ w₁.desk.tool = tool ∧
        w₁.desk.sink = none ∧ w₁.desk.disk = disk "" outputs := by
    rw [Workspace.prepare, on_bind_of_ok hmade, on_bind_of_ok hwritten, on_modify_bind, on_get_bind,
      on_bind_of_ok (Workspace.on_say _ _ _ _), on_pure]
    exact ⟨_, rfl, rfl, rfl, rfl, rfl⟩
  have hread := (Disk.writes_write (d := disk "" []) rfl hwrite).2
  refine ⟨w₁.ran (disk "" outputs'), outputs, outputs', ?_, hsettings, hsink, rfl, ⟨_, hread⟩,
    hstart⟩
  show Workspace.beginCycle.on w = _
  rw [Workspace.on_beginCycle, hprepared]
  dsimp only
  rw [htool₁, hsettings, hdisk, hstart]

/-- A cycle ends well, wherever beside the manifest its snapshot is kept. -/
theorem on_endCycle_disk {w : Workspace} {outputs : List (String × ByteArray)} {name : String}
    (hname : Disk.IsName name) (hne : name ≠ "t")
    (hsettings : w.settings = { settings with snapshotPath := ⟨.root, ["p", name]⟩ })
    (hsink : w.desk.sink = none) (hdisk : w.desk.disk = disk "" outputs) (c : Cycle) :
    ∃ w' outputs', (Workspace.endCycle c 0).on w = (.ok (), w') ∧ w'.desk.disk = disk "" outputs' ∧
      (disk "" outputs').read? ⟨.root, ["p", name]⟩ =
        some (Text.encode (Snapshot.text c.manifest)) := by
  have hsidecar := on_sidecar_disk "" c.digest outputs
  generalize output sidecarName (Text.encode (c.digest ++ "\n")) outputs = outputs₁ at hsidecar
  have hwrite := on_writeText_disk "" outputs₁ hname hne (Snapshot.text c.manifest)
  generalize output name (Text.encode (Snapshot.text c.manifest)) outputs₁ = outputs₂ at hwrite
  have hkept : (Sidecar.keepSnapshot (some ⟨.root, ["p", name]⟩) c.manifest).on
      (disk "" outputs₁) = (.ok (), disk "" outputs₂) := by
    show (Disk.makeRoom ⟨.root, ["p", name]⟩ >>= fun _ =>
      Disk.writeText ⟨.root, ["p", name]⟩ (Snapshot.text c.manifest)).on _ = _
    rw [on_bind_of_ok (on_makeRoom_disk "" name outputs₁), hwrite]
  have hwritten : (Workspace.onDisk (Sidecar.write w.settings.manifestPath c.digest w.settings.root
      w.settings.artifacts)).on w =
        (.ok [⟨.root, ["p", sidecarName]⟩], w.withDisk (disk "" outputs₁)) := by
    rw [Workspace.on_onDisk, hdisk, hsettings]
    exact congrArg (fun r => (r.1, w.withDisk r.2)) hsidecar
  have hrecorded : ∃ w', (Workspace.recordBuild c).on (w.withDisk (disk "" outputs₁)) =
      (.ok (), w') ∧ w'.desk.sink = none ∧ w'.desk.disk = disk "" outputs₂ := by
    rw [Workspace.recordBuild, on_modify_bind, on_get_bind, Workspace.on_onDisk]
    dsimp only [Workspace.withDisk]
    rw [hsettings, hkept]
    exact ⟨_, rfl, hsink, rfl⟩
  obtain ⟨w', hrecord, hsink', hdisk'⟩ := hrecorded
  rw [Workspace.endCycle_zero, on_bind_of_ok hwritten, on_bind_of_ok hrecord, Workspace.on_say]
  refine ⟨_, outputs₂, rfl, ?_, (Disk.writeText_ok rfl hwrite).2⟩
  exact ((noteAll_desk hsink' [_]).1.trans hdisk' : _)

/-- A build tool that empties the file of the manifest.  Its command ends with a status or goes on
running. -/
def eraser (ended : Option Int) : Tool :=
  ⟨fun _ _ d => .ok ((d.write settings.manifestPath .empty).toOption.getD d, ended)⟩

/-- Then the file is empty while the command runs. -/
theorem on_beginCycle_eraser (ended : Option Int) :
    ∃ w outputs, Workspace.beginCycle.on (plugged settings [.manifest (bare "p")] (eraser ended)) =
        (.ok (⟨bare "p", (bare "p").digest⟩, ended), w) ∧
      w.settings = settings ∧ w.desk.sink = none ∧ w.desk.disk = disk "" outputs ∧
      (disk "" outputs).read? settings.manifestPath = some .empty := by
  have hstart (outputs : List (String × ByteArray)) : ∃ outputs',
      (disk "" outputs).write settings.manifestPath .empty = .ok (disk "" outputs') ∧
      (eraser ended).start settings.command settings.root (disk "" outputs) =
        .ok (disk "" outputs', ended) := by
    have h := write_output "" outputs (by decide : Disk.IsName "probes.manifest.json") (by decide)
      .empty
    refine ⟨_, h, ?_⟩
    show Except.ok (((disk "" outputs).write settings.manifestPath .empty).toOption.getD _, _) = _
    rw [show (disk "" outputs).write settings.manifestPath .empty = _ from h]
    rfl
  obtain ⟨w, outputs, outputs', hbegin, hsettings, hsink, hdisk, -, hstarted⟩ :=
    on_beginCycle_plugged settings (eraser ended) rfl fun outputs =>
      (hstart outputs).imp fun _ h => h.2
  obtain ⟨outputs'', hwrite, hstart'⟩ := hstart outputs
  have hsame : disk "" outputs'' = disk "" outputs' :=
    (Prod.mk.inj (Except.ok.inj (hstart'.symm.trans hstarted))).1
  have hread := (Disk.writes_write (d := disk "" outputs) rfl hwrite).2
  exact ⟨w, outputs', hbegin, hsettings, hsink, hdisk, hsame ▸ hread⟩

open Workspace

/-- A session that is about to run a cycle of its own. -/
def cycling (w : Workspace) : Session := { workspace := w, tasks := [⟨.cycle, .fresh⟩] }

theorem beginTask_cycling (w : Workspace) : ((cycling w).beginTask 0).workspace =
    (Session.launch (.task 0) (cycling w)).2.workspace := by
  have htask : (cycling w).tasks[0]? = some ⟨.cycle, .fresh⟩ := rfl
  rw [Session.beginTask, htask]
  rcases Session.launch (.task 0) (cycling w) with ⟨_ | _, t⟩
  · rfl
  · rfl

/-- A cycle writes the manifest of a plugin for the first time, and it is valid. -/
theorem writes_valid_of_plugin : ∃ s t : Session, ∃ digests,
    (s.workspace.Whole ∧ s.workspace.settings.ManifestApart s.desk.disk ∧
      s.desk.tool.SparesManifest s.workspace.settings ∧ s.Does digests t) ∧
    (∃ digest ∈ digests, s.workspace.settings.HasValid t.desk.disk digest) ∧
    ∀ f t, s.Refused f t → s.workspace.Still t.workspace := by
  let s := cycling (plugged settings [.manifest (bare "p")] (tool none))
  have hwhole : s.workspace.Whole := nofun
  have hapart : s.workspace.settings.ManifestApart s.desk.disk :=
    (outputsApart_disk "" []).manifestApart
  have htool : s.desk.tool.SparesManifest s.workspace.settings := by
    intro d d' status h hd
    cases h
    exact .refl hd
  obtain ⟨w, outputs, outputs', hbegin, -, -, hdisk, ⟨bytes, hread⟩, hstart⟩ :=
    on_beginCycle_plugged settings (tool none) rfl fun outputs => ⟨outputs, rfl⟩
  have hsame : disk "" outputs = disk "" outputs' := (Prod.mk.inj (Except.ok.inj hstart)).1
  have hwritten : (s.beginTask 0).desk.disk.file? settings.manifestPath = some bytes := by
    show (s.beginTask 0).workspace.desk.disk.file? _ = _
    rw [beginTask_cycling, Session.launch_of_running hbegin]
    dsimp only
    rw [hdisk, ← hsame]
    exact Disk.file?_of_read? rfl hread
  obtain ⟨hvalid, hstill⟩ := Session.writes_valid_only hwhole hapart htool
  refine ⟨s, s.beginTask 0, _, ⟨hwhole, hapart, htool, .perform _ (.beginTask 0)⟩, ?_, hstill⟩
  -- No manifest file was there before, so the one that is there now has been written.
  refine (hvalid _ _ (.perform _ (.beginTask 0))).resolve_left fun hfile => ?_
  have hnone : (s.beginTask 0).desk.disk.file? settings.manifestPath = none :=
    hfile.trans file?_manifest_disk
  rw [hwritten] at hnone
  cases hnone

end Small

/-! ### Where it fails otherwise -/

namespace Session

/-- A step of a session spoils the manifest file: it changes the file, and what is there now is no
manifest. -/
def Spoils (s : Session) : Prop :=
  ∃ digests t, s.Does digests t ∧
    t.desk.disk.file? s.workspace.settings.manifestPath ≠
      s.desk.disk.file? s.workspace.settings.manifestPath ∧
    ∀ room,
      (t.desk.disk.read? s.workspace.settings.manifestPath).bind (Manifest.ofBytes? room) = none

/-- To find what is no manifest where something else was before is to find the file spoilt. -/
theorem Spoils.intro {s t : Session} {digests : List String} {bytes : ByteArray}
    (hdoes : s.Does digests t) (htop : t.desk.disk.top.isDir = true)
    (hbefore : s.desk.disk.file? s.workspace.settings.manifestPath ≠ some bytes)
    (hread : t.desk.disk.read? s.workspace.settings.manifestPath = some bytes)
    (hbytes : ∀ room, Manifest.ofBytes? room bytes = none) : s.Spoils := by
  refine ⟨digests, t, hdoes, ?_, fun room => ?_⟩
  · rw [Disk.file?_of_read? htop hread]
    exact hbefore.symm
  · rw [hread]
    exact hbytes room

end Session

namespace Small

open Workspace

/-- An empty file holds no manifest. -/
theorem ofBytes?_empty (room : Json.Room) : Manifest.ofBytes? room .empty = none := by
  have htext : Text.readText? .empty = some "" := by decide +kernel
  rw [Manifest.ofBytes?, Manifest.parseBytes?, htext]
  rfl

/-- Nor does the snapshot of no probes. -/
theorem ofBytes?_noLines (room : Json.Room) :
    Manifest.ofBytes? room (Text.encode "[]\n") = none := by
  obtain ⟨levels, hlevels⟩ := Nat.exists_eq_add_of_le' room.le_reading
  have htext : Text.readText? (Text.encode "[]\n") = some "[]\n" := by decide +kernel
  rw [Manifest.ofBytes?, Manifest.parseBytes?, htext]
  simp only [Option.map_some, Manifest.parse, Json.read, hlevels]
  rfl

theorem spoils_eraser :
    (cycling (plugged settings [.manifest (bare "p")] (eraser none))).Spoils := by
  let s := cycling (plugged settings [.manifest (bare "p")] (eraser none))
  obtain ⟨w, outputs, hbegin, -, -, hdisk, hread⟩ := on_beginCycle_eraser none
  have hdisk' : (s.beginTask 0).desk.disk = disk "" outputs := by
    show (s.beginTask 0).workspace.desk.disk = _
    rw [beginTask_cycling, Session.launch_of_running hbegin]
    exact hdisk
  rw [← hdisk'] at hread
  exact Session.Spoils.intro (.perform _ (.beginTask 0)) (hdisk' ▸ rfl)
    (fun h => nomatch file?_manifest_disk.symm.trans h) hread ofBytes?_empty

/-- The settings if the snapshot is kept in the file of the manifest. -/
def sharing : Settings := { settings with snapshotPath := settings.manifestPath }

theorem spoils_sharing :
    (cycling (plugged sharing [.manifest (bare "p")] (tool (some 0)))).Spoils := by
  let s := cycling (plugged sharing [.manifest (bare "p")] (tool (some 0)))
  obtain ⟨w, -, outputs, hbegin, hsettings, hsink, hdisk, -, -⟩ :=
    on_beginCycle_plugged sharing (tool (some 0)) rfl fun outputs => ⟨outputs, rfl⟩
  -- The end of the cycle writes the snapshot over the manifest.
  obtain ⟨w', outputs', hended, hdisk', hread⟩ :=
    on_endCycle_disk (by decide : Disk.IsName "probes.manifest.json") (by decide) hsettings hsink hdisk
      ⟨bare "p", (bare "p").digest⟩
  have hdisk : (s.beginTask 0).desk.disk = disk "" outputs' := by
    show (s.beginTask 0).workspace.desk.disk = _
    rw [beginTask_cycling, Session.launch_of_ended hbegin, hended]
    exact hdisk'
  have htext : Snapshot.text (bare "p") = "[]\n" := by decide +kernel
  rw [htext, ← hdisk] at hread
  exact Session.Spoils.intro (.perform _ (.beginTask 0)) (hdisk ▸ rfl)
    (fun h => nomatch file?_manifest_disk.symm.trans h) hread ofBytes?_noLines

/-- A manifest whose provider is a lone half of a surrogate pair. -/
def halfText : String :=
  "\x7b\"schemaVersion\": 1, \"provider\": \"\\ud800\", \"probes\": []\x7d"

/-- The file of such a manifest. -/
def halfFile : ByteArray := Text.encode halfText

/-- Whether reading has given a manifest without a flaw that no file can hold. -/
def isUnwritable : Option (Except Manifest.Unread Manifest) → Bool
  | some (.error (.broken none)) => true
  | _ => false

theorem eq_of_isUnwritable {made : Option (Except Manifest.Unread Manifest)}
    (h : isUnwritable made = true) : made = some (.error (.broken none)) := by
  rcases made with _ | (reason | l | _ | flaw) | m
  case some.error.broken.none => rfl
  all_goals cases h

theorem parseBytes?_halfFile :
    Manifest.parseBytes? .usual halfFile = some (.error (.broken none)) :=
  eq_of_isUnwritable (by decide +kernel)

/-- A session that has such a file for its source. -/
def halving : Session :=
  { workspace :=
      { settings, source := .broken settings.manifestPath none, scanner := scanner ∅, detector := {}
        desk := settings.reusing (holding halfFile) } }

/-- A fresh session chooses it. -/
theorem on_resolve_halfFile : (Source.resolve settings false).on (holding halfFile) =
    (.ok halving.workspace.source, halving.desk) := by
  have hbroken : Manifest.parseBytes? (holding halfFile).room halfFile = _ := parseBytes?_halfFile
  rw [Settings.on_resolve_of_read? (read?_holding halfFile), hbroken]
  rfl

/-- An emit leaves the file empty. -/
theorem spoils_halving : halving.Spoils := by
  let held := [("probes.manifest.json", halfFile)]
  let w₀ : Workspace := { halving.workspace with aggregates := [] }
  obtain ⟨outputs, hwrite⟩ : ∃ outputs,
      (disk "" held).write settings.manifestPath .empty = .ok (disk "" outputs) :=
    ⟨_, write_output "" held (by decide) (by decide) .empty⟩
  have hroom : (onDisk (Disk.makeRoom settings.manifestPath)).on w₀ = (.ok (), w₀) := by
    rw [on_onDisk]
    exact congrArg (fun r => (r.1, w₀.withDisk r.2))
      (on_makeRoom_disk "" "probes.manifest.json" held)
  have hempty : (onDisk (Disk.writeText settings.manifestPath "")).on w₀ =
      (.ok (), w₀.withDisk (disk "" outputs)) := by
    have hwritten : (disk "" held).write settings.manifestPath (Text.encode "") = _ := hwrite
    rw [on_onDisk]
    exact congrArg (fun r => (r.1, w₀.withDisk r.2)) (Disk.on_writeText hwritten)
  have hmade : manifestToWrite.on halving.workspace =
      (.error .unencodable, w₀.withDisk (disk "" outputs)) := by
    rw [on_manifestToWrite_of_broken rfl, spoilManifest, on_modify_bind, on_get_bind]
    exact (on_bind_of_ok hroom _).trans (on_bind_of_ok hempty _)
  have hemitted : ((Session.onWorkspace emit).on halving).2.desk.disk = disk "" outputs := by
    rw [Session.onWorkspace, on_within, emit, on_bind_of_error hmade]
    rfl
  have hread := (Disk.writes_write (d := disk "" held) rfl hwrite).2
  have hbefore := Disk.file?_of_read? rfl (read?_holding halfFile)
  rw [← hemitted] at hread
  refine Session.Spoils.intro .emit (hemitted ▸ rfl) (fun h => ?_) hread ofBytes?_empty
  have hsize := congrArg ByteArray.size (Option.some.inj (hbefore.symm.trans h))
  revert hsize
  decide +kernel

/-- A session with a log whose settings name no provider. -/
def logging : Session :=
  { workspace :=
      { settings := { settings with provider := "" }, scanner := default, detector := {}
        source := .scan
        desk :=
          { disk := { top := .dir [("log", .file .empty)], here := [], held := some ["log"] }
            stamp := fun _ => "2026-01-01 00:00:00,000"
            sink := some ({ verbose := true }, true) } } }

theorem refused_logging : ∃ t, logging.Refused (.manifest .provider) t ∧
    t.desk.disk.top.view ["log"] =
      some (.file (Text.encode
        "2026-01-01 00:00:00,000 - DEBUG probegen.scanner: Scanned 0 source files\n")) :=
  ⟨_, .emit rfl, rfl⟩

/-- A session whose plugin gives a valid manifest first and then one without a provider. -/
def fickle : Session :=
  { workspace := plugged settings [.manifest (bare "p"), .manifest (bare "")] (tool none) }

theorem on_runOnce_fickle : ∃ w, (runOnce 0).on fickle.workspace = (.error (.manifest .provider), w) ∧
    w.detector.lastComputed = some (bare "p").digest := by
  let v := plugged settings [.manifest (bare "")] (tool none)
  have hmade : (currentManifest true).on fickle.workspace = (.ok (bare "p"), v) := rfl
  obtain ⟨snapshot, hsnapshot⟩ := kept_nil.exists_snapshot v.desk.room ""
  obtain ⟨report, w, hchecked, hdue, hsource, hcomputed⟩ : ∃ report w,
      check.on fickle.workspace = (.ok report, w) ∧ report.due = true ∧ w.source = v.source ∧
        w.detector.lastComputed = some (bare "p").digest := by
    rw [check, on_bind_of_ok hmade, on_bind_of_ok (on_compareAll (w := v) hsnapshot)]
    exact ⟨_, _, rfl, rfl, rfl, rfl⟩
  obtain ⟨w', hrefused, hstill⟩ : ∃ w',
      manifestToWrite.on w = (.error (.manifest .provider), w') ∧ w'.detector = w.detector := by
    have hscan : w.source ≠ .scan := by
      rw [hsource]
      intro h
      cases h
    have hwhole : w.Whole := by
      intro path
      rw [hsource]
      intro h
      cases h
    rw [on_manifestToWrite_of_whole hwhole, on_currentManifest_of_not_scan hscan, hsource]
    exact ⟨_, rfl, rfl⟩
  refine ⟨w', ?_, by rw [hstill, hcomputed]⟩
  rw [runOnce, on_bind_of_ok hchecked, hdue, if_pos rfl, runCycle, on_bind, on_bind, beginCycle,
    on_bind_of_error hrefused]

theorem outcome_fickle : (fickle.buildOnce 0).lastOutcome = some (.error (.manifest .provider)) ∧
    (fickle.buildOnce 0).workspace.detector.lastComputed = some (bare "p").digest := by
  obtain ⟨w, hrun, hcomputed⟩ := on_runOnce_fickle
  obtain ⟨scheduler, -, -, hbuilt⟩ := Session.buildOnce_eq (s := fickle) ⟨rfl, rfl, rfl, rfl, rfl⟩ 0
  rw [hbuilt, Session.lastOutcome_withOnce, hrun]
  exact ⟨rfl, hcomputed⟩

/-- A build command that writes the file of the manifest may spoil it, and so does the snapshot if
it is kept there.  A file with a half of a surrogate pair is chosen for a source, and then an emit
spoils it.  What cannot be made may still leave a line in the log.  A one-shot run makes the
manifest twice; if it can be made once only, the run fails and the digest that was computed last is
another one. -/
theorem spoils_and_refuses :
    (cycling (plugged settings [.manifest (bare "p")] (eraser none))).Spoils ∧
      (cycling (plugged sharing [.manifest (bare "p")] (tool (some 0)))).Spoils ∧
      ((Source.resolve settings false).on (holding halfFile) =
        (.ok halving.workspace.source, halving.desk) ∧ halving.Spoils) ∧
      (∃ t, logging.Refused (.manifest .provider) t ∧
        t.desk.disk.top.view ["log"] ≠ logging.desk.disk.top.view ["log"]) ∧
      (fickle.buildOnce 0).lastOutcome = some (.error (.manifest .provider)) ∧
      (fickle.buildOnce 0).workspace.detector.lastComputed ≠
        fickle.workspace.detector.lastComputed := by
  refine ⟨spoils_eraser, spoils_sharing, ⟨on_resolve_halfFile, spoils_halving⟩, ?_,
    outcome_fickle.1, ?_⟩
  · obtain ⟨t, hrefused, hlog⟩ := refused_logging
    refine ⟨t, hrefused, fun hsame => ?_⟩
    have hempty : some (Mark.file .empty) = t.desk.disk.top.view ["log"] := hsame.symm
    rw [hlog] at hempty
    have hsize := congrArg ByteArray.size (Mark.file.inj (Option.some.inj hempty))
    revert hsize
    decide +kernel
  · rw [outcome_fickle.2]
    exact nofun

end Small

end ProbeKit
