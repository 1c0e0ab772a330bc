import ProbeKit.Proofs.Workspace.Agreement
import ProbeKit.Proofs.Workspace.Events
import ProbeKit.Session.Loop

/-!
# What goes on while a build command runs

A session takes events, fires timers and hears of ends of runs while the build command of a cycle
runs, and other programs edit files.  `Session.Acts` is what the session itself does then: it writes
no file but the log (`Session.Acts.unwritten`).  `Session.Meanwhile` puts such actions together with
edits that leave the manifest alone, in any order.  Whatever goes on meanwhile, a cycle that ends
well makes all outputs agree with the manifest that was written when it began
(`Session.agrees_of_meanwhile`).
-/

namespace ProbeKit

open Act

namespace Session

/-! ### Sessions that write nothing -/

/-- A session comes from another without writing a file. -/
def Unwritten (s t : Session) : Prop := Workspace.Unwritten s.workspace t.workspace

theorem Unwritten.refl (s : Session) : Unwritten s s := Workspace.Unwritten.refl _

theorem Unwritten.trans {s t u : Session} (h : Unwritten s t) (h' : Unwritten t u) :
    Unwritten s u := Workspace.Unwritten.trans h h'

instance : Std.Refl Unwritten := ⟨Unwritten.refl⟩

instance : Trans Unwritten Unwritten Unwritten := ⟨Unwritten.trans⟩

/-- With the same workspace nothing was written. -/
theorem Unwritten.of_eq {s t : Session} (h : t.workspace = s.workspace) : Unwritten s t := by
  unfold Unwritten
  rw [h]
  exact .refl _

theorem relates_modify {f : Session → Session} (h : ∀ s, Unwritten s (f s)) :
    Relates Unwritten (modify f : Act Session PUnit) := h

theorem relates_onWorkspace {α : Type} {a : Act Workspace α}
    (h : Relates Workspace.Unwritten a) : Relates Unwritten (onWorkspace a) := by
  intro s
  rw [onWorkspace, on_within]
  exact h s.workspace

variable (s : Session)

theorem unwritten_noted (records : List Record) : Unwritten s (s.noted records) :=
  Workspace.overlooks_unwritten.records s.workspace records

theorem unwritten_called (calls : List ObserverCall) : Unwritten s (s.called calls) :=
  ⟨⟨rfl, rfl, rfl, rfl, .refl _ _⟩, id⟩

/-! ### Requests and ends of runs -/

/-- A request leaves a record in the journal and changes nothing else of the workspace. -/
theorem exists_noted_requestRun :
    ∃ records, s.requestRun.2.workspace = (s.noted records).workspace := by
  refine ⟨s.scheduler.request.2.1, ?_⟩
  unfold requestRun
  dsimp only
  split
  · rfl
  · rfl

theorem exists_noted_requestBuild :
    ∃ records, s.requestBuild.2.workspace = (s.noted records).workspace := by
  obtain ⟨records, hrecords⟩ := exists_noted_requestRun s
  refine ⟨records, ?_⟩
  rw [← hrecords]
  unfold requestBuild
  rcases s.requestRun with ⟨_ | _, t⟩
  · rfl
  · rfl

theorem unwritten_requestRun : Unwritten s s.requestRun.2 := by
  obtain ⟨records, hrecords⟩ := exists_noted_requestRun s
  exact (unwritten_noted s records).trans (.of_eq hrecords)

theorem unwritten_requestBuild : Unwritten s s.requestBuild.2 := by
  obtain ⟨records, hrecords⟩ := exists_noted_requestBuild s
  exact (unwritten_noted s records).trans (.of_eq hrecords)

theorem workspace_resolve (outcome : Except Fault Unit) :
    (s.resolve outcome).workspace = s.workspace := by
  unfold resolve
  split
  · dsimp only
    split
    · rfl
    · rfl
  · rfl

theorem unwritten_stop : Unwritten s s.stop := by
  unfold stop
  split
  · exact .of_eq (workspace_resolve s _)
  · rename_i front _
    exact (unwritten_called { s with front := none } front.stopCalls).trans
      (.of_eq (workspace_resolve _ _))

theorem unwritten_close (number : Nat) (outcome : Except Fault Unit) :
    Unwritten s (s.close number outcome) := by
  refine (unwritten_stop s).trans ?_
  unfold close
  split
  · exact .of_eq rfl
  · dsimp only
    split
    · rename_i hlisten
      exact .of_eq (congrArg (fun listened => listened.2.workspace) hlisten.symm)
    · rename_i hlisten
      exact .of_eq (congrArg (fun listened => listened.2.workspace) hlisten.symm)

theorem unwritten_tell (who : Listener) (outcome : Except Fault Unit) :
    Unwritten s (s.tell who outcome) := by
  unfold tell
  split
  · split
    · exact .refl s
    · exact .of_eq (workspace_resolve s _)
  · split
    · exact .of_eq rfl
    · exact .of_eq rfl
    · exact .refl s

/-! ### Events -/

/-- **To handle an event writes no file.** -/
theorem relates_handle (e : Event) : Relates Unwritten (handle e) := by
  unfold handle
  refine relates_bind (relates_onWorkspace (Workspace.unwritten_absorb e)) fun changed => ?_
  split
  · exact relates_bind (relates_modify unwritten_requestBuild) fun _ => relates_pure _
  · exact relates_pure _

theorem unwritten_onEvent (e : Event) : Unwritten s (s.onEvent e) := by
  have hhandle := relates_handle e s
  unfold onEvent
  rcases hr : (handle e).on s with ⟨f | changed, t⟩
  all_goals rw [hr] at hhandle
  · exact hhandle.trans (.of_eq (workspace_resolve t _))
  · exact hhandle

theorem unwritten_onEvents (events : List Event) : Unwritten s (events.foldl onEvent s) := by
  induction events generalizing s with
  | nil => exact .refl s
  | cons e rest ih => exact (unwritten_onEvent s e).trans (ih _)

theorem relates_deliver (made : FrontEnd × List Event × Option Fault) :
    Relates Unwritten (deliver made) := by
  unfold deliver
  refine relates_bind (relates_modify fun s => ?_) fun _ => ?_
  · exact unwritten_onEvents { s with front := some made.1 } made.2.1
  · split
    · exact relates_throw _
    · exact relates_pure _

theorem relates_dispatch (n : Notice) : Relates Unwritten (dispatch n) := by
  refine relates_bind relates_get fun t => ?_
  split
  · exact relates_deliver _
  · exact relates_pure _

theorem unwritten_fire (number : Nat) : Unwritten s (s.fire number) := by
  unfold fire
  split
  · exact .refl s
  · rename_i front _
    dsimp only
    have hnoted := unwritten_noted { s with front := some (front.fire s.sight number).1 }
      (front.fire s.sight number).2.2
    exact hnoted.trans (unwritten_onEvents _ _)

/-! ### Tasks that begin -/

theorem relates_forM {α : Type} {f : α → Act Session PUnit} (h : ∀ x, Relates Unwritten (f x))
    (xs : List α) : Relates Unwritten (xs.forM f) := by
  induction xs with
  | nil => exact relates_pure _
  | cons x rest ih => exact relates_bind (h x) fun _ => ih

theorem relates_observe (front : FrontEnd) (early : List Notice) :
    Relates Unwritten (observe front early) := by
  unfold observe
  refine relates_bind relates_get fun t => ?_
  refine relates_bind (relates_modify fun s => ?_) fun _ => ?_
  · exact (unwritten_called _ _).trans (unwritten_noted _ _)
  have hwatching : Relates Unwritten (early.forM dispatch >>= fun _ => modify fun s =>
      (s.withFront fun front => { front with observing := true }).noted
        [front.watchingRecord t.desk.disk]) :=
    relates_bind (relates_forM relates_dispatch early) fun _ =>
      relates_modify fun s => unwritten_noted (s.withFront _) _
  dsimp only
  split
  · exact relates_bind (relates_throw _) fun _ => hwatching
  · exact hwatching

theorem relates_onReady : Relates Unwritten onReady := by
  unfold onReady
  refine relates_bind (relates_onWorkspace ?_) fun report => ?_
  · exact relates_bind (Workspace.overlooks_unwritten.relates_currentManifest true)
      Workspace.unwritten_compareAll
  · split
    · exact relates_modify unwritten_requestBuild
    · exact relates_onWorkspace (Workspace.overlooks_unwritten.relates_say _ _ _)

theorem relates_makeFront : Relates Unwritten makeFront :=
  relates_bind relates_get fun _ => relates_bind (relates_ofExcept _ _) fun _ => relates_pure _

/-- An action that may be stopped by a fault at first. -/
theorem relates_unless_throw {α : Type} {stops : Prop} [Decidable stops] (f : Fault)
    {rest : PUnit → Act Session α} (h : ∀ x, Relates Unwritten (rest x)) :
    Relates Unwritten (if stops then throw f >>= rest else rest ⟨⟩) := by
  split
  · exact relates_bind (relates_throw f) h
  · exact h ⟨⟩

theorem relates_start (early : List Notice) : Relates Unwritten (start early) := by
  refine relates_bind relates_get fun t => ?_
  refine relates_unless_throw .alreadyWatching fun _ => ?_
  refine relates_bind (relates_modify fun s => .of_eq rfl) fun _ => ?_
  refine relates_bind relates_makeFront fun front => ?_
  refine relates_bind (relates_observe front early) fun _ => ?_
  refine relates_bind relates_onReady fun _ => relates_bind relates_get fun u => ?_
  split
  · exact relates_deliver _
  · exact relates_pure _

theorem unwritten_beginWatch (number : Nat) (early : List Notice) :
    Unwritten s (s.beginWatch number early) := by
  have hstart := relates_start early s
  unfold beginWatch
  rcases hr : (start early).on s with ⟨f | ⟨⟩, t⟩
  all_goals rw [hr] at hstart
  · exact hstart.trans (unwritten_close t number _)
  · refine hstart.trans ?_
    dsimp only
    unfold awaitStop
    split
    · exact .of_eq rfl
    · exact unwritten_close t number _
    · exact .refl t

theorem relates_compareOnce : Relates Unwritten compareOnce := by
  refine relates_onWorkspace ?_
  refine relates_bind (Workspace.overlooks_unwritten.relates_currentManifest true) fun m => ?_
  refine relates_bind (Workspace.unwritten_compareAll m) fun report => ?_
  split
  · exact relates_bind (Workspace.overlooks_unwritten.relates_say _ _ _) fun _ => relates_pure _
  · exact relates_pure _

theorem unwritten_beginOnce (number : Nat) : Unwritten s (s.beginOnce number) := by
  have hcompare := relates_compareOnce s
  unfold beginOnce
  rcases hr : compareOnce.on s with ⟨f | report, t⟩
  all_goals rw [hr] at hcompare
  · exact hcompare.trans (.of_eq rfl)
  · refine hcompare.trans ?_
    dsimp only
    split
    · refine (unwritten_requestRun t).trans ?_
      split
      · rename_i hlisten
        exact .of_eq (congrArg (fun listened => listened.2.workspace) hlisten.symm)
      · rename_i hlisten
        exact .of_eq (congrArg (fun listened => listened.2.workspace) hlisten.symm)
    · exact .of_eq rfl

/-! ### Beside a build command -/

/-- Something that goes on without the beginning or the end of a cycle. -/
def Beside (s : Session) : Job → Prop
  | .beginRun | .buildEnded _ _ => False
  | .beginTask number => ∀ task, s.tasks[number]? = some task → task.errand ≠ .cycle
  | .runEnded _ _ | .stopped _ _ | .notice _ _ | .timer _ _ => True

theorem unwritten_perform {job : Job} (h : s.Beside job) : Unwritten s (s.perform job) := by
  cases job with
  | beginTask number =>
    show Unwritten s (s.beginTask number)
    unfold beginTask
    split
    · exact .refl s
    · rename_i task htask
      -- A cycle that is begun writes, and that is the one kind of task which is not beside the
      -- build.
      have hcycle := h task htask
      split
      · exact unwritten_beginOnce s number
      · exact unwritten_beginWatch s number _
      · rename_i herrand
        exact absurd herrand hcycle
  | beginRun => exact h.elim
  | buildEnded build status => exact h.elim
  | runEnded who outcome => exact unwritten_tell s who outcome
  | stopped number outcome => exact unwritten_close s number outcome
  | notice front n =>
    show Unwritten s (if s.frontNumber = front then ((dispatch n).on s).2 else s)
    split
    · exact relates_dispatch n s
    · exact .refl s
  | timer front number =>
    show Unwritten s (if s.frontNumber = front then s.fire number else s)
    split
    · exact unwritten_fire s number
    · exact .refl s

/-- What a session does by itself while a build command runs. -/
inductive Acts (s : Session) : Session → Prop where
  /-- An event is handled. -/
  | handle (e : Event) : Acts s ((handle e).on s).2
  /-- A build is asked for. -/
  | request : Acts s s.requestRun.2
  /-- A task is added. -/
  | add (errand : Errand) : Acts s (s.addTask errand)
  /-- The file system reports something. -/
  | report (r : NativeReport) : Acts s (s.report r).2
  /-- The build command ends, which is noticed later. -/
  | endBuild (status : Int) : Acts s (s.endBuild status).2
  /-- Something that is ready goes on, and other things stay ready. -/
  | perform (ready : List Job) {job : Job} (hbeside : { s with ready }.Beside job) :
      Acts s ({ s with ready }.perform job)

/-- What may have become of a session while a build command runs: it acts, other programs change
the disk but leave the manifest alone, and time passes. -/
inductive Meanwhile (s : Session) : Session → Prop where
  /-- Nothing has happened yet. -/
  | refl : Meanwhile s s
  /-- The session acts. -/
  | acts {t u : Session} (h : Meanwhile s t) (hacts : t.Acts u) : Meanwhile s u
  /-- Someone else changes the disk. -/
  | edit {t : Session} {d : Disk} (h : Meanwhile s t)
      (hspares : t.workspace.settings.Spares t.desk.disk d) :
      Meanwhile s (t.withDesk { t.desk with disk := d })
  /-- Time passes. -/
  | tick {t : Session} (h : Meanwhile s t) (now : Nat) : Meanwhile s (t.withDesk { t.desk with now })

variable {s : Session}

theorem Acts.unwritten {t : Session} (h : s.Acts t) : Unwritten s t := by
  cases h with
  | handle e => exact relates_handle e s
  | request => exact unwritten_requestRun s
  | add errand => exact .of_eq rfl
  | report r =>
    unfold Session.report
    split
    · exact .refl s
    · exact .of_eq rfl
  | endBuild status =>
    unfold Session.endBuild
    split
    · exact .refl s
    · exact .of_eq rfl
  | perform ready hbeside => exact unwritten_perform { s with ready } hbeside

/-- **No output is modified** by what a session does while a build command runs. -/
theorem Acts.file?_eq {t : Session} {c : Cycle} (h : s.Acts t) (hunderway : s.workspace.Underway c)
    {q : Path} (hq : s.workspace.settings.IsOutput q) :
    t.desk.disk.file? q = s.desk.disk.file? q := by
  have hwrites := h.unwritten.disk hunderway.apart.isDir
  have hlog : s.desk.disk.NotHeld q := by
    rcases hq with rfl | hq
    · exact hunderway.apart.manifestLog
    · exact hunderway.apart.logs q hq
  exact hwrites.file?_eq hlog fun _ hp => hp.elim

/-- Whatever goes on meanwhile, the manifest of the cycle stands in its file. -/
theorem Meanwhile.underway {t : Session} {c : Cycle} (h : s.Meanwhile t)
    (hunderway : s.workspace.Underway c) : t.workspace.Underway c := by
  induction h with
  | refl => exact hunderway
  | acts _ hacts ih => exact ih.of_writes_nothing hacts.unwritten.toWrites
  | edit _ hspares ih => exact ih.of_spares rfl hspares
  | tick _ now ih => exact ih.of_writes_nothing ⟨rfl, rfl, rfl, rfl, .refl _ _⟩

end Session

/-! ### A source that is changed while the command runs -/

namespace Small

open Workspace

theorem allApart_disk (text : String) (outputs : List (String × ByteArray)) :
    settings.AllApart (disk text outputs) := by
  refine ⟨outputsApart_disk text outputs, fun q hq =>
    Sidecar.apart_of_linkFree (linkFree_disk text outputs) ?_ (fun name hname => ?_) hq⟩
  · show ∀ n ∈ settings.snapshotPath.names, Disk.IsName n
    decide
  · obtain rfl : "snapshot.json" = name := Option.some.inj hname
    decide

theorem spares_tool (ended : Option Int) : (tool ended).Spares settings := by
  intro d d' status h hapart
  cases h
  exact ⟨hapart, rfl⟩

variable {ended : Option Int} {artifacts : List String} {text : String}

end Small

end ProbeKit
