import ProbeKit.Proofs.Workspace.Once

/-!
# What no action of a workspace changes

A relation that looks neither at what an event may change, nor at the detector, nor at the files and
the builds (`Workspace.Ignores`) holds of every run of the actions of a workspace, whatever fails in
it.  So no action calls the observer of directories (`Workspace.SameCalls`): whatever calls there
are come from the session alone, as it starts and stops watching.  And a source whose manifest can
be written stays one (`Workspace.ignores_whole`).
-/

namespace ProbeKit

open Act

theorem Desk.calls_noteAll (records : List Record) (d : Desk) :
    (d.noteAll records).calls = d.calls :=
  Desk.eq_of_noteAll (f := Desk.calls) (fun _ _ => rfl) records d

namespace Workspace

/-- A relation between workspaces that looks at nothing that their actions change. -/
structure Ignores (R : Workspace → Workspace → Prop) : Prop extends Overlooks R where
  /-- Other digests may be remembered. -/
  detector : ∀ w detector, R w { w with detector }
  /-- Other files may be there. -/
  disk : ∀ w disk, R w (w.withDisk disk)
  /-- A build command may have been run. -/
  build : ∀ w disk, R w (w.ran disk)

namespace Ignores

variable {R : Workspace → Workspace → Prop} (h : Ignores R)
include h

theorem relates_onDisk {α : Type} (a : Act Disk α) : Relates R (onDisk a) := by
  intro w
  rw [on_onDisk]
  exact h.disk w _

variable [Trans R R R]

theorem relates_recordBuild (c : Cycle) : Relates R (recordBuild c) := by
  intro w
  unfold recordBuild
  rw [on_modify_bind, on_get_bind]
  exact Trans.trans (h.detector w (w.detector.record c.digest)) (h.relates_onDisk _ _)

variable [Std.Refl R]

theorem relates_compareAll (m : Manifest) : Relates R (compareAll m) :=
  h.toOverlooks.relates_compareAll (fun w _ => h.detector w _) m

theorem relates_absorb (e : Event) : Relates R (absorb e) :=
  h.toOverlooks.relates_absorb (fun w _ => h.detector w _) e

theorem relates_writeManifest (m : Manifest) : Relates R (writeManifest m) := by
  intro w
  unfold writeManifest
  rw [on_get_bind]
  refine relates_bind (h.relates_onDisk _) (fun _ => ?_) w
  exact relates_bind (h.relates_onDisk _) fun _ => relates_pure _

theorem relates_prepare : Relates R prepare := by
  unfold prepare
  refine relates_bind (h.relates_manifestToWrite h.relates_onDisk) fun m => ?_
  refine relates_bind (h.relates_writeManifest m) fun digest => ?_
  intro w
  rw [on_modify_bind, on_get_bind]
  exact Trans.trans (h.detector w (w.detector.observe digest))
    (relates_bind (h.relates_say _ _ _) (fun _ => relates_pure m) _)

/-- **The beginning of a cycle** is ignored, whether or not its command can be started. -/
theorem relates_beginCycle : Relates R beginCycle := by
  intro w
  have hprepared := h.relates_prepare w
  rw [on_beginCycle]
  rcases hp : prepare.on w with ⟨f | m, w₁⟩
  all_goals rw [hp] at hprepared
  · exact hprepared
  · dsimp only
    split
    · exact hprepared
    · exact Trans.trans hprepared (h.build w₁ _)

/-- **So is its end.** -/
theorem relates_endCycle (c : Cycle) (status : Int) : Relates R (endCycle c status) := by
  intro w
  by_cases hstatus : status = 0
  · subst hstatus
    rw [endCycle_zero]
    refine relates_bind (h.relates_onDisk _) (fun written => ?_) w
    exact relates_bind (h.relates_recordBuild c) fun _ => h.relates_say _ _ _
  · rw [endCycle_of_ne hstatus]
    exact Std.Refl.refl w

/-- **So is an emit.** -/
theorem relates_emit : Relates R emit := by
  unfold emit
  refine relates_bind (h.relates_manifestToWrite h.relates_onDisk) fun m => ?_
  refine relates_bind (h.relates_writeManifest m) fun digest => ?_
  exact relates_bind relates_get fun w => relates_bind (h.relates_say _ _ _) fun _ => relates_pure _

theorem relates_check : Relates R check := by
  refine relates_bind (h.relates_currentManifest true) fun m => ?_
  refine relates_bind (h.relates_compareAll m) fun report => ?_
  split
  · exact relates_bind (h.relates_say _ _ _) fun _ => relates_pure _
  · exact relates_pure _

/-- **So is a run that builds once.** -/
theorem relates_runOnce (status : Int) : Relates R (runOnce status) := by
  refine relates_bind h.relates_check fun report => ?_
  split
  · refine relates_bind ?_ fun _ => relates_bind relates_get fun _ => relates_pure _
    exact relates_bind h.relates_beginCycle fun begun => h.relates_endCycle begun.1 _
  · exact relates_pure _

end Ignores

/-! ### Calls on the observer -/

/-- The same calls were made on the observer. -/
def SameCalls (w w' : Workspace) : Prop := w'.desk.calls = w.desk.calls

theorem SameCalls.refl (w : Workspace) : SameCalls w w := rfl

theorem SameCalls.trans {a b c : Workspace} (h : SameCalls a b) (h' : SameCalls b c) :
    SameCalls a c := Eq.trans h' h

instance : Std.Refl SameCalls := ⟨SameCalls.refl⟩

instance : Trans SameCalls SameCalls SameCalls := ⟨SameCalls.trans⟩

theorem ignores_sameCalls : Ignores SameCalls where
  catalog w _ := .refl w
  aggregates w _ := .refl w
  source w _ := .refl w
  records w records := w.desk.calls_noteAll records
  detector w _ := .refl w
  disk w _ := .refl w
  build w _ := .refl w

/-! ### Sources that can be written -/

theorem ignores_whole : Ignores (Keeping Whole) where
  catalog _ _ h := h
  aggregates _ _ h := h
  source _ _ h := h.load
  records _ _ h := h
  detector _ _ h := h
  disk _ _ h := h
  build _ _ h := h

/-- A workspace comes from another without a file written but the log, and can be written if that
could. -/
structure Unwritten (w w' : Workspace) : Prop extends Writes (fun _ => False) w w' where
  /-- What can be written still can. -/
  whole : w.Whole → w'.Whole

theorem Unwritten.refl (w : Workspace) : Unwritten w w := ⟨.refl _ w, id⟩

theorem Unwritten.trans {a b c : Workspace} (h : Unwritten a b) (h' : Unwritten b c) :
    Unwritten a c := ⟨h.toWrites.trans h'.toWrites, fun hwhole => h'.whole (h.whole hwhole)⟩

instance : Std.Refl Unwritten := ⟨Unwritten.refl⟩

instance : Trans Unwritten Unwritten Unwritten := ⟨Unwritten.trans⟩

theorem overlooks_unwritten : Overlooks Unwritten where
  catalog w catalog := ⟨overlooks_writes.catalog w catalog, ignores_whole.catalog w catalog⟩
  aggregates w aggregates :=
    ⟨overlooks_writes.aggregates w aggregates, ignores_whole.aggregates w aggregates⟩
  source w hs := ⟨overlooks_writes.source w hs, ignores_whole.source w hs⟩
  records w records := ⟨overlooks_writes.records w records, ignores_whole.records w records⟩

theorem unwritten_absorb (e : Event) : Relates Unwritten (absorb e) := fun w =>
  ⟨relates_absorb e w, ignores_whole.relates_absorb e w⟩

theorem unwritten_compareAll (m : Manifest) : Relates Unwritten (compareAll m) := fun w =>
  ⟨relates_compareAll m w, ignores_whole.relates_compareAll m w⟩

end Workspace

end ProbeKit
