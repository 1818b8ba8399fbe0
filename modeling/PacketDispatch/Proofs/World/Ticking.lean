import PacketDispatch.Proofs.Schedule.Passing
import PacketDispatch.World.Basic

/-!
# Ticks over short queues

A world that ticks after each message never has more than one job to run.  Such a tick does the
same whatever its budget, and leaves nothing that would have to be settled later.
-/

namespace PacketDispatch

variable {σ : Type}

/-- The report of a pass that ran one job and left none. -/
def JobEnd.report (ended : JobEnd HandlerError) : PassReport where
  executed := 1
  completed := if ended.isCompleted then 1 else 0
  failed := if ended.isFailed then 1 else 0
  sessionsGone := if ended.isGone then 1 else 0
  remaining := 0

/-- The report of a pass that found no job. -/
def PassReport.idle : PassReport :=
  ⟨0, 0, 0, 0, 0⟩

namespace World

variable {w : World σ}

/-- A world whose only job has run in a tick. -/
def tookJob (w : World σ) (j : Job σ) : World σ :=
  let made := j.make .world w.engine.scene
  let report := w.report.absorb made.ended.report
  { w with
    engine := { w.engine with
      queue := { w.engine.queue with pending := [] }
      scene := (made.scene.recordJob made.ended).writeLines .caller
        (report.tickLines made.ended.report) }
    report := report }

/-- A tick over an empty queue counts itself and nothing else. -/
theorem tick_of_pending_nil (h : w.engine.queue.pending = []) :
    w.tick.2 = { w with report := w.report.absorb .idle } := by
  have hpass := WorldQueue.pass_of_pending_nil Job.run w.budget w.engine.scene h
  have hreport : Pass.report (⟨w.engine.queue, w.engine.scene, [], none⟩ :
      Pass (Job σ) (Scene σ) HandlerError) = .idle := by
    simp [Pass.report, PassReport.idle, WorldQueue.size, h]
  have hquiet : w.engine.scene.writeLines .caller [] = w.engine.scene := by
    simp [Scene.writeLines, Scene.write]
  simp only [tick, WorldLoop.tick, loop, hpass, hreport]
  simp [PassReport.budgetLines, LoopReport.tickLines, PassReport.idle, write, hquiet, withLoop]

/-- A tick over one job runs it, whatever the budget. -/
theorem tick_of_pending_singleton {j : Job σ} (h : w.engine.queue.pending = [j]) :
    w.tick.2 = w.tookJob j := by
  have hrun : Job.run j { w.engine.queue with pending := [] } w.engine.scene =
      ⟨{ w.engine.queue with pending := [] },
        (j.make .world w.engine.scene).scene.recordJob (j.make .world w.engine.scene).ended,
        .ok (j.make .world w.engine.scene).ended⟩ := rfl
  have hpass := WorldQueue.pass_of_pending_singleton w.budget h hrun
  have hreport : Pass.report (⟨{ w.engine.queue with pending := [] },
      (j.make .world w.engine.scene).scene.recordJob (j.make .world w.engine.scene).ended,
      [(j, (j.make .world w.engine.scene).ended)], none⟩ : Pass (Job σ) (Scene σ) HandlerError) =
      (j.make .world w.engine.scene).ended.report := by
    simp [Pass.report, JobEnd.report, WorldQueue.size, List.countP_cons]
  simp only [tick, WorldLoop.tick, loop, hpass, hreport]
  simp [PassReport.budgetLines, JobEnd.report, write, withLoop, tookJob]

/-- Nothing is left to settle when no job waits. -/
theorem settle_of_pending_nil (h : w.engine.queue.pending = []) : w.settle = w := by
  have hsize : w.engine.queue.size = 0 := by
    simp [WorldQueue.size, h]
  simp only [settle, hsize, WorldLoop.settle]
  rfl

end World
end PacketDispatch
