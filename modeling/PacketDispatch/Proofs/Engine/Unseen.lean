import PacketDispatch.Engine.Background

/-!
# Changes that the pool does not see

A change of the engine outside its pool may leave a pool thread with the same work to do.  When a job
that is taken up or ends leaves the same behind before the change and after it, so does everything
that happens beside the dispatching thread, and so does waiting for the pool.
-/

namespace PacketDispatch
namespace Engine

variable {σ : Type}

/-- Pool threads and the clock work alike before a change and after it. -/
structure Unseen (f : Engine σ → Engine σ) : Prop where
  pool : ∀ e, (f e).pool = e.pool
  startPooled : ∀ e place, (f e).startPooled place = f (e.startPooled place)
  finishPooled : ∀ e place, (f e).finishPooled place = f (e.finishPooled place)
  advance : ∀ e ms, (f e).advance ms = f (e.advance ms)
  releasePooled : ∀ e, (f e).releasePooled = f e.releasePooled

namespace Unseen

variable {f : Engine σ → Engine σ}

theorem happen (h : Unseen f) (e : Engine σ) (b : Background) : (f e).happen b = f (e.happen b) := by
  cases b with
  | start place => exact h.startPooled e place
  | finish place => exact h.finishPooled e place
  | elapse ms => exact h.advance e ms

theorem happenAll (h : Unseen f) (e : Engine σ) (events : List Background) :
    (f e).happenAll events = f (e.happenAll events) := by
  unfold Engine.happenAll
  induction events generalizing e with
  | nil => rfl
  | cons b events ih =>
      rw [List.foldl_cons, List.foldl_cons, h.happen]
      exact ih (e.happen b)

theorem finishIdle (h : Unseen f) (fuel : Nat) (e : Engine σ) :
    finishIdle fuel (f e) = f (finishIdle fuel e) := by
  induction fuel generalizing e with
  | zero => rfl
  | succ fuel ih =>
      have hplace : (f e).idlePlace? = e.idlePlace? := by
        rw [idlePlace?, h.pool]
        rfl
      rw [Engine.finishIdle, Engine.finishIdle, hplace]
      cases e.idlePlace? with
      | none => rfl
      | some place =>
          simp only [h.finishPooled]
          exact ih (e.finishPooled place)

theorem workPool (h : Unseen f) (threads fuel : Nat) (e : Engine σ) :
    workPool threads fuel (f e) = f (workPool threads fuel e) := by
  induction fuel generalizing e with
  | zero =>
      rw [Engine.workPool, h.pool]
      exact h.finishIdle e.pool.running.length e
  | succ fuel ih =>
      simp only [Engine.workPool, h.pool, h.finishIdle]
      generalize Engine.finishIdle e.pool.running.length e = idle
      by_cases hnone : idle.pool.waiting.isEmpty = true
      · rw [if_pos hnone, if_pos hnone]
      · rw [if_neg hnone, if_neg hnone]
        by_cases hthread : idle.pool.running.length < threads
        · rw [if_pos hthread, if_pos hthread, h.startPooled]
          exact ih (idle.startPooled 0)
        · rw [if_neg hthread, if_neg hthread]

theorem awaitPool (h : Unseen f) (e : Engine σ) : (f e).awaitPool = f e.awaitPool := by
  have hquiesce : (f e).quiesce e.pool.unfinished = f (e.quiesce e.pool.unfinished) := by
    rw [quiesce, h.pool]
    exact h.workPool e.pool.unfinished e.pool.waiting.length e
  simp only [Engine.awaitPool, h.pool, hquiesce, h.releasePooled]
  exact h.finishIdle _ (e.quiesce e.pool.unfinished).releasePooled

end Unseen
end Engine
end PacketDispatch
