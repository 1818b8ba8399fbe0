import Mathlib.Data.List.InsertIdx
import PacketDispatch.Proofs.Engine.Clients

/-!
# Awaiting the pool

Who awaits the pool lets its threads go on until every accepted job has ended.  What happens until
then is nothing new: the waiting jobs are taken up and the running ones end, one after another.
-/

namespace PacketDispatch
namespace Engine

variable {σ : Type}

theorem happenAll_append (e : Engine σ) (first second : List Background) :
    e.happenAll (first ++ second) = (e.happenAll first).happenAll second :=
  List.foldl_append

theorem waiting_finishPooled (e : Engine σ) (place : Nat) :
    (e.finishPooled place).pool.waiting = e.pool.waiting := by
  rcases e.finishPooled_cases place with ⟨-, hsame⟩ | ⟨r, pool, -, hfinishes⟩
  · rw [hsame]
  · exact hfinishes.waiting

theorem length_running_finishPooled_le (e : Engine σ) (place : Nat) :
    (e.finishPooled place).pool.running.length ≤ e.pool.running.length := by
  rcases e.finishPooled_cases place with ⟨-, hsame⟩ | ⟨r, pool, -, hfinishes⟩
  · exact Nat.le_of_eq (by rw [hsame])
  · rw [hfinishes.running]
    exact List.length_eraseIdx_le _ _

/-! ## Jobs that end by themselves -/

theorem exists_happenAll_finishIdle (fuel : Nat) (e : Engine σ) :
    ∃ events, finishIdle fuel e = e.happenAll events := by
  induction fuel generalizing e with
  | zero => exact ⟨[], rfl⟩
  | succ fuel ih =>
      cases hplace : e.idlePlace? with
      | none => exact ⟨[], by simp only [finishIdle, hplace]; rfl⟩
      | some place =>
          obtain ⟨events, hevents⟩ := ih (e.finishPooled place)
          refine ⟨.finish place :: events, ?_⟩
          simp only [finishIdle, hplace, hevents]
          rfl

theorem waiting_finishIdle (fuel : Nat) (e : Engine σ) :
    (finishIdle fuel e).pool.waiting = e.pool.waiting := by
  induction fuel generalizing e with
  | zero => rfl
  | succ fuel ih =>
      cases hplace : e.idlePlace? with
      | none => simp only [finishIdle, hplace]
      | some place =>
          simp only [finishIdle, hplace, ih]
          exact e.waiting_finishPooled place

theorem length_running_finishIdle_le (fuel : Nat) (e : Engine σ) :
    (finishIdle fuel e).pool.running.length ≤ e.pool.running.length := by
  induction fuel generalizing e with
  | zero => exact Nat.le_refl _
  | succ fuel ih =>
      cases hplace : e.idlePlace? with
      | none => simp only [finishIdle, hplace, Nat.le_refl]
      | some place =>
          simp only [finishIdle, hplace]
          exact Nat.le_trans (ih _) (e.length_running_finishPooled_le place)

/-! ## Jobs that wait for a thread -/

theorem exists_happenAll_workPool (threads fuel : Nat) (e : Engine σ) :
    ∃ events, workPool threads fuel e = e.happenAll events := by
  induction fuel generalizing e with
  | zero => exact exists_happenAll_finishIdle _ e
  | succ fuel ih =>
      obtain ⟨first, hfirst⟩ := exists_happenAll_finishIdle e.pool.running.length e
      simp only [workPool]
      rw [hfirst]
      by_cases hnone : (e.happenAll first).pool.waiting.isEmpty = true
      · rw [if_pos hnone]
        exact ⟨first, rfl⟩
      · rw [if_neg hnone]
        by_cases hthread : (e.happenAll first).pool.running.length < threads
        · rw [if_pos hthread]
          obtain ⟨events, hevents⟩ := ih ((e.happenAll first).startPooled 0)
          refine ⟨first ++ .start 0 :: events, ?_⟩
          rw [hevents, happenAll_append]
          rfl
        · rw [if_neg hthread]
          exact ⟨first, rfl⟩

theorem startPooled_of_waiting_cons {e : Engine σ} {j : Job σ} {rest : List (Job σ)}
    (h : e.pool.waiting = j :: rest) :
    (e.startPooled 0).pool.waiting = rest ∧
      (e.startPooled 0).pool.running.length = e.pool.running.length + 1 := by
  simp [startPooled, Pool.take?, Pool.run, h]

/-- With a thread for every job none is left waiting. -/
theorem waiting_workPool (threads fuel : Nat) (e : Engine σ)
    (hfuel : e.pool.waiting.length ≤ fuel) (hthreads : e.pool.unfinished ≤ threads) :
    (workPool threads fuel e).pool.waiting = [] := by
  induction fuel generalizing e with
  | zero =>
      rw [workPool, waiting_finishIdle]
      exact List.eq_nil_of_length_eq_zero (Nat.le_zero.mp hfuel)
  | succ fuel ih =>
      have hwaiting := waiting_finishIdle e.pool.running.length e
      have hrunning := length_running_finishIdle_le e.pool.running.length e
      simp only [workPool]
      generalize finishIdle e.pool.running.length e = idle at hwaiting hrunning ⊢
      by_cases hnone : idle.pool.waiting.isEmpty = true
      · rw [if_pos hnone]
        exact List.isEmpty_iff.mp hnone
      · have hsome : 0 < idle.pool.waiting.length :=
          List.length_pos_iff.mpr fun h => hnone (List.isEmpty_iff.mpr h)
        unfold Pool.unfinished at hthreads
        rw [hwaiting] at hsome
        have hthread : idle.pool.running.length < threads := by omega
        rw [if_neg hnone, if_pos hthread]
        obtain ⟨j, rest, hcons⟩ := List.exists_cons_of_length_pos (hwaiting ▸ hsome)
        obtain ⟨hleft, hbusy⟩ := startPooled_of_waiting_cons hcons
        rw [hwaiting] at hcons
        rw [hcons, List.length_cons] at hfuel hthreads
        refine ih _ ?_ ?_
        · rw [hleft]
          omega
        · rw [Pool.unfinished, hleft, hbusy]
          omega

/-! ## Jobs that linger -/

/-- A lingering job that is told to go on ends as it would have ended without being told. -/
theorem finishPooled_releasePooled (e : Engine σ) (place : Nat) :
    e.releasePooled.finishPooled place = (e.finishPooled place).releasePooled := by
  cases hfound : e.pool.running[place]? with
  | none =>
      have hreleased : (e.pool.release).running[place]? = none := by
        simp [Pool.release, hfound]
      simp [finishPooled, releasePooled, Pool.finish?, hfound, hreleased]
  | some r =>
      have hreleased : (e.pool.release).running[place]? = some { r with lingers := false } := by
        simp [Pool.release, hfound]
      simp only [finishPooled, releasePooled, Pool.finish?, hfound, hreleased]
      simp only [Pool.release, List.eraseIdx_map]

theorem idlePlace?_releasePooled {e : Engine σ} (h : e.pool.running ≠ []) :
    e.releasePooled.idlePlace? = some 0 := by
  cases hrunning : e.pool.running with
  | nil => exact absurd hrunning h
  | cons r rest => simp [idlePlace?, releasePooled, Pool.release, hrunning, List.findIdx?_cons]

theorem releasePooled_of_running_nil {e : Engine σ} (h : e.pool.running = []) :
    e.releasePooled = e := by
  have hrelease : e.pool.release = e.pool := by
    simp only [Pool.release, h, List.map_nil]
    rw [← h]
  rw [releasePooled, hrelease]

/-- Once nobody lingers, the running jobs end from the oldest on. -/
theorem finishIdle_releasePooled (n : Nat) (e : Engine σ) (h : e.pool.running.length = n) :
    finishIdle n e.releasePooled = e.happenAll (List.replicate n (.finish 0)) ∧
      (finishIdle n e.releasePooled).pool.running = [] := by
  induction n generalizing e with
  | zero =>
      have hnone := List.eq_nil_of_length_eq_zero h
      rw [releasePooled_of_running_nil hnone]
      exact ⟨rfl, hnone⟩
  | succ n ih =>
      have hsome : e.pool.running ≠ [] := by
        intro hnone
        rw [hnone] at h
        cases h
      have hless : (e.finishPooled 0).pool.running.length = n := by
        rcases e.finishPooled_cases 0 with ⟨hnone, -⟩ | ⟨r, pool, -, hfinishes⟩
        · cases hrunning : e.pool.running with
          | nil => exact absurd hrunning hsome
          | cons r rest => simp [Pool.finish?, hrunning] at hnone
        · rw [hfinishes.running, List.length_eraseIdx_of_lt (by omega)]
          omega
      rw [finishIdle, idlePlace?_releasePooled hsome]
      simp only [finishPooled_releasePooled]
      exact ih (e.finishPooled 0) hless

/-! ## Until every job has ended -/

/-- To await the pool is to let events happen beside the dispatching thread until every pool job
has ended. -/
theorem exists_happenAll_awaitPool (e : Engine σ) :
    ∃ events, e.awaitPool = e.happenAll events ∧ e.awaitPool.pool.unfinished = 0 := by
  obtain ⟨first, hfirst⟩ :=
    exists_happenAll_workPool e.pool.unfinished e.pool.waiting.length e
  have hwaiting := waiting_workPool e.pool.unfinished e.pool.waiting.length e (Nat.le_refl _)
    (Nat.le_refl _)
  have hawait : e.awaitPool =
      finishIdle (workPool e.pool.unfinished e.pool.waiting.length e).pool.running.length
        (workPool e.pool.unfinished e.pool.waiting.length e).releasePooled := by
    simp [awaitPool, quiesce, releasePooled, Pool.release]
  rw [hawait]
  generalize workPool e.pool.unfinished e.pool.waiting.length e = worked at hfirst hwaiting
  obtain ⟨hrest, hrunning⟩ := finishIdle_releasePooled worked.pool.running.length worked rfl
  refine ⟨first ++ List.replicate worked.pool.running.length (.finish 0), ?_, ?_⟩
  · rw [hrest, happenAll_append, hfirst]
  · have hnone : (finishIdle worked.pool.running.length worked.releasePooled).pool.waiting = [] :=
      (waiting_finishIdle _ _).trans hwaiting
    simp [Pool.unfinished, hnone, hrunning]

end Engine
end PacketDispatch
