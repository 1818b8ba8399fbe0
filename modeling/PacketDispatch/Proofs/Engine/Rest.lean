import PacketDispatch.Proofs.Engine.Awaiting
import PacketDispatch.Proofs.Engine.Gauge

/-!
# The pool comes to rest

While no message arrives, the pool can only take up jobs that wait and end jobs that run.  Each of
these leaves less to be done, so a pool that goes on working as long as it has jobs is at rest after
some time, and stays so.
-/

namespace PacketDispatch

namespace Gauge

/-- How many accepted jobs have not ended. -/
def unfinished (g : Gauge) : Nat :=
  g.waiting + g.running

/-- What is left to be done: a waiting job is to be taken up and to be ended, a running one only to
be ended. -/
def work (g : Gauge) : Nat :=
  2 * g.waiting + g.running

theorem unfinished_eq_zero_iff {g : Gauge} : g.unfinished = 0 ↔ g.work = 0 := by
  unfold unfinished work
  omega

/-- An event does nothing, or it leaves less to be done. -/
theorem happen_eq_or_work_lt (g : Gauge) (b : Background) :
    g.happen b = g ∨ (g.happen b).work < g.work := by
  cases b with
  | start place =>
      by_cases hplace : place < g.waiting
      · right
        simp only [happen, hplace, if_true, work]
        omega
      · left
        simp only [happen, hplace, if_false]
  | finish place =>
      by_cases hplace : place < g.running
      · right
        simp only [happen, hplace, if_true, work]
        omega
      · left
        simp only [happen, hplace, if_false]
  | elapse ms => exact Or.inl rfl

end Gauge

namespace Engine

variable {σ : Type} {e : Engine σ} {events : Nat → Background}

/-- The engine after the first of endlessly many events. -/
def afterFirst (e : Engine σ) (events : Nat → Background) (n : Nat) : Engine σ :=
  e.happenAll ((List.range n).map events)

/-- As long as accepted jobs have not ended, sooner or later something happens to one of them. -/
def PoolGoesOn (e : Engine σ) (events : Nat → Background) : Prop :=
  ∀ n, 0 < (e.afterFirst events n).pool.unfinished →
    ∃ m, n ≤ m ∧ (e.afterFirst events (m + 1)).pool.gauge ≠ (e.afterFirst events m).pool.gauge

theorem gauge_afterFirst_succ (e : Engine σ) (events : Nat → Background) (n : Nat) :
    (e.afterFirst events (n + 1)).pool.gauge =
      (e.afterFirst events n).pool.gauge.happen (events n) := by
  rw [afterFirst, List.range_succ, List.map_append, happenAll_append]
  exact gauge_happenAll _ [events n]

theorem unfinished_gauge (e : Engine σ) : e.pool.gauge.unfinished = e.pool.unfinished := rfl

/-- What is left to be done does not become more. -/
theorem work_afterFirst_le {n m : Nat} (h : n ≤ m) :
    (e.afterFirst events m).pool.gauge.work ≤ (e.afterFirst events n).pool.gauge.work := by
  induction h with
  | refl => exact Nat.le_refl _
  | @step m _ ih =>
      rw [gauge_afterFirst_succ]
      rcases (e.afterFirst events m).pool.gauge.happen_eq_or_work_lt (events m) with heq | hlt
      · rw [heq]
        exact ih
      · exact Nat.le_of_lt (Nat.lt_of_lt_of_le hlt ih)

/-- A pool that goes on working is at rest after some time. -/
theorem PoolGoesOn.exists_rest (goesOn : e.PoolGoesOn events) :
    ∃ n, ∀ m, n ≤ m → (e.afterFirst events m).pool.unfinished = 0 := by
  -- What is left to be done is a bound on how often something can still happen.
  have hrest : ∀ work n, (e.afterFirst events n).pool.gauge.work = work →
      ∃ m, (e.afterFirst events m).pool.gauge.work = 0 := by
    intro work
    induction work using Nat.strongRecOn with
    | ind work ih =>
        intro n hwork
        by_cases hzero : work = 0
        · exact ⟨n, hwork.trans hzero⟩
        · have hunfinished : 0 < (e.afterFirst events n).pool.unfinished := by
            refine Nat.pos_of_ne_zero fun hnone => hzero ?_
            rw [← unfinished_gauge, Gauge.unfinished_eq_zero_iff] at hnone
            exact hwork.symm.trans hnone
          obtain ⟨m, hle, hmoved⟩ := goesOn n hunfinished
          rw [gauge_afterFirst_succ] at hmoved
          have hless := ((e.afterFirst events m).pool.gauge.happen_eq_or_work_lt
            (events m)).resolve_left hmoved
          rw [← gauge_afterFirst_succ] at hless
          exact ih _ (hwork ▸ Nat.lt_of_lt_of_le hless (work_afterFirst_le hle)) (m + 1) rfl
  obtain ⟨n, hn⟩ := hrest _ 0 rfl
  refine ⟨n, fun m hm => ?_⟩
  rw [← unfinished_gauge, Gauge.unfinished_eq_zero_iff]
  exact Nat.le_zero.mp (hn ▸ work_afterFirst_le hm)

end Engine
end PacketDispatch
