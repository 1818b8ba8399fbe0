import PacketDispatch.Engine.Background
import PacketDispatch.Proofs.Engine.Arrival

/-!
# The gauge of the pool

Whether a pool takes one more job can be told from its permits and the number of its jobs.  What
happens beside the dispatching thread moves these numbers in the same way whatever the jobs are, and
time does not move them at all.
-/

namespace PacketDispatch

/-- The readings of a pool: its free permits, whether it is open, and how many accepted jobs wait
and run. -/
structure Gauge where
  free : Nat
  isOpen : Bool
  waiting : Nat
  running : Nat
  deriving DecidableEq, Repr

/-- The gauge of a pool. -/
def Pool.gauge {J ε : Type} (p : Pool J ε) : Gauge :=
  ⟨p.free, p.isOpen, p.waiting.length, p.running.length⟩

/-- An event is work of the pool, and not only time that passes. -/
def Background.isWork : Background → Bool
  | .start _ | .finish _ => true
  | .elapse _ => false

namespace Gauge

/-- The pool would take one more job. -/
def hasRoom (g : Gauge) : Bool :=
  g.isOpen && 0 < g.free

/-- The pool takes one more job. -/
def accept (g : Gauge) : Gauge :=
  { g with free := g.free - 1, waiting := g.waiting + 1 }

/-- An event moves the gauge. -/
def happen (g : Gauge) : Background → Gauge
  | .start place =>
    if place < g.waiting then { g with waiting := g.waiting - 1, running := g.running + 1 } else g
  | .finish place =>
    if place < g.running then { g with free := g.free + 1, running := g.running - 1 } else g
  | .elapse _ => g

/-- Events move the gauge one after another. -/
def happenAll (g : Gauge) (events : List Background) : Gauge :=
  events.foldl happen g

theorem hasRoom_iff {g : Gauge} : g.hasRoom = true ↔ g.isOpen = true ∧ 0 < g.free := by
  simp [hasRoom]

/-- Time does not move the gauge. -/
theorem happenAll_filter_isWork (g : Gauge) (events : List Background) :
    g.happenAll (events.filter Background.isWork) = g.happenAll events := by
  induction events generalizing g with
  | nil => rfl
  | cons b events ih =>
      cases b with
      | start place | finish place => exact ih _
      | elapse ms => exact ih g

end Gauge

namespace Engine

variable {σ : Type} {e e' : Engine σ}

theorem gauge_startPooled (e : Engine σ) (place : Nat) :
    (e.startPooled place).pool.gauge = e.pool.gauge.happen (.start place) := by
  by_cases hplace : place < e.pool.waiting.length
  · have hfound := List.getElem?_eq_getElem hplace
    simp only [startPooled, Pool.take?, hfound, Pool.run, Pool.gauge, Gauge.happen, hplace, if_true,
      List.length_eraseIdx_of_lt, List.length_append, List.length_singleton]
  · have hnone := List.getElem?_eq_none (Nat.le_of_not_lt hplace)
    simp only [startPooled, Pool.take?, hnone, Pool.gauge, Gauge.happen, hplace, if_false]

theorem gauge_finishPooled (e : Engine σ) (place : Nat) :
    (e.finishPooled place).pool.gauge = e.pool.gauge.happen (.finish place) := by
  by_cases hplace : place < e.pool.running.length
  · have hfound := List.getElem?_eq_getElem hplace
    simp only [finishPooled, Pool.finish?, hfound, Pool.gauge, Gauge.happen, hplace, if_true,
      List.length_eraseIdx_of_lt]
  · have hnone := List.getElem?_eq_none (Nat.le_of_not_lt hplace)
    simp only [finishPooled, Pool.finish?, hnone, Pool.gauge, Gauge.happen, hplace, if_false]

theorem gauge_happenAll (e : Engine σ) (events : List Background) :
    (e.happenAll events).pool.gauge = e.pool.gauge.happenAll events := by
  induction events generalizing e with
  | nil => rfl
  | cons b events ih =>
      have hfirst : (e.happen b).pool.gauge = e.pool.gauge.happen b := by
        cases b with
        | start place => exact e.gauge_startPooled place
        | finish place => exact e.gauge_finishPooled place
        | elapse ms => rfl
      calc ((e.happen b).happenAll events).pool.gauge
          = (e.happen b).pool.gauge.happenAll events := ih (e.happen b)
        _ = (e.pool.gauge.happen b).happenAll events := by rw [hfirst]

/-- A message takes a permit exactly when it is scheduled on the pool. -/
theorem Admits.gauge {t : Table σ} {a : Arrival} (h : Admits t e a e') :
    e'.pool.gauge =
      if a.outcome = .scheduled .pool then e.pool.gauge.accept else e.pool.gauge := by
  rw [h.pool]
  by_cases hpool : a.outcome = .scheduled .pool
  · obtain ⟨j, -, hjobs⟩ := Arrival.jobs_of_scheduled h.prepared hpool
    rw [if_pos hpool, hjobs]
    simp only [Pool.gauge, Gauge.accept, List.length_append, List.length_singleton]
  · rw [if_neg hpool, Arrival.jobs_of_not_scheduled hpool]
    simp only [Pool.gauge, List.append_nil, List.length_nil, Nat.sub_zero]

theorem hasRoom_pool_iff (standard : e.scheduler = .standard) :
    e.HasRoom .pool ↔ e.pool.gauge.hasRoom = true := by
  rw [Gauge.hasRoom_iff]
  simp only [HasRoom, standard, true_and, Pool.gauge]

end Engine
end PacketDispatch
