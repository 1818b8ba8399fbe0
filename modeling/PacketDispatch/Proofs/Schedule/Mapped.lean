import PacketDispatch.Schedule.Pool
import Mathlib.Data.List.InsertIdx

/-!
# Queues and pools of mapped jobs

Neither the world queue nor the pool looks into its jobs.  When every job is mapped, each operation
gives the answer it gave before, and what it leaves is mapped as well.
-/

namespace PacketDispatch

variable {J J' S S' ε : Type} (f : J → J') (g : S → S')

/-! ## The world queue -/

def WorldQueue.map (q : WorldQueue J) : WorldQueue J' :=
  ⟨q.capacity, q.isOpen, q.pending.map f⟩

def Ran.map (r : Ran J S ε) : Ran J' S' ε :=
  ⟨r.queue.map f, g r.state, r.ended⟩

def Pass.map (p : Pass J S ε) : Pass J' S' ε :=
  ⟨p.queue.map f, g p.state, p.ran.map fun r => (f r.1, r.2), p.broken⟩

namespace WorldQueue

theorem push_map (q : WorldQueue J) (job : J) :
    (q.map f).push (f job) = (q.push job).map (WorldQueue.map f) := by
  cases hopen : q.isOpen with
  | false => simp [push, map, hopen, Except.map]
  | true =>
      by_cases hfull : q.capacity ≤ q.pending.length
      · simp [push, map, size, hopen, hfull, Except.map]
      · simp [push, map, size, hopen, hfull, Except.map]

theorem pop?_map (q : WorldQueue J) :
    (q.map f).pop? = q.pop?.map fun popped => (f popped.1, popped.2.map f) := by
  cases hpending : q.pending <;> simp [pop?, map, hpending]

variable {f g} {run : JobRunner J S ε} {run' : JobRunner J' S' ε}

/-- A pass over mapped jobs is mapped if every one of its jobs is. -/
theorem runUpTo_map
    (hrun : ∀ job q s, run' (f job) (q.map f) (g s) = (run job q s).map f g) (limit : Nat)
    (q : WorldQueue J) (s : S) :
    (q.map f).runUpTo run' limit (g s) = (q.runUpTo run limit s).map f g := by
  induction limit generalizing q s with
  | zero => rfl
  | succ limit ih =>
      unfold runUpTo
      rw [pop?_map]
      cases q.pop? with
      | none => rfl
      | some popped =>
          obtain ⟨job, rest⟩ := popped
          simp only [Option.map_some, hrun, Ran.map]
          cases (run job rest s).ended with
          | error reason => rfl
          | ok ended =>
              simp only [ih]
              rfl

theorem pass_map (hrun : ∀ job q s, run' (f job) (q.map f) (g s) = (run job q s).map f g)
    (budget : Nat) (q : WorldQueue J) (s : S) :
    (q.map f).pass run' budget (g s) = (q.pass run budget s).map f g := by
  have hlimit : passLimit budget (q.map f) = passLimit budget q := by
    simp [passLimit, size, map]
  rw [pass, hlimit]
  exact runUpTo_map hrun _ q s

end WorldQueue

@[simp] theorem Pass.report_map (p : Pass J S ε) : (p.map f g).report = p.report := by
  simp [report, map, WorldQueue.map, WorldQueue.size, List.countP_map, Function.comp_def]

/-! ## The pool -/

def Running.map (r : Running J ε) : Running J' ε :=
  ⟨f r.job, r.ended, r.lingers⟩

def Pool.map (p : Pool J ε) : Pool J' ε :=
  ⟨p.capacity, p.free, p.isOpen, p.waiting.map f, p.running.map (Running.map f)⟩

namespace Pool

theorem spawn_map (p : Pool J ε) (job : J) :
    (p.map f).spawn (f job) = (p.spawn job).map (Pool.map f) := by
  cases hopen : p.isOpen with
  | false => simp [spawn, map, hopen, Except.map]
  | true => by_cases hfree : p.free = 0 <;> simp [spawn, map, hopen, hfree, Except.map]

theorem take?_map (p : Pool J ε) (place : Nat) :
    (p.map f).take? place = (p.take? place).map fun taken => (f taken.1, taken.2.map f) := by
  cases hfound : p.waiting[place]? <;> simp [take?, map, hfound, List.eraseIdx_map]

theorem run_map (p : Pool J ε) (job : J) (ended : JobEnd ε) (lingers : Bool) :
    (p.map f).run (f job) ended lingers = (p.run job ended lingers).map f := by
  simp [run, map, Running.map]

theorem finish?_map (p : Pool J ε) (place : Nat) :
    (p.map f).finish? place =
      (p.finish? place).map fun finished => (finished.1.map f, finished.2.map f) := by
  cases hfound : p.running[place]? <;> simp [finish?, map, hfound, List.eraseIdx_map]

end Pool
end PacketDispatch
