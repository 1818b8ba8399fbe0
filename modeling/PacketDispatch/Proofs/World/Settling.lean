import PacketDispatch.Proofs.Schedule.Outstanding
import PacketDispatch.World.Basic

/-!
# Ticks and settling

No call breaks out of a pass over the world queue, since every call is isolated, and none pushes
another job.  So a pass takes the oldest jobs, as many as its budget allows, a tick over a queue with
jobs runs one of them at least, and ticks that follow each other empty the queue.
-/

namespace PacketDispatch

variable {σ : Type}

/-- What a report says of a pass over a queue with some jobs: they have run or remain, those that
have run have ended in one of three ways, and one has run if there was any. -/
structure PassReport.Adds (r : PassReport) (waiting : Nat) : Prop where
  total : r.executed + r.remaining = waiting
  ends : r.completed + r.failed + r.sessionsGone = r.executed
  progress : 0 < waiting → 0 < r.executed

namespace Job

theorem pushesNothing (j : Job σ) : JobRunner.PushesNothing run j :=
  fun _ _ => rfl

theorem returns (j : Job σ) : JobRunner.Returns run j :=
  fun _ s => ⟨(j.make .world s).ended, rfl⟩

end Job

namespace WorldQueue

/-- A pass takes the oldest jobs, and nothing breaks out of it. -/
theorem runUpTo_jobs (limit : Nat) (q : WorldQueue (Job σ)) (s : Scene σ) :
    (q.runUpTo Job.run limit s).broken = none ∧
      (q.runUpTo Job.run limit s).queue = { q with pending := q.pending.drop limit } ∧
      (q.runUpTo Job.run limit s).ran.map Prod.fst = q.pending.take limit := by
  have alone : ∀ j ∈ q.pending, JobRunner.PushesNothing Job.run j := fun j _ => j.pushesNothing
  have haccounts := (serves_runUpTo Job.run limit q s).accounts alone
  have hbroken := haccounts.broken_eq_none fun j _ => j.returns
  have hlength := length_ran_runUpTo limit s alone hbroken
  rw [hbroken] at haccounts
  exact ⟨hbroken, haccounts.queue_eq_drop hlength, haccounts.map_fst_eq_take hlength⟩

/-- Whatever its budget, a pass comes to its end with a report that adds up. -/
theorem adds_pass (budget : Nat) (q : WorldQueue (Job σ)) (s : Scene σ) :
    (q.pass Job.run budget s).broken = none ∧
      (q.pass Job.run budget s).queue.size = (q.pass Job.run budget s).report.remaining ∧
      (q.pass Job.run budget s).report.Adds q.size := by
  obtain ⟨hbroken, hqueue, hran⟩ := q.runUpTo_jobs (passLimit budget q) s
  have hlimit : 0 < q.size → 0 < passLimit budget q := by
    intro hwaiting
    obtain ⟨limit, heq⟩ := exists_passLimit_eq_succ budget (List.length_pos_iff.mp hwaiting)
    omega
  change (q.pass Job.run budget s).broken = none at hbroken
  change (q.pass Job.run budget s).queue = _ at hqueue
  change (q.pass Job.run budget s).ran.map Prod.fst = _ at hran
  generalize q.pass Job.run budget s = p at hbroken hqueue hran
  have hlength := congrArg List.length hran
  rw [List.length_map, List.length_take] at hlength
  have hsize : p.queue.size = q.size - passLimit budget q := by
    rw [hqueue]
    exact List.length_drop
  change p.ran.length = min (passLimit budget q) q.size at hlength
  refine ⟨hbroken, rfl, ⟨?_, p.report_executed.symm, fun hwaiting => ?_⟩⟩
  · change p.ran.length + p.queue.size = q.size
    omega
  · have hpositive := hlimit hwaiting
    change 0 < p.ran.length
    omega

end WorldQueue

namespace WorldLoop

variable {l : WorldLoop (Job σ) (Scene σ)}

/-- A tick comes to its end and adds its report to the totals. -/
theorem exists_tick_eq (l : WorldLoop (Job σ) (Scene σ)) :
    ∃ report, (l.tick Job.run World.write).result = .ok report ∧ report.Adds l.queue.size ∧
      (l.tick Job.run World.write).loop.queue.size = report.remaining ∧
      (l.tick Job.run World.write).loop.report = l.report.absorb report := by
  obtain ⟨hbroken, hsize, adds⟩ := l.queue.adds_pass l.budget l.state
  refine ⟨(l.queue.pass Job.run l.budget l.state).report, ?_, adds, ?_, ?_⟩ <;>
    simp only [tick, hbroken]
  exact hsize

/-- Ticks follow each other until the queue is empty, when there may be as many as there are jobs. -/
theorem pending_settle (fuel : Nat) (enough : l.queue.size ≤ fuel) :
    (l.settle Job.run World.write fuel).1.queue.pending = [] ∧
      (l.settle Job.run World.write fuel).2 = none := by
  have alone : ∀ j ∈ l.queue.pending, JobRunner.PushesNothing Job.run j :=
    fun j _ => j.pushesNothing
  obtain ⟨passes, r, hsettles, hlength, hfuel⟩ :=
    exists_settles World.write l.queue.size (Nat.le_refl _) alone
  have settled := (hsettles.accounts alone).broken_eq_none fun j _ => j.returns
  rw [hfuel fuel (Nat.le_trans hlength enough)]
  exact ⟨hsettles.pending_eq_nil settled, settled⟩

end WorldLoop

namespace World

/-- A tick of a world comes to its end and adds its report to the totals. -/
theorem exists_tick_eq (w : World σ) :
    ∃ report, w.tick.1 = .ok report ∧ report.Adds w.engine.queue.size ∧
      w.tick.2.engine.queue.size = report.remaining ∧
      w.tick.2.report = w.report.absorb report :=
  w.loop.exists_tick_eq

/-- A world that settles has no job left. -/
theorem pending_settle (w : World σ) : w.settle.engine.queue.pending = [] :=
  (WorldLoop.pending_settle (l := w.loop) w.engine.queue.size (Nat.le_refl _)).1

end World

/-! ## The work that is done -/

/-- When no job pushes another, a world loop settles whatever its budget and its earlier totals are: the
ticks that follow each other while jobs wait come to an end, which any number of ticks allows that is
not below the number of jobs.  Unless a job breaks out, every job that waited has then run, in their
order; there was no tick for an empty queue, one tick without a budget, and else as many as the budget
goes into the number of jobs, rounded up; and the totals have grown by the ticks, by the jobs, and by
those that failed or were discarded.  No job breaks out that returns; one that does is the last one
that ran, and those behind it wait.  The jobs of an engine push nothing and return, so a world that
settles has done its work. -/
theorem settling_does_outstanding_work {J S ε : Type} (run : JobRunner J S ε)
    (note : List Line → S → S) (l : WorldLoop J S)
    (alone : ∀ job ∈ l.queue.pending, run.PushesNothing job) :
    (∃ passes r, l.Settles run note passes r ∧
      (∀ fuel, l.queue.pending.length ≤ fuel → l.settle run note fuel = r) ∧
      (r.2 = none → l.Clears passes r.1) ∧
      ((∀ job ∈ l.queue.pending, run.Returns job) → r.2 = none) ∧
      ∀ reason, r.2 = some reason → ∃ job, ¬run.Returns job ∧
        (passes.flatMap Pass.ran).map Prod.fst ++ job :: r.1.queue.pending = l.queue.pending) ∧
      ∀ {σ : Type} (w : World σ), ∃ passes l',
        w.loop.Settles Job.run World.write passes (l', none) ∧ w.settle = w.withLoop l' ∧
          w.loop.Clears passes l' := by
  constructor
  · obtain ⟨passes, r, hsettles, hlength, hfuel⟩ :=
      WorldLoop.exists_settles note l.queue.size (Nat.le_refl _) alone
    have haccounts := hsettles.accounts alone
    refine ⟨passes, r, hsettles, ?_, ?_, haccounts.broken_eq_none, haccounts.short⟩
    · intro fuel enough
      exact hfuel fuel (Nat.le_trans hlength enough)
    · intro settled
      have hwhole : l.Settles run note passes (r.1, none) := settled ▸ hsettles
      exact hwhole.clears alone
  · intro σ w
    have halone : ∀ j ∈ w.loop.queue.pending, JobRunner.PushesNothing Job.run j :=
      fun j _ => j.pushesNothing
    obtain ⟨passes, ⟨l', broken⟩, hsettles, hlength, hfuel⟩ :=
      WorldLoop.exists_settles World.write w.loop.queue.size (Nat.le_refl _) halone
    obtain rfl : broken = none :=
      (hsettles.accounts halone).broken_eq_none fun j _ => j.returns
    refine ⟨passes, l', hsettles, ?_, hsettles.clears halone⟩
    rw [World.settle, hfuel w.engine.queue.size hlength]

/-- Jobs write down that they ran.  Job 1 fails, and job 3 finds its session gone. -/
def recordingJob : JobRunner Nat (List Nat) Unit :=
  fun job q ran =>
    let ended := if job = 1 then .failed () else if job = 3 then .sessionGone else .completed
    ⟨q, ran ++ [job], .ok ended⟩

/-- Five jobs wait in a loop that has ticked before and may run two of them in a tick. -/
def fiveWaiting : WorldLoop Nat (List Nat) :=
  ⟨2, ⟨7, 3, 1, 0⟩, ⟨8, false, [0, 1, 2, 3, 4]⟩, []⟩

theorem settling_does_outstanding_work_fiveWaiting :
    (∀ job ∈ fiveWaiting.queue.pending, recordingJob.PushesNothing job) ∧
      ∃ passes r, fiveWaiting.Settles recordingJob (fun _ ran => ran) passes r ∧
        fiveWaiting.Clears passes r.1 ∧ passes.length = 3 ∧ r.2 = none ∧
        r.1.report = ⟨10, 8, 2, 1⟩ ∧ r.1.state = [0, 1, 2, 3, 4] := by
  have alone : ∀ job ∈ fiveWaiting.queue.pending, recordingJob.PushesNothing job :=
    fun _ _ _ _ => rfl
  obtain ⟨⟨passes, r, hsettles, hfuel, hclears, hreturns, -⟩, -⟩ :=
    settling_does_outstanding_work recordingJob (fun _ ran => ran) fiveWaiting alone
  have settled : r.2 = none := hreturns fun _ _ _ _ => ⟨_, rfl⟩
  have hend : fiveWaiting.settle recordingJob (fun _ ran => ran) 5 = r := hfuel 5 (by decide)
  refine ⟨alone, passes, r, hsettles, hclears settled, ?_, settled, ?_, ?_⟩
  · rw [(hclears settled).ticks]
    rfl
  · rw [← hend]
    rfl
  · rw [← hend]
    rfl

end PacketDispatch
