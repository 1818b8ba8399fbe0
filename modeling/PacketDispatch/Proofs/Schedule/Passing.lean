import PacketDispatch.Schedule.WorldQueue

/-!
# Passes over short queues

A queue that is passed over after each push never holds more than one job.  The budget of such a
pass makes no difference: the job that waits is run, if there is one, and nothing is left.
-/

namespace PacketDispatch

/-- Every job that a pass has run ended in one of three ways. -/
theorem Pass.report_executed {J S ε : Type} (p : Pass J S ε) :
    p.report.executed = p.report.completed + p.report.failed + p.report.sessionsGone := by
  simp only [report]
  induction p.ran with
  | nil => rfl
  | cons r rest ih =>
      simp only [List.countP_cons, List.length_cons, ih]
      cases r.2 <;> simp [JobEnd.isCompleted, JobEnd.isFailed, JobEnd.isGone] <;> omega

theorem nil_or_singleton_of_length_le_one {α : Type} {l : List α} (h : l.length ≤ 1) :
    l = [] ∨ ∃ a, l = [a] := by
  cases l with
  | nil => exact .inl rfl
  | cons a rest =>
      have hrest : rest.length = 0 := Nat.le_zero.mp (Nat.le_of_succ_le_succ h)
      rw [List.eq_nil_of_length_eq_zero hrest]
      exact .inr ⟨a, rfl⟩

namespace WorldQueue

variable {J S ε : Type} {q : WorldQueue J}

/-- No job waits, and the next one is accepted. -/
structure Clear (q : WorldQueue J) : Prop where
  pending : q.pending = []
  isOpen : q.isOpen = true
  room : 0 < q.capacity

theorem clear_empty {capacity : Nat} (h : 0 < capacity) :
    (empty capacity : WorldQueue J).Clear :=
  ⟨rfl, rfl, h⟩

theorem runUpTo_of_pending_nil (run : JobRunner J S ε) (limit : Nat) (s : S)
    (h : q.pending = []) :
    q.runUpTo run limit s = ⟨q, s, [], none⟩ := by
  cases limit with
  | zero => rfl
  | succ limit => simp [runUpTo, pop?, h]

theorem pass_of_pending_nil (run : JobRunner J S ε) (budget : Nat) (s : S)
    (h : q.pending = []) :
    q.pass run budget s = ⟨q, s, [], none⟩ :=
  runUpTo_of_pending_nil run _ s h

theorem passLimit_of_pos {budget : Nat} (h : 0 < budget) (q : WorldQueue J) :
    passLimit budget q = budget :=
  if_neg (Nat.ne_of_gt h)

/-- A pass may run so many of the jobs that wait. -/
theorem min_passLimit (budget : Nat) (q : WorldQueue J) :
    min (passLimit budget q) q.size = if budget = 0 then q.size else min budget q.size := by
  unfold passLimit
  split
  · exact Nat.min_self _
  · rfl

/-- Whatever its budget, a pass runs at least one of the jobs that wait. -/
theorem exists_passLimit_eq_succ (budget : Nat) (h : q.pending ≠ []) :
    ∃ limit, passLimit budget q = limit + 1 := by
  have hsize : 0 < q.size := List.length_pos_iff.mpr h
  have hlimit : 0 < passLimit budget q := by
    unfold passLimit
    split
    · exact hsize
    · omega
  exact Nat.exists_eq_succ_of_ne_zero (Nat.ne_of_gt hlimit)

/-- A pass over one job that pushes nothing runs that job, whatever the budget. -/
theorem pass_of_pending_singleton {run : JobRunner J S ε} {job : J} {s s' : S} {ended : JobEnd ε}
    (budget : Nat) (h : q.pending = [job])
    (hrun : run job { q with pending := [] } s = ⟨{ q with pending := [] }, s', .ok ended⟩) :
    q.pass run budget s = ⟨{ q with pending := [] }, s', [(job, ended)], none⟩ := by
  obtain ⟨limit, hlimit⟩ := exists_passLimit_eq_succ (q := q) budget (by simp [h])
  have hpop : q.pop? = some (job, { q with pending := [] }) := by simp [pop?, h]
  have hrest := runUpTo_of_pending_nil (q := { q with pending := [] }) run limit s' rfl
  rw [pass, hlimit, runUpTo, hpop]
  simp only [hrun, hrest]

end WorldQueue
end PacketDispatch
