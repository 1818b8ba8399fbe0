import PacketDispatch.Proofs.Engine.Calls
import PacketDispatch.Proofs.Engine.Counters
import PacketDispatch.Proofs.Schedule.Custody

/-!
# Passes while jobs are pushed

The bound of a pass is set when it starts.  From then on its jobs and other threads may push jobs:
before the first job is taken, while jobs run, and before those that remain are counted.  The bound
holds all the same, and the report says what was taken and what remains.  A pass over the jobs of an
engine moves the engine's counters by what its report says.
-/

namespace PacketDispatch

variable {J ε : Type}

/-- What runs in this way comes to an end and does not break out, whatever its pushes are
answered. -/
def Conduct.Returns : Conduct J ε → Prop
  | .ends ended => ∃ e, ended = .ok e
  | .pushes _ next => ∀ answer, (next answer).Returns

namespace QueueService

open Entry

variable {s s' s'' : QueueService J}

/-- Jobs are pushed one after another. -/
def pushAll (s : QueueService J) (jobs : List J) : QueueService J :=
  jobs.foldl (fun s job => (s.push job).2) s

/-! ## What is pushed -/

/-- The log has grown, and jobs were pushed and none was taken. -/
structure Grows (s s' : QueueService J) (since : List (Entry J)) : Prop where
  log : s'.log = s.log ++ since
  taken : taken since = []
  pending : s'.queue.pending = s.queue.pending ++ accepted since

namespace Grows

variable {since later : List (Entry J)}

theorem refl (s : QueueService J) : Grows s s [] :=
  ⟨(List.append_nil _).symm, rfl, (List.append_nil _).symm⟩

theorem trans (h : Grows s s' since) (h' : Grows s' s'' later) : Grows s s'' (since ++ later) where
  log := by rw [h'.log, h.log, List.append_assoc]
  taken := by rw [taken_append, h.taken, h'.taken, List.append_nil]
  pending := by rw [h'.pending, h.pending, accepted_append, List.append_assoc]

end Grows

theorem exists_grows_push (s : QueueService J) (job : J) :
    ∃ since, Grows s (s.push job).2 since := by
  unfold push
  split
  · rename_i queue hpush
    obtain ⟨-, -, rfl⟩ := WorldQueue.push_eq_ok_iff.mp hpush
    exact ⟨_, rfl, rfl, rfl⟩
  · exact ⟨_, rfl, rfl, (List.append_nil _).symm⟩

theorem exists_grows_pushAll (s : QueueService J) (jobs : List J) :
    ∃ since, Grows s (s.pushAll jobs) since := by
  induction jobs generalizing s with
  | nil => exact ⟨[], Grows.refl s⟩
  | cons job jobs ih =>
      obtain ⟨since, hpush⟩ := s.exists_grows_push job
      obtain ⟨later, hrest⟩ := ih (s.push job).2
      exact ⟨_, hpush.trans hrest⟩

theorem exists_grows_play (s : QueueService J) (c : Conduct J ε) :
    ∃ since, Grows s (s.play c).2 since := by
  induction c generalizing s with
  | ends ended => exact ⟨[], Grows.refl s⟩
  | pushes job next ih =>
      obtain ⟨since, hpush⟩ := s.exists_grows_push job
      obtain ⟨later, hrest⟩ := ih (s.push job).1 (s.push job).2
      exact ⟨_, hpush.trans hrest⟩

theorem exists_play_eq_ok {c : Conduct J ε} (h : c.Returns) (s : QueueService J) :
    ∃ e, (s.play c).1 = .ok e := by
  induction c generalizing s with
  | ends ended => exact h
  | pushes job next ih => exact ih _ (h (s.push job).1) (s.push job).2

/-! ## A part of a pass -/

section Course

variable (conduct : List (Entry J) → J → Conduct J ε)

/-- One job was taken, and jobs were pushed while it ran. -/
structure Takes (s : QueueService J) (job : J) (s' : QueueService J)
    (since : List (Entry J)) : Prop where
  log : s'.log = s.log ++ since
  taken : taken since = [job]
  pending : job :: s'.queue.pending = s.queue.pending ++ accepted since

theorem exists_takes {job : J} {rest : List J} (h : s.queue.pending = job :: rest)
    (c : Conduct J ε) : ∃ since, Takes s job ((s.take job rest).play c).2 since := by
  obtain ⟨pushed, grows⟩ := (s.take job rest).exists_grows_play c
  have hlog : ((s.take job rest).play c).2.log =
      s.log ++ [⟨.took job, { s.queue with pending := rest }⟩] ++ pushed := grows.log
  refine ⟨_, hlog.trans (List.append_assoc _ _ _), ?_, ?_⟩
  · rw [taken_append, taken_singleton, grows.taken]
    rfl
  · rw [grows.pending, accepted_append, accepted_singleton, h]
    rfl

/-- A job comes out in some way where it is the first that waits: so says its conduct, after what
was done before. -/
def ComesOut (job : J) (ended : Except String (JobEnd ε)) : Prop :=
  ∃ (s : QueueService J) (rest : List J), s.queue.pending = job :: rest ∧
    ((s.take job rest).play (conduct s.log job)).1 = ended

/-- The course of a part of a pass: at most `limit` jobs were taken, in the order in which they
came. If none broke out, they are those that ran, and they are as many as waited at first, or
`limit`; otherwise the last one broke out. -/
structure Course (limit : Nat) (s : QueueService J) (since : List (Entry J))
    (p : Pass J (List (Entry J)) ε) : Prop where
  log : p.state = s.log ++ since
  order : taken since ++ p.queue.pending = s.queue.pending ++ accepted since
  bounded : (taken since).length ≤ limit
  ends : ∀ r ∈ p.ran, ComesOut conduct r.1 (.ok r.2)
  ran : p.broken = none → p.ran.map Prod.fst = taken since
  enough : p.broken = none → min limit s.queue.pending.length ≤ (taken since).length
  broke : ∀ reason, p.broken = some reason →
    ∃ job, taken since = p.ran.map Prod.fst ++ [job] ∧ ComesOut conduct job (.error reason)

namespace Course

variable {conduct} {limit : Nat} {since later : List (Entry J)} {job : J}

/-- Nothing is taken when nothing may be taken or nothing waits. -/
theorem idle (h : min limit s.queue.pending.length = 0) :
    Course conduct limit s [] ⟨s.queue, s.log, [], none⟩ where
  log := (List.append_nil _).symm
  order := (List.append_nil _).symm
  bounded := Nat.zero_le limit
  ends _ hr := nomatch hr
  ran _ := rfl
  enough _ := Nat.le_of_eq h
  broke _ h := nomatch h

/-- The job that was taken first breaks out. -/
theorem breaks {reason : String} (h : Takes s job s' since)
    (hended : ComesOut conduct job (.error reason)) :
    Course conduct (limit + 1) s since ⟨s'.queue, s'.log, [], some reason⟩ where
  log := h.log
  order := by rw [h.taken, ← h.pending, List.singleton_append]
  bounded := by simp [h.taken]
  ends _ hr := nomatch hr
  ran h := nomatch h
  enough h := nomatch h
  broke _ hbroken := ⟨job, h.taken, Option.some.inj hbroken ▸ hended⟩

/-- The job that was taken first ends, and the pass goes on. -/
theorem goes_on {p : Pass J (List (Entry J)) ε} {e : JobEnd ε} (h : Takes s job s' since)
    (hended : ComesOut conduct job (.ok e)) (course : Course conduct limit s' later p) :
    Course conduct (limit + 1) s (since ++ later) { p with ran := (job, e) :: p.ran } where
  log := by rw [← List.append_assoc, ← h.log, course.log]
  order := by
    rw [taken_append, accepted_append, h.taken, List.append_assoc, course.order,
      ← List.append_assoc s.queue.pending, ← h.pending, List.singleton_append, List.cons_append]
  bounded := by simpa [h.taken] using course.bounded
  ends := List.forall_mem_cons.mpr ⟨hended, course.ends⟩
  ran hdone := by simp [h.taken, course.ran hdone]
  enough hdone := by
    have hlater := course.enough hdone
    have hsize := congrArg List.length h.pending
    simp only [List.length_cons, List.length_append] at hsize
    simp only [taken_append, h.taken, List.length_append, List.length_singleton]
    omega
  broke reason hbroken := by
    obtain ⟨last, hlast, hlastEnded⟩ := course.broke reason hbroken
    exact ⟨last, by simp [h.taken, hlast], hlastEnded⟩

/-- The course of a part of a pass that starts when some jobs have been pushed. -/
theorem of_grows {p : Pass J (List (Entry J)) ε} (course : Course conduct limit s' later p)
    (h : Grows s s' since) : Course conduct limit s (since ++ later) p where
  log := by rw [← List.append_assoc, ← h.log, course.log]
  order := by
    rw [taken_append, accepted_append, h.taken, List.nil_append, course.order, h.pending,
      List.append_assoc]
  bounded := by simpa [h.taken] using course.bounded
  ends := course.ends
  ran hdone := by simp [h.taken, course.ran hdone]
  enough hdone := by
    have hlater := course.enough hdone
    rw [h.pending, List.length_append] at hlater
    rw [taken_append, h.taken, List.nil_append]
    omega
  broke := by simpa [h.taken] using course.broke

/-- The course of a part of a pass after which some jobs are pushed. -/
theorem grows {p : Pass J (List (Entry J)) ε} (course : Course conduct limit s since p)
    (h : Grows (ofPass p) s' later) :
    Course conduct limit s (since ++ later) { p with queue := s'.queue, state := s'.log } where
  log := by
    rw [← List.append_assoc, ← course.log]
    exact h.log
  order := by
    have hpending : s'.queue.pending = p.queue.pending ++ accepted later := h.pending
    rw [taken_append, accepted_append, h.taken, List.append_nil, hpending, ← List.append_assoc,
      course.order, List.append_assoc]
  bounded := by simpa [h.taken] using course.bounded
  ends := course.ends
  ran hdone := by simp [h.taken, course.ran hdone]
  enough hdone := by simpa [h.taken] using course.enough hdone
  broke := by simpa [h.taken] using course.broke

/-! What follows from the course that a pass took. -/

section Results

variable {p : Pass J (List (Entry J)) ε}

/-- No pass breaks off when no job breaks out. -/
theorem broken_of_returns (course : Course conduct limit s since p)
    (returns : ∀ log job, (conduct log job).Returns) : p.broken = none := by
  rw [Option.eq_none_iff_forall_ne_some]
  intro reason hbroken
  obtain ⟨job, -, s, rest, -, hended⟩ := course.broke reason hbroken
  obtain ⟨e, hreturned⟩ := exists_play_eq_ok (returns s.log job) (s.take job rest)
  rw [hreturned] at hended
  cases hended

theorem executed (course : Course conduct limit s since p) (ended : p.broken = none) :
    p.report.executed = (taken since).length := by
  rw [← course.ran ended, List.length_map]
  rfl

/-- A pass without a budget takes none but jobs that waited when it started. -/
theorem taken_of_unlimited (course : Course conduct s.queue.size s since p) :
    taken since <+: s.queue.pending := by
  have htaken : taken since <+: s.queue.pending ++ accepted since :=
    course.order ▸ List.prefix_append _ _
  exact List.prefix_of_prefix_length_le htaken (List.prefix_append _ _) course.bounded

/-- A pass without a budget that does not break off takes them all, and keeps what was pushed. -/
theorem all_of_unlimited (course : Course conduct s.queue.size s since p)
    (ended : p.broken = none) :
    taken since = s.queue.pending ∧ p.queue.pending = accepted since := by
  have henough := course.enough ended
  rw [WorldQueue.size, Nat.min_self] at henough
  have hall : taken since = s.queue.pending :=
    course.taken_of_unlimited.eq_of_length_le henough
  exact ⟨hall, List.append_cancel_left (hall ▸ course.order)⟩

/-- When nothing is pushed, a pass takes as many jobs as waited, or as its limit allows. -/
theorem length_taken_of_quiet (course : Course conduct limit s since p) (ended : p.broken = none)
    (quiet : accepted since = []) :
    (taken since).length = min limit s.queue.size ∧
      (taken since).length + p.queue.size = s.queue.size := by
  have henough := course.enough ended
  have hbounded := course.bounded
  have hsize := congrArg List.length course.order
  rw [quiet, List.append_nil, List.length_append] at hsize
  unfold WorldQueue.size
  omega

end Results

end Course

theorem exists_course (limit : Nat) (s : QueueService J) :
    ∃ since, Course conduct limit s since (s.queue.runUpTo (runner conduct) limit s.log) := by
  induction limit generalizing s with
  | zero => exact ⟨[], Course.idle (Nat.zero_min _)⟩
  | succ limit ih =>
      cases hpending : s.queue.pending with
      | nil =>
          rw [WorldQueue.runUpTo_of_pending_nil _ _ _ hpending]
          exact ⟨[], Course.idle (by rw [hpending]; rfl)⟩
      | cons job rest =>
          -- The rest of the pass may take one job less, from a queue at whose end are the jobs that
          -- were pushed while this one ran.
          obtain ⟨since, takes⟩ := exists_takes hpending (conduct s.log job)
          simp only [runUpTo_of_pending_cons conduct limit hpending]
          cases hended : ((s.take job rest).play (conduct s.log job)).1 with
          | error reason => exact ⟨since, Course.breaks takes ⟨s, rest, hpending, hended⟩⟩
          | ok e =>
              obtain ⟨later, course⟩ := ih ((s.take job rest).play (conduct s.log job)).2
              exact ⟨since ++ later, Course.goes_on takes ⟨s, rest, hpending, hended⟩ course⟩

/-! ## A whole pass -/

/-- A pass that others interrupt: they push some jobs when its bound is set, before a job is taken,
and some when the last job has run, before those that remain are counted. What they push in between
is pushed while a job runs. -/
def passAmid (budget : Nat) (first last : List J) (s : QueueService J) :
    Pass J (List (Entry J)) ε :=
  let begun := s.pushAll first
  let p := begun.queue.runUpTo (runner conduct) (WorldQueue.passLimit budget s.queue) begun.log
  let done := (ofPass p).pushAll last
  { p with queue := done.queue, state := done.log }

/-- What others push before and after makes no difference to the bound, nor to the jobs that waited
when it was set. -/
theorem exists_course_passAmid (budget : Nat) (first last : List J) (s : QueueService J) :
    ∃ since, Course conduct (WorldQueue.passLimit budget s.queue) s since
      (s.passAmid conduct budget first last) := by
  obtain ⟨before, hbefore⟩ := s.exists_grows_pushAll first
  obtain ⟨since, course⟩ :=
    exists_course conduct (WorldQueue.passLimit budget s.queue) (s.pushAll first)
  obtain ⟨after, hafter⟩ := exists_grows_pushAll (ofPass ((s.pushAll first).queue.runUpTo
    (runner conduct) (WorldQueue.passLimit budget s.queue) (s.pushAll first).log)) last
  exact ⟨before ++ since ++ after, (course.of_grows hbefore).grows hafter⟩

end Course
end QueueService

/-! ## The counters of an engine -/

/-- Between two tallies, the ends of jobs were counted that a report tells of, and no others. -/
structure PassReport.Counted (r : PassReport) (before after : Tally) : Prop where
  completed : after.completed = before.completed + r.completed
  handlerFailures : after.handlerFailures = before.handlerFailures + r.failed
  sessionsGone : after.sessionsGone = before.sessionsGone + r.sessionsGone

/-- Jobs of an engine run while others act: `meanwhile` says what they have done to the queue and
the scene by the end of a job. -/
def Job.runAmid {σ : Type}
    (meanwhile : Job σ → WorldQueue (Job σ) → Scene σ → WorldQueue (Job σ) × Scene σ) :
    JobRunner (Job σ) (Scene σ) HandlerError :=
  fun j q s =>
    let r := j.run q s
    let (q, s) := meanwhile j r.queue r.state
    ⟨q, s, r.ended⟩

namespace WorldQueue

variable {σ : Type}
  (meanwhile : Job σ → WorldQueue (Job σ) → Scene σ → WorldQueue (Job σ) × Scene σ)

/-- The ends of jobs move a counter as often as it is theirs, when others leave it alone. -/
theorem count_runUpTo_runAmid {k : Counter}
    (aside : ∀ j q s, (meanwhile j q s).2.tally.count k = s.tally.count k) (limit : Nat)
    (q : WorldQueue (Job σ)) (s : Scene σ) :
    let p := q.runUpTo (Job.runAmid meanwhile) limit s
    p.broken = none ∧
      p.state.tally.count k = s.tally.count k + p.ran.countP fun r => r.2.counter = k := by
  induction limit generalizing q s with
  | zero => exact ⟨rfl, rfl⟩
  | succ limit ih =>
      cases hpop : q.pop? with
      | none => simp [runUpTo, hpop]
      | some popped =>
          obtain ⟨j, rest⟩ := popped
          obtain ⟨hbroken, hcount⟩ := ih (Job.runAmid meanwhile j rest s).queue
            (Job.runAmid meanwhile j rest s).state
          have hjob : (Job.runAmid meanwhile j rest s).state.tally.count k =
              s.tally.count k + if k = (j.make .world s).ended.counter then 1 else 0 := by
            rw [← (j.make_spec .world s).tally, ← Tally.count_recordJob]
            exact aside j rest _
          have hended : (Job.runAmid meanwhile j rest s).ended = .ok (j.make .world s).ended := rfl
          simp only [runUpTo, hpop, hended]
          refine ⟨hbroken, ?_⟩
          rw [hcount, hjob, List.countP_cons]
          simp only [decide_eq_true_eq, eq_comm (a := k)]
          omega

/-- When others leave the counters of jobs alone, a part of a pass does not break off, and its
report tells what was counted. -/
theorem counted_runUpTo_runAmid
    (aside : ∀ j q s, ∀ k ∈ Counter.ofJobs, (meanwhile j q s).2.tally.count k = s.tally.count k)
    (limit : Nat) (q : WorldQueue (Job σ)) (s : Scene σ) :
    let p := q.runUpTo (Job.runAmid meanwhile) limit s
    p.broken = none ∧ p.report.Counted s.tally p.state.tally := by
  have hmoves : ∀ k ∈ Counter.ofJobs, _ := fun k hk =>
    count_runUpTo_runAmid meanwhile (fun j q s => aside j q s k hk) limit q s
  obtain ⟨hbroken, hcompleted⟩ := hmoves .completed (by simp [Counter.ofJobs])
  obtain ⟨-, hfailed⟩ := hmoves .handlerFailures (by simp [Counter.ofJobs])
  obtain ⟨-, hgone⟩ := hmoves .sessionsGone (by simp [Counter.ofJobs])
  simp only [JobEnd.isCompleted_eq, JobEnd.isFailed_eq, JobEnd.isGone_eq, Pass.report]
  exact ⟨hbroken, hcompleted, hfailed, hgone⟩

end WorldQueue

namespace QueueService

open Entry

/-- While a pass runs over a queue in which some jobs wait, its jobs and others push what they like:
`first` before a job is taken, `last` before the jobs that remain are counted, and the rest while
jobs run, as `conduct` says. The jobs that are taken and then those that wait at the end are those
that waited at the start and then the accepted ones, in their order. At most `budget` jobs are taken
and, without a budget, only those that waited at the start. A pass breaks off only with a job that
breaks out, the last one that it took, and not at all when its jobs return. If it does not break
off, then without a budget all the jobs have run that waited at the start, and those that were
pushed wait. The report counts the jobs by the ways in which they came out, adds up, and counts the jobs
that wait; if no push was accepted, as many jobs were executed as waited, or as the budget allows,
and the others remain. A pass over jobs of an engine does not break off, and the counters of
completed, failed and discarded jobs rise by what its report says, also while others act that leave
these counters alone. -/
theorem pass_bounded_and_truthful (conduct : List (Entry J) → J → Conduct J ε)
    (s : QueueService J) (budget : Nat) (first last : List J) :
    (let p := s.passAmid conduct budget first last
      let waiting := s.queue.pending
      ∃ since, p.state = s.log ++ since ∧
        taken since ++ p.queue.pending = waiting ++ accepted since ∧
        (0 < budget → (taken since).length ≤ budget) ∧
        (budget = 0 → taken since <+: waiting) ∧
        (∀ r ∈ p.ran, ComesOut conduct r.1 (.ok r.2)) ∧
        ((∀ log job, (conduct log job).Returns) → p.broken = none) ∧
        (∀ reason, p.broken = some reason →
          ∃ job, taken since = p.ran.map Prod.fst ++ [job] ∧
            ComesOut conduct job (.error reason)) ∧
        (p.broken = none →
          p.ran.map Prod.fst = taken since ∧
          (budget = 0 → taken since = waiting ∧ p.queue.pending = accepted since) ∧
          p.report.executed = p.report.completed + p.report.failed + p.report.sessionsGone ∧
          p.report.remaining = p.queue.pending.length ∧
          (accepted since = [] →
            p.report.executed =
              (if budget = 0 then waiting.length else min budget waiting.length) ∧
            p.report.remaining = waiting.length - p.report.executed))) ∧
      (∀ {σ : Type} (e : Engine σ),
        (e.queue.pass Job.run budget e.scene).broken = none ∧
          (e.drain budget).1.Counted e.scene.tally (e.drain budget).2.scene.tally) ∧
      ∀ {σ : Type} (meanwhile : Job σ → WorldQueue (Job σ) → Scene σ →
          WorldQueue (Job σ) × Scene σ),
        (∀ j q scene, ∀ k ∈ Counter.ofJobs,
          (meanwhile j q scene).2.tally.count k = scene.tally.count k) →
        ∀ (limit : Nat) (q : WorldQueue (Job σ)) (scene : Scene σ),
          let p := q.runUpTo (Job.runAmid meanwhile) limit scene
          p.broken = none ∧ p.report.Counted scene.tally p.state.tally := by
  refine ⟨?_, ?_, ?_⟩
  · obtain ⟨since, course⟩ := exists_course_passAmid conduct budget first last s
    refine ⟨since, course.log, course.order, ?_, ?_, course.ends, course.broken_of_returns,
      course.broke, ?_⟩
    · intro hbudget
      rw [← WorldQueue.passLimit_of_pos hbudget s.queue]
      exact course.bounded
    · rintro rfl
      exact course.taken_of_unlimited
    · intro ended
      refine ⟨course.ran ended, ?_, Pass.report_executed _, rfl, ?_⟩
      · rintro rfl
        exact course.all_of_unlimited ended
      · intro quiet
        obtain ⟨htaken, hremaining⟩ := course.length_taken_of_quiet ended quiet
        have hexecuted := course.executed ended
        refine ⟨hexecuted.trans (htaken.trans (WorldQueue.min_passLimit budget s.queue)),
          Nat.eq_sub_of_add_eq' ?_⟩
        rw [hexecuted]
        exact hremaining
  · intro σ e
    exact WorldQueue.counted_runUpTo_runAmid (fun _ q scene => (q, scene)) (fun _ _ _ _ _ => rfl)
      (WorldQueue.passLimit budget e.queue) e.queue e.scene
  · intro σ meanwhile aside
    exact WorldQueue.counted_runUpTo_runAmid meanwhile aside

/-- Job 0 pushes job 7 while it runs. -/
def pushingBack : List (Entry Nat) → Nat → Conduct Nat Unit
  | _, 0 => .pushes 7 fun _ => .ends (.ok .completed)
  | _, _ => .ends (.ok .completed)

/-- Some jobs wait where there is room for four. -/
def serving (jobs : List Nat) : QueueService Nat :=
  ⟨⟨4, true, jobs⟩, []⟩

/-- A job that does nothing to a session. -/
def idleJob (ref : SessionRef) : Job Unit :=
  ⟨0, ref, ⟨"", 0, fun _ session => ⟨session, .returned, [], false⟩⟩, 0, ⟨""⟩, 0⟩

/-- A session is connected; a job waits for it, and one for a session that is gone. -/
def idleEngine : Engine Unit :=
  { Engine.create .standard (Pool.start 1) ⟨4, true, [idleJob 0, idleJob 1]⟩ with
    scene := (Scene.empty.connect ()).2 }

/-- Others push each job again. -/
def pushAgain (j : Job Unit) (q : WorldQueue (Job Unit)) (s : Scene Unit) :
    WorldQueue (Job Unit) × Scene Unit :=
  ({ q with pending := q.pending ++ [j] }, s)

theorem pass_bounded_and_truthful_reentrant :
    (let p := (serving [0, 2]).passAmid pushingBack 0 [3] [4]
     p.broken = none ∧ p.ran.map Prod.fst = [0, 2] ∧ p.queue.pending = [3, 7, 4] ∧
      p.report.executed = p.report.completed + p.report.failed + p.report.sessionsGone) ∧
    (let p := (serving [2, 5]).passAmid pushingBack 1 [] []
     p.report.executed = 1 ∧ p.report.remaining = 1) ∧
    (idleEngine.drain 0).2.scene.tally.sessionsGone = 1 ∧
    (let p := idleEngine.queue.runUpTo (Job.runAmid pushAgain) 1 idleEngine.scene
     p.report.remaining = 2 ∧ p.state.tally.completed = 1) := by
  obtain ⟨⟨since, hlog, -, -, -, -, hreturns, -, hended⟩, hdrain, hamid⟩ :=
    pass_bounded_and_truthful pushingBack (serving [0, 2]) 0 [3] [4]
  obtain ⟨⟨later, hlater, -, -, -, -, -, -, hquiet⟩, -⟩ :=
    pass_bounded_and_truthful pushingBack (serving [2, 5]) 1 [] []
  have hbroken : ((serving [0, 2]).passAmid pushingBack 0 [3] [4]).broken = none := by
    refine hreturns fun log job => ?_
    cases job with
    | zero => exact fun _ => ⟨_, rfl⟩
    | succ job => exact ⟨_, rfl⟩
  obtain ⟨hran, hall, hends, -⟩ := hended hbroken
  obtain ⟨htaken, hpushed⟩ := hall rfl
  have hsince : accepted since = [3, 7, 4] := by
    rw [serving, List.nil_append] at hlog
    rw [← hlog]
    rfl
  have hnone : accepted later = [] := by
    rw [serving, List.nil_append] at hlater
    rw [← hlater]
    rfl
  obtain ⟨-, -, -, -, hcounts⟩ := hquiet rfl
  refine ⟨⟨hbroken, hran.trans htaken, hpushed.trans hsince, hends⟩, hcounts hnone,
    (hdrain idleEngine).2.sessionsGone, rfl, ?_⟩
  exact (hamid pushAgain (fun _ _ _ _ _ => rfl) 1 idleEngine.queue idleEngine.scene).2.completed

end QueueService
end PacketDispatch
