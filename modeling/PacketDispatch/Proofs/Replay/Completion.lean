import PacketDispatch.Proofs.Engine.Rest
import PacketDispatch.Proofs.Replay.Accounting
import PacketDispatch.Proofs.World.Decoding
import PacketDispatch.Proofs.World.Settling

/-!
# Replays come to their end

With settings that pass their checks a replay of any trace comes to its end, and on its way nothing
is out of bounds: the queue and the pool can be built, the table is there before the first message,
no payload is left by a read, no count is more than the number of records, every permit that was
taken is given back, and neither settling nor awaiting the pool goes on for ever.
-/

namespace PacketDispatch

/-- Settings fit when they pass their checks with the permits that the machine gets by default. -/
theorem Settings.fits_of_validate {s : Settings} {processors : Nat} (valid : s.validate = .ok ())
    (permits : checkSize "worker_permits" (s.dispatch.permits processors) = .ok ()) :
    s.dispatch.Fits processors := by
  refine ⟨?_, permits⟩
  unfold Settings.validate at valid
  cases hdispatch : s.dispatch.validate with
  | ok done => rfl
  | error fault =>
      rw [hdispatch] at valid
      cases valid

namespace Replay

/-! ## The totals of the world loop -/

/-- A record is skipped, or its message was sent and the replay carried on. -/
theorem Run.step_eq_ok_cases {timing : Timing} {grace : Nat} {record : Record} {r r' : Run}
    (h : r.step timing grace record = .ok r') :
    (∃ fault, r' = r.skip record fault) ∨
      ∃ env outcome arrived,
        r' = ((r.member record.session grace).2.sent (timing.beforeCount r.log.length) record env
          outcome arrived).carryOn timing r.log.length := by
  cases hpayload : Run.payload record with
  | error fault =>
      rw [r.step_of_fault timing grace hpayload] at h
      exact Or.inl ⟨fault, (Except.ok.inj h).symm⟩
  | ok bytes =>
      rcases hfound : r.member record.session grace with ⟨m, begun⟩
      cases harrive : begun.world.engine.arrive record.phase m.ref (m.envelope record bytes) with
      | error fault =>
          simp only [Member.envelope] at harrive
          simp only [Run.step, hpayload, hfound, Run.send, Run.countSent, harrive] at h
          cases h
      | ok entry =>
          rw [Run.step_of_arrive timing grace hpayload hfound harrive] at h
          exact Or.inr ⟨_, _, _, (Except.ok.inj h).symm⟩

/-- The loop has ticked once for each record that was dispatched, and jobs that failed or found
their session gone are among those that ran. -/
structure Run.Totalled (r : Run) : Prop where
  ticks : r.world.report.ticks = r.log.length
  ends : r.world.report.failed + r.world.report.sessionsGone ≤ r.world.report.executed

namespace Run.Totalled

variable {timing : Timing} {grace : Nat} {r r' : Run}

theorem member (h : r.Totalled) (number : UInt32) (grace : Nat) :
    (r.member number grace).2.Totalled := by
  rcases r.member_cases number grace with ⟨m, -, -, hmember⟩ | ⟨-, hmember⟩
  · rw [hmember]
    exact h
  · rw [hmember]
    exact ⟨h.ticks, h.ends⟩

/-- The loop ticks once after each message. -/
theorem carryOn_sent (h : r.Totalled) (events : List Background) (record : Record)
    (env : Envelope) (outcome : Outcome) (arrived : Engine WorldSession) (timing : Timing)
    (place : Nat) : ((r.sent events record env outcome arrived).carryOn timing place).Totalled := by
  obtain ⟨report, -, adds, -, hreport⟩ := World.exists_tick_eq
    ((r.sent events record env outcome arrived).happen (timing.afterDispatch place)).world
  have hcarried : ((r.sent events record env outcome arrived).carryOn timing place).world.report =
      r.world.report.absorb report := hreport
  have hends := adds.ends
  have hold := h.ends
  constructor
  · rw [hcarried, Run.carryOn_log, Run.sent, List.length_append, ← h.ticks]
    rfl
  · rw [hcarried]
    simp only [LoopReport.absorb]
    omega

theorem step (h : r.Totalled) {record : Record} (hstep : r.step timing grace record = .ok r') :
    r'.Totalled := by
  rcases Run.step_eq_ok_cases hstep with ⟨fault, rfl⟩ | ⟨env, outcome, arrived, rfl⟩
  · exact ⟨h.ticks, h.ends⟩
  · exact (h.member record.session grace).carryOn_sent _ record env outcome arrived timing _

theorem stepAll (h : r.Totalled) {records : List Record}
    (hsteps : Run.stepAll timing grace records r = .ok r') : r'.Totalled := by
  induction records generalizing r with
  | nil => exact Except.ok.inj hsteps ▸ h
  | cons record rest ih =>
      rw [Run.stepAll] at hsteps
      cases hstep : r.step timing grace record with
      | error fault =>
          rw [hstep] at hsteps
          cases hsteps
      | ok between =>
          rw [hstep] at hsteps
          exact ih (h.step hstep) hsteps

/-- The loop does not tick at the end, when there is nothing to settle. -/
theorem finish (h : r.Totalled) (settled : r.world.engine.queue.pending = []) (timing : Timing)
    (records : Nat) : (r.finish timing records).Totalled := by
  obtain ⟨events, hfinish, -⟩ := Run.exists_finish_eq settled timing records
  rw [hfinish]
  exact ⟨h.ticks, h.ends⟩

end Run.Totalled

/-! ## Bounds -/

/-- No counter says more than how many messages have arrived. -/
theorem Books.count_le {t : Table WorldSession} {permits : Nat} {s : Traffic WorldSession}
    (books : Books t permits s) (idle : s.underway = []) (k : Counter) :
    s.engine.scene.tally.count k ≤ s.arrivals.length := by
  have hreceived := books.tallied.received_eq idle
  have hscheduled := books.tallied.scheduled_eq idle
  have hbalance := books.balanced.received
  rw [Traffic.handedOver, idle, List.countP_nil] at hbalance
  have hle : s.arrivals.countP (fun a => a.outcome.counter = .scheduled) ≤ s.arrivals.length :=
    List.countP_le_length
  simp only [Tally.settled, Tally.dropped] at hbalance
  cases k <;> simp only [Tally.count] <;> omega

/-- A replay that has read some number of records is within its bounds: the table is there, every
permit is free or held by an accepted job that has not ended, the world thread has caught up, every
record is counted once, and no count is more than the number of records. -/
structure WithinBounds (t : Table WorldSession) (permits records : Nat) (r : Run) : Prop where
  installed : r.world.engine.table = some t
  permits : r.world.engine.pool.free + r.world.engine.pool.unfinished = permits
  settled : r.world.engine.queue.pending = []
  summary : r.summary.completed + r.summary.scheduled + r.summary.ignored +
    r.summary.handlerFailed + r.summary.dropped + r.summary.skipped = records
  members : r.members.length ≤ records
  sent : ∀ m ∈ r.members, m.sent ≤ records
  counts : ∀ k, r.world.engine.scene.tally.count k ≤ records
  drops : ∀ id, r.world.engine.scene.tally.dropsOf id ≤ records
  ticks : r.world.report.ticks ≤ records
  executed : r.world.report.executed ≤ records
  ends : r.world.report.failed + r.world.report.sessionsGone ≤ r.world.report.executed

theorem Between.withinBounds {t : Table WorldSession} {permits : Nat} {read : List Record}
    {r : Run} {s : Traffic WorldSession} (h : Between t read r s) (books : Books t permits s)
    (totalled : r.Totalled) : WithinBounds t permits read.length r := by
  have hlength := h.length_read
  have hlog := h.length_log_le
  have harrivals := h.seen.length_arrivals
  have hbalance := books.permits
  rw [Traffic.PermitsKept, Pool.Balanced, h.seen.engine] at hbalance
  exact {
    installed := h.seen.installed
    permits := hbalance.1.trans hbalance.2
    settled := h.settled
    summary := by
      have hsum := h.seen.summary.sum_eq_length
      omega
    members := by
      rw [h.length_members]
      refine Nat.le_trans (List.dedup_sublist _).length_le ?_
      rw [List.length_map]
      exact List.length_filter_le _ _
    sent := by
      intro m hm
      rw [h.seen.roster.sent m hm]
      exact Nat.le_trans List.countP_le_length hlog
    counts := by
      intro k
      rw [← h.seen.engine]
      exact Nat.le_trans (books.count_le h.seen.idle k) (harrivals ▸ hlog)
    drops := by
      intro id
      rw [← h.seen.engine, books.tallied.dropsOf_eq h.seen.idle id]
      exact Nat.le_trans List.countP_le_length (harrivals ▸ hlog)
    ticks := totalled.ticks ▸ hlog
    executed := by
      rw [h.executed_eq books.ledger]
      exact Nat.le_trans List.countP_le_length hlog
    ends := totalled.ends }

/-- A pool that goes on working after some records has all its permits back after some time. -/
theorem exists_permits_free {t : Table WorldSession} {permits capacity : Nat} {r : Run}
    {s : Traffic WorldSession}
    (leads : Traffic.Leads (Traffic.opening .standard permits capacity t) s) (seen : Seen t r s)
    {events : Nat → Background} (goesOn : r.world.engine.PoolGoesOn events) :
    ∃ n, ∀ m, n ≤ m → (r.world.engine.afterFirst events m).pool.free = permits := by
  obtain ⟨n, hrest⟩ := goesOn.exists_rest
  refine ⟨n, fun m hm => ?_⟩
  obtain ⟨s', leads', seen'⟩ := seen.happen ((List.range m).map events)
  have hbalance := (books_of_leads (leads.trans leads')).permits
  rw [Traffic.PermitsKept, Pool.Balanced, seen'.engine] at hbalance
  change (r.world.engine.afterFirst events m).pool.free +
    (r.world.engine.afterFirst events m).pool.unfinished =
      (r.world.engine.afterFirst events m).pool.capacity ∧
    (r.world.engine.afterFirst events m).pool.capacity = permits at hbalance
  have hzero := hrest m hm
  omega

/-- Every trace is replayed to its end, and within its bounds all the way. -/
theorem exists_run_withinBounds (t : Table WorldSession) (permits budget : Nat) {capacity : Nat}
    (room : 0 < capacity) (timing : Timing) (grace : Nat) (trace : List Record) :
    ∃ r, run timing grace trace (World.start ((Engine.create .standard (Pool.start permits)
        (WorldQueue.empty capacity)).withTable t) budget) = .ok r ∧
      WithinBounds t permits trace.length r ∧ r.world.engine.pool.unfinished = 0 := by
  obtain ⟨r, s, hrun, leads, between⟩ :=
    (Between.start (t := t) permits budget room).stepAll timing grace trace
  rw [List.nil_append] at between
  obtain ⟨s', leads', finished⟩ := between.finish timing
  have totalled : r.Totalled := Run.Totalled.stepAll ⟨rfl, Nat.le_refl _⟩ hrun
  refine ⟨r.finish timing trace.length, ?_, ?_, finished.pool⟩
  · rw [run, hrun]
    rfl
  · exact finished.toBetween.withinBounds (books_of_leads (leads.trans leads'))
      (totalled.finish between.settled timing trace.length)

/-- A replay in settings that pass their checks comes to its end, whatever its trace and however its
pool is timed. The world queue and the pool have sizes from which they can be built. After each
number of records, and at the end, the replay is within its bounds; a pool that goes on working from
there has all its permits back after some time, and so the pool is awaited in the end and every
permit is free. In every world a tick comes to its end with a report that adds up, and ticks that
follow each other leave no job. No payload is left by a read of the production table, and no number
is cut short. -/
theorem replay_comes_to_its_end {s : Settings} {processors : Nat} (valid : s.validate = .ok ())
    (permits : Settings.checkSize "worker_permits" (s.dispatch.permits processors) = .ok ())
    (timing : Timing) (trace : List Record) :
    (0 < s.dispatch.worldQueueCapacity ∧ s.dispatch.worldQueueCapacity ≤ maxSize) ∧
    (0 < s.dispatch.permits processors ∧ s.dispatch.permits processors ≤ maxSize) ∧
    ∃ w r, Console.buildWorld s.dispatch processors WorldSession.opening.table = .ok w ∧
      run timing s.dispatch.graceMs trace w = .ok r ∧
      (∃ r', Console.replay s processors WorldSession.opening.table trace = .ok r') ∧
      WithinBounds WorldSession.opening.table (s.dispatch.permits processors) trace.length r ∧
      r.world.engine.pool.unfinished = 0 ∧
      r.world.engine.pool.free = s.dispatch.permits processors ∧
      (∀ n, ∃ part,
        Run.stepAll timing s.dispatch.graceMs (trace.take n) (Run.start w) = .ok part ∧
        WithinBounds WorldSession.opening.table (s.dispatch.permits processors)
          (min n trace.length) part ∧
        ∀ events, part.world.engine.PoolGoesOn events → ∃ k, ∀ m, k ≤ m →
          (part.world.engine.afterFirst events m).pool.free = s.dispatch.permits processors) ∧
      (∀ w : World WorldSession,
        (∃ report, w.tick.1 = .ok report ∧ report.Adds w.engine.queue.size) ∧
        w.settle.engine.queue.pending = []) ∧
      WorldSession.opening.table.DecodesInBounds ∧ Wire.NumbersWhole := by
  have fits := Settings.fits_of_validate valid permits
  have hcapacity := Settings.Dispatch.capacity_of_validate fits.valid
  have hworld := fits.buildWorld WorldSession.opening.table
  obtain ⟨r, hrun, within, hpool⟩ :=
    exists_run_withinBounds WorldSession.opening.table (s.dispatch.permits processors)
      s.dispatch.worldDrainBudget hcapacity.1 timing s.dispatch.graceMs trace
  obtain ⟨r', hrun', -, -⟩ :=
    exists_run_withinBounds WorldSession.opening.table (s.dispatch.permits processors)
      s.dispatch.worldDrainBudget hcapacity.1 .eager s.dispatch.graceMs trace
  have hconsole : Console.replay s processors WorldSession.opening.table trace = .ok r' := by
    simp only [Console.replay, hworld, Settings.Dispatch.opening, hrun']
  have hfree := within.permits
  refine ⟨hcapacity, Settings.checkSize_eq_ok_iff.mp permits, _, r, hworld, hrun, ⟨r', hconsole⟩,
    within, hpool, by omega, fun n => ?_, fun w => ?_, WorldSession.decodesInBounds_opening,
    Wire.numbersWhole⟩
  · obtain ⟨part, s', hpart, leads, between⟩ :=
      (Between.start (t := WorldSession.opening.table) (s.dispatch.permits processors)
        s.dispatch.worldDrainBudget hcapacity.1).stepAll timing s.dispatch.graceMs (trace.take n)
    have bounds := between.withinBounds (books_of_leads leads)
      (Run.Totalled.stepAll ⟨rfl, Nat.le_refl _⟩ hpart)
    rw [List.nil_append, List.length_take] at bounds
    exact ⟨part, hpart, bounds, fun events => exists_permits_free leads between.seen⟩
  · obtain ⟨report, htick, adds, -, -⟩ := w.exists_tick_eq
    exact ⟨⟨report, htick, adds⟩, w.pending_settle⟩

/-- Records of two sessions with payloads that are no base 64, too short, too long, not terminated or
no text, and with opcodes that no table has. -/
def hostileTrace : List Record :=
  [⟨7, .authed, 0x03D, ""⟩, ⟨7, .loggedIn, 0x050, "AAE="⟩, ⟨9, .authed, 0x050, "?"⟩,
    ⟨7, .loggedIn, 0x2CE, "/w=="⟩, ⟨9, .queued, 0xFFFFFFFF, "AAAA"⟩,
    ⟨9, .authed, 0x2C7, "/////////////w=="⟩, ⟨7, .loggedIn, 0x04B, "AAAAAAAAAAAAAAAA"⟩]

theorem replay_comes_to_its_end_hostile :
    let s : Settings := { dispatch := ⟨some 1, 1, 1, 50, 20, false⟩ }
    s.validate = .ok () ∧
    ∃ w r, Console.buildWorld s.dispatch 4 WorldSession.opening.table = .ok w ∧
      run idlePool s.dispatch.graceMs hostileTrace w = .ok r ∧
      WithinBounds WorldSession.opening.table 1 7 r ∧ r.world.engine.pool.free = 1 := by
  intro s
  have valid : s.validate = .ok () := by decide
  have permits : Settings.checkSize "worker_permits" (s.dispatch.permits 4) = .ok () := rfl
  obtain ⟨-, -, w, r, hworld, hrun, -, within, -, hfree, -⟩ :=
    replay_comes_to_its_end valid permits idlePool hostileTrace
  exact ⟨valid, w, r, hworld, hrun, within, hfree⟩

end Replay
end PacketDispatch
