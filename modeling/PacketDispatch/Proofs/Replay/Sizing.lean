import PacketDispatch.Proofs.Replay.Accounting

/-!
# Replays and the size of the world queue

The world ticks after each message of a replay.  So its queue is clear whenever a message arrives,
and neither its capacity nor the budget of the ticks can be told from what a replay does: two
replays that differ in these alone stay in step.
-/

namespace PacketDispatch

/-- The world with another capacity of its queue and another budget of its ticks. -/
def World.resized {σ : Type} (w : World σ) (capacity budget : Nat) : World σ :=
  { w with engine := w.engine.resized capacity, budget := budget }

namespace Replay

/-- The replay in a resized world. -/
def Run.resized (r : Run) (capacity budget : Nat) : Run :=
  { r with world := r.world.resized capacity budget }

namespace Run

/-! ## One operation in two worlds -/

theorem happen_resized (r : Run) (capacity budget : Nat) (events : List Background) :
    (r.resized capacity budget).happen events =
      (r.happen events).resized capacity budget := by
  have hhappen := (Engine.unseen_resized capacity).happenAll r.world.engine events
  simp only [happen, resized, World.mapEngine, World.resized, hhappen]

theorem member_resized (r : Run) (capacity budget : Nat) (number : UInt32) (grace : Nat) :
    (r.resized capacity budget).member number grace =
      ((r.member number grace).1, (r.member number grace).2.resized capacity budget) := by
  have hmembers : (r.resized capacity budget).members = r.members := rfl
  simp only [member, hmembers]
  cases r.members.find? fun m => m.number == number <;> rfl

theorem sent_resized (r : Run) (capacity budget : Nat) (events : List Background)
    (record : Record) (env : Envelope) (outcome : Outcome) (arrived : Engine WorldSession) :
    (r.resized capacity budget).sent events record env outcome (arrived.resized capacity) =
      (r.sent events record env outcome arrived).resized capacity budget := by
  simp only [sent, (Engine.unseen_resized capacity).happenAll arrived events]
  rfl

/-- The budget of a tick over one job at most makes no difference. -/
theorem tick_resized {r : Run} (capacity budget : Nat)
    (short : r.world.engine.queue.pending.length ≤ 1) :
    (r.resized capacity budget).tick = r.tick.resized capacity budget := by
  rcases nil_or_singleton_of_length_le_one short with hpending | ⟨j, hpending⟩
  · have hpending' : (r.resized capacity budget).world.engine.queue.pending = [] := hpending
    rw [tick, tick, World.tick_of_pending_nil hpending, World.tick_of_pending_nil hpending']
    rfl
  · have hpending' : (r.resized capacity budget).world.engine.queue.pending = [j] := hpending
    rw [tick, tick, World.tick_of_pending_singleton hpending,
      World.tick_of_pending_singleton hpending']
    rfl

theorem carryOn_resized {r : Run} (capacity budget : Nat) (timing : Timing) (place : Nat)
    (short : r.world.engine.queue.pending.length ≤ 1) :
    (r.resized capacity budget).carryOn timing place =
      (r.carryOn timing place).resized capacity budget := by
  have hqueue : (r.happen (timing.afterDispatch place)).world.engine.queue =
      r.world.engine.queue := (Engine.aside_happenAll _ _).queue
  rw [carryOn, carryOn, happen_resized, tick_resized capacity budget (hqueue ▸ short),
    happen_resized]

theorem finish_resized {r : Run} (capacity budget : Nat) (timing : Timing) (records : Nat)
    (settled : r.world.engine.queue.pending = []) :
    (r.resized capacity budget).finish timing records =
      (r.finish timing records).resized capacity budget := by
  have hsettle : r.world.settle = r.world := World.settle_of_pending_nil settled
  have hsettle' : (r.resized capacity budget).world.settle = (r.resized capacity budget).world :=
    World.settle_of_pending_nil settled
  have hevents := (Engine.unseen_resized capacity).happenAll r.world.engine timing.atEnd
  have hawait := (Engine.unseen_resized capacity).awaitPool (r.world.engine.happenAll timing.atEnd)
  simp only [finish, hsettle, hsettle']
  simp only [resized, World.resized, World.mapEngine, hevents, hawait]
  rfl

end Run

/-! ## A replay in two worlds -/

namespace Between

variable {t : Table WorldSession} {read : List Record} {r : Run} {s : Traffic WorldSession}

/-- A record is replayed alike in both worlds. -/
theorem step_resized (h : Between t read r s) {capacity : Nat} (room : 0 < capacity)
    (budget : Nat) (timing : Timing) (grace : Nat) (record : Record) :
    (r.resized capacity budget).step timing grace record =
      (r.step timing grace record).map fun r => r.resized capacity budget := by
  cases hpayload : Run.payload record with
  | error fault =>
      rw [r.step_of_fault timing grace hpayload, Run.step_of_fault _ timing grace hpayload]
      rfl
  | ok bytes =>
      obtain ⟨m, begun, s₁, hfound, -, seen, hm, hnumber, hlog, hclear⟩ :=
        h.member record.session grace
      obtain ⟨outcome, arrived, s₂, harrive, -, -, jobs, hjobs, hsent⟩ :=
        seen.send (timing.beforeCount r.log.length) hm hnumber hpayload
      have hshort : (begun.sent (timing.beforeCount r.log.length) record
          (m.envelope record bytes) outcome arrived).world.engine.queue.pending.length ≤ 1 := by
        rw [hsent, hclear.pending]
        exact hjobs
      have hfound' : (r.resized capacity budget).member record.session grace =
          (m, begun.resized capacity budget) := by
        rw [Run.member_resized, hfound]
      have harrive' : (begun.resized capacity budget).world.engine.arrive record.phase m.ref
          (m.envelope record bytes) = .ok (outcome, arrived.resized capacity) := by
        have hresized := Engine.arrive_resized hclear room seen.installed record.phase m.ref
          (m.envelope record bytes) (seen.connected hm)
        rw [harrive] at hresized
        exact hresized
      rw [Run.step_of_arrive timing grace hpayload hfound harrive,
        Run.step_of_arrive timing grace hpayload hfound' harrive', Run.sent_resized]
      exact congrArg Except.ok (Run.carryOn_resized capacity budget timing r.log.length hshort)

/-- A trace is replayed alike in both worlds. -/
theorem stepAll_resized (h : Between t read r s) {capacity : Nat} (room : 0 < capacity)
    (budget : Nat) (timing : Timing) (grace : Nat) (records : List Record) :
    Run.stepAll timing grace records (r.resized capacity budget) =
      (Run.stepAll timing grace records r).map fun r => r.resized capacity budget := by
  induction records generalizing read r s with
  | nil => rfl
  | cons record rest ih =>
      obtain ⟨r₁, s₁, hstep, -, between⟩ := h.step timing grace record
      have hresized := h.step_resized room budget timing grace record
      rw [hstep] at hresized
      simp only [Run.stepAll, hstep, hresized, Except.map]
      exact ih between

end Between

/-- Two valid settings that differ only in the capacity of the world queue, the budget of its ticks
and the time between them describe worlds in which every trace is replayed alike: with the same
timing of the pool both replays come to their end with the same summary, log and tally, and make the
same calls in the same order. For after each record the world queue is empty and nothing would have
to be settled, and so no message is ever refused there. -/
theorem replay_ignores_queue_sizing {d d' : Settings.Dispatch} {processors : Nat}
    (fits : d.Fits processors) (fits' : d'.Fits processors)
    (agree : d' = { d with
      worldQueueCapacity := d'.worldQueueCapacity
      worldDrainBudget := d'.worldDrainBudget
      tickIntervalMs := d'.tickIntervalMs })
    (t : Table WorldSession) (timing : Timing) (trace : List Record) :
    ∃ w w' r r', Console.buildWorld d processors t = .ok w ∧
      Console.buildWorld d' processors t = .ok w' ∧
      run timing d.graceMs trace w = .ok r ∧
      run timing d'.graceMs trace w' = .ok r' ∧
      (∀ n, ∃ part, Run.stepAll timing d.graceMs (trace.take n) (Run.start w) = .ok part ∧
        part.world.engine.queue.pending = [] ∧ part.world.settle = part.world) ∧
      (∀ entry ∈ r.log, ∀ id, entry.outcome ≠ .dropped (.saturated id .world)) ∧
      r'.summary = r.summary ∧ r'.log = r.log ∧
      r'.world.engine.scene.tally = r.world.engine.scene.tally ∧
      r'.world.engine.scene.calls = r.world.engine.scene.calls := by
  obtain ⟨hroom, -⟩ := Settings.Dispatch.capacity_of_validate fits.valid
  obtain ⟨hroom', -⟩ := Settings.Dispatch.capacity_of_validate fits'.valid
  have between := Between.start (t := t) (d.permits processors) d.worldDrainBudget hroom
  have hstart : Run.start (d'.opening processors t) =
      (Run.start (d.opening processors t)).resized d'.worldQueueCapacity d'.worldDrainBudget := by
    rw [agree]
    rfl
  have hgrace : d'.graceMs = d.graceMs := by rw [agree]; rfl
  obtain ⟨r, s, hrun, -, whole⟩ := between.stepAll timing d.graceMs trace
  have hrun' := between.stepAll_resized hroom' d'.worldDrainBudget timing d.graceMs trace
  have hfinish := Run.finish_resized d'.worldQueueCapacity d'.worldDrainBudget timing trace.length
    whole.settled
  refine ⟨_, _, r.finish timing trace.length,
    (r.finish timing trace.length).resized d'.worldQueueCapacity d'.worldDrainBudget,
    fits.buildWorld t, fits'.buildWorld t, ?_, ?_, ?_, whole.spared, rfl, rfl, rfl, rfl⟩
  · simp only [run, Settings.Dispatch.opening, hrun]
    rfl
  · rw [run, hstart, hgrace, Settings.Dispatch.opening, hrun', hrun, ← hfinish]
    rfl
  · intro n
    obtain ⟨part, s', hpart, -, partial'⟩ := between.stepAll timing d.graceMs (trace.take n)
    exact ⟨part, hpart, partial'.settled, World.settle_of_pending_nil partial'.settled⟩

/-- A queue with room for one job and ticks that run one, and a large queue with ticks that run all
there is. -/
theorem replay_ignores_queue_sizing_lanes :
    ∃ w w' r r', Console.buildWorld ⟨some 1, 1, 1, 50, 20, false⟩ 4 laneTable = .ok w ∧
      Console.buildWorld ⟨some 1, 4096, 0, 5, 20, false⟩ 4 laneTable = .ok w' ∧
      run idlePool 20000 laneTrace w = .ok r ∧ run idlePool 20000 laneTrace w' = .ok r' ∧
      r'.summary = r.summary ∧ r'.log = r.log ∧
      r'.world.engine.scene.tally = r.world.engine.scene.tally ∧
      r'.world.engine.scene.calls = r.world.engine.scene.calls := by
  have fits : Settings.Dispatch.Fits ⟨some 1, 1, 1, 50, 20, false⟩ 4 := ⟨rfl, rfl⟩
  have fits' : Settings.Dispatch.Fits ⟨some 1, 4096, 0, 5, 20, false⟩ 4 := ⟨rfl, rfl⟩
  obtain ⟨w, w', r, r', hbuild, hbuild', hrun, hrun', -, -, hsame⟩ :=
    replay_ignores_queue_sizing fits fits' rfl laneTable idlePool laneTrace
  exact ⟨w, w', r, r', hbuild, hbuild', hrun, hrun', hsame⟩

end Replay
end PacketDispatch
