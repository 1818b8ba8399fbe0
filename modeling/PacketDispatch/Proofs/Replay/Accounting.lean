import Mathlib.Data.List.Dedup
import PacketDispatch.Proofs.Console.Building
import PacketDispatch.Proofs.Replay.Course
import PacketDispatch.Proofs.Traffic.Balance
import PacketDispatch.Proofs.Traffic.Breaking
import PacketDispatch.Proofs.Traffic.Order
import PacketDispatch.Proofs.Traffic.Reckoning

/-!
# A replay accounts for every record

Three books are kept of a replay: the summary counts the outcomes of the records, the tally of the
engine counts outcomes and ends of jobs, and the world loop counts the jobs that it ran.  They are
written in different places and at different moments, and they agree when the replay is over.  No
session is gone until then, since its client stays to the end.
-/

namespace PacketDispatch
namespace Replay

/-- The books of the traffic that a replay is. -/
structure Books (t : Table WorldSession) (permits : Nat) (s : Traffic WorldSession) : Prop where
  ledger : Traffic.Ledger t s
  balanced : Traffic.Balanced s
  tallied : Traffic.Tallied s
  permits : Traffic.PermitsKept permits s

theorem books_of_leads {t : Table WorldSession} {permits capacity : Nat}
    {s : Traffic WorldSession}
    (leads : Traffic.Leads (Traffic.opening .standard permits capacity t) s) :
    Books t permits s where
  ledger := leads _ (Traffic.Ledger.lasts t) (.opening .standard permits capacity t)
  balanced := leads _ Traffic.Balanced.lasts ⟨rfl, rfl⟩
  tallied := leads _ Traffic.Tallied.lasts (.start rfl)
  permits := leads _ (Traffic.PermitsKept.lasts permits) ⟨Pool.balanced_start permits, rfl⟩

namespace Seen

variable {t : Table WorldSession} {r : Run} {s : Traffic WorldSession}

theorem opcode_of_answers {numbers : List UInt32} {a : Arrival} {d : Dispatched}
    (h : Answers numbers a d) : a.envelope.opcode = d.record.opcode := by
  have henvelope := h.envelope
  rw [Dispatched.envelope] at henvelope
  cases hpayload : Run.payload d.record with
  | error fault => simp [hpayload, Except.map] at henvelope
  | ok bytes =>
      rw [hpayload] at henvelope
      exact congrArg Envelope.opcode (Except.ok.inj henvelope).symm

/-- Arrivals and the log have the same opcodes and outcomes, and so as many of each kind. -/
theorem countP_arrivals (h : Seen t r s) (kind : Opcode → Outcome → Bool) :
    (s.arrivals.countP fun a => kind a.envelope.opcode a.outcome) =
      r.log.countP fun d => kind d.record.opcode d.outcome := by
  have harrivals := h.arrivals
  generalize s.arrivals = arrivals at harrivals
  generalize r.log = log at harrivals
  induction harrivals with
  | nil => rfl
  | cons answers _ ih =>
      rw [List.countP_cons, List.countP_cons, ih, opcode_of_answers answers, answers.outcome]

theorem countP_outcome (h : Seen t r s) (kind : Outcome → Bool) :
    (s.arrivals.countP fun a => kind a.outcome) = r.log.countP fun d => kind d.outcome :=
  h.countP_arrivals fun _ outcome => kind outcome

theorem length_arrivals (h : Seen t r s) : s.arrivals.length = r.log.length :=
  h.arrivals.length_eq

/-- Nobody leaves a replay. -/
theorem alive (h : Seen t r s) {ref : SessionRef} (href : ref < s.engine.scene.seats.length) :
    s.engine.scene.alive ref = true := by
  refine Scene.alive_of_connected ?_
  rw [h.engine, h.length_seats] at href
  rw [h.engine, Scene.connected_eq_clients, h.clients, List.getElem?_replicate, if_pos href]
  rfl

/-- No job finds its session gone. -/
theorem not_gone (h : Seen t r s) (ledger : Traffic.Ledger t s)
    {p : Job WorldSession × JobEnd HandlerError} (hp : p ∈ s.drained ++ s.started) :
    p.2.isGone = false := by
  cases hgone : p.2.isGone with
  | false => rfl
  | true =>
      have hdead := ledger.gone p hp hgone
      rw [h.alive (ledger.session_lt hp)] at hdead
      cases hdead

theorem sessionsGone_eq_zero (h : Seen t r s) (ledger : Traffic.Ledger t s)
    (tallied : Traffic.Tallied s) : r.world.engine.scene.tally.sessionsGone = 0 := by
  have hcount := tallied.count_eq h.idle .sessionsGone
  have hended : ∀ p ∈ s.drained ++ s.pooled, Counter.sessionsGone ≠ p.2.counter := by
    intro p hp heq
    have hmem : p ∈ s.drained ++ s.started := by
      rcases List.mem_append.mp hp with hdrained | hpooled
      · exact List.mem_append_left _ hdrained
      · exact List.mem_append_right _ (List.mem_append_left _ hpooled)
    have hgone := h.not_gone ledger hmem
    cases hend : p.2 <;> simp [hend, JobEnd.counter, JobEnd.isGone] at heq hgone
  have harrivals : (s.arrivals.countP fun a => a.outcome.moves .sessionsGone) = 0 := by
    refine List.countP_eq_zero.mpr fun a _ => ?_
    cases a.outcome with
    | dropped reason => cases reason <;> simp [Outcome.moves, Outcome.counter, DropReason.counter]
    | completed | scheduled lane | ignored | handlerFailed error =>
        simp [Outcome.moves, Outcome.counter]
  have hdrained : (s.drained.countP fun p => Counter.sessionsGone = p.2.counter) = 0 := by
    refine List.countP_eq_zero.mpr fun p hp => ?_
    simpa using hended p (List.mem_append_left _ hp)
  have hpooled : (s.pooled.countP fun p => Counter.sessionsGone = p.2.counter) = 0 := by
    refine List.countP_eq_zero.mpr fun p hp => ?_
    simpa using hended p (List.mem_append_right _ hp)
  rw [Traffic.entries, harrivals, hdrained, hpooled, h.engine] at hcount
  exact hcount

end Seen

namespace Between

variable {t : Table WorldSession} {read : List Record} {r : Run} {s : Traffic WorldSession}

/-- The world thread has run a job for each message that was scheduled there. -/
theorem executed_eq (h : Between t read r s) (ledger : Traffic.Ledger t s) :
    r.world.report.executed = r.log.countP fun d => d.outcome = .scheduled .world := by
  have hworld := ledger.world
  rw [h.seen.engine, h.settled, List.append_nil] at hworld
  have hlength := congrArg List.length (Arrival.map_some_flatMap_jobs .world ledger.prepared)
  rw [← hworld, List.length_map, List.length_map, List.length_map, ← List.countP_eq_length_filter]
    at hlength
  rw [h.seen.executed, hlength]
  exact h.seen.countP_outcome fun outcome => outcome = .scheduled .world

/-- There are as many sessions as different numbers among the records that were not skipped. -/
theorem length_members (h : Between t read r s) :
    r.members.length = ((read.filter Record.decodes).map Record.session).dedup.length := by
  rw [← length_numbersOf]
  refine List.Perm.length_eq ((List.perm_ext_iff_of_nodup h.seen.roster.nodup
    (List.nodup_dedup _)).mpr fun n => ?_)
  rw [List.mem_dedup, h.known n, ← h.records]
  simp

/-- A record is skipped or dispatched. -/
theorem length_read (h : Between t read r s) :
    read.length = r.log.length + r.summary.skipped := by
  have hlog := congrArg List.length h.records
  rw [List.length_map, ← List.countP_eq_length_filter] at hlog
  have hsplit := List.length_eq_countP_add_countP Record.decodes (l := read)
  rw [hlog, h.skipped, hsplit]
  simp

end Between

/-- Valid settings describe a world in which every trace is replayed to its end, and however the
pool was timed the books agree then. The summary counts every record once, and a session for each
number of a record that was not skipped. The engine received the records that were not skipped, and
scheduled, ignored and dropped as many messages as the summary says. Nothing is left to run, every
permit is free, and so the calls that completed or failed are those of the summary and the scheduled
ones. No session was gone, and the world loop ran one job for each message that was scheduled
there. -/
theorem replay_accounts_for_every_record {d : Settings.Dispatch} {processors : Nat}
    (fits : d.Fits processors) (t : Table WorldSession) (timing : Timing) (trace : List Record) :
    ∃ w r, Console.buildWorld d processors t = .ok w ∧
      run timing d.graceMs trace w = .ok r ∧
      r.log.map Dispatched.record = trace.filter Record.decodes ∧
      r.summary.records = trace.length ∧
      r.summary.records = r.summary.completed + r.summary.scheduled + r.summary.ignored +
        r.summary.handlerFailed + r.summary.dropped + r.summary.skipped ∧
      r.summary.sessions = ((trace.filter Record.decodes).map Record.session).dedup.length ∧
      r.world.engine.scene.tally.received = r.summary.records - r.summary.skipped ∧
      r.world.engine.scene.tally.scheduled = r.summary.scheduled ∧
      r.world.engine.scene.tally.ignored = r.summary.ignored ∧
      r.world.engine.scene.tally.dropped = r.summary.dropped ∧
      r.world.engine.queue.pending = [] ∧
      r.world.engine.pool.unfinished = 0 ∧
      r.world.engine.pool.free = d.permits processors ∧
      r.world.engine.scene.tally.completed + r.world.engine.scene.tally.handlerFailures =
        r.summary.completed + r.summary.handlerFailed + r.summary.scheduled ∧
      r.world.engine.scene.tally.sessionsGone = 0 ∧
      r.world.report.executed = r.log.countP fun d => d.outcome = .scheduled .world := by
  obtain ⟨hroom, -⟩ := Settings.Dispatch.capacity_of_validate fits.valid
  obtain ⟨r, s, hrun, leads, finished⟩ :=
    exists_run_finished t (d.permits processors) d.worldDrainBudget hroom timing d.graceMs trace
  have books := books_of_leads leads
  have seen := finished.seen
  have hsum := seen.summary.sum_eq_length
  have hlength := finished.length_read
  have hreceived := books.tallied.received_eq seen.idle
  have hscheduled := books.tallied.scheduled_eq seen.idle
  have hignored := books.tallied.ignored_eq seen.idle
  have hdropped := books.tallied.dropped_eq seen.idle
  have hgone := seen.sessionsGone_eq_zero books.ledger books.tallied
  have hpermits := books.permits
  rw [seen.length_arrivals] at hreceived
  rw [seen.countP_outcome fun outcome => outcome.counter = .scheduled, ← seen.summary.scheduled]
    at hscheduled
  rw [seen.countP_outcome fun outcome => outcome.counter = .ignored, ← seen.summary.ignored]
    at hignored
  rw [seen.countP_outcome Outcome.isDropped, ← seen.summary.dropped] at hdropped
  -- Nothing is outstanding, so every message that was received has come to its end.
  have houtstanding : s.engine.outstanding = 0 := by
    simp [Engine.outstanding, WorldQueue.size, seen.engine, finished.settled, finished.pool]
  have hbalance := books.balanced.received
  rw [houtstanding, Traffic.handedOver, seen.idle] at hbalance
  simp only [Tally.settled, List.countP_nil, Nat.add_zero] at hbalance
  simp only [Traffic.PermitsKept, Pool.Balanced, seen.engine, finished.pool] at hpermits
  rw [seen.engine] at hreceived hscheduled hignored hdropped hbalance
  have htotal := finished.total
  refine ⟨_, r, fits.buildWorld t, hrun, finished.records, htotal, ?_,
    finished.sessions.trans finished.length_members, ?_, hscheduled, hignored, hdropped,
    finished.settled, finished.pool, ?_, ?_, hgone, finished.executed_eq books.ledger⟩
  · omega
  · omega
  · omega
  · omega

/-- A table with an opcode for each lane.  The handler in place returns, the one on the pool breaks
off, and the one on the world thread fails. -/
def laneTable : Table WorldSession :=
  let ends (name : String) (ending : Ending) : Handler WorldSession :=
    Handler.raw name fun _ _ session => { session, ending }
  ⟨[⟨1, "ONE", .client, .authed, .inPlace, ends "one" .returned⟩,
    ⟨2, "TWO", .client, .authed, .pool, ends "two" (.brokeOff none)⟩,
    ⟨3, "THREE", .client, .authed, .world, ends "three" (.failed (.execution "three"))⟩]⟩

/-- Records of two sessions, and one of a third session that is skipped. -/
def laneTrace : List Record :=
  [⟨7, .authed, 1, ""⟩, ⟨9, .authed, 3, "AA=="⟩, ⟨7, .authed, 2, ""⟩, ⟨8, .authed, 1, "?"⟩,
    ⟨9, .authed, 2, ""⟩, ⟨7, .queued, 1, ""⟩]

/-- No thread takes up a pool job before the end. -/
def idlePool : Timing :=
  ⟨fun _ => [], fun _ => [], fun _ => [], []⟩

/-- With one permit the second message for the pool finds none. -/
theorem replay_accounts_for_every_record_lanes :
    ∃ w r, Console.buildWorld ⟨some 1, 1, 1, 50, 20, false⟩ 4 laneTable = .ok w ∧
      run idlePool 20000 laneTrace w = .ok r ∧
      r.summary.sessions = 2 ∧
      r.summary.completed + r.summary.scheduled + r.summary.ignored + r.summary.handlerFailed +
        r.summary.dropped + r.summary.skipped = 6 ∧
      r.world.engine.pool.free = 1 ∧
      r.world.engine.scene.tally.completed + r.world.engine.scene.tally.handlerFailures =
        r.summary.completed + r.summary.handlerFailed + r.summary.scheduled := by
  have fits : Settings.Dispatch.Fits ⟨some 1, 1, 1, 50, 20, false⟩ 4 := ⟨rfl, rfl⟩
  obtain ⟨w, r, hbuild, hrun, -, hrecords, htotal, hsessions, -, -, -, -, -, -, hfree, hends,
    -, -⟩ := replay_accounts_for_every_record fits laneTable idlePool laneTrace
  have hdistinct : ((laneTrace.filter Record.decodes).map Record.session).dedup.length = 2 := by
    decide +kernel
  exact ⟨w, r, hbuild, hrun, hsessions.trans hdistinct, htotal.symm.trans hrecords, hfree, hends⟩

end Replay
end PacketDispatch
