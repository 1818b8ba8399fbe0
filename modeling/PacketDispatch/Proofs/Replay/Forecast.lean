import PacketDispatch.Proofs.Replay.Interleaving
import PacketDispatch.Proofs.World.Verdict

/-!
# Replays can be forecast

What is said in a replay can be told from its records and from the work of its pool, with any number
of permits and without looking at the clock or at the grace windows of the sessions.  The forecast
follows the phases that the sessions enter and the gauge of the pool.
-/

namespace PacketDispatch
namespace Replay

/-- What can be told of a replay: the exchanges, the last phase that the session with each number
entered, and the gauge of the pool. -/
structure Forecast where
  said : List Exchange
  entered : UInt32 → Phase
  gauge : Gauge

namespace Forecast

/-- Nothing is said before the first record. -/
def start (permits : Nat) : Forecast :=
  ⟨[], fun _ => .authed, ⟨permits, true, 0, 0⟩⟩

/-- The message of the next record. -/
def envelope (f : Forecast) (record : Record) (bytes : List UInt8) : Envelope :=
  ⟨record.opcode, bytes, SessionId.ofNumber record.session.toNat,
    UInt64.ofNat ((exchangesOf record.session f.said).length + 1)⟩

/-- What the next record comes to. -/
def answer (t : Table WorldSession) (f : Forecast) (record : Record) (env : Envelope) : Answer :=
  let entered := f.entered record.session
  t.answerTo (t.verdict record.phase env entered f.gauge.hasRoom) record.phase env entered

/-- The gauge after a message with an outcome and the work of the pool until the next record. -/
def gaugeAfter (timing : Timing) (f : Forecast) (outcome : Outcome) : Gauge :=
  let taken := if outcome = .scheduled .pool then f.gauge.accept else f.gauge
  let place := f.said.length
  ((taken.happenAll (timing.beforeCount place)).happenAll (timing.afterDispatch place)).happenAll
    (timing.afterTick place)

/-- One more record is read. A record that does not decode is passed over. -/
def read (t : Table WorldSession) (timing : Timing) (f : Forecast) (record : Record) : Forecast :=
  match Run.payload record with
  | .error _ => f
  | .ok bytes =>
    let env := f.envelope record bytes
    let answer := f.answer t record env
    ⟨f.said ++ [.of record env.sequence answer],
      Function.update f.entered record.session answer.phase,
      f.gaugeAfter timing answer.outcome⟩

end Forecast

/-- The forecast of a replay with some permits. -/
def forecast (t : Table WorldSession) (permits : Nat) (timing : Timing) (records : List Record) :
    Forecast :=
  records.foldl (Forecast.read t timing) (.start permits)

theorem forecast_concat (t : Table WorldSession) (permits : Nat) (timing : Timing)
    (records : List Record) (record : Record) :
    forecast t permits timing (records ++ [record]) =
      (forecast t permits timing records).read t timing record :=
  List.foldl_concat ..

/-- What happens in a timing, but for the time that passes. -/
def Timing.work (timing : Timing) : Timing where
  beforeCount place := (timing.beforeCount place).filter Background.isWork
  afterDispatch place := (timing.afterDispatch place).filter Background.isWork
  afterTick place := (timing.afterTick place).filter Background.isWork
  atEnd := timing.atEnd.filter Background.isWork

/-- The forecast does not look at the clock. -/
theorem forecast_work (t : Table WorldSession) (permits : Nat) (timing : Timing)
    (records : List Record) :
    forecast t permits timing.work records = forecast t permits timing records := by
  have hgauge : ∀ (f : Forecast) (outcome : Outcome),
      f.gaugeAfter timing.work outcome = f.gaugeAfter timing outcome := by
    intro f outcome
    simp only [Forecast.gaugeAfter, Timing.work, Gauge.happenAll_filter_isWork]
  have hread : Forecast.read t timing.work = Forecast.read t timing := by
    funext f record
    simp only [Forecast.read, hgauge]
  rw [forecast, forecast, hread]

/-- One call is made for a record at most. -/
theorem length_results_forecast_le (t : Table WorldSession) (permits : Nat) (timing : Timing)
    (records : List Record) :
    ∀ x ∈ (forecast t permits timing records).said, x.results.length ≤ 1 := by
  induction records using List.reverseRecOn with
  | nil =>
      intro x hx
      exact absurd hx List.not_mem_nil
  | append_singleton records record ih =>
      rw [forecast_concat, Forecast.read]
      cases Run.payload record with
      | error fault => exact ih
      | ok bytes =>
          intro x hx
          rcases List.mem_append.mp hx with hold | hnew
          · exact ih x hold
          · rw [List.mem_singleton.mp hnew]
            exact t.length_results_answerTo_le _ _ _ _

/-! ## Replays and their forecasts -/

/-- A replay goes as it was forecast. -/
structure Foretold (r : Run) (f : Forecast) : Prop extends Spoken r f.said f.entered where
  gauge : r.world.engine.pool.gauge = f.gauge

namespace Foretold

variable {t : Table WorldSession} {r : Run} {f : Forecast}

theorem start (t : Table WorldSession) (permits capacity budget : Nat) :
    Foretold (Run.start (World.start ((Engine.create .standard (Pool.start permits)
      (WorldQueue.empty capacity)).withTable t) budget)) (.start permits) :=
  ⟨.start t permits capacity budget, rfl⟩

/-- The session of the next record is there, or it begins. -/
theorem member (h : Foretold r f) (settled : r.world.engine.queue.pending = [])
    (number : UInt32) (grace : Nat) : Foretold (r.member number grace).2 f := by
  rcases r.member_cases number grace with ⟨m, -, -, hmember⟩ | ⟨hnew, hmember⟩
  · rw [hmember]
    exact h
  · rw [hmember]
    exact ⟨h.toSpoken.enroll settled hnew grace, h.gauge⟩

/-- Nothing comes of a record that is skipped. -/
theorem skip (h : Foretold r f) (record : Record) (fault : Text.Base64.Fault) :
    Foretold (r.skip record fault) f :=
  ⟨h.toSpoken.drift (Engine.drifts_note h.calm [Run.skipLine record fault]) _, h.gauge⟩

/-- The number of a message is the one that was forecast. -/
theorem envelope_eq (h : Foretold r f) (roster : Roster r.members r.log) {m : Member}
    (hm : m ∈ r.members) {record : Record} (hnumber : m.number = record.session)
    (bytes : List UInt8) : m.envelope record bytes = f.envelope record bytes := by
  have hsent : m.sent = (exchangesOf record.session f.said).length := by
    rw [exchangesOf, ← List.countP_eq_length_filter, roster.sent m hm, ← h.log, List.countP_map,
      hnumber]
    rfl
  rw [Member.envelope, hsent]
  rfl

end Foretold

theorem Run.gauge_carryOn {r : Run} (short : r.world.engine.queue.pending.length ≤ 1)
    (timing : Timing) (place : Nat) :
    (r.carryOn timing place).world.engine.pool.gauge =
      (r.world.engine.pool.gauge.happenAll (timing.afterDispatch place)).happenAll
        (timing.afterTick place) := by
  have hqueue : (r.happen (timing.afterDispatch place)).world.engine.queue =
      r.world.engine.queue := (Engine.aside_happenAll _ _).queue
  have hticked : (r.happen (timing.afterDispatch place)).tick.world.engine.pool =
      (r.happen (timing.afterDispatch place)).world.engine.pool := by
    rcases nil_or_singleton_of_length_le_one (hqueue ▸ short) with hpending | ⟨j, hpending⟩
    · rw [Run.tick, World.tick_of_pending_nil hpending]
    · rw [Run.tick, World.tick_of_pending_singleton hpending]
      rfl
  have hfirst := r.world.engine.gauge_happenAll (timing.afterDispatch place)
  have hlast := (r.happen (timing.afterDispatch place)).tick.world.engine.gauge_happenAll
    (timing.afterTick place)
  rw [hticked] at hlast
  exact hlast.trans (congrArg (Gauge.happenAll · _) hfirst)

/-- From its arrival to the next record, a message leaves the gauge to the work of the pool. -/
theorem Run.gauge_carryOn_sent {r : Run} (timing : Timing) (place : Nat) {record : Record}
    {env : Envelope} {outcome : Outcome} {arrived : Engine WorldSession}
    (short : (r.sent (timing.beforeCount place) record env outcome
      arrived).world.engine.queue.pending.length ≤ 1) :
    ((r.sent (timing.beforeCount place) record env outcome arrived).carryOn timing
        place).world.engine.pool.gauge =
      ((arrived.pool.gauge.happenAll (timing.beforeCount place)).happenAll
        (timing.afterDispatch place)).happenAll (timing.afterTick place) := by
  rw [gauge_carryOn short]
  exact congrArg (fun g : Gauge => (g.happenAll _).happenAll _)
    (arrived.gauge_happenAll (timing.beforeCount place))

namespace Between

variable {t : Table WorldSession} {read : List Record} {r : Run} {s : Traffic WorldSession}
  {f : Forecast}

/-- A record is replayed as it was forecast. -/
theorem foretell (between : Between t read r s) (h : Foretold r f) (steady : t.Steady)
    (timing : Timing) (grace : Nat) (record : Record) :
    ∃ r', r.step timing grace record = .ok r' ∧ Foretold r' (f.read t timing record) := by
  cases hpayload : Run.payload record with
  | error fault =>
      refine ⟨_, r.step_of_fault timing grace hpayload, ?_⟩
      rw [Forecast.read, hpayload]
      exact h.skip record fault
  | ok bytes =>
      obtain ⟨m, begun, s', hfound, -, seen, hm, hnumber, hlog, hclear⟩ :=
        between.member record.session grace
      have told : Foretold begun f := by
        have hbegun := h.member between.settled record.session grace
        rwa [hfound] at hbegun
      have henvelope := told.envelope_eq seen.roster hm hnumber bytes
      have hplace : r.log.length = f.said.length := by
        rw [← h.log, List.length_map]
      have hentered := told.phases m hm
      rw [hnumber] at hentered
      obtain ⟨outcome, arrived, harrive, hverdict, gains, hnext, hgauge⟩ :=
        Engine.exists_verdict_of_arrive steady seen.installed seen.standard hclear told.calm
          hentered (seen.connected hm) record.phase (m.envelope record bytes)
      have hshort :=
        seen.pending_sent_le hclear hm hnumber hpayload (timing.beforeCount r.log.length) harrive
      have carried := Run.drifts_carryOn_sent timing r.log.length gains.calm hshort
      have hroom : begun.world.engine.pool.gauge.hasRoom = f.gauge.hasRoom := by
        rw [told.gauge]
      have hanswer : f.answer t record (f.envelope record bytes) =
          t.answerTo outcome record.phase (m.envelope record bytes) (f.entered record.session) := by
        rw [Forecast.answer, ← henvelope, ← hroom, ← hverdict]
      have hafter : ((begun.sent (timing.beforeCount r.log.length) record (m.envelope record bytes)
          outcome arrived).carryOn timing r.log.length).world.engine.pool.gauge =
            f.gaugeAfter timing outcome := by
        rw [Run.gauge_carryOn_sent timing _ hshort, Forecast.gaugeAfter, ← hplace, ← told.gauge,
          ← hgauge]
      have spoken := told.toSpoken.answer seen.roster hm hnumber gains hnext carried
        (Run.carryOn_members _ timing _) (by rw [Table.outcome_answerTo]; exact Run.carryOn_log _ timing _)
      refine ⟨_, Run.step_of_arrive timing grace hpayload hfound harrive, ?_⟩
      rw [Forecast.read, hpayload]
      dsimp only
      rw [hanswer, Table.outcome_answerTo, ← hafter, ← henvelope]
      exact ⟨spoken, rfl⟩

/-- All records are replayed as it was forecast. -/
theorem foretellAll (between : Between t read r s) (h : Foretold r f) (steady : t.Steady)
    (timing : Timing) (grace : Nat) (records : List Record) :
    ∃ r' s', Run.stepAll timing grace records r = .ok r' ∧ Traffic.Leads s s' ∧
      Between t (read ++ records) r' s' ∧
      Foretold r' (records.foldl (Forecast.read t timing) f) := by
  induction records generalizing read r s f with
  | nil => exact ⟨r, s, rfl, .refl s, by simpa using between, h⟩
  | cons record rest ih =>
      obtain ⟨r₁, s₁, hstep, leads₁, between₁⟩ := between.step timing grace record
      obtain ⟨r₁', hstep', foretold₁⟩ := between.foretell h steady timing grace record
      obtain rfl : r₁ = r₁' := Except.ok.inj (hstep.symm.trans hstep')
      obtain ⟨r₂, s₂, hrest, leads₂, between₂, foretold₂⟩ := ih between₁ foretold₁
      rw [List.append_assoc] at between₂
      refine ⟨r₂, s₂, ?_, leads₁.trans leads₂, between₂, foretold₂⟩
      simp only [Run.stepAll, hstep, hrest]

end Between

/-! ## At the end -/

/-- Over a steady table every trace is replayed to its end, and what is said is what was forecast,
however many permits there are. -/
theorem exists_run_foretold {t : Table WorldSession} (steady : t.Steady) (permits budget : Nat)
    {capacity : Nat} (room : 0 < capacity) (timing : Timing) (grace : Nat) (trace : List Record) :
    ∃ r s, run timing grace trace (World.start ((Engine.create .standard (Pool.start permits)
        (WorldQueue.empty capacity)).withTable t) budget) = .ok r ∧
      Books t permits s ∧ Finished t trace r s ∧
      (forecast t permits timing trace).said.map Exchange.dispatched = r.log ∧
      r.placedCalls.Perm (placedResults (forecast t permits timing trace).said) := by
  have between := Between.start (t := t) permits budget room
  obtain ⟨r, s, hrun, leads, whole, foretold⟩ :=
    between.foretellAll (.start t permits capacity budget) steady timing grace trace
  obtain ⟨s', leads', finished⟩ := whole.finish timing
  obtain ⟨events, hfinish, -⟩ := Run.exists_finish_eq whole.settled timing trace.length
  have happened := Engine.drifts_happenAll foretold.calm events
  have hresults : (r.finish timing trace.length).world.engine.results.Perm
      (placedResults (forecast t permits timing trace).said) := by
    rw [hfinish]
    exact (Engine.drifts_note happened.calm _).results.trans
      (happened.results.trans foretold.results)
  refine ⟨_, s', ?_, books_of_leads (leads.trans leads'), finished, foretold.log,
    finished.placedCalls_perm hresults⟩
  rw [run, hrun]
  rfl

end Replay
end PacketDispatch
