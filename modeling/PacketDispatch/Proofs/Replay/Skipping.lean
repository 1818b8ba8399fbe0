import PacketDispatch.Proofs.Replay.Accounting
import PacketDispatch.Proofs.World.Journal

/-!
# Records that do not decode leave no trace

A record whose payload does not decode is skipped before its session begins, before it gets a number
and before the world ticks.  All that is left of it is a line in the journal, which nobody reads, and
one more skipped record in the summary.  So a replay cannot be told, but for these, from one of the
other records alone.
-/

namespace PacketDispatch
namespace Replay

namespace Run

/-! ## Replays that differ in what was skipped -/

/-- The replay with entries in front of its journal, after some more records were skipped. -/
def afterJournal (r : Run) (notes : List Note) (skipped : Nat) : Run :=
  { r with
    world := r.world.afterJournal notes
    summary := { r.summary with skipped := r.summary.skipped + skipped } }

/-- The replay without its journal and without the number of its skipped records. -/
def withoutJournal (r : Run) : Run :=
  { r with
    world := r.world.mapEngine Engine.withoutJournal
    summary := { r.summary with skipped := 0 } }

theorem afterJournal_withoutJournal (r : Run) :
    r.withoutJournal.afterJournal r.world.engine.scene.notes r.summary.skipped = r := by
  have hengine := r.world.engine.afterJournal_withoutJournal
  simp only [afterJournal, withoutJournal, World.afterJournal, World.mapEngine, hengine,
    Nat.zero_add]

theorem withoutJournal_afterJournal (r : Run) (notes : List Note) (skipped : Nat) :
    (r.afterJournal notes skipped).withoutJournal = r.withoutJournal := rfl

theorem withoutJournal_skip (r : Run) (record : Record) (fault : Text.Base64.Fault) :
    (r.skip record fault).withoutJournal = r.withoutJournal := rfl

variable (r : Run) (notes : List Note) (skipped : Nat)

theorem skip_afterJournal (record : Record) (fault : Text.Base64.Fault) :
    (r.afterJournal notes skipped).skip record fault =
      (r.skip record fault).afterJournal notes skipped := by
  have hnote := r.world.engine.note_afterJournal notes [skipLine record fault]
  simp only [skip, afterJournal, World.afterJournal, World.mapEngine, hnote, Nat.add_right_comm]

theorem member_afterJournal (number : UInt32) (grace : Nat) :
    (r.afterJournal notes skipped).member number grace =
      ((r.member number grace).1, (r.member number grace).2.afterJournal notes skipped) := by
  have hmembers : (r.afterJournal notes skipped).members = r.members := rfl
  simp only [member, hmembers]
  cases r.members.find? fun m => m.number == number <;> rfl

theorem send_afterJournal (events : List Background) (m : Member) (record : Record)
    (payload : List UInt8) :
    (r.afterJournal notes skipped).send events m record payload =
      (r.send events m record payload).map fun r => r.afterJournal notes skipped := by
  have harrive := r.world.engine.arrive_afterJournal notes record.phase m.ref
    (m.envelope record payload)
  simp only [Member.envelope] at harrive
  simp only [send, afterJournal, World.afterJournal, World.mapEngine, harrive]
  cases r.world.engine.arrive record.phase m.ref _ with
  | error fault => rfl
  | ok entry =>
      obtain ⟨outcome, arrived⟩ := entry
      have hhappen := (Engine.unseen_afterJournal notes).happenAll arrived events
      simp only [Except.map, hhappen]
      cases outcome <;> rfl

theorem happen_afterJournal (events : List Background) :
    (r.afterJournal notes skipped).happen events =
      (r.happen events).afterJournal notes skipped := by
  have hhappen := (Engine.unseen_afterJournal notes).happenAll r.world.engine events
  simp only [happen, afterJournal, World.afterJournal, World.mapEngine, hhappen]

theorem tick_afterJournal :
    (r.afterJournal notes skipped).tick = r.tick.afterJournal notes skipped := by
  have htick := r.world.tick_afterJournal notes
  simp only [tick, afterJournal, htick]

theorem finish_afterJournal (timing : Timing) (records : Nat) :
    (r.afterJournal notes skipped).finish timing records =
      (r.finish timing records).afterJournal notes skipped := by
  have hsettle := r.world.settle_afterJournal notes
  have hhappen := (Engine.unseen_afterJournal notes).happenAll r.world.settle.engine timing.atEnd
  have hawait := (Engine.unseen_afterJournal notes).awaitPool
    (r.world.settle.engine.happenAll timing.atEnd)
  have hnote := ((r.world.settle.engine.happenAll timing.atEnd).awaitPool).note_afterJournal notes
  simp only [finish, afterJournal, hsettle]
  simp only [World.afterJournal, World.mapEngine, hhappen, hawait, hnote]
  rfl

/-- A record is replayed alike after whatever was skipped. -/
theorem step_afterJournal (timing : Timing) (grace : Nat) (record : Record) :
    (r.afterJournal notes skipped).step timing grace record =
      (r.step timing grace record).map fun r => r.afterJournal notes skipped := by
  cases hpayload : payload record with
  | error fault =>
      rw [step_of_fault _ timing grace hpayload, step_of_fault _ timing grace hpayload,
        skip_afterJournal]
      rfl
  | ok bytes =>
      rcases hfound : r.member record.session grace with ⟨m, begun⟩
      have hlog : (r.afterJournal notes skipped).log = r.log := rfl
      have hcounted : (begun.afterJournal notes skipped).countSent record.session =
          (begun.countSent record.session).afterJournal notes skipped := rfl
      simp only [step, hpayload, member_afterJournal, hfound, hcounted, send_afterJournal, hlog]
      cases (begun.countSent record.session).send _ m record bytes with
      | error fault => rfl
      | ok sent => simp only [Except.map, happen_afterJournal, tick_afterJournal]

end Run

/-! ## Two replays side by side -/

namespace Run

variable {r r' : Run} (timing : Timing) (grace : Nat)

/-- Replays that differ in what was skipped replay a record alike. -/
theorem step_alike (h : r.withoutJournal = r'.withoutJournal) (record : Record) :
    (∃ fault, r.step timing grace record = .error fault ∧
        r'.step timing grace record = .error fault) ∨
      ∃ next next', r.step timing grace record = .ok next ∧
        r'.step timing grace record = .ok next' ∧ next.withoutJournal = next'.withoutJournal := by
  have hleft := r.withoutJournal.step_afterJournal r.world.engine.scene.notes r.summary.skipped
    timing grace record
  have hright := r'.withoutJournal.step_afterJournal r'.world.engine.scene.notes
    r'.summary.skipped timing grace record
  rw [afterJournal_withoutJournal] at hleft hright
  rw [hleft, hright, h]
  cases r'.withoutJournal.step timing grace record with
  | error fault => exact Or.inl ⟨fault, rfl, rfl⟩
  | ok next => exact Or.inr ⟨_, _, rfl, rfl, rfl⟩

/-- One of them may read the records that do not decode, and the other need not. -/
theorem stepAll_filter_decodes (h : r.withoutJournal = r'.withoutJournal) (records : List Record) :
    (stepAll timing grace (records.filter Record.decodes) r').map withoutJournal =
      (stepAll timing grace records r).map withoutJournal := by
  induction records generalizing r r' with
  | nil => exact congrArg Except.ok h.symm
  | cons record rest ih =>
      cases hpayload : payload record with
      | error fault =>
          have hdecodes := Record.not_decodes_of_fault hpayload
          simp only [List.filter_cons, hdecodes, stepAll, r.step_of_fault timing grace hpayload]
          exact ih ((r.withoutJournal_skip record fault).trans h)
      | ok bytes =>
          have hdecodes := Record.decodes_of_payload hpayload
          simp only [List.filter_cons, hdecodes, if_true, stepAll]
          rcases step_alike timing grace h record with
            ⟨fault, hleft, hright⟩ | ⟨next, next', hleft, hright, hnext⟩
          · rw [hleft, hright]
          · rw [hleft, hright]
            exact ih hnext

theorem table_carryOn (r : Run) (timing : Timing) (place : Nat) :
    (r.carryOn timing place).world.engine.table = r.world.engine.table :=
  (Engine.aside_happenAll _ _).table.trans (Engine.aside_happenAll _ _).table

theorem clients_carryOn (r : Run) (timing : Timing) (place : Nat) :
    (r.carryOn timing place).world.engine.scene.clients = r.world.engine.scene.clients := by
  have hfirst := (Engine.aside_happenAll r.world.engine (timing.afterDispatch place)).clients
  have htick := (r.happen (timing.afterDispatch place)).world.clients_tick
  have hlast := (Engine.aside_happenAll (r.happen (timing.afterDispatch place)).tick.world.engine
    (timing.afterTick place)).clients
  exact hlast.trans (htick.trans hfirst)

end Run

/-! ## Replays in any world -/

/-- A replay that has read some records in a world with a table: its sessions are connected, its log
has the records that decode, and the others were skipped. -/
structure Reading (t : Table WorldSession) (read : List Record) (r : Run) : Prop where
  installed : r.world.engine.table = some t
  connected : ∀ m ∈ r.members, r.world.engine.scene.connected m.ref = true
  records : r.log.map Dispatched.record = read.filter Record.decodes
  skipped : r.summary.skipped = read.countP fun record => !record.decodes

namespace Reading

variable {t : Table WorldSession} {read : List Record} {r : Run}

theorem start {w : World WorldSession} (installed : w.engine.table = some t) :
    Reading t [] (Run.start w) :=
  ⟨installed, nofun, rfl, rfl⟩

/-- A step that keeps the table and the sessions has read one more record. -/
theorem after_step (h : Reading t read r) {timing : Timing} {grace : Nat} {record : Record}
    {next : Run} (step : r.step timing grace record = .ok next)
    (installed : next.world.engine.table = some t)
    (connected : ∀ m ∈ next.members, next.world.engine.scene.connected m.ref = true) :
    Reading t (read ++ [record]) next where
  installed := installed
  connected := connected
  records := by rw [Run.records_of_step step, List.filter_append, h.records]
  skipped := by rw [Run.skipped_of_step step, List.countP_append, h.skipped]

/-- The session of the next record is connected, or it connects now. -/
theorem member (h : Reading t read r) (number : UInt32) (grace : Nat) :
    ∃ m begun, r.member number grace = (m, begun) ∧ m ∈ begun.members ∧
      Reading t read begun := by
  rcases r.member_cases number grace with ⟨m, hm, -, hmember⟩ | ⟨-, hmember⟩
  · exact ⟨m, r, hmember, hm, h⟩
  · refine ⟨_, _, hmember, List.mem_append_right _ (List.mem_singleton_self _), ?_⟩
    refine ⟨h.installed, ?_, h.records, h.skipped⟩
    intro m hm
    rcases List.mem_append.mp hm with hold | hnew
    · exact Scene.connected_connect _ (h.connected m hold)
    · rw [List.mem_singleton.mp hnew]
      exact r.world.engine.scene.connected_newcomer _

/-- A record is read: it does not decode and is skipped, or it is dispatched for a session that is
connected and stays so. -/
theorem step (h : Reading t read r) (timing : Timing) (grace : Nat) (record : Record) :
    ∃ next, r.step timing grace record = .ok next ∧ Reading t (read ++ [record]) next := by
  cases hpayload : Run.payload record with
  | error fault =>
      have hstep := r.step_of_fault timing grace hpayload
      exact ⟨_, hstep, h.after_step hstep h.installed h.connected⟩
  | ok bytes =>
      obtain ⟨m, begun, hfound, hm, reading⟩ := h.member record.session grace
      have harrive : begun.world.engine.arrive record.phase m.ref (m.envelope record bytes) = _ :=
        Engine.arrive_of_connected reading.installed (reading.connected m hm)
      have hadmits := Engine.admits_of_arrive reading.installed harrive
      have hclients := Engine.clients_of_arrive reading.installed harrive
      have hstep := Run.step_of_arrive timing grace hpayload hfound harrive
      refine ⟨_, hstep, h.after_step hstep ?_ ?_⟩
      · rw [Run.table_carryOn]
        exact ((Engine.aside_happenAll _ _).table.trans hadmits.table).trans reading.installed
      · intro k hk
        obtain ⟨k, hold, rfl⟩ := List.mem_map.mp hk
        rw [Member.ref_countSent, ← reading.connected k hold]
        refine Scene.connected_congr ?_ k.ref
        rw [Run.clients_carryOn]
        exact (Engine.aside_happenAll _ _).clients.trans hclients

/-- Every trace is read to its end. -/
theorem stepAll (h : Reading t read r) (timing : Timing) (grace : Nat) (records : List Record) :
    ∃ next, Run.stepAll timing grace records r = .ok next ∧ Reading t (read ++ records) next := by
  induction records generalizing read r with
  | nil => exact ⟨r, rfl, by rwa [List.append_nil]⟩
  | cons record rest ih =>
      obtain ⟨next, hstep, reading⟩ := h.step timing grace record
      obtain ⟨last, hrest, whole⟩ := ih reading
      refine ⟨last, ?_, ?_⟩
      · simp only [Run.stepAll, hstep, hrest]
      · rwa [List.append_assoc] at whole

end Reading

/-! ## At the end -/

namespace Run

/-- What was skipped makes no difference at the end. -/
theorem withoutJournal_finish (r : Run) (timing : Timing) (records : Nat) :
    (r.finish timing records).withoutJournal =
      (r.withoutJournal.finish timing records).withoutJournal := by
  have hfinish :=
    r.withoutJournal.finish_afterJournal r.world.engine.scene.notes r.summary.skipped timing records
  rw [afterJournal_withoutJournal] at hfinish
  rw [hfinish, withoutJournal_afterJournal]

end Run

/-- Two replays that are alike in all but the journals and the numbers of records and of skipped
records. -/
structure Alike (r r' : Run) : Prop where
  log : r.log = r'.log
  members : r.members = r'.members
  world : r.world.mapEngine Engine.withoutJournal = r'.world.mapEngine Engine.withoutJournal
  summary : r.summary =
    { r'.summary with records := r.summary.records, skipped := r.summary.skipped }

/-- Replays that differ in what was skipped are alike at the end, however many records each of them
is said to have. -/
theorem alike_finish {r r' : Run} (h : r.withoutJournal = r'.withoutJournal) (timing : Timing)
    (records records' : Nat) : Alike (r.finish timing records) (r'.finish timing records') := by
  have hwithout : (r.finish timing records).withoutJournal =
      (r'.finish timing records).withoutJournal := by
    rw [r.withoutJournal_finish, h, ← r'.withoutJournal_finish]
  have hworld : (r'.finish timing records).world.mapEngine Engine.withoutJournal =
      (r'.finish timing records').world.mapEngine Engine.withoutJournal := by
    simp only [Run.finish, World.mapEngine, Engine.withoutJournal_note]
  have hlog := congrArg Run.log hwithout
  have hmembers := congrArg Run.members hwithout
  have hsummary := congrArg Run.summary hwithout
  refine ⟨hlog, hmembers, (congrArg Run.world hwithout).trans hworld, ?_⟩
  simp only [Run.withoutJournal, Run.finish, Summary.mk.injEq] at hsummary ⊢
  simp [hsummary]

/-- In any world with a table a trace is replayed to its end, and so are its records that decode
alone, with the same timing of the pool.  Both replays dispatch the records that decode, in this
order, with the same sequence numbers and outcomes; they make the same calls with the same results,
for the same sessions, and leave the same tally, the same totals of the world loop, and the same
world but for its journal.  Their summaries differ only in the records and the skipped records, both
larger by the number of the records that do not decode. -/
theorem undecodable_records_leave_no_trace {w : World WorldSession} {t : Table WorldSession}
    (installed : w.engine.table = some t) (timing : Timing) (grace : Nat) (trace : List Record) :
    ∃ r r', run timing grace trace w = .ok r ∧
      run timing grace (trace.filter Record.decodes) w = .ok r' ∧
      r.log.map Dispatched.record = trace.filter Record.decodes ∧
      r.log = r'.log ∧
      r.world.engine.scene.calls = r'.world.engine.scene.calls ∧
      r.members = r'.members ∧
      r.world.engine.scene.tally = r'.world.engine.scene.tally ∧
      r.world.report = r'.world.report ∧
      r.world.mapEngine Engine.withoutJournal = r'.world.mapEngine Engine.withoutJournal ∧
      r.summary = { r'.summary with
        records := r'.summary.records + trace.countP fun record => !record.decodes
        skipped := r'.summary.skipped + trace.countP fun record => !record.decodes } := by
  obtain ⟨r, hrun, reading⟩ := (Reading.start installed).stepAll timing grace trace
  obtain ⟨r', hrun', reading'⟩ :=
    (Reading.start installed).stepAll timing grace (trace.filter Record.decodes)
  have hwithout : r.withoutJournal = r'.withoutJournal := by
    have hfilter := Run.stepAll_filter_decodes (r := Run.start w) timing grace rfl trace
    rw [hrun, hrun'] at hfilter
    exact (Except.ok.inj hfilter).symm
  have alike := alike_finish hwithout timing trace.length (trace.filter Record.decodes).length
  have hrecords : (r.finish timing trace.length).summary.records =
      (r'.finish timing (trace.filter Record.decodes).length).summary.records +
        trace.countP fun record => !record.decodes := by
    change trace.length = (trace.filter Record.decodes).length + _
    rw [← List.countP_eq_length_filter, List.length_eq_countP_add_countP Record.decodes]
    simp
  have hskipped : (r.finish timing trace.length).summary.skipped =
      (r'.finish timing (trace.filter Record.decodes).length).summary.skipped +
        trace.countP fun record => !record.decodes := by
    change r.summary.skipped = r'.summary.skipped + _
    rw [reading.skipped, reading'.skipped, List.nil_append, List.nil_append, List.countP_filter]
    simp
  have hsummary := alike.summary
  rw [hrecords, hskipped] at hsummary
  refine ⟨r.finish timing trace.length, r'.finish timing (trace.filter Record.decodes).length,
    ?_, ?_, reading.records, alike.log, congrArg (fun w => w.engine.scene.calls) alike.world,
    alike.members, congrArg (fun w => w.engine.scene.tally) alike.world,
    congrArg (fun w => w.report) alike.world, alike.world, hsummary⟩
  · rw [run, hrun]
    rfl
  · rw [run, hrun']
    rfl

/-- Two records that do not decode, one of a session with other records and one of a session that has
no others. -/
theorem undecodable_records_leave_no_trace_lanes :
    ∃ r r',
      run idlePool 20000 (⟨7, .authed, 1, "***"⟩ :: laneTrace)
        (Settings.Dispatch.opening ⟨some 1, 1, 1, 50, 20, false⟩ 4 laneTable) = .ok r ∧
      run idlePool 20000
        [⟨7, .authed, 1, ""⟩, ⟨9, .authed, 3, "AA=="⟩, ⟨7, .authed, 2, ""⟩, ⟨9, .authed, 2, ""⟩,
          ⟨7, .queued, 1, ""⟩]
        (Settings.Dispatch.opening ⟨some 1, 1, 1, 50, 20, false⟩ 4 laneTable) = .ok r' ∧
      r.log = r'.log ∧ r.world.engine.scene.tally = r'.world.engine.scene.tally ∧
      r.summary = { r'.summary with
        records := r'.summary.records + 2
        skipped := r'.summary.skipped + 2 } := by
  obtain ⟨r, r', hrun, hrun', -, hlog, -, -, htally, -, -, hsummary⟩ :=
    undecodable_records_leave_no_trace
      (w := Settings.Dispatch.opening ⟨some 1, 1, 1, 50, 20, false⟩ 4 laneTable) rfl idlePool 20000
      (⟨7, .authed, 1, "***"⟩ :: laneTrace)
  have hkept : (⟨7, .authed, 1, "***"⟩ :: laneTrace : List Record).filter Record.decodes =
      [⟨7, .authed, 1, ""⟩, ⟨9, .authed, 3, "AA=="⟩, ⟨7, .authed, 2, ""⟩, ⟨9, .authed, 2, ""⟩,
        ⟨7, .queued, 1, ""⟩] := by
    decide +kernel
  have hdeleted : ((⟨7, .authed, 1, "***"⟩ :: laneTrace : List Record).countP fun record =>
      !record.decodes) = 2 := by
    decide +kernel
  rw [hkept] at hrun'
  rw [hdeleted] at hsummary
  exact ⟨r, r', hrun, hrun', hlog, htally, hsummary⟩

end Replay
end PacketDispatch
