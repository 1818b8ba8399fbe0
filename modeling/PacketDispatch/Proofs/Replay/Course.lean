import Mathlib.Data.List.Forall2
import PacketDispatch.Proofs.Engine.Awaiting
import PacketDispatch.Proofs.Engine.Resizing
import PacketDispatch.Proofs.Replay.Roster
import PacketDispatch.Proofs.Traffic.Continuation
import PacketDispatch.Proofs.World.Ticking

/-!
# The course of a replay

A replay is traffic of one kind: sessions begin, messages are dispatched one after another, each
followed by a tick, and the pool works beside them.  So what lasts in all traffic lasts in a replay.
Nobody leaves, and no job waits for the world thread when the next record is read.
-/

namespace PacketDispatch
namespace Replay

/-! ## Records and messages -/

/-- The payload of a record decodes, so the record is not skipped. -/
def Record.decodes (record : Record) : Bool :=
  (Run.payload record).isOk

theorem Record.decodes_of_payload {record : Record} {bytes : List UInt8}
    (h : Run.payload record = .ok bytes) : record.decodes = true := by
  simp [decodes, h, Except.isOk, Except.toBool]

theorem Record.not_decodes_of_fault {record : Record} {fault : Text.Base64.Fault}
    (h : Run.payload record = .error fault) : record.decodes = false := by
  simp [decodes, h, Except.isOk, Except.toBool]

/-- The message of a dispatched record. -/
def Dispatched.envelope (d : Dispatched) : Except Text.Base64.Fault Envelope :=
  (Run.payload d.record).map fun bytes =>
    ⟨d.record.opcode, bytes, SessionId.ofNumber d.record.session.toNat, d.sequence⟩

/-- An arrival is that of a dispatched record, for the session with its number. -/
structure Answers (numbers : List UInt32) (a : Arrival) (d : Dispatched) : Prop where
  phase : a.phase = d.record.phase
  session : numbers[a.session]? = some d.record.session
  envelope : d.envelope = .ok a.envelope
  outcome : a.outcome = d.outcome

theorem Answers.append {numbers : List UInt32} {a : Arrival} {d : Dispatched}
    (h : Answers numbers a d) (more : List UInt32) : Answers (numbers ++ more) a d := by
  refine ⟨h.phase, ?_, h.envelope, h.outcome⟩
  rw [List.getElem?_append_left (List.getElem?_eq_some_iff.mp h.session).1]
  exact h.session

/-! ## A replay seen as traffic -/

/-- A replay and the traffic that it is. -/
structure Seen (t : Table WorldSession) (r : Run) (s : Traffic WorldSession) : Prop where
  engine : s.engine = r.world.engine
  idle : s.underway = []
  installed : r.world.engine.table = some t
  standard : r.world.engine.scheduler = .standard
  isOpen : r.world.engine.queue.isOpen = true
  room : 0 < r.world.engine.queue.capacity
  clients : r.world.engine.scene.clients = List.replicate r.members.length true
  executed : r.world.report.executed = s.drained.length
  roster : Roster r.members r.log
  arrivals : List.Forall₂ (Answers (numbersOf r.members)) s.arrivals r.log
  summary : r.summary.Tells r.log

namespace Seen

variable {t : Table WorldSession} {r : Run} {s : Traffic WorldSession}

/-- A fresh world before its first record. -/
theorem start {permits capacity budget : Nat} (room : 0 < capacity) :
    Seen t
      (Run.start (World.start ((Engine.create .standard (Pool.start permits)
        (WorldQueue.empty capacity)).withTable t) budget))
      (Traffic.opening .standard permits capacity t) where
  engine := rfl
  idle := rfl
  installed := rfl
  standard := rfl
  isOpen := rfl
  room := room
  clients := rfl
  executed := rfl
  roster := .empty
  arrivals := .nil
  summary := .zero

/-- Every session of a replay is connected. -/
theorem connected (h : Seen t r s) {m : Member} (hm : m ∈ r.members) :
    r.world.engine.scene.connected m.ref = true := by
  have hplace := (List.getElem?_eq_some_iff.mp (h.roster.places m hm)).1
  rw [length_numbersOf] at hplace
  rw [Scene.connected_eq_clients, h.clients, List.getElem?_replicate, if_pos hplace]
  rfl

theorem length_seats (h : Seen t r s) :
    r.world.engine.scene.seats.length = r.members.length := by
  rw [← Scene.length_clients, h.clients, List.length_replicate]

/-- The engine changed, and the replay saw nothing of it. -/
theorem of_engine (h : Seen t r s) {e : Engine WorldSession} {s' : Traffic WorldSession}
    (aside : Engine.Aside r.world.engine e) (engine : s'.engine = e)
    (underway : s'.underway = s.underway) (arrivals : s'.arrivals = s.arrivals)
    (drained : s'.drained = s.drained) :
    Seen t { r with world := { r.world with engine := e } } s' where
  engine := engine
  idle := underway.trans h.idle
  installed := aside.table.trans h.installed
  standard := aside.scheduler.trans h.standard
  isOpen := aside.queue ▸ h.isOpen
  room := aside.queue ▸ h.room
  clients := aside.clients.trans h.clients
  executed := drained ▸ h.executed
  roster := h.roster
  arrivals := arrivals ▸ h.arrivals
  summary := h.summary

/-! ### Parts of a step -/

theorem happen (h : Seen t r s) (events : List Background) :
    ∃ s', Traffic.Leads s s' ∧ Seen t (r.happen events) s' := by
  have passes := Traffic.passesBy_run events s
  refine ⟨_, s.leads_run _, h.of_engine (Engine.aside_happenAll _ events) ?_ passes.underway
    passes.arrivals passes.drained⟩
  rw [passes.engine, h.engine]

theorem note (h : Seen t r s) (lines : List Line) :
    ∃ s', Traffic.Leads s s' ∧
      Seen t { r with world := r.world.mapEngine fun e => e.note lines } s' := by
  refine ⟨_, s.leads_note lines, h.of_engine ⟨rfl, rfl, rfl, rfl, rfl⟩ ?_ rfl rfl rfl⟩
  rw [Traffic.mapEngine_engine, h.engine]

theorem skip (h : Seen t r s) (record : Record) (fault : Text.Base64.Fault) :
    ∃ s', Traffic.Leads s s' ∧ Seen t (r.skip record fault) s' := by
  obtain ⟨s', leads, noted⟩ := h.note [Run.skipLine record fault]
  have tells := noted.summary
  refine ⟨s', leads, { noted with
    summary := ⟨tells.completed, tells.scheduled, tells.ignored, tells.handlerFailed,
      tells.dropped⟩ }⟩

/-- The session of a record is there, or it begins. -/
theorem member (h : Seen t r s) (number : UInt32) (grace : Nat)
    (known : number ∉ numbersOf r.members → ∀ d ∈ r.log, d.record.session ≠ number) :
    ∃ m r' s', r.member number grace = (m, r') ∧ Traffic.Leads s s' ∧ Seen t r' s' ∧
      m ∈ r'.members ∧ m.number = number ∧ r'.log = r.log ∧
      r'.world.engine.queue = r.world.engine.queue := by
  rcases r.member_cases number grace with ⟨m, hm, hnumber, hmember⟩ | ⟨hnew, hmember⟩
  · exact ⟨m, r, s, hmember, .refl s, h, hm, hnumber, rfl, rfl⟩
  · rw [h.length_seats] at hmember
    refine ⟨_, _, _, hmember,
      s.leads_connect ⟨SessionId.ofNumber number.toNat, number, Login.authed grace⟩, ?_,
      List.mem_append_right _ (List.mem_singleton_self _), rfl, rfl, rfl⟩
    exact {
      engine := by rw [Traffic.mapEngine_engine, h.engine]
      idle := h.idle
      installed := h.installed
      standard := h.standard
      isOpen := h.isOpen
      room := h.room
      clients := by
        rw [List.length_append, List.replicate_add, ← h.clients]
        exact Scene.clients_connect _ _
      executed := h.executed
      roster := h.roster.enroll hnew (known hnew)
      arrivals := by
        rw [numbersOf_append]
        exact h.arrivals.imp fun _ _ answers => answers.append _
      summary := h.summary }

end Seen

/-- A replay after a message arrived and its outcome was counted. -/
def Run.sent (r : Run) (events : List Background) (record : Record) (env : Envelope)
    (outcome : Outcome) (arrived : Engine WorldSession) : Run where
  world := { r.world with engine := (arrived.happenAll events).record record.opcode outcome }
  members := r.members.map (Member.countSent record.session)
  log := r.log ++ [⟨record, env.sequence, outcome⟩]
  summary := r.summary.count outcome

/-- What comes after a message was sent: the pool goes on, the world ticks, and the pool goes on. -/
def Run.carryOn (r : Run) (timing : Timing) (place : Nat) : Run :=
  ((r.happen (timing.afterDispatch place)).tick).happen (timing.afterTick place)

/-- The message of a record of a session. -/
def Member.envelope (m : Member) (record : Record) (bytes : List UInt8) : Envelope :=
  ⟨record.opcode, bytes, SessionId.ofNumber record.session.toNat, UInt64.ofNat (m.sent + 1)⟩

theorem Run.step_of_fault {record : Record} {fault : Text.Base64.Fault} (r : Run)
    (timing : Timing) (grace : Nat) (h : Run.payload record = .error fault) :
    r.step timing grace record = .ok (r.skip record fault) := by
  simp only [Run.step, h]

theorem Run.step_of_arrive {r r' : Run} {record : Record} {bytes : List UInt8} {m : Member}
    {outcome : Outcome} {arrived : Engine WorldSession} (timing : Timing) (grace : Nat)
    (h : Run.payload record = .ok bytes) (member : r.member record.session grace = (m, r'))
    (arrive : r'.world.engine.arrive record.phase m.ref (m.envelope record bytes) =
      .ok (outcome, arrived)) :
    r.step timing grace record =
      .ok ((r'.sent (timing.beforeCount r.log.length) record (m.envelope record bytes) outcome
        arrived).carryOn timing r.log.length) := by
  simp only [Member.envelope] at arrive
  simp only [Run.step, h, member, Run.send, Run.countSent, arrive]
  rfl

namespace Seen

variable {t : Table WorldSession} {r : Run} {s : Traffic WorldSession}

/-- A message of a session arrives, and leaves a job for the world thread at most. -/
theorem send (h : Seen t r s) {record : Record} {bytes : List UInt8} {m : Member}
    (events : List Background) (hm : m ∈ r.members) (hnumber : m.number = record.session)
    (hpayload : Run.payload record = .ok bytes) :
    ∃ outcome arrived s',
      r.world.engine.arrive record.phase m.ref (m.envelope record bytes) =
        .ok (outcome, arrived) ∧
      Traffic.Leads s s' ∧
      Seen t (r.sent events record (m.envelope record bytes) outcome arrived) s' ∧
      ∃ jobs : List (Job WorldSession), jobs.length ≤ 1 ∧
        (r.sent events record (m.envelope record bytes) outcome arrived).world.engine.queue =
          { r.world.engine.queue with pending := r.world.engine.queue.pending ++ jobs } := by
  have hlive := h.connected hm
  have harrive : r.world.engine.arrive record.phase m.ref (m.envelope record bytes) = _ :=
    Engine.arrive_of_connected h.installed hlive
  generalize (r.world.engine.route t record.phase m.ref (m.envelope record bytes)).1 = outcome
    at harrive
  generalize { (r.world.engine.route t record.phase m.ref (m.envelope record bytes)).2 with
    dispatched := r.world.engine.dispatched + 1 } = arrived at harrive
  have hadmits := Engine.admits_of_arrive h.installed harrive
  have haside : Engine.Aside arrived (arrived.happenAll events) :=
    Engine.aside_happenAll arrived events
  have hsends := harrive
  rw [← h.engine] at hsends
  obtain ⟨s', leads, sends⟩ := Traffic.exists_leads_sends events h.idle hsends
  have hclients : (arrived.happenAll events).scene.clients = r.world.engine.scene.clients :=
    haside.clients.trans (Scene.clients_congr hadmits.presence)
  have hqueue := haside.queue.trans hadmits.queue
  refine ⟨outcome, arrived, s', harrive, leads, ?_, _, ?_, hqueue⟩
  · exact {
      engine := sends.engine
      idle := sends.underway
      installed := (haside.table.trans hadmits.table).trans h.installed
      standard := (haside.scheduler.trans hadmits.scheduler).trans h.standard
      isOpen := by
        change (arrived.happenAll events).queue.isOpen = true
        rw [hqueue]
        exact h.isOpen
      room := by
        change 0 < (arrived.happenAll events).queue.capacity
        rw [hqueue]
        exact h.room
      clients := by
        change (arrived.happenAll events).scene.clients = _
        rw [hclients, h.clients]
        simp [Run.sent]
      executed := by
        rw [sends.drained]
        exact h.executed
      roster := h.roster.send ⟨record, _, outcome⟩
      arrivals := by
        rw [sends.arrivals]
        change List.Forall₂ (Answers (numbersOf (r.members.map _))) _ _
        rw [numbersOf_map_countSent]
        refine List.rel_append h.arrivals (.cons ?_ .nil)
        refine ⟨rfl, ?_, ?_, rfl⟩
        · rw [← hnumber]
          exact h.roster.places m hm
        · simp only [Dispatched.envelope, hpayload]
          rfl
      summary := h.summary.count ⟨record, _, outcome⟩ }
  · unfold Arrival.jobs
    split
    · exact Option.length_toList_le
    · exact Nat.zero_le 1

/-- A tick runs the job that waits, if there is one. -/
theorem tick (h : Seen t r s) (short : r.world.engine.queue.pending.length ≤ 1) :
    ∃ s', Traffic.Leads s s' ∧ Seen t r.tick s' ∧
      r.tick.world.engine.queue = { r.world.engine.queue with pending := [] } := by
  rcases nil_or_singleton_of_length_le_one short with hpending | ⟨j, hpending⟩
  · have htick := World.tick_of_pending_nil hpending
    refine ⟨s, .refl s, ?_, ?_⟩
    · rw [Run.tick, htick]
      exact ⟨h.engine, h.idle, h.installed, h.standard, h.isOpen, h.room, h.clients, h.executed,
        h.roster, h.arrivals, h.summary⟩
    · rw [Run.tick, htick, ← hpending]
  · have htick := World.tick_of_pending_singleton hpending
    have hnext : s.next = { s with
        engine := { r.world.engine with
          queue := { r.world.engine.queue with pending := [] }
          scene := (j.make .world r.world.engine.scene).scene.recordJob
            (j.make .world r.world.engine.scene).ended }
        drained := s.drained ++ [(j, (j.make .world r.world.engine.scene).ended)] } := by
      simp only [Traffic.next, h.engine, hpending]
    have hclients : (j.make .world r.world.engine.scene).scene.clients =
        r.world.engine.scene.clients := Scene.clients_make j .world _
    refine ⟨_, s.leads_next.trans (s.next.leads_note
      ((r.world.tookJob j).report.tickLines
        (j.make .world r.world.engine.scene).ended.report)), ?_, ?_⟩
    · rw [hnext, Run.tick, htick]
      exact {
        engine := rfl
        idle := h.idle
        installed := h.installed
        standard := h.standard
        isOpen := h.isOpen
        room := h.room
        clients := hclients.trans h.clients
        executed := by
          change r.world.report.executed + 1 = (s.drained ++ [_]).length
          rw [List.length_append, h.executed]
          rfl
        roster := h.roster
        arrivals := h.arrivals
        summary := h.summary }
    · rw [Run.tick, htick]
      rfl

/-- However much waits for the pool, nothing waits for the world thread when the next record is
read. -/
theorem carryOn (h : Seen t r s) (timing : Timing) (place : Nat)
    (short : r.world.engine.queue.pending.length ≤ 1) :
    ∃ s', Traffic.Leads s s' ∧ Seen t (r.carryOn timing place) s' ∧
      (r.carryOn timing place).world.engine.queue =
        { r.world.engine.queue with pending := [] } := by
  obtain ⟨s₁, leads₁, seen₁⟩ := h.happen (timing.afterDispatch place)
  have hqueue : (r.happen (timing.afterDispatch place)).world.engine.queue =
      r.world.engine.queue := (Engine.aside_happenAll _ _).queue
  obtain ⟨s₂, leads₂, seen₂, hticked⟩ := seen₁.tick (hqueue ▸ short)
  obtain ⟨s₃, leads₃, seen₃⟩ := seen₂.happen (timing.afterTick place)
  refine ⟨s₃, leads₁.trans (leads₂.trans leads₃), seen₃, ?_⟩
  have hlast : (r.carryOn timing place).world.engine.queue =
      (r.happen (timing.afterDispatch place)).tick.world.engine.queue :=
    (Engine.aside_happenAll _ _).queue
  rw [hlast, hticked, hqueue]

end Seen

@[simp] theorem Run.carryOn_log (r : Run) (timing : Timing) (place : Nat) :
    (r.carryOn timing place).log = r.log := rfl

@[simp] theorem Run.carryOn_members (r : Run) (timing : Timing) (place : Nat) :
    (r.carryOn timing place).members = r.members := rfl

@[simp] theorem Run.carryOn_summary (r : Run) (timing : Timing) (place : Nat) :
    (r.carryOn timing place).summary = r.summary := rfl

/-! ### What a step leaves -/

namespace Run

variable {r next : Run} {timing : Timing} {grace : Nat} {record : Record}

/-- A step skips a record that does not decode, and of any other it sends the message and carries
on. -/
theorem cases_of_step (h : r.step timing grace record = .ok next) :
    (∃ fault, payload record = .error fault ∧ next = r.skip record fault) ∨
      ∃ bytes m begun outcome arrived, payload record = .ok bytes ∧
        r.member record.session grace = (m, begun) ∧
        begun.world.engine.arrive record.phase m.ref (m.envelope record bytes) =
          .ok (outcome, arrived) ∧
        next = (begun.sent (timing.beforeCount r.log.length) record (m.envelope record bytes)
          outcome arrived).carryOn timing r.log.length := by
  cases hpayload : payload record with
  | error fault =>
      rw [r.step_of_fault timing grace hpayload] at h
      exact Or.inl ⟨fault, rfl, (Except.ok.inj h).symm⟩
  | ok bytes =>
      rcases hmember : r.member record.session grace with ⟨m, begun⟩
      cases harrive : begun.world.engine.arrive record.phase m.ref (m.envelope record bytes) with
      | error fault =>
          simp only [Member.envelope] at harrive
          simp only [step, hpayload, hmember, send, countSent, harrive] at h
          cases h
      | ok entry =>
          obtain ⟨outcome, arrived⟩ := entry
          rw [step_of_arrive timing grace hpayload hmember harrive] at h
          exact Or.inr ⟨bytes, m, begun, outcome, arrived, rfl, rfl, harrive,
            (Except.ok.inj h).symm⟩

theorem records_of_step (h : r.step timing grace record = .ok next) :
    next.log.map Dispatched.record =
      r.log.map Dispatched.record ++ [record].filter Record.decodes := by
  rcases cases_of_step h with ⟨fault, hpayload, rfl⟩ |
    ⟨bytes, m, begun, outcome, arrived, hpayload, hmember, -, rfl⟩
  · simp [skip, Record.not_decodes_of_fault hpayload]
  · have hlog := r.member_log record.session grace
    simp only [hmember] at hlog
    simp [sent, hlog, Record.decodes_of_payload hpayload]

theorem skipped_of_step (h : r.step timing grace record = .ok next) :
    next.summary.skipped =
      r.summary.skipped + [record].countP fun record => !record.decodes := by
  rcases cases_of_step h with ⟨fault, hpayload, rfl⟩ |
    ⟨bytes, m, begun, outcome, arrived, hpayload, hmember, -, rfl⟩
  · simp [skip, Record.not_decodes_of_fault hpayload]
  · have hsummary := r.member_summary record.session grace
    simp only [hmember] at hsummary
    simp [sent, hsummary, Record.decodes_of_payload hpayload]

end Run

/-! ### Between two records -/

/-- A replay that has read some records, seen as traffic: no job waits for the world thread and none
was ever refused there, the sessions are those of the log, and the log has the records whose payload
decodes. -/
structure Between (t : Table WorldSession) (read : List Record) (r : Run)
    (s : Traffic WorldSession) : Prop where
  seen : Seen t r s
  settled : r.world.engine.queue.pending = []
  spared : ∀ d ∈ r.log, ∀ id, d.outcome ≠ .dropped (.saturated id .world)
  known : ∀ n, n ∈ numbersOf r.members ↔ ∃ d ∈ r.log, d.record.session = n
  records : r.log.map Dispatched.record = read.filter Record.decodes
  skipped : r.summary.skipped = read.countP fun record => !record.decodes

namespace Between

variable {t : Table WorldSession} {read : List Record} {r : Run} {s : Traffic WorldSession}

theorem start (permits budget : Nat) {capacity : Nat} (room : 0 < capacity) :
    Between t []
      (Run.start (World.start ((Engine.create .standard (Pool.start permits)
        (WorldQueue.empty capacity)).withTable t) budget))
      (Traffic.opening .standard permits capacity t) where
  seen := .start room
  settled := rfl
  spared := by simp [Run.start]
  known := by simp [Run.start, numbersOf]
  records := rfl
  skipped := rfl

theorem length_log_le (h : Between t read r s) : r.log.length ≤ read.length := by
  rw [← List.length_map, h.records]
  exact List.length_filter_le _ _

theorem clear (h : Between t read r s) : r.world.engine.queue.Clear :=
  ⟨h.settled, h.seen.isOpen, h.seen.room⟩

/-- The session of the next record is there, or it begins. -/
theorem member (h : Between t read r s) (number : UInt32) (grace : Nat) :
    ∃ m begun s', r.member number grace = (m, begun) ∧ Traffic.Leads s s' ∧ Seen t begun s' ∧
      m ∈ begun.members ∧ m.number = number ∧ begun.log = r.log ∧
      begun.world.engine.queue.Clear := by
  have hnew : number ∉ numbersOf r.members → ∀ d ∈ r.log, d.record.session ≠ number := by
    intro hnew d hd heq
    exact hnew ((h.known number).mpr ⟨d, hd, heq⟩)
  obtain ⟨m, begun, s', hfound, leads, seen, hm, hnumber, hlog, hqueue⟩ :=
    h.seen.member number grace hnew
  exact ⟨m, begun, s', hfound, leads, seen, hm, hnumber, hlog, hqueue ▸ h.clear⟩

/-- A step of a replay: a record that does not decode is skipped, and any other is dispatched for
its session. -/
theorem step (h : Between t read r s) (timing : Timing) (grace : Nat) (record : Record) :
    ∃ r' s', r.step timing grace record = .ok r' ∧ Traffic.Leads s s' ∧
      Between t (read ++ [record]) r' s' := by
  cases hpayload : Run.payload record with
  | error fault =>
      have hstep := r.step_of_fault timing grace hpayload
      obtain ⟨s', leads, seen⟩ := h.seen.skip record fault
      refine ⟨_, s', hstep, leads, seen, h.settled, h.spared, h.known, ?_, ?_⟩
      · rw [Run.records_of_step hstep, List.filter_append, h.records]
      · rw [Run.skipped_of_step hstep, List.countP_append, h.skipped]
  | ok bytes =>
      obtain ⟨m, begun, s₁, hfound, leads₁, seen₁, hm, hnumber, hlog, hclear⟩ :=
        h.member record.session grace
      have hmember := r.member_numbers record.session grace
      simp only [hfound] at hmember
      obtain ⟨outcome, arrived, s₂, harrive, leads₂, seen₂, jobs, hjobs, hsent⟩ :=
        seen₁.send (timing.beforeCount r.log.length) hm hnumber hpayload
      have hspared := Engine.spared_of_arrive seen₁.installed seen₁.standard hclear harrive
      have hshort : (begun.sent (timing.beforeCount r.log.length) record
          (m.envelope record bytes) outcome arrived).world.engine.queue.pending.length ≤ 1 := by
        rw [hsent, hclear.pending]
        exact hjobs
      obtain ⟨s₃, leads₃, seen₃, hcarried⟩ := seen₂.carryOn timing r.log.length hshort
      have hstep := Run.step_of_arrive timing grace hpayload hfound harrive
      refine ⟨_, s₃, hstep, leads₁.trans (leads₂.trans leads₃), seen₃, ?_, ?_, ?_, ?_, ?_⟩
      · rw [hcarried]
      · rw [Run.carryOn_log]
        intro d hd
        rcases List.mem_append.mp hd with hold | hlast
        · exact h.spared d (hlog ▸ hold)
        · rw [List.mem_singleton.mp hlast]
          exact hspared
      · intro n
        rw [Run.carryOn_members, Run.carryOn_log]
        simp only [Run.sent, hlog]
        rw [numbersOf_map_countSent, hmember, h.known]
        simp [or_and_right, exists_or, eq_comm]
      · rw [Run.records_of_step hstep, List.filter_append, h.records]
      · rw [Run.skipped_of_step hstep, List.countP_append, h.skipped]

/-- Every trace is replayed to its end. -/
theorem stepAll (h : Between t read r s) (timing : Timing) (grace : Nat) (records : List Record) :
    ∃ r' s', Run.stepAll timing grace records r = .ok r' ∧ Traffic.Leads s s' ∧
      Between t (read ++ records) r' s' := by
  induction records generalizing read r s with
  | nil => exact ⟨r, s, rfl, .refl s, by rwa [List.append_nil]⟩
  | cons record rest ih =>
      obtain ⟨r₁, s₁, hstep, leads₁, between₁⟩ := h.step timing grace record
      obtain ⟨r₂, s₂, hrest, leads₂, between₂⟩ := ih between₁
      refine ⟨r₂, s₂, ?_, leads₁.trans leads₂, ?_⟩
      · simp only [Run.stepAll, hstep, hrest]
      · rwa [List.append_assoc] at between₂

end Between

/-! ### At the end -/

/-- A replay that is over, as traffic: every pool job has ended, and the summary is complete. -/
structure Finished (t : Table WorldSession) (trace : List Record) (r : Run)
    (s : Traffic WorldSession) : Prop extends Between t trace r s where
  pool : r.world.engine.pool.unfinished = 0
  total : r.summary.records = trace.length
  sessions : r.summary.sessions = r.members.length

/-- The summary of a replay that has read some number of records. -/
def Run.closing (r : Run) (records : Nat) : Summary :=
  { r.summary with records := records, sessions := r.members.length }

/-- What was handed on is run in the end.  The world thread has nothing left to do, and the pool
does what it might have done at any time. -/
theorem Run.exists_finish_eq {r : Run} (settled : r.world.engine.queue.pending = [])
    (timing : Timing) (records : Nat) :
    ∃ events, r.finish timing records =
        { r with
          world := (r.happen events).world.mapEngine fun e => e.note [doneLine (r.closing records)]
          summary := r.closing records } ∧
      (r.happen events).world.engine.pool.unfinished = 0 := by
  have hsettle : r.world.settle = r.world := World.settle_of_pending_nil settled
  obtain ⟨events, hawait, hpool⟩ :=
    (r.world.engine.happenAll timing.atEnd).exists_happenAll_awaitPool
  rw [← Engine.happenAll_append] at hawait
  rw [hawait] at hpool
  refine ⟨timing.atEnd ++ events, ?_, hpool⟩
  simp only [finish, hsettle, World.mapEngine, hawait, happen, closing]

/-- When a replay is over its books are complete. -/
theorem Between.finish {t : Table WorldSession} {trace : List Record} {r : Run}
    {s : Traffic WorldSession} (h : Between t trace r s) (timing : Timing) :
    ∃ s', Traffic.Leads s s' ∧ Finished t trace (r.finish timing trace.length) s' := by
  obtain ⟨events, hfinish, hpool⟩ := Run.exists_finish_eq h.settled timing trace.length
  obtain ⟨s₁, leads₁, seen₁⟩ := h.seen.happen events
  obtain ⟨s₂, leads₂, seen₂⟩ := seen₁.note [Run.doneLine (r.closing trace.length)]
  have hqueue : (r.happen events).world.engine.queue = r.world.engine.queue :=
    (Engine.aside_happenAll _ _).queue
  have tells := h.seen.summary
  refine ⟨s₂, leads₁.trans leads₂, ?_⟩
  rw [hfinish]
  exact {
    seen := { seen₂ with
      summary := ⟨tells.completed, tells.scheduled, tells.ignored, tells.handlerFailed,
        tells.dropped⟩ }
    settled := by
      change (r.happen events).world.engine.queue.pending = []
      rw [hqueue]
      exact h.settled
    spared := h.spared
    known := h.known
    records := h.records
    skipped := h.skipped
    pool := hpool
    total := rfl
    sessions := rfl }

/-- Every trace is replayed to its end, whatever the timing of the pool. -/
theorem exists_run_finished (t : Table WorldSession) (permits budget : Nat) {capacity : Nat}
    (room : 0 < capacity) (timing : Timing) (grace : Nat) (trace : List Record) :
    ∃ r s, run timing grace trace (World.start ((Engine.create .standard (Pool.start permits)
        (WorldQueue.empty capacity)).withTable t) budget) = .ok r ∧
      Traffic.Leads (Traffic.opening .standard permits capacity t) s ∧
      Finished t trace r s := by
  obtain ⟨r, s, hrun, leads, between⟩ :=
    (Between.start permits budget room).stepAll timing grace trace
  obtain ⟨s', leads', finished⟩ := between.finish timing
  refine ⟨_, s', ?_, leads.trans leads', finished⟩
  rw [run, hrun]
  rfl

end Replay
end PacketDispatch
