import PacketDispatch.Proofs.Table.Sentinel
import PacketDispatch.Proofs.Traffic.Delivery
import Mathlib.Data.List.Induction

/-!
# Spoofed messages never run

A client may send a message with an opcode that only the server sends.  Its dispatch comes back
ignored or denied and changes nothing else; over a whole run no call is made of it, and neither the
pool nor the world queue ever has a job of it.  The handler bound to such an opcode has no influence
on anything: a run reads its table only through decisions and log lines, and these do not change
with that handler.
-/

namespace PacketDispatch

variable {σ : Type}

/-! ## One dispatch -/

namespace Engine

variable {e : Engine σ} {t : Table σ} {ref : SessionRef} {env : Envelope}

/-- A spoofed message is turned away, and leaves the journal and the counters as the only things
that changed. -/
theorem dispatch_of_foreign (guarded : t.Guarded) (foreign : t.Foreign env.opcode) (phase : Phase)
    (installed : e.table = some t) (live : e.scene.connected ref = true) :
    ∃ outcome e', e.dispatch phase ref env = .ok (outcome, e') ∧
      outcome.TurnsAway env.opcode phase ∧ Untouched e e' := by
  obtain ⟨outcome, hdecide, hturns⟩ := Table.decide_of_foreign guarded foreign phase
  have hdispatch := dispatch_of_connected phase env installed live
  rw [route_of_stop hdecide] at hdispatch
  refine ⟨_, _, hdispatch, hturns, ?_⟩
  constructor <;> rfl

/-! ## What an engine reads of its table -/

/-- Two tables with the same decisions and the same log lines. -/
structure SameRules (t t' : Table σ) : Prop where
  decide : ∀ phase env, t'.decide phase env = t.decide phase env
  stopLines : ∀ env outcome, t'.stopLines env outcome = t.stopLines env outcome
  label : ∀ id, t'.label id = t.label id

theorem sameRules_rebindServer (guarded : t.Guarded) (handler : Descriptor σ → Handler σ) :
    SameRules t (t.rebindServer handler) where
  decide := Table.decide_rebindServer handler guarded
  stopLines := Table.stopLines_rebindServer handler t
  label := Table.label_rebindServer handler t

theorem route_congr {t' : Table σ} (same : SameRules t t') (e : Engine σ) (phase : Phase)
    (ref : SessionRef) (env : Envelope) :
    e.route t' phase ref env = e.route t phase ref env := by
  simp only [route, same.decide, same.stopLines, defer, runInPlace, Table.failedLine,
    Table.scheduledLine, Table.refusedJobLine, same.label]

/-! ### The installed table -/

theorem handOff_withTable (e : Engine σ) (t : Table σ) (lane : Lane) (j : Job σ) :
    (e.withTable t).handOff lane j = (e.handOff lane j).map fun e' => e'.withTable t := by
  cases hscheduler : e.scheduler with
  | refusing => cases lane <;> simp [handOff, withTable, hscheduler, Except.map]
  | standard =>
      cases lane with
      | pool =>
          simp only [handOff, withTable, hscheduler]
          cases e.pool.spawn j <;> rfl
      | world | inPlace =>
          simp only [handOff, withTable, hscheduler]
          cases e.queue.push j <;> rfl

theorem defer_withTable (e : Engine σ) (t t' : Table σ) (ref : SessionRef) (env : Envelope)
    (lane : Lane) (c : Call σ) :
    (e.withTable t').defer t ref env lane c =
      ((e.defer t ref env lane c).1, (e.defer t ref env lane c).2.withTable t') := by
  have hhandOff := e.handOff_withTable t' lane
    ⟨e.dispatched, ref, c, env.opcode, env.session, env.sequence⟩
  unfold defer
  simp only [withTable] at hhandOff ⊢
  rw [hhandOff]
  cases e.handOff lane ⟨e.dispatched, ref, c, env.opcode, env.session, env.sequence⟩ <;> rfl

theorem runInPlace_withTable (e : Engine σ) (t t' : Table σ) (ref : SessionRef) (env : Envelope)
    (d : Descriptor σ) (c : Call σ) :
    (e.withTable t').runInPlace t ref env d c =
      ((e.runInPlace t ref env d c).1, (e.runInPlace t ref env d c).2.withTable t') := by
  simp only [runInPlace, withTable]
  cases e.scene.call .inPlace e.dispatched ref c with
  | none => rfl
  | some called =>
      simp only
      cases called.result <;> rfl

/-- How a message is routed by a given table does not depend on the one that is installed. -/
theorem route_withTable (e : Engine σ) (t t' : Table σ) (phase : Phase) (ref : SessionRef)
    (env : Envelope) :
    (e.withTable t').route t phase ref env =
      ((e.route t phase ref env).1, (e.route t phase ref env).2.withTable t') := by
  unfold route
  cases t.decide phase env with
  | stop outcome => rfl
  | call d c =>
      simp only
      by_cases hdeferred : d.lane.deferred = true
      · rw [if_pos hdeferred, if_pos hdeferred]
        exact (e.note _).defer_withTable t t' ref env d.lane c
      · rw [if_neg hdeferred, if_neg hdeferred]
        exact (e.note _).runInPlace_withTable t t' ref env d c

theorem arrive_withTable {t' : Table σ} (same : SameRules t t') (installed : e.table = some t)
    (phase : Phase) (ref : SessionRef) (env : Envelope) :
    (e.withTable t').arrive phase ref env =
      (e.arrive phase ref env).map fun arrived => (arrived.1, arrived.2.withTable t') := by
  cases live : e.scene.connected ref with
  | false => simp [arrive, withTable, installed, live, Except.map]
  | true =>
      have hlive : (e.withTable t').scene.connected ref = true := live
      rw [arrive_of_connected installed live, arrive_of_connected rfl hlive,
        route_congr same, route_withTable]
      rfl

theorem startPooled_withTable (e : Engine σ) (t : Table σ) (place : Nat) :
    (e.withTable t).startPooled place = (e.startPooled place).withTable t := by
  unfold startPooled
  simp only [withTable]
  cases e.pool.take? place <;> rfl

theorem finishPooled_withTable (e : Engine σ) (t : Table σ) (place : Nat) :
    (e.withTable t).finishPooled place = (e.finishPooled place).withTable t := by
  unfold finishPooled
  simp only [withTable]
  cases e.pool.finish? place <;> rfl

end Engine

/-! ## Runs with another handler -/

/-- The event has to do with the table: it installs one, or a message is looked up in it. -/
def Event.asksTable : Event σ → Bool
  | .install _ | .dispatch _ _ _ | .arrive _ _ _ => true
  | _ => false

namespace Traffic

variable {t t' : Table σ} {s : Traffic σ}

/-- The traffic with another table installed. -/
def withTable (s : Traffic σ) (t : Table σ) : Traffic σ :=
  s.mapEngine fun e => e.withTable t

theorem arrive_withTable (same : Engine.SameRules t t') (installed : s.engine.table = some t)
    (phase : Phase) (ref : SessionRef) (env : Envelope) :
    (s.withTable t').arrive phase ref env = (s.arrive phase ref env).withTable t' := by
  have harrive := Engine.arrive_withTable same installed phase ref env
  unfold arrive
  simp only [withTable, mapEngine_engine]
  rw [harrive]
  cases s.engine.arrive phase ref env <;> rfl

theorem settle_withTable (s : Traffic σ) (t : Table σ) (place : Nat) :
    (s.withTable t).settle place = (s.settle place).withTable t := by
  unfold settle
  simp only [withTable, mapEngine]
  cases s.underway[place]? <;> rfl

/-- Nothing else looks at the table. -/
theorem step_withTable_of_not_asksTable (s : Traffic σ) (t : Table σ) {event : Event σ}
    (h : event.asksTable = false) :
    (s.withTable t).step event = (s.step event).withTable t := by
  cases event with
  | install replacement => cases h
  | dispatch phase ref env => cases h
  | arrive phase ref env => cases h
  | settle place => exact s.settle_withTable t place
  | beside b =>
      cases b with
      | start place =>
          have hstart := s.engine.startPooled_withTable t place
          simp only [step, beside, withTable, mapEngine, Engine.happen, hstart]
      | finish place =>
          have hfinish := s.engine.finishPooled_withTable t place
          simp only [step, beside, finish, withTable, mapEngine, hfinish]
          rfl
      | elapse ms => rfl
  | connect session | disconnect ref | drain budget | proceed limit | closeQueue | closePool => rfl

/-- Whatever happens, a table with the same rules makes no difference but for itself. -/
theorem step_withTable (same : Engine.SameRules t t') (installed : s.engine.table = some t)
    (event : Event σ) :
    (s.withTable t').step event = (s.step event).withTable t' := by
  cases hasks : event.asksTable with
  | false => exact s.step_withTable_of_not_asksTable t' hasks
  | true =>
      cases event with
      | install replacement =>
          simp [step, withTable, mapEngine, Engine.install, Engine.withTable, installed,
            Engine.note]
      | dispatch phase ref env =>
          change (s.withTable t').dispatch phase ref env = (s.dispatch phase ref env).withTable t'
          rw [dispatch_eq_settle_arrive, dispatch_eq_settle_arrive,
            arrive_withTable same installed, settle_withTable]
          rfl
      | arrive phase ref env => exact arrive_withTable same installed phase ref env
      | settle | beside | connect | disconnect | drain | proceed | closeQueue | closePool =>
          cases hasks

theorem run_withTable (same : Engine.SameRules t t') (scheduler : Scheduler)
    (permits capacity : Nat) (events : List (Event σ)) :
    (opening scheduler permits capacity t').run events =
      ((opening scheduler permits capacity t).run events).withTable t' := by
  induction events using List.reverseRecOn with
  | nil => rfl
  | append_singleton events event ih =>
      have hledger := Ledger.run scheduler permits capacity t events
      simp only [run, List.foldl_append, List.foldl_cons, List.foldl_nil] at ih hledger ⊢
      rw [ih]
      exact step_withTable same hledger.installed event

/-! ## What came back from stopped messages -/

/-- Every message that the table and the gate stopped came back with that outcome. -/
def Answered (t : Table σ) (s : Traffic σ) : Prop :=
  ∀ a ∈ s.arrivals, ∀ outcome, t.decide a.phase a.envelope = .stop outcome → a.outcome = outcome

theorem Answered.of_arrivals_eq {s' : Traffic σ} (h : Answered t s)
    (arrivals : s'.arrivals = s.arrivals) :
    Answered t s' := by
  unfold Answered
  rw [arrivals]
  exact h

theorem Answered.arrive (h : Answered t s) (installed : s.engine.table = some t) (phase : Phase)
    (ref : SessionRef) (env : Envelope) :
    Answered t (s.arrive phase ref env) := by
  rcases s.arrive_cases phase ref env with hsame | ⟨outcome, hbegins⟩
  · rw [hsame]
    exact h
  · obtain ⟨-, houtcome⟩ := Engine.route_of_arrive installed hbegins.engine
    intro a ha stopped hstopped
    rw [hbegins.arrivals] at ha
    rcases List.mem_append.mp ha with hold | hnew
    · exact h a hold stopped hstopped
    · obtain rfl := List.mem_singleton.mp hnew
      have hdecide : t.decide phase env = .stop stopped := hstopped
      rw [Engine.route_of_stop hdecide] at houtcome
      exact houtcome.symm

theorem Answered.settle (h : Answered t s) (place : Nat) :
    Answered t (s.settle place) := by
  unfold Traffic.settle
  split
  · exact h
  · exact h.of_arrivals_eq rfl

theorem Answered.next (h : Answered t s) :
    Answered t s.next := by
  rcases s.next_cases with hsame | ⟨j, ended, htakes⟩
  · rw [hsame]
    exact h
  · exact h.of_arrivals_eq htakes.arrivals

/-- The answers stay beside the ledger, which knows that the table does. -/
theorem lasts_answered (t : Table σ) : Lasts fun s => Ledger t s ∧ Answered t s where
  note := fun _ lines h => ⟨h.1.note lines, h.2⟩
  install := fun _ replacement h => ⟨h.1.install replacement, h.2⟩
  connect := fun _ session h => ⟨h.1.connect session, h.2⟩
  disconnect := fun _ ref h => ⟨h.1.disconnect ref, h.2⟩
  arrive := fun _ phase ref env h =>
    ⟨h.1.arrive phase ref env, h.2.arrive h.1.installed phase ref env⟩
  settle := fun _ place h => ⟨h.1.settle place, h.2.settle place⟩
  next := fun _ h => ⟨h.1.next, h.2.next⟩
  closeQueue := fun _ h => ⟨(Ledger.lasts t).closeQueue _ h.1, h.2⟩
  closePool := fun _ h => ⟨(Ledger.lasts t).closePool _ h.1, h.2⟩
  startPooled := fun _ place h => ⟨h.1.startPooled place, h.2⟩
  finish := fun _ place h => ⟨h.1.finish place, h.2⟩
  advance := fun _ ms h => ⟨(Ledger.lasts t).advance _ ms h.1, h.2⟩

theorem answered_run (scheduler : Scheduler) (permits capacity : Nat) (t : Table σ)
    (events : List (Event σ)) :
    Answered t ((opening scheduler permits capacity t).run events) := by
  have hopening : Answered t (opening scheduler permits capacity t) := by
    simp [Answered, opening, start]
  exact ((lasts_answered t).run events
    ⟨Ledger.opening scheduler permits capacity t, hopening⟩).2

/-! ## Over whole runs -/

/-- However a table is built, its opcodes of the server have sentinels. Whatever the phase and the
payload, a message with such an opcode is turned away: its dispatch never gets as far as the
handler, and changes nothing but the journal and the counters. Over a run no call is made of such a
message, and neither the pool nor the world queue has a job of it; and the run is the same with any
other handlers bound to these opcodes. -/
theorem server_opcodes_never_run (built : t.Built) :
    (∀ d ∈ t.descriptors, d.origin = .server → d.Sentinel) ∧
      (∀ (e : Engine σ) (phase : Phase) (ref : SessionRef) (env : Envelope),
        e.table = some t → e.scene.connected ref = true → t.Foreign env.opcode →
          (∃ outcome e', e.dispatch phase ref env = .ok (outcome, e') ∧
            outcome.TurnsAway env.opcode phase ∧ Engine.Untouched e e') ∧
          ∀ result, ¬ t.Prepares phase env result) ∧
      ∀ (scheduler : Scheduler) (permits capacity : Nat) (events : List (Event σ)),
        let s := (opening scheduler permits capacity t).run events
        (∀ a ∈ s.arrivals, t.Foreign a.envelope.opcode →
          a.outcome.TurnsAway a.envelope.opcode a.phase ∧ s.callsOf a.ticket = [] ∧
            ∀ lane, s.Quiet a.ticket lane) ∧
          ∀ handler : Descriptor σ → Handler σ,
            (opening scheduler permits capacity (t.rebindServer handler)).run events =
              s.withTable (t.rebindServer handler) := by
  have hguarded := built.guarded
  refine ⟨hguarded, ?_, ?_⟩
  · intro e phase ref env installed live foreign
    exact ⟨Engine.dispatch_of_foreign hguarded foreign phase installed live,
      Table.not_prepares_of_foreign hguarded foreign phase⟩
  · intro scheduler permits capacity events s
    have ledger : Ledger t s := Ledger.run scheduler permits capacity t events
    have answered : Answered t s := answered_run scheduler permits capacity t events
    constructor
    · intro a ha foreign
      obtain ⟨outcome, hdecide, hturns⟩ := Table.decide_of_foreign hguarded foreign a.phase
      rw [← answered a ha outcome hdecide] at hturns
      exact ⟨hturns, (ledger.delivery ha).rejected hturns.isRejected⟩
    · intro handler
      have same := Engine.sameRules_rebindServer hguarded handler
      exact run_withTable same scheduler permits capacity events

/-- An opcode that the server sends and clients claim as well, one that clients sent first, and one
that the server sends and nobody answers. -/
def collidingRegistrations : List (Table.Registration Nat) :=
  [.server 0x36 "SMSG_CHAR_CREATE" .never,
    .client 0x36 "CMSG_CHAR_CREATE" .authed .world (Handler.stub "char_create"),
    .client 0x37 "CMSG_CHAR_ENUM" .authed .world (Handler.stub "char_enum"),
    .server 0x37 "SMSG_CHAR_ENUM" .never,
    .server 0x3B "SMSG_CHAR_DATA" .unhandled]

theorem server_opcodes_never_run_colliding :
    let t := (Table.empty.addAll collidingRegistrations).1
    let s := (opening .standard 1 8 t).run
      [.connect 0, .dispatch .loggedIn 0 ⟨0x36, [7], ⟨"a"⟩, 0⟩,
        .dispatch .authed 0 ⟨0x37, [], ⟨"a"⟩, 1⟩, .dispatch .queued 0 ⟨0x3B, [], ⟨"a"⟩, 2⟩,
        .drain 0]
    s.arrivals.map Arrival.outcome =
        [.dropped (.denied 0x36 .never .loggedIn .notAllowed), .scheduled .world, .ignored] ∧
      s.engine.scene.calls.map CallRecord.ticket = [1] ∧
      (∃ outcome e', s.engine.dispatch .transfer 0 ⟨0x36, [1, 2], ⟨"a"⟩, 3⟩ = .ok (outcome, e') ∧
        outcome.TurnsAway 0x36 .transfer ∧ Engine.Untouched s.engine e') ∧
      ∃ a ∈ s.arrivals, a.envelope.opcode = 0x3B ∧ ∀ lane, s.Quiet a.ticket lane := by
  have built := Table.Built.registered collidingRegistrations
  obtain ⟨-, hdispatch, hruns⟩ := server_opcodes_never_run built
  have hcreate : (Table.empty.addAll collidingRegistrations).1.Foreign 0x36 := ⟨_, rfl, rfl⟩
  have hdata : (Table.empty.addAll collidingRegistrations).1.Foreign 0x3B := ⟨_, rfl, rfl⟩
  refine ⟨by decide, by decide, (hdispatch _ .transfer 0 _ rfl rfl hcreate).1, ?_⟩
  exact ⟨⟨2, .queued, 0, ⟨0x3B, [], ⟨"a"⟩, 2⟩, .ignored⟩, by decide, rfl,
    ((hruns .standard 1 8 _).1 _ (by decide) hdata).2.2⟩

end Traffic
end PacketDispatch
