import PacketDispatch.Proofs.Engine.Arrival
import PacketDispatch.Proofs.Engine.Counters

/-!
# The order in which a dispatch is decided

Several reasons to reject a message may hold at once.  The outcome of a dispatch names the first
of them, in a fixed order: the opcode, the gate, the payload, and only then the room for a
deferred job.  A rejected message leaves nothing behind but log lines and its counters.
-/

namespace PacketDispatch

/-! ## The order -/

section Order

variable {σ : Type}

/-- A message passes the gate, and its handler then prepares it with a result: its opcode has a
descriptor, and what that demands is granted to the phase of the session. -/
def Table.Prepares (t : Table σ) (phase : Phase) (env : Envelope)
    (result : Except Wire.Fault (Call σ)) : Prop :=
  ∃ d, t.lookup env.opcode = some d ∧ d.requirement.check phase = .granted ∧
    d.handler.prepare env = result

/-- The result that a call has when it runs at once against a session. -/
def Engine.Yields (e : Engine σ) (ref : SessionRef) (c : Call σ)
    (result : Except HandlerError Unit) : Prop :=
  ∃ session, e.scene.session? ref = some session ∧
    (c.body e.scene.now session).ending.isolated = result

/-- An outcome names the first reason to reject a message or, without one, what became of its
call. -/
structure Engine.Decides (e : Engine σ) (t : Table σ) (phase : Phase) (ref : SessionRef)
    (env : Envelope) (outcome : Outcome) : Prop where
  unknown : ∀ id, outcome = .dropped (.unknownOpcode id) ↔
    env.opcode = id ∧ t.lookup env.opcode = none
  ignored : outcome = .ignored ↔
    ∃ d, t.lookup env.opcode = some d ∧ d.requirement.check phase = .unhandled
  denied : ∀ id required actual reason,
    outcome = .dropped (.denied id required actual reason) ↔
      ∃ d, t.lookup env.opcode = some d ∧ env.opcode = id ∧ d.requirement = required ∧
        phase = actual ∧ d.requirement.check phase = .denied reason
  undecodable : ∀ id fault, outcome = .dropped (.undecodable id fault) ↔
    env.opcode = id ∧ t.Prepares phase env (.error fault)
  completed : outcome = .completed ↔
    t.laneOf env.opcode = .inPlace ∧
      ∃ c, t.Prepares phase env (.ok c) ∧ e.Yields ref c (.ok ())
  handlerFailed : ∀ error, outcome = .handlerFailed error ↔
    t.laneOf env.opcode = .inPlace ∧
      ∃ c, t.Prepares phase env (.ok c) ∧ e.Yields ref c (.error error)
  scheduled : ∀ lane, outcome = .scheduled lane ↔
    t.laneOf env.opcode = lane ∧ lane.deferred = true ∧ (∃ c, t.Prepares phase env (.ok c)) ∧
      e.HasRoom lane
  saturated : ∀ id lane, outcome = .dropped (.saturated id lane) ↔
    env.opcode = id ∧ t.laneOf env.opcode = lane ∧ lane.deferred = true ∧
      (∃ c, t.Prepares phase env (.ok c)) ∧ ¬ e.HasRoom lane

end Order

namespace Table

variable {σ : Type} {t : Table σ} {phase : Phase} {env : Envelope}

theorem not_prepares_of_unknown (h : t.lookup env.opcode = none)
    (result : Except Wire.Fault (Call σ)) :
    ¬ t.Prepares phase env result := by
  simp [Prepares, h]

theorem prepares_iff_of_lookup {d : Descriptor σ} (h : t.lookup env.opcode = some d)
    (result : Except Wire.Fault (Call σ)) :
    t.Prepares phase env result ↔
      d.requirement.check phase = .granted ∧ d.handler.prepare env = result := by
  simp [Prepares, h]

end Table

/-! ## One lemma for each way of a message -/

namespace Engine.Decides

variable {σ : Type} {e : Engine σ} {t : Table σ} {phase : Phase} {ref : SessionRef}
  {env : Envelope}

/-- The opcode comes first. -/
theorem of_unknown (h : t.lookup env.opcode = none) :
    Decides e t phase ref env (.dropped (.unknownOpcode env.opcode)) := by
  constructor <;> simp [h, Table.not_prepares_of_unknown h]

/-- The gate comes next: the message may be one that nobody wants. -/
theorem of_unhandled {d : Descriptor σ} (h : t.lookup env.opcode = some d)
    (hcheck : d.requirement.check phase = .unhandled) :
    Decides e t phase ref env .ignored := by
  constructor <;> simp [h, Table.prepares_iff_of_lookup h, hcheck]

theorem of_denied {d : Descriptor σ} {reason : Refusal} (h : t.lookup env.opcode = some d)
    (hcheck : d.requirement.check phase = .denied reason) :
    Decides e t phase ref env
      (.dropped (.denied env.opcode d.requirement phase reason)) := by
  constructor <;> simp [h, Table.prepares_iff_of_lookup h, hcheck]

/-- The payload comes before anything runs or is handed on. -/
theorem of_undecodable {d : Descriptor σ} {fault : Wire.Fault}
    (h : t.lookup env.opcode = some d) (hcheck : d.requirement.check phase = .granted)
    (hprepare : d.handler.prepare env = .error fault) :
    Decides e t phase ref env (.dropped (.undecodable env.opcode fault)) := by
  constructor <;> simp [h, Table.prepares_iff_of_lookup h, hcheck, hprepare]

theorem of_stop {outcome : Outcome} (h : t.decide phase env = .stop outcome) :
    Decides e t phase ref env outcome := by
  cases hlookup : t.lookup env.opcode with
  | none =>
      rw [Table.decide_of_unknown hlookup] at h
      exact Decision.stop.inj h ▸ of_unknown hlookup
  | some d =>
      cases hcheck : d.requirement.check phase with
      | unhandled =>
          rw [Table.decide_of_unhandled hlookup hcheck] at h
          exact Decision.stop.inj h ▸ of_unhandled hlookup hcheck
      | denied reason =>
          rw [Table.decide_of_denied hlookup hcheck] at h
          exact Decision.stop.inj h ▸ of_denied hlookup hcheck
      | granted =>
          cases hprepare : d.handler.prepare env with
          | error fault =>
              rw [Table.decide_of_undecodable hlookup hcheck hprepare] at h
              exact Decision.stop.inj h ▸ of_undecodable hlookup hcheck hprepare
          | ok c =>
              rw [Table.decide_of_prepared hlookup hcheck hprepare] at h
              cases h

theorem of_inPlace {d : Descriptor σ} {c : Call σ} {session : σ}
    (h : t.decide phase env = .call d c) (inPlace : d.lane = .inPlace)
    (present : e.scene.session? ref = some session) :
    Decides e t phase ref env
      (Outcome.ofResult (c.body e.scene.now session).ending.isolated) := by
  obtain ⟨hlookup, hcheck, hprepare⟩ := Table.decide_eq_call_iff.mp h
  have hlane : t.laneOf env.opcode = .inPlace :=
    (Table.laneOf_of_lookup hlookup).trans inPlace
  have hyields : ∀ result, e.Yields ref c result ↔
      (c.body e.scene.now session).ending.isolated = result := by
    simp [Yields, present]
  have hnotDeferred : Lane.inPlace.deferred = false := rfl
  generalize (c.body e.scene.now session).ending.isolated = result at hyields ⊢
  cases result with
  | ok done =>
      constructor <;>
        simp +contextual [Outcome.ofResult, hlookup, Table.prepares_iff_of_lookup hlookup,
          hcheck, hprepare, hlane, hyields, hnotDeferred]
  | error error =>
      constructor <;>
        simp +contextual [Outcome.ofResult, hlookup, Table.prepares_iff_of_lookup hlookup,
          hcheck, hprepare, hlane, hyields, hnotDeferred]

theorem of_hasRoom {d : Descriptor σ} {c : Call σ}
    (h : t.decide phase env = .call d c) (deferred : d.lane.deferred = true)
    (room : e.HasRoom d.lane) :
    Decides e t phase ref env (.scheduled d.lane) := by
  obtain ⟨hlookup, hcheck, hprepare⟩ := Table.decide_eq_call_iff.mp h
  have hlane : t.laneOf env.opcode = d.lane := Table.laneOf_of_lookup hlookup
  have hnotInPlace := Lane.deferred_iff_ne_inPlace.mp deferred
  constructor <;>
    simp +contextual [hlookup, Table.prepares_iff_of_lookup hlookup, hcheck, hprepare, hlane,
      hnotInPlace, deferred, room]

theorem of_not_hasRoom {d : Descriptor σ} {c : Call σ}
    (h : t.decide phase env = .call d c) (deferred : d.lane.deferred = true)
    (full : ¬ e.HasRoom d.lane) :
    Decides e t phase ref env (.dropped (.saturated env.opcode d.lane)) := by
  obtain ⟨hlookup, hcheck, hprepare⟩ := Table.decide_eq_call_iff.mp h
  have hlane : t.laneOf env.opcode = d.lane := Table.laneOf_of_lookup hlookup
  have hnotInPlace := Lane.deferred_iff_ne_inPlace.mp deferred
  constructor <;>
    simp +contextual [hlookup, Table.prepares_iff_of_lookup hlookup, hcheck, hprepare, hlane,
      hnotInPlace, deferred, full]

end Engine.Decides

/-! ## What a rejected message leaves behind -/

namespace Engine

variable {σ : Type} {e e' : Engine σ} {t : Table σ} {phase : Phase} {ref : SessionRef}
  {env : Envelope}

/-- Nothing changed but the journal, the counters and the number of dispatches: the pool and the
queue are as they were, no call was made, and every session has its value. -/
structure Untouched (e e' : Engine σ) : Prop where
  table : e'.table = e.table
  scheduler : e'.scheduler = e.scheduler
  pool : e'.pool = e.pool
  queue : e'.queue = e.queue
  seats : e'.scene.seats = e.scene.seats
  calls : e'.scene.calls = e.scene.calls
  now : e'.scene.now = e.scene.now

/-- The outcome of a message names the first reason to reject it or what became of its call. -/
theorem decides_of_route (t : Table σ) (phase : Phase) (env : Envelope)
    (live : e.scene.connected ref = true) :
    Decides e t phase ref env (e.route t phase ref env).1 := by
  have hway := way_of_route t phase env live
  generalize e.route t phase ref env = routed at hway ⊢
  cases hway with
  | stopped lines h => exact .of_stop h
  | ranInPlace remarks h inPlace present => exact .of_inPlace h inPlace present
  | handedOn lines h deferred room => exact .of_hasRoom h deferred room
  | refused lines h deferred full => exact .of_not_hasRoom h deferred full

/-- A rejected message leaves lines in the journal and nothing else. -/
theorem route_of_isRejected (t : Table σ) (phase : Phase) (env : Envelope)
    (live : e.scene.connected ref = true)
    (rejected : (e.route t phase ref env).1.isRejected = true) :
    ∃ lines, (e.route t phase ref env).2 = e.note lines := by
  have hway := way_of_route t phase env live
  generalize e.route t phase ref env = routed at hway rejected ⊢
  cases hway with
  | stopped lines h => exact ⟨lines, rfl⟩
  | ranInPlace remarks h inPlace present => simp at rejected
  | handedOn lines h deferred room => simp [Outcome.isRejected] at rejected
  | refused lines h deferred full => exact ⟨lines, rfl⟩

theorem dispatch_of_connected (phase : Phase) (env : Envelope) (installed : e.table = some t)
    (live : e.scene.connected ref = true) :
    e.dispatch phase ref env =
      .ok ((e.route t phase ref env).1,
        { (e.route t phase ref env).2 with dispatched := e.dispatched + 1 }.record env.opcode
          (e.route t phase ref env).1) := by
  simp only [dispatch, arrive_of_connected installed live]

/-- With a table and a connected client a dispatch has an outcome that is decided in the fixed
order. It moves the counter of received messages and that of its outcome, counts a drop for the
opcode of the message when a table could hold it, and moves nothing else; and a rejected message
changes nothing else. -/
theorem dispatch_decides_in_order
    (phase : Phase) (env : Envelope) (installed : e.table = some t)
    (live : e.scene.connected ref = true) :
    ∃ outcome e', e.dispatch phase ref env = .ok (outcome, e') ∧
      Decides e t phase ref env outcome ∧
      (∀ k, e'.scene.tally.count k =
        e.scene.tally.count k + if k = .received ∨ k = outcome.counter then 1 else 0) ∧
      (∀ id, e'.scene.tally.dropsOf id = e.scene.tally.dropsOf id +
        if outcome.isDropped = true ∧ id = env.opcode ∧ env.opcode.toNat < opcodeLimit
          then 1 else 0) ∧
      (outcome.isRejected = true → Untouched e e') := by
  have htally := (admits_of_route t phase env live).tally
  refine ⟨_, _, dispatch_of_connected phase env installed live,
    decides_of_route t phase env live, ?_, ?_, ?_⟩
  · intro k
    exact (Tally.count_recordOutcome _ env.opcode _ k).trans (by rw [htally])
  · intro id
    exact (Tally.dropsOf_recordOutcome _ env.opcode id _).trans (by rw [htally])
  · intro rejected
    obtain ⟨lines, hlines⟩ := route_of_isRejected t phase env live rejected
    rw [hlines]
    constructor <;> rfl

/-- A table whose only opcode takes a word of eight bytes to the world thread. -/
def wordTable : Table Nat :=
  ⟨[⟨0x50, "NAME_QUERY", .client, .loggedIn, .world,
    Handler.typed "name_query" Wire.word64 fun word _ _ =>
      { session := word.toNat, ending := .returned }⟩]⟩

/-- An engine with a client whose world queue has no room. -/
def crowded : Engine Nat :=
  (((create .standard (Pool.start 1) (WorldQueue.empty 0)).withTable wordTable).connect 7).2

/-- A short payload is named before the full queue. -/
theorem dispatch_decides_in_order_crowded :
    ∃ outcome e',
      crowded.dispatch .loggedIn 0 ⟨0x50, [1, 2], ⟨"a"⟩, 0⟩ = .ok (outcome, e') ∧
        outcome = .dropped (.undecodable 0x50 (.truncated 0 8 2)) ∧
        ¬ crowded.HasRoom .world ∧ Untouched crowded e' := by
  have installed : crowded.table = some wordTable := rfl
  have live : crowded.scene.connected 0 = true := rfl
  obtain ⟨outcome, e', hdispatch, hdecides, -, -, huntouched⟩ :=
    dispatch_decides_in_order .loggedIn ⟨0x50, [1, 2], ⟨"a"⟩, 0⟩ installed live
  have houtcome : outcome = .dropped (.undecodable 0x50 (.truncated 0 8 2)) :=
    (hdecides.undecodable _ _).mpr ⟨rfl, _, rfl, rfl, rfl⟩
  refine ⟨outcome, e', hdispatch, houtcome, ?_, huntouched (by rw [houtcome]; rfl)⟩
  rintro ⟨-, -, hroom⟩
  exact absurd hroom (by decide)

end Engine
end PacketDispatch
