import PacketDispatch.Proofs.Engine.Calls

/-!
# What an arrival does

A message that arrives is refused before anything runs, or its call runs at once, or its job is
handed to the pool or to the world queue.  This module says once what each of these changes in the
engine, so that facts about runs never open `Engine.route` again.
-/

namespace PacketDispatch

/-! ## The decision about a message -/

/-- The message went no further than the gate and the decoder, or nothing had room for its job. -/
def Outcome.isRejected : Outcome → Bool
  | .ignored | .dropped _ => true
  | _ => false

@[simp] theorem Outcome.isRejected_ofResult (result : Except HandlerError Unit) :
    (Outcome.ofResult result).isRejected = false := by
  rcases result with error | ⟨⟨⟩⟩ <;> rfl

@[simp] theorem Outcome.ofResult_ne_scheduled (result : Except HandlerError Unit)
    (lane : Lane) :
    Outcome.ofResult result ≠ .scheduled lane := by
  rcases result with error | ⟨⟨⟩⟩ <;> simp [ofResult]

theorem Lane.deferred_iff_ne_inPlace {lane : Lane} :
    lane.deferred = true ↔ lane ≠ .inPlace := by
  cases lane <;> simp [deferred]

namespace Table

variable {σ : Type} {t : Table σ} {phase : Phase} {env : Envelope}

theorem decide_of_unknown (h : t.lookup env.opcode = none) :
    t.decide phase env = .stop (.dropped (.unknownOpcode env.opcode)) := by
  simp [decide, h]

theorem decide_of_unhandled {d : Descriptor σ} (h : t.lookup env.opcode = some d)
    (hcheck : d.requirement.check phase = .unhandled) :
    t.decide phase env = .stop .ignored := by
  simp [decide, h, hcheck]

theorem decide_of_denied {d : Descriptor σ} {reason : Refusal}
    (h : t.lookup env.opcode = some d) (hcheck : d.requirement.check phase = .denied reason) :
    t.decide phase env = .stop (.dropped (.denied env.opcode d.requirement phase reason)) := by
  simp [decide, h, hcheck]

theorem decide_of_undecodable {d : Descriptor σ} {fault : Wire.Fault}
    (h : t.lookup env.opcode = some d) (hcheck : d.requirement.check phase = .granted)
    (hprepare : d.handler.prepare env = .error fault) :
    t.decide phase env = .stop (.dropped (.undecodable env.opcode fault)) := by
  simp [decide, h, hcheck, hprepare]

theorem decide_of_prepared {d : Descriptor σ} {c : Call σ}
    (h : t.lookup env.opcode = some d) (hcheck : d.requirement.check phase = .granted)
    (hprepare : d.handler.prepare env = .ok c) :
    t.decide phase env = .call d c := by
  simp [decide, h, hcheck, hprepare]

/-- A message becomes a call exactly when its opcode is registered, the gate grants it and its
payload decodes. -/
theorem decide_eq_call_iff {d : Descriptor σ} {c : Call σ} :
    t.decide phase env = .call d c ↔
      t.lookup env.opcode = some d ∧ d.requirement.check phase = .granted ∧
        d.handler.prepare env = .ok c := by
  constructor
  · intro h
    cases hlookup : t.lookup env.opcode with
    | none => simp [decide_of_unknown hlookup] at h
    | some found =>
        cases hcheck : found.requirement.check phase with
        | unhandled => simp [decide_of_unhandled hlookup hcheck] at h
        | denied reason => simp [decide_of_denied hlookup hcheck] at h
        | granted =>
            cases hprepare : found.handler.prepare env with
            | error fault => simp [decide_of_undecodable hlookup hcheck hprepare] at h
            | ok made =>
                rw [decide_of_prepared hlookup hcheck hprepare] at h
                obtain ⟨rfl, rfl⟩ := Decision.call.inj h
                exact ⟨rfl, hcheck, hprepare⟩
  · rintro ⟨hlookup, hcheck, hprepare⟩
    exact decide_of_prepared hlookup hcheck hprepare

theorem isRejected_of_decide_eq_stop {outcome : Outcome}
    (h : t.decide phase env = .stop outcome) :
    outcome.isRejected = true := by
  unfold decide at h
  split at h
  · cases h; rfl
  · split at h
    · cases h; rfl
    · cases h; rfl
    · split at h
      · cases h; rfl
      · cases h

theorem laneOf_of_lookup {id : Opcode} {d : Descriptor σ} (h : t.lookup id = some d) :
    t.laneOf id = d.lane := by
  simp [laneOf, h]

end Table

/-! ## Handing on -/

namespace Engine

variable {σ : Type}

/-- A deferred message has somewhere to go: the pool is open with a permit left, or the world
queue is open and not full. -/
def HasRoom (e : Engine σ) : Lane → Prop
  | .inPlace => False
  | .pool => e.scheduler = .standard ∧ e.pool.isOpen = true ∧ 0 < e.pool.free
  | .world =>
      e.scheduler = .standard ∧ e.queue.isOpen = true ∧ e.queue.size < e.queue.capacity

/-- The engine with one more job in the pool or in the world queue. -/
def withJob (e : Engine σ) (lane : Lane) (j : Job σ) : Engine σ :=
  match lane with
  | .inPlace => e
  | .pool =>
      { e with pool := { e.pool with
          free := e.pool.free - 1
          waiting := e.pool.waiting ++ [j] } }
  | .world => { e with queue := { e.queue with pending := e.queue.pending ++ [j] } }

theorem handOff_of_hasRoom {e : Engine σ} {lane : Lane} (j : Job σ) (h : e.HasRoom lane) :
    e.handOff lane j = .ok (e.withJob lane j) := by
  cases lane with
  | inPlace => exact h.elim
  | pool =>
      obtain ⟨hstandard, hopen, hfree⟩ := h
      simp [handOff, hstandard, Pool.spawn, hopen, Nat.ne_of_gt hfree, Except.map, withJob]
  | world =>
      obtain ⟨hstandard, hopen, hroom⟩ := h
      simp [handOff, hstandard, WorldQueue.push, hopen, Nat.not_le_of_gt hroom, Except.map,
        withJob]

theorem handOff_of_not_hasRoom {e : Engine σ} {lane : Lane} (j : Job σ)
    (deferred : lane.deferred = true) (h : ¬ e.HasRoom lane) :
    ∃ error, e.handOff lane j = .error error := by
  cases hscheduler : e.scheduler with
  | refusing => cases lane <;> simp [handOff, hscheduler]
  | standard =>
      cases lane with
      | inPlace => simp [Lane.deferred] at deferred
      | pool =>
          cases hopen : e.pool.isOpen with
          | false => simp [handOff, hscheduler, Pool.spawn, hopen, Except.map]
          | true =>
              have hfree : e.pool.free = 0 := by
                simpa [HasRoom, hscheduler, hopen] using h
              simp [handOff, hscheduler, Pool.spawn, hopen, hfree, Except.map]
      | world =>
          cases hopen : e.queue.isOpen with
          | false => simp [handOff, hscheduler, WorldQueue.push, hopen, Except.map]
          | true =>
              have hfull : e.queue.capacity ≤ e.queue.size := by
                simpa [HasRoom, hscheduler, hopen] using h
              simp [handOff, hscheduler, WorldQueue.push, hopen, hfull, Except.map]

theorem hasRoom_note (e : Engine σ) (lines : List Line) (lane : Lane) :
    (e.note lines).HasRoom lane ↔ e.HasRoom lane := by
  cases lane <;> rfl

theorem withJob_note (e : Engine σ) (lines : List Line) (lane : Lane) (j : Job σ) :
    (e.note lines).withJob lane j = (e.withJob lane j).note lines := by
  cases lane <;> rfl

/-! ## The four ways of a message -/

variable {e : Engine σ} {t : Table σ} {phase : Phase} {ref : SessionRef} {env : Envelope}

theorem route_of_stop {outcome : Outcome} (h : t.decide phase env = .stop outcome) :
    e.route t phase ref env = (outcome, e.note (t.stopLines env outcome)) := by
  simp [route, h]

/-- The job of a message that becomes a call, with the number of its dispatch. -/
def jobOf (e : Engine σ) (ref : SessionRef) (env : Envelope) (c : Call σ) : Job σ :=
  ⟨e.dispatched, ref, c, env.opcode, env.session, env.sequence⟩

/-- The call of an undeferred message has run when the message is through. -/
theorem route_of_inPlace {d : Descriptor σ} {c : Call σ} {session : σ}
    (h : t.decide phase env = .call d c) (inPlace : d.lane = .inPlace)
    (present : e.scene.session? ref = some session) :
    ∃ remarks, e.route t phase ref env =
      (Outcome.ofResult (c.body e.scene.now session).ending.isolated,
        { e with
          scene := (e.scene.afterCall .inPlace e.dispatched ref c session).write .caller
            remarks }) := by
  have hpresent : ∀ lines, (e.note lines).scene.session? ref = some session :=
    fun _ => present
  simp only [route, h, inPlace, Lane.deferred, Bool.false_eq_true, if_false, runInPlace,
    Scene.call_eq _ _ c (hpresent _)]
  cases hresult : (c.body e.scene.now session).ending.isolated with
  | ok _ =>
      refine ⟨(c.tailLine? env.opcode).toList.map .line ++
        (c.body e.scene.now session).remarks, ?_⟩
      simp [hresult, note, Scene.writeLines, Scene.write, Scene.afterCall, Scene.modifySeat,
        Lane.thread, Outcome.ofResult]
  | error error =>
      refine ⟨(c.tailLine? env.opcode).toList.map .line ++
        ((c.body e.scene.now session).remarks ++ [.line (t.failedLine env d error)]), ?_⟩
      simp [hresult, note, Scene.writeLines, Scene.write, Scene.afterCall, Scene.modifySeat,
        Lane.thread, Outcome.ofResult]

/-- A deferred message with somewhere to go leaves a job there. -/
theorem route_of_hasRoom {d : Descriptor σ} {c : Call σ} (ref : SessionRef)
    (h : t.decide phase env = .call d c) (deferred : d.lane.deferred = true)
    (room : e.HasRoom d.lane) :
    ∃ lines, e.route t phase ref env =
      (.scheduled d.lane, (e.withJob d.lane (e.jobOf ref env c)).note lines) := by
  refine ⟨(c.tailLine? env.opcode).toList ++ [t.scheduledLine env d.lane], ?_⟩
  simp only [route, h, deferred, if_true, defer, note_dispatched]
  rw [handOff_of_hasRoom _ ((hasRoom_note e _ d.lane).mpr room)]
  simp only [withJob_note, note_note, jobOf]

/-- A deferred message with nowhere to go leaves lines only. -/
theorem route_of_not_hasRoom {d : Descriptor σ} {c : Call σ} (ref : SessionRef)
    (h : t.decide phase env = .call d c) (deferred : d.lane.deferred = true)
    (full : ¬ e.HasRoom d.lane) :
    ∃ lines, e.route t phase ref env =
      (.dropped (.saturated env.opcode d.lane), e.note lines) := by
  have hfull : ¬ (e.note (c.tailLine? env.opcode).toList).HasRoom d.lane :=
    fun room => full ((hasRoom_note e _ d.lane).mp room)
  obtain ⟨error, hrefused⟩ :=
    handOff_of_not_hasRoom (e.jobOf ref env c) deferred hfull
  simp only [jobOf] at hrefused
  simp only [route, h, deferred, if_true, defer, note_dispatched, hrefused, note_note]
  exact ⟨_, rfl⟩

/-- Where a message can have gone, with its outcome and the engine it leaves. -/
inductive Way (e : Engine σ) (t : Table σ) (phase : Phase) (ref : SessionRef) (env : Envelope) :
    Outcome × Engine σ → Prop
  | stopped {outcome : Outcome} (lines : List Line) (h : t.decide phase env = .stop outcome) :
      Way e t phase ref env (outcome, e.note lines)
  | ranInPlace {d : Descriptor σ} {c : Call σ} {session : σ} (remarks : List Remark)
      (h : t.decide phase env = .call d c) (inPlace : d.lane = .inPlace)
      (present : e.scene.session? ref = some session) :
      Way e t phase ref env
        (Outcome.ofResult (c.body e.scene.now session).ending.isolated,
          { e with
            scene := (e.scene.afterCall .inPlace e.dispatched ref c session).write .caller
              remarks })
  | handedOn {d : Descriptor σ} {c : Call σ} (lines : List Line)
      (h : t.decide phase env = .call d c) (deferred : d.lane.deferred = true)
      (room : e.HasRoom d.lane) :
      Way e t phase ref env
        (.scheduled d.lane, (e.withJob d.lane (e.jobOf ref env c)).note lines)
  | refused {d : Descriptor σ} {c : Call σ} (lines : List Line)
      (h : t.decide phase env = .call d c) (deferred : d.lane.deferred = true)
      (full : ¬ e.HasRoom d.lane) :
      Way e t phase ref env (.dropped (.saturated env.opcode d.lane), e.note lines)

/-- Every message of a connected client goes one of the four ways. -/
theorem way_of_route (t : Table σ) (phase : Phase) (env : Envelope)
    (live : e.scene.connected ref = true) :
    Way e t phase ref env (e.route t phase ref env) := by
  cases h : t.decide phase env with
  | stop outcome =>
      rw [route_of_stop h]
      exact .stopped _ h
  | call d c =>
      by_cases deferred : d.lane.deferred = true
      · by_cases room : e.HasRoom d.lane
        · obtain ⟨lines, hroute⟩ := route_of_hasRoom ref h deferred room
          rw [hroute]
          exact .handedOn lines h deferred room
        · obtain ⟨lines, hroute⟩ := route_of_not_hasRoom ref h deferred room
          rw [hroute]
          exact .refused lines h deferred room
      · have inPlace : d.lane = .inPlace := by
          simpa [Lane.deferred_iff_ne_inPlace] using deferred
        obtain ⟨session, present⟩ := Scene.exists_session_of_connected live
        obtain ⟨remarks, hroute⟩ := route_of_inPlace h inPlace present
        rw [hroute]
        exact .ranInPlace remarks h inPlace present

end Engine

/-! ## Arrivals -/

/-- A message that arrived: its number, the phase and the session it was dispatched for, and what
became of it. -/
structure Arrival where
  ticket : Nat
  phase : Phase
  session : SessionRef
  envelope : Envelope
  outcome : Outcome
  deriving DecidableEq, Repr

namespace Arrival

variable {σ : Type}

/-- The job that a message stands for when its table makes a call of it: the call of the handler
bound to its opcode, for the session it was dispatched for. -/
def job? (t : Table σ) (a : Arrival) : Option (Job σ) :=
  match t.decide a.phase a.envelope with
  | .stop _ => none
  | .call _ c =>
      some ⟨a.ticket, a.session, c, a.envelope.opcode, a.envelope.session,
        a.envelope.sequence⟩

/-- The jobs that a message leaves in a lane: one when it was scheduled there. -/
def jobs (t : Table σ) (lane : Lane) (a : Arrival) : List (Job σ) :=
  if a.outcome = .scheduled lane then (a.job? t).toList else []

/-- The job of a message that ran where it arrived, with its end. -/
def endings (t : Table σ) (a : Arrival) : List (Job σ × JobEnd HandlerError) :=
  match a.job? t, a.outcome.ended? with
  | some j, some ended => [(j, ended)]
  | _, _ => []

/-- The calls that a message makes where it arrives. -/
def callsMade (t : Table σ) (a : Arrival) : List (CallRecord σ) :=
  (a.endings t).flatMap fun p => p.1.callsMade .inPlace p.2

/-- A message that was not rejected stands for a job, and only deferred messages are scheduled. -/
structure Prepared (t : Table σ) (a : Arrival) : Prop where
  job : a.outcome.isRejected = false → ∃ j, a.job? t = some j
  deferred : ∀ lane, a.outcome = .scheduled lane → lane.deferred = true

variable {t : Table σ} {a : Arrival} {j : Job σ}

theorem origin_of_job? (h : a.job? t = some j) :
    j.ticket = a.ticket ∧ j.session = a.session := by
  unfold job? at h
  split at h
  · cases h
  · cases h
    exact ⟨rfl, rfl⟩

theorem jobs_of_scheduled {lane : Lane} (prepared : a.Prepared t)
    (h : a.outcome = .scheduled lane) :
    ∃ j, a.job? t = some j ∧ a.jobs t lane = [j] := by
  obtain ⟨j, hj⟩ := prepared.job (by simp [h, Outcome.isRejected])
  exact ⟨j, hj, by simp [jobs, h, hj]⟩

theorem jobs_of_not_scheduled {lane : Lane} (h : a.outcome ≠ .scheduled lane) :
    a.jobs t lane = [] := by
  simp [jobs, h]

theorem job?_of_mem_jobs {lane : Lane} (h : j ∈ a.jobs t lane) :
    a.job? t = some j := by
  unfold jobs at h
  split at h
  · exact Option.mem_toList.mp h
  · simp at h

end Arrival

namespace Engine

variable {σ : Type}

/-- What an arrival changes: jobs are added at the end of the queue and of the pool, calls at the
end of the records, and the number of dispatches grows. Nothing is counted, and nobody comes or
goes. -/
structure Admits (t : Table σ) (e : Engine σ) (a : Arrival) (e' : Engine σ) : Prop where
  table : e'.table = e.table
  scheduler : e'.scheduler = e.scheduler
  dispatched : e'.dispatched = e.dispatched + 1
  queue : e'.queue = { e.queue with pending := e.queue.pending ++ a.jobs t .world }
  pool : e'.pool = { e.pool with
    free := e.pool.free - (a.jobs t .pool).length
    waiting := e.pool.waiting ++ a.jobs t .pool }
  calls : e'.scene.calls = e.scene.calls ++ a.callsMade t
  presence : e'.scene.presence = e.scene.presence
  tally : e'.scene.tally = e.scene.tally
  now : e'.scene.now = e.scene.now
  connected : e.scene.connected a.session = true
  prepared : a.Prepared t

variable {e : Engine σ} {t : Table σ} {phase : Phase} {ref : SessionRef} {env : Envelope}

theorem admits_of_rejected {outcome : Outcome} (lines : List Line)
    (rejected : outcome.isRejected = true) (live : e.scene.connected ref = true) :
    Admits t e ⟨e.dispatched, phase, ref, env, outcome⟩
      { e.note lines with dispatched := e.dispatched + 1 } := by
  have hjobs : ∀ lane, Arrival.jobs t lane ⟨e.dispatched, phase, ref, env, outcome⟩ = [] := by
    intro lane
    cases outcome <;> simp_all [Arrival.jobs, Outcome.isRejected]
  have hcalls : Arrival.callsMade t ⟨e.dispatched, phase, ref, env, outcome⟩ = [] := by
    cases outcome <;>
      simp_all [Arrival.callsMade, Arrival.endings, Outcome.isRejected, Outcome.ended?]
  exact {
    table := rfl
    scheduler := rfl
    dispatched := rfl
    queue := by simp [hjobs]
    pool := by simp [hjobs]
    calls := by simp [hcalls]
    presence := rfl
    tally := rfl
    now := rfl
    connected := live
    prepared := ⟨by simp [rejected], by
      rintro lane rfl
      simp [Outcome.isRejected] at rejected⟩ }

theorem admits_of_inPlace {d : Descriptor σ} {c : Call σ} {session : σ}
    (remarks : List Remark) (h : t.decide phase env = .call d c)
    (live : e.scene.connected ref = true) :
    Admits t e
      ⟨e.dispatched, phase, ref, env,
        Outcome.ofResult (c.body e.scene.now session).ending.isolated⟩
      { e with
        scene := (e.scene.afterCall .inPlace e.dispatched ref c session).write .caller remarks
        dispatched := e.dispatched + 1 } := by
  have hjobs : ∀ lane, Arrival.jobs t lane ⟨e.dispatched, phase, ref, env,
      Outcome.ofResult (c.body e.scene.now session).ending.isolated⟩ = [] := by
    intro lane
    simp [Arrival.jobs]
  have hpresence :=
    e.scene.presence_afterCall .inPlace e.dispatched ref c session
  exact {
    table := rfl
    scheduler := rfl
    dispatched := rfl
    queue := by simp [hjobs]
    pool := by simp [hjobs]
    calls := by
      simp [Scene.write, Scene.afterCall, Arrival.callsMade, Arrival.endings, Arrival.job?, h]
    presence := hpresence
    tally := rfl
    now := rfl
    connected := live
    prepared := ⟨by simp [Arrival.job?, h], fun _ hlane =>
      absurd hlane (Outcome.ofResult_ne_scheduled _ _)⟩ }

theorem admits_of_scheduled {d : Descriptor σ} {c : Call σ} (lines : List Line)
    (h : t.decide phase env = .call d c) (room : e.HasRoom d.lane)
    (live : e.scene.connected ref = true) :
    Admits t e ⟨e.dispatched, phase, ref, env, .scheduled d.lane⟩
      { (e.withJob d.lane (e.jobOf ref env c)).note lines with
        dispatched := e.dispatched + 1 } := by
  have hprepared : Arrival.Prepared t ⟨e.dispatched, phase, ref, env, .scheduled d.lane⟩ :=
    ⟨by simp [Arrival.job?, h], by
      rintro lane hlane
      obtain rfl := Outcome.scheduled.inj hlane
      cases hd : d.lane <;> simp [hd, HasRoom, Lane.deferred] at room ⊢⟩
  cases hlane : d.lane with
  | inPlace => simp [hlane, HasRoom] at room
  | pool =>
      constructor <;>
        simp [withJob, Arrival.jobs, Arrival.callsMade, Arrival.endings, Arrival.job?, h,
          jobOf, Outcome.ended?, live, Scene.presence, hlane ▸ hprepared]
  | world =>
      constructor <;>
        simp [withJob, Arrival.jobs, Arrival.callsMade, Arrival.endings, Arrival.job?, h,
          jobOf, Outcome.ended?, live, Scene.presence, hlane ▸ hprepared]

theorem arrive_of_connected (installed : e.table = some t)
    (live : e.scene.connected ref = true) :
    e.arrive phase ref env =
      .ok ((e.route t phase ref env).1,
        { (e.route t phase ref env).2 with dispatched := e.dispatched + 1 }) := by
  simp only [arrive, installed, live, if_true]

/-- Whichever way a message goes, the engine admits it. -/
theorem admits_of_route (t : Table σ) (phase : Phase) (env : Envelope)
    (live : e.scene.connected ref = true) :
    Admits t e ⟨e.dispatched, phase, ref, env, (e.route t phase ref env).1⟩
      { (e.route t phase ref env).2 with dispatched := e.dispatched + 1 } := by
  have hway := way_of_route t phase env live
  generalize e.route t phase ref env = routed at hway ⊢
  cases hway with
  | stopped lines h => exact admits_of_rejected lines (Table.isRejected_of_decide_eq_stop h) live
  | ranInPlace remarks h inPlace present => exact admits_of_inPlace remarks h live
  | handedOn lines h deferred room => exact admits_of_scheduled lines h room live
  | refused lines h deferred full => exact admits_of_rejected lines rfl live

/-- An arrival comes back with the outcome of its way. -/
theorem route_of_arrive {outcome : Outcome} {e' : Engine σ} (installed : e.table = some t)
    (h : e.arrive phase ref env = .ok (outcome, e')) :
    e.scene.connected ref = true ∧ (e.route t phase ref env).1 = outcome := by
  cases live : e.scene.connected ref with
  | false => simp [arrive, installed, live] at h
  | true =>
      rw [arrive_of_connected installed live] at h
      exact ⟨rfl, (Prod.mk.inj (Except.ok.inj h)).1⟩

/-- Whatever arrives at an engine with a table is admitted by it. -/
theorem admits_of_arrive {outcome : Outcome} {e' : Engine σ} (installed : e.table = some t)
    (h : e.arrive phase ref env = .ok (outcome, e')) :
    Admits t e ⟨e.dispatched, phase, ref, env, outcome⟩ e' := by
  cases live : e.scene.connected ref with
  | false => simp [arrive, installed, live] at h
  | true =>
      rw [arrive_of_connected installed live] at h
      obtain ⟨rfl, rfl⟩ := Prod.mk.inj (Except.ok.inj h)
      exact admits_of_route t phase env live

end Engine
end PacketDispatch
