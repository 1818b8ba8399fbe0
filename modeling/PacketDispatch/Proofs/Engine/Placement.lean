import PacketDispatch.Proofs.Engine.Clients
import PacketDispatch.Proofs.Engine.Precedence
import PacketDispatch.Proofs.Schedule.Passing

/-!
# Where a call runs

A call that runs where its message arrives and one that the world thread runs in the next pass go
through different code, and come to the same: the session changes in the same way, the call has
the same result, and the same ends are counted.  What differs is the lane in the records, the count
of scheduled messages, and the journal.
-/

namespace PacketDispatch

variable {σ : Type}

/-! ## What does not depend on the place -/

/-- The counts but for that of scheduled messages. -/
def Tally.unscheduled (c : Tally) : Tally :=
  { c with scheduled := 0 }

/-- A call but for the lane in which it ran. -/
def CallRecord.unplaced (r : CallRecord σ) :
    Nat × SessionRef × Call σ × Except HandlerError Unit :=
  (r.ticket, r.session, r.call, r.result)

/-- An outcome by which a message was rejected. -/
def Outcome.rejection? (outcome : Outcome) : Option Outcome :=
  if outcome.isRejected then some outcome else none

@[simp] theorem Outcome.rejection?_ofResult (result : Except HandlerError Unit) :
    (Outcome.ofResult result).rejection? = none := by
  simp [rejection?]

namespace Tally

variable {c c' : Tally}

theorem unscheduled_recordOutcome (c : Tally) (id : Opcode) (outcome : Outcome) :
    (c.recordOutcome id outcome).unscheduled =
      (c.unscheduled.recordOutcome id outcome).unscheduled := by
  cases outcome with
  | dropped reason =>
      simp only [recordOutcome, countDrop, unscheduled]
      by_cases hlimit : id.toNat < opcodeLimit
      · simp only [hlimit, if_true]
        cases reason <;> rfl
      · simp only [hlimit, if_false]
        cases reason <;> rfl
  | completed | scheduled lane | ignored | handlerFailed error => rfl

theorem unscheduled_recordJob (c : Tally) (ended : JobEnd HandlerError) :
    (c.recordJob ended).unscheduled = (c.unscheduled.recordJob ended).unscheduled := by
  cases ended <;> rfl

/-- A scheduled message whose job has ended counts like one that ran where it arrived. -/
theorem unscheduled_recordJob_recordOutcome (c : Tally) (id : Opcode) (lane : Lane)
    (result : Except HandlerError Unit) :
    ((c.recordOutcome id (.scheduled lane)).recordJob (JobEnd.ofResult result)).unscheduled =
      (c.recordOutcome id (Outcome.ofResult result)).unscheduled := by
  rcases result with error | ⟨⟨⟩⟩ <;> rfl

end Tally

/-! ## Scenes -/

namespace Scene

variable {s s' s'' : Scene σ}

/-- Two scenes that differ in where calls ran, in how many messages were scheduled and in the
journal. -/
structure Alike (s s' : Scene σ) : Prop where
  seats : s'.seats = s.seats
  now : s'.now = s.now
  calls : s'.calls.map CallRecord.unplaced = s.calls.map CallRecord.unplaced
  tally : s'.tally.unscheduled = s.tally.unscheduled

namespace Alike

theorem refl (s : Scene σ) : Alike s s :=
  ⟨rfl, rfl, rfl, rfl⟩

theorem symm (h : Alike s s') : Alike s' s :=
  ⟨h.seats.symm, h.now.symm, h.calls.symm, h.tally.symm⟩

theorem trans (h : Alike s s') (h' : Alike s' s'') : Alike s s'' :=
  ⟨h'.seats.trans h.seats, h'.now.trans h.now, h'.calls.trans h.calls, h'.tally.trans h.tally⟩

/-- Entries in the journal make no difference. -/
theorem write (h : Alike s s') (thread thread' : Thread) (remarks remarks' : List Remark) :
    Alike (s.write thread remarks) (s'.write thread' remarks') :=
  ⟨h.seats, h.now, h.calls, h.tally⟩

theorem connected (h : Alike s s') (ref : SessionRef) : s'.connected ref = s.connected ref := by
  simp only [Scene.connected, h.seats]

theorem alive (h : Alike s s') (ref : SessionRef) : s'.alive ref = s.alive ref := by
  simp only [Scene.alive, h.seats]

theorem session? (h : Alike s s') (ref : SessionRef) : s'.session? ref = s.session? ref := by
  simp only [Scene.session?, h.seats]

theorem modifySeat (h : Alike s s') (ref : SessionRef) (f : Seat σ → Seat σ) :
    Alike (s.modifySeat ref f) (s'.modifySeat ref f) :=
  ⟨by simp only [Scene.modifySeat, h.seats], h.now, h.calls, h.tally⟩

theorem recordOutcome (h : Alike s s') (id : Opcode) (outcome : Outcome) :
    Alike (s.recordOutcome id outcome) (s'.recordOutcome id outcome) := by
  refine ⟨h.seats, h.now, h.calls, ?_⟩
  simp only [Scene.recordOutcome]
  rw [Tally.unscheduled_recordOutcome, h.tally, ← Tally.unscheduled_recordOutcome]

theorem recordJob (h : Alike s s') (ended : JobEnd HandlerError) :
    Alike (s.recordJob ended) (s'.recordJob ended) := by
  refine ⟨h.seats, h.now, h.calls, ?_⟩
  simp only [Scene.recordJob]
  rw [Tally.unscheduled_recordJob, h.tally, ← Tally.unscheduled_recordJob]

/-- A call comes to the same in any two lanes. -/
theorem afterCall (h : Alike s s') (lane lane' : Lane) (ticket : Nat) (ref : SessionRef)
    (c : Call σ) (session : σ) :
    Alike (s.afterCall lane ticket ref c session) (s'.afterCall lane' ticket ref c session) where
  seats := by simp only [Scene.afterCall, Scene.modifySeat, h.seats, h.now]
  now := h.now
  calls := by
    simp only [Scene.afterCall, List.map_append, h.calls, h.now]
    rfl
  tally := h.tally

/-- A job ends alike in scenes that are alike. -/
theorem make (h : Alike s s') (j : Job σ) (lane : Lane) :
    Alike (j.make lane s).scene (j.make lane s').scene ∧
      (j.make lane s').ended = (j.make lane s).ended ∧
      (j.make lane s').lingers = (j.make lane s).lingers := by
  cases halive : s.alive j.session with
  | false =>
      have halive' : s'.alive j.session = false := (h.alive _).trans halive
      rw [Job.make_of_gone lane halive, Job.make_of_gone lane halive']
      exact ⟨h.write _ _ _ _, rfl, rfl⟩
  | true =>
      have halive' : s'.alive j.session = true := (h.alive _).trans halive
      obtain ⟨session, present⟩ := exists_session_of_alive halive
      have present' : s'.session? j.session = some session := (h.session? _).trans present
      obtain ⟨remarks, hmake⟩ := Job.make_of_alive lane halive present
      obtain ⟨remarks', hmake'⟩ := Job.make_of_alive lane halive' present'
      rw [hmake, hmake', h.now]
      exact ⟨(h.afterCall lane lane j.ticket j.session j.call session).write _ _ _ _, rfl, rfl⟩

end Alike
end Scene

/-! ## Engines -/

namespace Engine

variable {e e' e'' : Engine σ} {t : Table σ} {phase : Phase} {ref : SessionRef} {env : Envelope}

/-- Two engines with the same pool whose scenes are alike.  Their tables may differ. -/
structure Alike (e e' : Engine σ) : Prop where
  pool : e'.pool = e.pool
  dispatched : e'.dispatched = e.dispatched
  scene : e.scene.Alike e'.scene

namespace Alike

theorem symm (h : Alike e e') : Alike e' e :=
  ⟨h.pool.symm, h.dispatched.symm, h.scene.symm⟩

theorem trans (h : Alike e e') (h' : Alike e' e'') : Alike e e'' :=
  ⟨h'.pool.trans h.pool, h'.dispatched.trans h.dispatched, h.scene.trans h'.scene⟩

theorem note_left (e : Engine σ) (lines : List Line) : Alike (e.note lines) e :=
  ⟨rfl, rfl, rfl, rfl, rfl, rfl⟩

theorem startPooled (h : Alike e e') (place : Nat) :
    Alike (e.startPooled place) (e'.startPooled place) := by
  cases htake : e.pool.take? place with
  | none =>
      simp only [Engine.startPooled, h.pool, htake]
      exact h
  | some taken =>
      obtain ⟨hscene, hended, hlingers⟩ := h.scene.make taken.1 .pool
      simp only [Engine.startPooled, h.pool, htake, hended, hlingers]
      refine ⟨rfl, h.dispatched, ?_⟩
      by_cases hgone : (taken.1.make .pool e.scene).ended.isGone = true
      · rw [if_pos hgone, if_pos hgone]
        exact hscene
      · rw [if_neg hgone, if_neg hgone]
        exact hscene.modifySeat taken.1.session _

theorem finishPooled (h : Alike e e') (place : Nat) :
    Alike (e.finishPooled place) (e'.finishPooled place) := by
  cases hfinish : e.pool.finish? place with
  | none =>
      simp only [Engine.finishPooled, h.pool, hfinish]
      exact h
  | some finished =>
      obtain ⟨r, pool⟩ := finished
      simp only [Engine.finishPooled, h.pool, hfinish]
      refine ⟨rfl, h.dispatched, ?_⟩
      by_cases hgone : r.ended.isGone = true
      · rw [if_pos hgone, if_pos hgone]
        exact h.scene.recordJob r.ended
      · rw [if_neg hgone, if_neg hgone]
        exact (h.scene.modifySeat r.job.session _).recordJob r.ended

/-- What happens beside the dispatching thread happens alike. -/
theorem happen (h : Alike e e') (b : Background) : Alike (e.happen b) (e'.happen b) := by
  cases b with
  | start place => exact h.startPooled place
  | finish place => exact h.finishPooled place
  | elapse ms =>
      refine ⟨h.pool, h.dispatched, h.scene.seats, ?_, h.scene.calls, h.scene.tally⟩
      simp only [Engine.happen, Engine.advance, h.scene.now]

theorem happenAll (h : Alike e e') (events : List Background) :
    Alike (e.happenAll events) (e'.happenAll events) := by
  unfold Engine.happenAll
  induction events generalizing e e' with
  | nil => exact h
  | cons b events ih => exact ih (h.happen b)

end Alike

/-! ## A message and the pass after it -/

/-- An engine with a table that has nothing to do on the world thread, and takes the next job. -/
structure Ready (t : Table σ) (e : Engine σ) : Prop where
  installed : e.table = some t
  standard : e.scheduler = .standard
  queue : e.queue.Clear

theorem Ready.of_aside (ready : Ready t e) (aside : Aside e e') : Ready t e' :=
  ⟨aside.table.trans ready.installed, aside.scheduler.trans ready.standard,
    aside.queue ▸ ready.queue⟩

/-- The engine after a call has run at once and its result was counted, but for the journal. -/
def served (e : Engine σ) (ref : SessionRef) (env : Envelope) (c : Call σ) (session : σ) :
    Engine σ :=
  let result := (c.body e.scene.now session).ending.isolated
  { e with
    scene := (e.scene.afterCall .inPlace e.dispatched ref c session).recordOutcome env.opcode
      (Outcome.ofResult result)
    dispatched := e.dispatched + 1 }

theorem Alike.served (h : Alike e e') (ref : SessionRef) (env : Envelope) (c : Call σ)
    (session : σ) :
    Alike (e.served ref env c session) (e'.served ref env c session) := by
  unfold Engine.served
  rw [h.scene.now, h.dispatched]
  exact ⟨h.pool, rfl, (h.scene.afterCall .inPlace .inPlace _ ref c session).recordOutcome _ _⟩

/-- The engine after a message that ran nowhere was counted. -/
def counted (e : Engine σ) (env : Envelope) (outcome : Outcome) : Engine σ :=
  { e.record env.opcode outcome with dispatched := e.dispatched + 1 }

theorem Alike.counted (h : Alike e e') (env : Envelope) (outcome : Outcome) :
    Alike (e.counted env outcome) (e'.counted env outcome) :=
  ⟨h.pool, congrArg (· + 1) h.dispatched, h.scene.recordOutcome _ _⟩

/-- Jobs for the pool do not tell engines apart that are alike. -/
theorem Alike.withJob (h : Alike e e') (ref : SessionRef) (env : Envelope) (c : Call σ) :
    Alike (e.withJob .pool (e.jobOf ref env c)) (e'.withJob .pool (e'.jobOf ref env c)) := by
  refine ⟨?_, h.dispatched, h.scene⟩
  simp only [Engine.withJob, Engine.jobOf, h.pool, h.dispatched]

/-- A message is dispatched with an outcome, and a pass after it leaves the engine ready again, and
like another engine. -/
def Handles (t : Table σ) (e : Engine σ) (budget : Nat) (phase : Phase) (ref : SessionRef)
    (env : Envelope) (outcome : Outcome) (e' : Engine σ) : Prop :=
  ∃ dispatched, e.dispatch phase ref env = .ok (outcome, dispatched) ∧
    Ready t (dispatched.drain budget).2 ∧ Alike e' (dispatched.drain budget).2

theorem drain_of_pending_nil (budget : Nat) (h : e.queue.pending = []) :
    ∃ lines, (e.drain budget).2 = e.note lines := by
  simp only [drain, WorldQueue.pass_of_pending_nil Job.run budget e.scene h]
  exact ⟨_, rfl⟩

/-- A pass over one job makes its call and counts its end. -/
theorem drain_of_pending_singleton {j : Job σ} (budget : Nat) (h : e.queue.pending = [j]) :
    ∃ lines, (e.drain budget).2 =
      { e with
        queue := { e.queue with pending := [] }
        scene := (j.make .world e.scene).scene.recordJob (j.make .world e.scene).ended }.note
          lines := by
  have hrun : Job.run j { e.queue with pending := [] } e.scene =
      ⟨{ e.queue with pending := [] },
        (j.make .world e.scene).scene.recordJob (j.make .world e.scene).ended,
        .ok (j.make .world e.scene).ended⟩ := rfl
  have hpass := WorldQueue.pass_of_pending_singleton budget h hrun
  simp only [drain, hpass]
  exact ⟨_, rfl⟩

variable {d : Descriptor σ} {c : Call σ} {session : σ} {outcome : Outcome}

/-- A message that leaves nothing in the queue leaves nothing for the pass. -/
theorem handles_of_route {routed : Engine σ} (budget : Nat)
    (live : e.scene.connected ref = true) (ready : Ready t e)
    (hroute : e.route t phase ref env = (outcome, routed)) (same : Ready t routed)
    {e' : Engine σ}
    (alike : Alike e' ({ routed with dispatched := e.dispatched + 1 }.record env.opcode outcome)) :
    Handles t e budget phase ref env outcome e' := by
  have hdispatch := dispatch_of_connected phase env ready.installed live
  rw [hroute] at hdispatch
  refine ⟨_, hdispatch, ?_⟩
  obtain ⟨lines, hdrain⟩ := drain_of_pending_nil budget
    (e := { routed with dispatched := e.dispatched + 1 }.record env.opcode outcome)
    same.queue.pending
  rw [hdrain]
  exact ⟨⟨same.installed, same.standard, same.queue⟩, alike.trans (Alike.note_left _ _).symm⟩

theorem handles_of_stop (ready : Ready t e) (budget : Nat)
    (live : e.scene.connected ref = true) (h : t.decide phase env = .stop outcome) :
    Handles t e budget phase ref env outcome (e.counted env outcome) := by
  have same : Ready t (e.note (t.stopLines env outcome)) :=
    ⟨ready.installed, ready.standard, ready.queue⟩
  refine handles_of_route budget live ready (route_of_stop h) same ?_
  exact (Alike.note_left e _).symm.counted env outcome

/-- A message whose call runs where it arrives. -/
theorem handles_of_inPlace (ready : Ready t e) (budget : Nat)
    (live : e.scene.connected ref = true) (h : t.decide phase env = .call d c)
    (inPlace : d.lane = .inPlace) (present : e.scene.session? ref = some session) :
    Handles t e budget phase ref env
      (Outcome.ofResult (c.body e.scene.now session).ending.isolated)
      (e.served ref env c session) := by
  obtain ⟨remarks, hroute⟩ := route_of_inPlace h inPlace present
  refine handles_of_route budget live ready hroute
    ⟨ready.installed, ready.standard, ready.queue⟩ ?_
  exact ⟨rfl, rfl, rfl, rfl, rfl, rfl⟩

/-- A message whose call the world thread runs in the pass after it comes to the same. -/
theorem handles_of_world (ready : Ready t e) (budget : Nat)
    (live : e.scene.connected ref = true) (h : t.decide phase env = .call d c)
    (world : d.lane = .world) (present : e.scene.session? ref = some session) :
    Handles t e budget phase ref env (.scheduled .world) (e.served ref env c session) := by
  have room : e.HasRoom d.lane := by
    rw [world]
    have hsize : e.queue.size = 0 := by rw [WorldQueue.size, ready.queue.pending]; rfl
    exact ⟨ready.standard, ready.queue.isOpen, hsize ▸ ready.queue.room⟩
  have deferred : d.lane.deferred = true := by
    rw [world]
    rfl
  obtain ⟨lines, hroute⟩ := route_of_hasRoom ref h deferred room
  rw [world] at hroute
  have hdispatch := dispatch_of_connected phase env ready.installed live
  rw [hroute] at hdispatch
  refine ⟨_, hdispatch, ?_⟩
  let waiting : Engine σ :=
    { (e.withJob .world (e.jobOf ref env c)).note lines with
      dispatched := e.dispatched + 1 }.record env.opcode (.scheduled .world)
  have hpending : waiting.queue.pending = [e.jobOf ref env c] := by
    change e.queue.pending ++ [e.jobOf ref env c] = _
    rw [ready.queue.pending]
    rfl
  obtain ⟨more, hdrain⟩ := drain_of_pending_singleton budget hpending
  have halive : waiting.scene.alive (e.jobOf ref env c).session = true :=
    Scene.alive_of_connected live
  obtain ⟨remarks, hmake⟩ := Job.make_of_alive .world halive present
  rw [hmake] at hdrain
  change Ready t (waiting.drain budget).2 ∧ Alike _ (waiting.drain budget).2
  rw [hdrain]
  refine ⟨⟨ready.installed, ready.standard, rfl, ready.queue.isOpen, ready.queue.room⟩,
    ⟨rfl, rfl, rfl, rfl, ?_, ?_⟩⟩
  · simp [served, waiting, withJob, jobOf, note, record, Scene.afterCall, Scene.recordJob,
      Scene.recordOutcome, Scene.writeLines, Scene.write, Scene.modifySeat, CallRecord.unplaced]
  · exact Tally.unscheduled_recordJob_recordOutcome e.scene.tally env.opcode .world
      (c.body e.scene.now session).ending.isolated

/-- A message for the pool leaves its job there when there is a permit for it. -/
theorem handles_of_pool (ready : Ready t e) (budget : Nat)
    (live : e.scene.connected ref = true) (h : t.decide phase env = .call d c)
    (pool : d.lane = .pool) (room : e.HasRoom .pool) :
    Handles t e budget phase ref env (.scheduled .pool)
      ((e.withJob .pool (e.jobOf ref env c)).counted env (.scheduled .pool)) := by
  have deferred : d.lane.deferred = true := by
    rw [pool]
    rfl
  obtain ⟨lines, hroute⟩ := route_of_hasRoom ref h deferred (pool ▸ room)
  rw [pool] at hroute
  refine handles_of_route budget live ready hroute
    ⟨ready.installed, ready.standard, ready.queue⟩ ?_
  exact (Alike.note_left (e.withJob .pool (e.jobOf ref env c)) lines).symm.counted env _

theorem handles_of_pool_full (ready : Ready t e) (budget : Nat)
    (live : e.scene.connected ref = true) (h : t.decide phase env = .call d c)
    (pool : d.lane = .pool) (full : ¬ e.HasRoom .pool) :
    Handles t e budget phase ref env (.dropped (.saturated env.opcode .pool))
      (e.counted env (.dropped (.saturated env.opcode .pool))) := by
  have deferred : d.lane.deferred = true := by
    rw [pool]
    rfl
  obtain ⟨lines, hroute⟩ := route_of_not_hasRoom ref h deferred (pool ▸ full)
  rw [pool] at hroute
  refine handles_of_route budget live ready hroute
    ⟨ready.installed, ready.standard, ready.queue⟩ ?_
  exact (Alike.note_left e lines).symm.counted env _

end Engine
end PacketDispatch
