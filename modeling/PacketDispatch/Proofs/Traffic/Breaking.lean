import PacketDispatch.Proofs.Engine.Caught
import PacketDispatch.Proofs.Schedule.Permits
import PacketDispatch.Proofs.Traffic.Bystanders

/-!
# Breaking off is failing

Bodies may break off wherever they run: where their message arrived, in the middle of a pass with
jobs behind them, or on a pool thread that holds a permit.  A run in which they do is, event by
event, the run in which they report a failure in the same words instead.  A pass goes on to the jobs
behind a body that broke off, and its permit comes back like any other.
-/

namespace PacketDispatch

variable {σ : Type}

/-! ## Runs whose bodies do not break off -/

/-- The event, with a table whose handlers do not break off if it installs one. -/
def Event.caught : Event σ → Event σ
  | .install t => .install t.caught
  | event => event

namespace Traffic

variable {s s' : Traffic σ}

/-- The traffic in which no body broke off. -/
def caught (s : Traffic σ) : Traffic σ :=
  { s with
    engine := s.engine.caught
    drained := s.drained.map fun r => (r.1.caught, r.2)
    pooled := s.pooled.map fun r => (r.1.caught, r.2) }

@[simp] theorem caught_engine (s : Traffic σ) : s.caught.engine = s.engine.caught := rfl

theorem arrive_caught (s : Traffic σ) (phase : Phase) (ref : SessionRef) (env : Envelope) :
    s.caught.arrive phase ref env = (s.arrive phase ref env).caught := by
  unfold arrive
  rw [caught_engine, Engine.arrive_caught]
  cases s.engine.arrive phase ref env <;> rfl

theorem settle_caught (s : Traffic σ) (place : Nat) :
    s.caught.settle place = (s.settle place).caught := by
  unfold settle
  rw [show s.caught.underway = s.underway from rfl]
  cases s.underway[place]? <;> rfl

theorem dispatch_caught (s : Traffic σ) (phase : Phase) (ref : SessionRef) (env : Envelope) :
    s.caught.dispatch phase ref env = (s.dispatch phase ref env).caught := by
  rw [dispatch_eq_settle_arrive, dispatch_eq_settle_arrive, arrive_caught, settle_caught]
  rfl

theorem runUpTo_caught (s : Traffic σ) (limit : Nat) :
    s.caught.engine.queue.runUpTo Job.run limit s.caught.engine.scene =
      (s.engine.queue.runUpTo Job.run limit s.engine.scene).map Job.caught Scene.caught :=
  WorldQueue.runUpTo_map Job.run_caught limit s.engine.queue s.engine.scene

theorem proceed_caught (s : Traffic σ) (limit : Nat) :
    s.caught.proceed limit = (s.proceed limit).caught := by
  unfold proceed
  simp only [runUpTo_caught]
  simp only [caught, List.map_append]
  rfl

theorem drain_caught (s : Traffic σ) (budget : Nat) :
    s.caught.drain budget = (s.drain budget).caught := by
  have hpass := WorldQueue.pass_map Job.run_caught budget s.engine.queue s.engine.scene
  have hran : (s.caught.engine.queue.pass Job.run budget s.caught.engine.scene).ran =
      (s.engine.queue.pass Job.run budget s.engine.scene).ran.map fun r => (r.1.caught, r.2) :=
    congrArg Pass.ran hpass
  unfold drain
  rw [hran, caught_engine, Engine.drain_caught]
  simp only [caught, List.map_append]

theorem finish_caught (s : Traffic σ) (place : Nat) :
    s.caught.finish place = (s.finish place).caught := by
  have hfinish := s.engine.pool.finish?_map Job.caught place
  unfold finish
  rw [caught_engine, Engine.finishPooled_caught, Engine.caught_pool, hfinish]
  cases s.engine.pool.finish? place with
  | none => simp [caught]
  | some finished => simp [caught, Running.map]

/-- Whatever happens, it happens alike where no body breaks off. -/
theorem step_caught (s : Traffic σ) (event : Event σ) :
    s.caught.step event.caught = (s.step event).caught := by
  cases event with
  | install t =>
      simp only [Event.caught, step, mapEngine, caught_engine, Engine.install_caught]
      rfl
  | dispatch phase ref env => exact s.dispatch_caught phase ref env
  | arrive phase ref env => exact s.arrive_caught phase ref env
  | settle place => exact s.settle_caught place
  | drain budget => exact s.drain_caught budget
  | proceed limit => exact s.proceed_caught limit
  | beside b =>
      cases b with
      | start place =>
          simp only [Event.caught, step, beside, mapEngine, Engine.happen, caught_engine,
            Engine.startPooled_caught]
          rfl
      | finish place => exact s.finish_caught place
      | elapse ms => rfl
  | connect session | disconnect ref | closeQueue | closePool => rfl

theorem run_caught (s : Traffic σ) (events : List (Event σ)) :
    s.caught.run (events.map Event.caught) = (s.run events).caught := by
  induction events generalizing s with
  | nil => rfl
  | cons event events ih =>
      calc s.caught.run ((event :: events).map Event.caught)
          = (s.caught.step event.caught).run (events.map Event.caught) := rfl
        _ = (s.step event).caught.run (events.map Event.caught) := by rw [step_caught]
        _ = ((s.step event).run events).caught := ih (s.step event)

theorem report?_caught (s : Traffic σ) (event : Event σ) :
    s.caught.report? event.caught = s.report? event := by
  cases event with
  | drain budget => simp [Event.caught, report?, Engine.drain_caught]
  | proceed limit =>
      have hpass := s.runUpTo_caught limit
      simp only [Event.caught, report?, hpass, Pass.report_map]
  | _ => rfl

theorem reports_caught (s : Traffic σ) (events : List (Event σ)) :
    s.caught.reports (events.map Event.caught) = s.reports events := by
  induction events generalizing s with
  | nil => rfl
  | cons event events ih => simp only [List.map_cons, reports, report?_caught, step_caught, ih]

/-! ## Passes go on -/

/-- What changes when the world thread takes up to `limit` jobs: they leave the queue in their order,
each makes its call unless its session is gone, and the others are left. -/
structure TakesJobs (s : Traffic σ) (limit : Nat) (ran : List (Job σ × JobEnd HandlerError))
    (s' : Traffic σ) : Prop where
  drained : s'.drained = s.drained ++ ran
  jobs : ran.map Prod.fst = s.engine.queue.pending.take limit
  pending : s'.engine.queue.pending = s.engine.queue.pending.drop limit
  calls : s'.engine.scene.calls =
    s.engine.scene.calls ++ ran.flatMap fun r => r.1.callsMade .world r.2
  gone : ∀ r ∈ ran, r.2.isGone = !s.engine.scene.alive r.1.session

/-- However the jobs end, a pass takes as many as it may. -/
theorem takesJobs_proceed (s : Traffic σ) (limit : Nat) :
    ∃ ran, TakesJobs s limit ran (s.proceed limit) := by
  rw [proceed_eq_iterate_next]
  induction limit generalizing s with
  | zero => exact ⟨[], by constructor <;> simp⟩
  | succ limit ih =>
      rw [Function.iterate_succ_apply]
      obtain ⟨ran, hrest⟩ := ih s.next
      cases hpending : s.engine.queue.pending with
      | nil =>
          have hnext : s.next = s := by simp [next, hpending]
          rw [hnext] at hrest ⊢
          have hjobs := hrest.jobs
          have hleft := hrest.pending
          rw [hpending, List.take_nil] at hjobs
          rw [hpending, List.drop_nil] at hleft
          exact ⟨ran, hrest.drained, by simp [hjobs, hpending], by simp [hleft, hpending],
            hrest.calls, hrest.gone⟩
      | cons j rest =>
          have htakes := takesJob_next hpending
          have hnext : s.next.engine.queue.pending = rest :=
            (List.cons.inj (htakes.pending.symm.trans hpending)).2
          -- A call takes no session away, so the jobs behind find those that were there at the start.
          have halive := Scene.alive_congr htakes.presence
          refine ⟨(j, (j.make .world s.engine.scene).ended) :: ran, ?_, ?_, ?_, ?_, ?_⟩
          · rw [hrest.drained, htakes.drained, List.append_assoc, List.singleton_append]
          · rw [List.map_cons, hrest.jobs, hnext, hpending, List.take_succ_cons]
          · rw [hrest.pending, hnext, hpending, List.drop_succ_cons]
          · rw [hrest.calls, htakes.calls, List.append_assoc, List.flatMap_cons]
          · intro r hr
            rcases List.mem_cons.mp hr with rfl | hr
            · exact htakes.gone
            · rw [hrest.gone r hr, halive]

theorem takesJobs_drain (s : Traffic σ) (budget : Nat) :
    ∃ ran, TakesJobs s (WorldQueue.passLimit budget s.engine.queue) ran (s.drain budget) := by
  obtain ⟨lines, hdrain⟩ := s.drain_eq_note_proceed budget
  obtain ⟨ran, htakes⟩ := s.takesJobs_proceed (WorldQueue.passLimit budget s.engine.queue)
  rw [hdrain]
  exact ⟨ran, htakes.drained, htakes.jobs, htakes.pending, htakes.calls, htakes.gone⟩

/-! ## Permits come back -/

/-- The pool has the permits it was made with, each of them free or held by an unfinished job. -/
def PermitsKept (permits : Nat) (s : Traffic σ) : Prop :=
  s.engine.pool.Balanced ∧ s.engine.pool.capacity = permits

end Traffic

namespace Engine

variable {e : Engine σ} {t : Table σ} {phase : Phase} {ref : SessionRef} {env : Envelope}

/-- A message leaves the pool alone, or the pool accepts a job of it. -/
theorem pool_route (t : Table σ) (phase : Phase) (env : Envelope)
    (live : e.scene.connected ref = true) :
    (e.route t phase ref env).2.pool = e.pool ∨
      ∃ j, e.pool.Accepts j (e.route t phase ref env).2.pool := by
  have hway := way_of_route t phase env live
  generalize e.route t phase ref env = routed at hway ⊢
  cases hway with
  | stopped | ranInPlace | refused => exact Or.inl rfl
  | @handedOn d c lines h deferred room =>
      cases hlane : d.lane with
      | inPlace => simp [hlane, HasRoom] at room
      | world => exact Or.inl rfl
      | pool =>
          rw [hlane] at room
          exact Or.inr ⟨e.jobOf ref env c, room.2.1, room.2.2, rfl⟩

end Engine

namespace Traffic

variable {s s' : Traffic σ}

namespace PermitsKept

variable {permits : Nat}

theorem of_pool_eq (h : PermitsKept permits s) (pool : s'.engine.pool = s.engine.pool) :
    PermitsKept permits s' := by
  unfold PermitsKept
  rw [pool]
  exact h

theorem arrive (h : PermitsKept permits s) (phase : Phase) (ref : SessionRef) (env : Envelope) :
    PermitsKept permits (s.arrive phase ref env) := by
  rcases s.arrive_cases phase ref env with hsame | ⟨outcome, hbegins⟩
  · rw [hsame]
    exact h
  · obtain ⟨t, installed⟩ := Engine.exists_table_of_arrive hbegins.engine
    have harrive := hbegins.engine
    rw [Engine.arrive_of_connected installed (Engine.route_of_arrive installed harrive).1]
      at harrive
    have hpool := congrArg Engine.pool (Prod.mk.inj (Except.ok.inj harrive)).2
    rcases Engine.pool_route t phase env (Engine.route_of_arrive installed hbegins.engine).1 with
      hsame | ⟨j, haccepts⟩
    · exact h.of_pool_eq (hpool.symm.trans hsame)
    · have haccepted : s.engine.pool.Accepts j (s.arrive phase ref env).engine.pool :=
        hpool ▸ haccepts
      refine ⟨h.1.accepts haccepted, ?_⟩
      rw [haccepted.result]
      exact h.2

theorem settle (h : PermitsKept permits s) (place : Nat) : PermitsKept permits (s.settle place) := by
  unfold Traffic.settle
  split
  · exact h
  · exact h.of_pool_eq rfl

theorem next (h : PermitsKept permits s) : PermitsKept permits s.next := by
  rcases s.next_cases with hsame | ⟨j, ended, htakes⟩
  · rw [hsame]
    exact h
  · exact h.of_pool_eq htakes.pool

theorem install (h : PermitsKept permits s) (t : Table σ) :
    PermitsKept permits (s.mapEngine fun e => (e.install t).2) := by
  obtain ⟨table, lines, hinstall⟩ := s.engine.exists_install_eq_note t
  refine h.of_pool_eq ?_
  rw [mapEngine_engine, hinstall]
  rfl

theorem startPooled (h : PermitsKept permits s) (place : Nat) :
    PermitsKept permits (s.mapEngine fun e => e.startPooled place) := by
  cases htake : s.engine.pool.take? place with
  | none => exact h.of_pool_eq (by simp [Engine.startPooled, htake])
  | some taken =>
      obtain ⟨j, pool⟩ := taken
      have hstarts := Pool.starts_of_take? htake (j.make .pool s.engine.scene).ended
        (j.make .pool s.engine.scene).lingers
      have hpool : (s.engine.startPooled place).pool =
          pool.run j (j.make .pool s.engine.scene).ended (j.make .pool s.engine.scene).lingers := by
        simp only [Engine.startPooled, htake]
      unfold PermitsKept
      rw [mapEngine_engine, hpool]
      refine ⟨h.1.starts hstarts, ?_⟩
      rw [hstarts.result]
      exact h.2

theorem finish (h : PermitsKept permits s) (place : Nat) : PermitsKept permits (s.finish place) := by
  cases hfinish : s.engine.pool.finish? place with
  | none => exact h.of_pool_eq (by simp [Engine.finishPooled, hfinish])
  | some finished =>
      obtain ⟨r, pool⟩ := finished
      have hends := Pool.ends_of_finish? hfinish
      have hpool : (s.engine.finishPooled place).pool = pool := by
        simp only [Engine.finishPooled, hfinish]
      unfold PermitsKept
      rw [finish_engine, hpool]
      refine ⟨h.1.ends hends, ?_⟩
      rw [hends.result]
      exact h.2

theorem lasts (permits : Nat) : Lasts (PermitsKept permits : Traffic σ → Prop) where
  note _ _ h := h.of_pool_eq rfl
  install _ t h := h.install t
  connect _ _ h := h.of_pool_eq rfl
  disconnect _ _ h := h.of_pool_eq rfl
  arrive _ phase ref env h := h.arrive phase ref env
  settle _ place h := h.settle place
  next _ h := h.next
  closeQueue _ h := h.of_pool_eq rfl
  closePool _ h := h
  startPooled _ place h := h.startPooled place
  finish _ place h := h.finish place
  advance _ _ h := h.of_pool_eq rfl

theorem run (scheduler : Scheduler) (permits capacity : Nat) (t : Table σ)
    (events : List (Event σ)) :
    PermitsKept permits ((opening scheduler permits capacity t).run events) :=
  (lasts permits).run events ⟨Pool.balanced_start permits, rfl⟩

end PermitsKept

/-- A running job that ends gives its permit back, however its call ended. -/
theorem free_finish {r : Running (Job σ) HandlerError} {place : Nat}
    (h : s.engine.pool.running[place]? = some r) :
    (s.finish place).engine.pool.free = s.engine.pool.free + 1 ∧
      (s.finish place).pooled = s.pooled ++ [(r.job, r.ended)] := by
  simp [finish, Engine.finishPooled, Pool.finish?, h]

/-! ## Over whole runs -/

/-- A body that breaks off cannot be told from one that reports that it panicked, in the words with
which it broke off, or else as an unknown panic. Over any run that replacement changes no outcome of
a dispatch, no report of a pass, no counter, no session, no line of the journal, and the calls are
the same with the same results in the same order; nothing but the bodies themselves differs. However
jobs end, a pass takes as many as it may and leaves the others, and each makes its call unless its
session is gone. Free permits and unfinished pool jobs add up all the time, and a job that ends gives
its permit back. -/
theorem breaking_off_is_failing (scheduler : Scheduler) (permits capacity : Nat) (t : Table σ)
    (events : List (Event σ)) :
    let start := opening scheduler permits capacity t
    let start' := opening scheduler permits capacity t.caught
    let s := start.run events
    let s' := start'.run (events.map Event.caught)
    s'.arrivals = s.arrivals ∧
      start'.reports (events.map Event.caught) = start.reports events ∧
      s'.engine.scene.tally = s.engine.scene.tally ∧
      s'.engine.scene.seats = s.engine.scene.seats ∧
      s'.engine.scene.notes = s.engine.scene.notes ∧
      s'.engine.scene.calls = s.engine.scene.calls.map CallRecord.caught ∧
      (∀ r ∈ s'.engine.scene.calls, ∀ now session reason,
        (r.call.body now session).ending ≠ .brokeOff reason) ∧
      s' = s.caught ∧
      (∀ budget, ∃ ran,
        TakesJobs s (WorldQueue.passLimit budget s.engine.queue) ran (s.step (.drain budget))) ∧
      s.engine.pool.free + s.engine.pool.unfinished = permits ∧
      ∀ place r, s.engine.pool.running[place]? = some r →
        (s.step (.beside (.finish place))).engine.pool.free = s.engine.pool.free + 1 ∧
          (s.step (.beside (.finish place))).pooled = s.pooled ++ [(r.job, r.ended)] := by
  intro start start' s s'
  have hsame : s' = s.caught := start.run_caught events
  have hreports : start'.reports (events.map Event.caught) = start.reports events :=
    start.reports_caught events
  have hpermits : PermitsKept permits s := PermitsKept.run scheduler permits capacity t events
  have hbalance : s.engine.pool.free + s.engine.pool.unfinished = permits :=
    hpermits.1.trans hpermits.2
  rw [hsame]
  refine ⟨rfl, hreports, rfl, rfl, rfl, rfl, fun r hr now session reason => ?_, rfl,
    fun budget => s.takesJobs_drain budget, hbalance, fun place r => free_finish⟩
  obtain ⟨broken, -, rfl⟩ := List.mem_map.mp hr
  exact Ending.caught_ne_brokeOff _ reason

/-- A table whose handlers break off, each on its lane: in place without a text, on the pool with
one, and on the world thread for an empty payload. -/
def brittleTable : Table Nat :=
  let breaks (name : String) (ending : Envelope → Ending) : Handler Nat :=
    Handler.raw name fun env _ n => { session := n + 1, ending := ending env, remarks := [] }
  ⟨[⟨1, "ONE", .client, .authed, .inPlace, breaks "one" fun _ => .brokeOff none⟩,
    ⟨2, "TWO", .client, .authed, .pool, breaks "two" fun _ => .brokeOff (some "two")⟩,
    ⟨3, "THREE", .client, .authed, .world, breaks "three" fun env =>
      if env.payload.isEmpty then .brokeOff (some "three") else .returned⟩]⟩

/-- All three break off or are about to: the pool job holds the only permit, and a job waits behind
the one that will break off its pass. -/
def brittleEvents : List (Event Nat) :=
  [.connect 0, .dispatch .authed 0 ⟨1, [], ⟨"a"⟩, 0⟩, .dispatch .authed 0 ⟨2, [], ⟨"a"⟩, 1⟩,
    .beside (.start 0), .dispatch .authed 0 ⟨2, [], ⟨"a"⟩, 2⟩,
    .dispatch .authed 0 ⟨3, [], ⟨"a"⟩, 3⟩, .dispatch .authed 0 ⟨3, [7], ⟨"a"⟩, 4⟩]

theorem breaking_off_is_failing_brittle :
    let s := (opening .standard 1 8 brittleTable).run brittleEvents
    let s' := (opening .standard 1 8 brittleTable.caught).run (brittleEvents.map Event.caught)
    s.arrivals.map Arrival.outcome =
        [.handlerFailed (.panicked "unknown panic payload"), .scheduled .pool,
          .dropped (.saturated 2 .pool), .scheduled .world, .scheduled .world] ∧
      s'.arrivals = s.arrivals ∧
      s'.engine.scene.tally = s.engine.scene.tally ∧
      s.engine.scene.calls.map (fun r => (r.ticket, r.result.toOption)) = [(0, none), (1, none)] ∧
      (∀ r ∈ s'.engine.scene.calls, ∀ now session reason,
        (r.call.body now session).ending ≠ .brokeOff reason) ∧
      ((s.step (.drain 0)).drained.map fun r => (r.1.ticket, r.2)) =
        [(3, .failed (.panicked "three")), (4, .completed)] ∧
      s.engine.pool.free = 0 ∧
      (s.step (.beside (.finish 0))).engine.pool.free = 1 ∧
      ((s.step (.beside (.finish 0))).pooled.map fun r => (r.1.ticket, r.2)) =
        [(1, .failed (.panicked "two"))] := by
  intro s s'
  obtain ⟨harrivals, -, htally, -, -, -, hnever, -, -, -, hfinish⟩ :=
    breaking_off_is_failing .standard 1 8 brittleTable brittleEvents
  obtain ⟨r, hrunning⟩ : ∃ r, s.engine.pool.running[0]? = some r := ⟨_, rfl⟩
  have hnone : s.engine.pool.free = 0 := rfl
  have hfree := (hfinish 0 r hrunning).1
  rw [hnone] at hfree
  exact ⟨by decide, harrivals, htally, by decide, hnever, by decide, hnone, hfree, by decide⟩

end Traffic
end PacketDispatch
