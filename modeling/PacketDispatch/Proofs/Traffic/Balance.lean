import PacketDispatch.Proofs.Engine.Counters
import PacketDispatch.Proofs.Traffic.Basic
import Mathlib.Data.List.Perm.Basic

/-!
# The counters balance

Every message that was received is in exactly one other counter, or its job has not run yet.  A
job may run before the dispatch that scheduled it has been counted, so the balance that lasts has
the jobs of dispatches under way on its side of the account.
-/

namespace PacketDispatch

/-! ## What one entry counts -/

/-- The message was handed on. -/
def Outcome.isScheduled : Outcome → Bool
  | .scheduled _ => true
  | _ => false

namespace Tally

/-- Messages whose end is counted. -/
def settled (c : Tally) : Nat :=
  c.completed + c.handlerFailures + c.sessionsGone + c.ignored + c.dropped

theorem settled_eq_count (c : Tally) :
    c.settled = c.count .completed + c.count .handlerFailures + c.count .sessionsGone +
      c.count .ignored + (c.count .unknown + c.count .denied + c.count .decodeFailures +
        c.count .saturated) := rfl

variable (c : Tally)

theorem recordOutcome_received (id : Opcode) (outcome : Outcome) :
    (c.recordOutcome id outcome).received = c.received + 1 := by
  simpa [count] using c.count_recordOutcome id outcome .received

/-- A scheduled message is counted as such. -/
theorem recordOutcome_scheduled (id : Opcode) (outcome : Outcome) :
    (c.recordOutcome id outcome).scheduled =
      c.scheduled + if outcome.isScheduled then 1 else 0 := by
  have hcount := c.count_recordOutcome id outcome .scheduled
  cases outcome with
  | dropped reason => cases reason <;> exact hcount
  | completed | scheduled lane | ignored | handlerFailed error => exact hcount

/-- Every other message has its end counted at once. -/
theorem recordOutcome_settled (id : Opcode) (outcome : Outcome) :
    (c.recordOutcome id outcome).settled =
      c.settled + if outcome.isScheduled then 0 else 1 := by
  simp only [settled_eq_count, count_recordOutcome]
  cases outcome with
  | dropped reason =>
      cases reason <;>
        simp only [Outcome.counter, DropReason.counter, Outcome.isScheduled, reduceCtorEq,
          or_false, false_or, if_true, if_false, Bool.false_eq_true] <;> omega
  | completed | scheduled lane | ignored | handlerFailed error =>
      simp only [Outcome.counter, Outcome.isScheduled, reduceCtorEq, or_false, false_or, if_true,
        if_false, Bool.false_eq_true]
      omega

@[simp] theorem recordJob_received (ended : JobEnd HandlerError) :
    (c.recordJob ended).received = c.received := by
  cases ended <;> rfl

@[simp] theorem recordJob_scheduled (ended : JobEnd HandlerError) :
    (c.recordJob ended).scheduled = c.scheduled := by
  cases ended <;> rfl

theorem recordJob_settled (ended : JobEnd HandlerError) :
    (c.recordJob ended).settled = c.settled + 1 := by
  simp only [settled_eq_count, count_recordJob]
  cases ended <;>
    simp only [JobEnd.counter, reduceCtorEq, if_true, if_false] <;> omega

end Tally

/-! ## Jobs that have not run -/

namespace Engine

variable {σ : Type}

/-- How many scheduled jobs have not been executed: those that wait for the world thread, and those
that the pool has accepted and not finished. -/
def outstanding (e : Engine σ) : Nat :=
  e.queue.size + e.pool.unfinished

/-- A message leaves a job to execute exactly when it is scheduled. -/
theorem Admits.outstanding {t : Table σ} {e e' : Engine σ} {a : Arrival}
    (h : Admits t e a e') :
    e'.outstanding = e.outstanding + if a.outcome.isScheduled then 1 else 0 := by
  have hjobs : (a.jobs t .world).length + (a.jobs t .pool).length =
      if a.outcome.isScheduled then 1 else 0 := by
    cases hout : a.outcome with
    | scheduled lane =>
        obtain ⟨j, -, hjobs⟩ := Arrival.jobs_of_scheduled h.prepared hout
        have hothers : ∀ other, other ≠ lane → a.jobs t other = [] :=
          fun other hother => Arrival.jobs_of_not_scheduled (by simpa [hout] using hother.symm)
        cases lane with
        | inPlace => simpa [Lane.deferred] using h.prepared.deferred _ hout
        | pool => simp [hjobs, hothers .world, Outcome.isScheduled]
        | world => simp [hjobs, hothers .pool, Outcome.isScheduled]
    | _ => simp [Arrival.jobs, hout, Outcome.isScheduled]
  rw [← hjobs]
  simp only [Engine.outstanding, h.queue, h.pool, WorldQueue.size, Pool.unfinished,
    List.length_append]
  omega

theorem StartsJob.outstanding {e e' : Engine σ} {place : Nat} {j : Job σ}
    {ended : JobEnd HandlerError} (h : StartsJob e place j ended e') :
    e'.outstanding = e.outstanding := by
  obtain ⟨hplace, -⟩ := List.getElem?_eq_some_iff.mp h.found
  have hrunning := congrArg List.length h.running
  simp only [List.length_map, List.length_append, List.length_singleton] at hrunning
  simp only [Engine.outstanding, h.queue, Pool.unfinished, h.waiting,
    List.length_eraseIdx_of_lt hplace, hrunning]
  omega

theorem FinishesJob.outstanding {e e' : Engine σ} {place : Nat}
    {r : Running (Job σ) HandlerError} (h : FinishesJob e place r e') :
    e.outstanding = e'.outstanding + 1 := by
  obtain ⟨hplace, -⟩ := List.getElem?_eq_some_iff.mp h.found
  simp only [Engine.outstanding, h.queue, Pool.unfinished, h.waiting, h.running,
    List.length_eraseIdx_of_lt hplace]
  omega

theorem exists_table_of_arrive {e e' : Engine σ} {phase : Phase} {ref : SessionRef}
    {env : Envelope} {outcome : Outcome} (h : e.arrive phase ref env = .ok (outcome, e')) :
    ∃ t, e.table = some t := by
  cases htable : e.table with
  | none => simp [arrive, htable] at h
  | some t => exact ⟨t, rfl⟩

end Engine

/-! ## The balance of a run -/

namespace Traffic

variable {σ : Type}

/-- How many jobs belong to dispatches whose outcome is not counted yet. -/
def handedOver (s : Traffic σ) : Nat :=
  s.underway.countP fun p => p.2.isScheduled

/-- How many deferred jobs have been executed. -/
def executed (s : Traffic σ) : Nat :=
  s.drained.length + s.pooled.length

@[simp] theorem mapEngine_handedOver (s : Traffic σ) (f : Engine σ → Engine σ) :
    (s.mapEngine f).handedOver = s.handedOver := rfl

@[simp] theorem mapEngine_executed (s : Traffic σ) (f : Engine σ → Engine σ) :
    (s.mapEngine f).executed = s.executed := rfl

@[simp] theorem finish_handedOver (s : Traffic σ) (place : Nat) :
    (s.finish place).handedOver = s.handedOver := rfl

/-- The counters balance, but for the dispatches under way. -/
structure Balanced (s : Traffic σ) : Prop where
  received : s.engine.scene.tally.received + s.handedOver =
    s.engine.scene.tally.settled + s.engine.outstanding
  scheduled : s.engine.scene.tally.scheduled + s.handedOver =
    s.engine.outstanding + s.executed

namespace Balanced

variable {s : Traffic σ}

/-- A job handed over by a dispatch under way enters both accounts on both sides. -/
theorem arrive (h : Balanced s) (phase : Phase) (ref : SessionRef) (env : Envelope) :
    Balanced (s.arrive phase ref env) := by
  rcases s.arrive_cases phase ref env with hsame | ⟨outcome, hbegins⟩
  · rw [hsame]
    exact h
  · generalize s.arrive phase ref env = s' at hbegins ⊢
    obtain ⟨t, installed⟩ := Engine.exists_table_of_arrive hbegins.engine
    have hadmits := Engine.admits_of_arrive installed hbegins.engine
    have houtstanding := hadmits.outstanding
    -- Nothing is counted yet: the job is outstanding on one side and handed over on the other.
    have hhanded : s'.handedOver = s.handedOver + if outcome.isScheduled then 1 else 0 := by
      simp [handedOver, hbegins.underway]
    have hexecuted : s'.executed = s.executed := by
      simp only [executed, hbegins.drained, hbegins.pooled]
    have hreceived := h.received
    have hscheduled := h.scheduled
    constructor
    · rw [hadmits.tally, hhanded, houtstanding]
      dsimp only
      omega
    · rw [hadmits.tally, hhanded, houtstanding, hexecuted]
      dsimp only
      omega

/-- An outcome that is counted leaves the dispatches under way. -/
theorem settle (h : Balanced s) (place : Nat) :
    Balanced (s.settle place) := by
  cases hfound : s.underway[place]? with
  | none => simpa only [Traffic.settle, hfound] using h
  | some p =>
      obtain ⟨id, outcome⟩ := p
      obtain ⟨hplace, hp⟩ := List.getElem?_eq_some_iff.mp hfound
      -- The dispatch may be any of those under way; the count does not depend on their order.
      have herased : s.handedOver = (s.settle place).handedOver +
          if outcome.isScheduled then 1 else 0 := by
        have hperm := List.getElem_cons_eraseIdx_perm hplace
        rw [hp] at hperm
        simp only [handedOver, Traffic.settle, hfound]
        rw [← hperm.countP_eq, List.countP_cons]
      have htally : (s.settle place).engine.scene.tally =
          s.engine.scene.tally.recordOutcome id outcome := by
        simp only [Traffic.settle, hfound]
        rfl
      have houtstanding : (s.settle place).engine.outstanding = s.engine.outstanding := by
        simp only [Traffic.settle, hfound]
        rfl
      have hexecuted : (s.settle place).executed = s.executed := by
        simp only [Traffic.settle, hfound]
        rfl
      have hreceived := h.received
      have hscheduled := h.scheduled
      constructor
      · rw [htally, houtstanding, Tally.recordOutcome_received, Tally.recordOutcome_settled]
        cases hout : outcome.isScheduled <;> simp only [hout, if_true, if_false,
          Bool.false_eq_true] at herased ⊢ <;> omega
      · rw [htally, houtstanding, hexecuted, Tally.recordOutcome_scheduled]
        omega

theorem next (h : Balanced s) :
    Balanced s.next := by
  rcases s.next_cases with hsame | ⟨j, ended, htakes⟩
  · rw [hsame]
    exact h
  · generalize s.next = s' at htakes ⊢
    have houtstanding : s.engine.outstanding = s'.engine.outstanding + 1 := by
      simp only [Engine.outstanding, WorldQueue.size, htakes.pending, htakes.pool,
        List.length_cons]
      omega
    have hhanded : s'.handedOver = s.handedOver := by
      simp only [handedOver, htakes.underway]
    have hexecuted : s'.executed = s.executed + 1 := by
      simp only [executed, htakes.drained, htakes.pooled, List.length_append,
        List.length_singleton]
      omega
    have hreceived := h.received
    have hscheduled := h.scheduled
    constructor
    · rw [htakes.tally, hhanded, Tally.recordJob_received, Tally.recordJob_settled]
      omega
    · rw [htakes.tally, hhanded, hexecuted, Tally.recordJob_scheduled]
      omega

theorem startPooled (h : Balanced s) (place : Nat) :
    Balanced (s.mapEngine fun e => e.startPooled place) := by
  rcases s.engine.startPooled_cases place with hsame | ⟨j, ended, hstarts⟩
  · simpa only [mapEngine, hsame] using h
  · constructor
    · simpa [hstarts.tally, hstarts.outstanding] using h.received
    · simpa [hstarts.tally, hstarts.outstanding] using h.scheduled

theorem finish (h : Balanced s) (place : Nat) :
    Balanced (s.finish place) := by
  rcases s.engine.finishPooled_cases place with ⟨hnone, hsame⟩ | ⟨r, pool, hsome, hfinishes⟩
  · simpa [Traffic.finish, hnone, hsame] using h
  · have houtstanding := hfinishes.outstanding
    have hexecuted : (s.finish place).executed = s.executed + 1 := by
      simp only [executed, Traffic.finish, hsome, List.length_append, List.length_singleton]
      omega
    have hreceived := h.received
    have hscheduled := h.scheduled
    constructor
    · rw [finish_handedOver, finish_engine, hfinishes.tally, Tally.recordJob_received,
        Tally.recordJob_settled]
      omega
    · rw [finish_handedOver, finish_engine, hexecuted, hfinishes.tally,
        Tally.recordJob_scheduled]
      omega

theorem install (h : Balanced s) (t : Table σ) :
    Balanced (s.mapEngine fun e => (e.install t).2) := by
  cases htable : s.engine.table with
  | none =>
      simp only [mapEngine, Engine.install, htable]
      exact ⟨h.received, h.scheduled⟩
  | some installed =>
      simp only [mapEngine, Engine.install, htable]
      exact ⟨h.received, h.scheduled⟩

/-- Whatever happens next, the counters still balance. -/
theorem lasts : Lasts (@Balanced σ) where
  note := fun _ _ h => ⟨h.received, h.scheduled⟩
  install := fun _ t h => h.install t
  connect := fun _ _ h => ⟨h.received, h.scheduled⟩
  disconnect := fun _ _ h => ⟨h.received, h.scheduled⟩
  arrive := fun _ phase ref env h => h.arrive phase ref env
  settle := fun _ place h => h.settle place
  next := fun _ h => h.next
  closeQueue := fun _ h => ⟨h.received, h.scheduled⟩
  closePool := fun _ h => ⟨h.received, h.scheduled⟩
  startPooled := fun _ place h => h.startPooled place
  finish := fun _ place h => h.finish place
  advance := fun _ _ h => ⟨h.received, h.scheduled⟩

end Balanced

/-- Whatever happens to a fresh engine, with or without a table at first: while no dispatch is
under way, every message that was received is in one other counter or its job has not been
executed, and every scheduled message is a job that has not been executed or one that has. When
all jobs have been executed, the counters of ends add up to the messages received. -/
theorem counters_conserve_messages
    (scheduler : Scheduler) (permits capacity : Nat) (table : Option (Table σ))
    (events : List (Event σ)) :
    let fresh := Engine.create scheduler (Pool.start permits) (WorldQueue.empty capacity)
    let s := (start { fresh with table := table }).run events
    let c := s.engine.scene.tally
    s.underway = [] →
      c.received = c.completed + c.handlerFailures + c.sessionsGone + c.ignored + c.unknown +
          c.denied + c.decodeFailures + c.saturated + s.engine.outstanding ∧
        c.scheduled = s.engine.outstanding + s.executed ∧
        (s.engine.outstanding = 0 →
          c.received =
            c.completed + c.handlerFailures + c.sessionsGone + c.ignored + c.dropped) := by
  intro fresh s c idle
  have hstart : Balanced (start { fresh with table := table }) := ⟨rfl, rfl⟩
  have balanced : Balanced s := Balanced.lasts.run events hstart
  have hhanded : s.handedOver = 0 := by simp [handedOver, idle]
  have hreceived : c.received = c.settled + s.engine.outstanding := by
    have h := balanced.received
    rwa [hhanded, Nat.add_zero] at h
  have hscheduled : c.scheduled = s.engine.outstanding + s.executed := by
    have h := balanced.scheduled
    rwa [hhanded, Nat.add_zero] at h
  simp only [Tally.settled, Tally.dropped] at hreceived ⊢
  refine ⟨?_, hscheduled, fun hdone => ?_⟩
  · omega
  · omega

/-- A pool job starts, fails and ends before the dispatch that scheduled it is counted, the world
thread finds the session of a job gone, and one more job is left to it. -/
def earlyPoolJob : List (Event Nat) :=
  [.install .threeLanes, .connect 0, .connect 10,
    .arrive .authed 0 ⟨2, [], ⟨"a"⟩, 0⟩, .beside (.start 0), .beside (.finish 0), .settle 0,
    .dispatch .authed 1 ⟨3, [], ⟨"b"⟩, 0⟩, .disconnect 1, .drain 0,
    .dispatch .authed 0 ⟨1, [], ⟨"a"⟩, 1⟩, .dispatch .authed 0 ⟨3, [], ⟨"a"⟩, 2⟩]

theorem counters_conserve_messages_earlyPoolJob :
    let fresh : Engine Nat :=
      Engine.create .standard (Pool.start 1) (WorldQueue.empty 8)
    let s := (start { fresh with table := none }).run earlyPoolJob
    let c := s.engine.scene.tally
    s.underway = [] ∧ c = ⟨4, 1, 3, 0, 1, 0, 0, 0, 0, 1, []⟩ ∧
      c.received = c.completed + c.handlerFailures + c.sessionsGone + c.ignored + c.unknown +
        c.denied + c.decodeFailures + c.saturated + s.engine.outstanding ∧
      c.scheduled = s.engine.outstanding + s.executed :=
  have idle : ((start { Engine.create .standard (Pool.start 1) (WorldQueue.empty 8) with
      table := none }).run earlyPoolJob).underway = [] := by decide
  have balance := counters_conserve_messages .standard 1 8 none earlyPoolJob idle
  ⟨idle, by decide, balance.1, balance.2.1⟩

end Traffic
end PacketDispatch
