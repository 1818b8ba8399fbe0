import PacketDispatch.Engine.Background
import PacketDispatch.Proofs.Engine.Arrival
import Mathlib.Logic.Function.Iterate

/-!
# Traffic through an engine

An engine in service: sessions come and go, messages are dispatched, the world thread drains its
queue, pool threads take up jobs and finish them, and the queue and the pool are closed.  A run is
any list of such events.  Several dispatches may be under way at once, so that a job can run
before its own dispatch has been counted, and a pass over the queue may be cut into parts with
other events between them.

Beside the engine a run keeps its history: the messages that arrived, and the deferred jobs that
ended, with their ends.
-/

namespace PacketDispatch

/-- What may happen to an engine in service.  A dispatch and a pass are single events, or they are
made of parts: `arrive` and `settle` are the two halves of a dispatch, and `proceed` is a part of a
pass. -/
inductive Event (σ : Type)
  | install (t : Table σ)
  | connect (session : σ)
  | disconnect (ref : SessionRef)
  | dispatch (phase : Phase) (ref : SessionRef) (env : Envelope)
  | arrive (phase : Phase) (ref : SessionRef) (env : Envelope)
  | settle (place : Nat)
  | drain (budget : Nat)
  | proceed (limit : Nat)
  | closeQueue
  | closePool
  | beside (b : Background)

/-- An engine with its history. `underway` has the dispatches whose outcome is not counted yet,
`arrivals` every message that arrived, `drained` the jobs that the world thread took from the
queue, and `pooled` the pool jobs that ended. -/
structure Traffic (σ : Type) where
  engine : Engine σ
  underway : List (Opcode × Outcome)
  arrivals : List Arrival
  drained : List (Job σ × JobEnd HandlerError)
  pooled : List (Job σ × JobEnd HandlerError)

namespace Traffic

variable {σ : Type}

/-- An engine before its first event. -/
def start (e : Engine σ) : Traffic σ :=
  ⟨e, [], [], [], []⟩

/-- A fresh engine with a table, of given sizes. -/
def opening (scheduler : Scheduler) (permits capacity : Nat) (t : Table σ) : Traffic σ :=
  start ((Engine.create scheduler (Pool.start permits)
    (WorldQueue.empty capacity)).withTable t)

/-- The engine changes. -/
def mapEngine (s : Traffic σ) (f : Engine σ → Engine σ) : Traffic σ :=
  { s with engine := f s.engine }

@[simp] theorem mapEngine_engine (s : Traffic σ) (f : Engine σ → Engine σ) :
    (s.mapEngine f).engine = f s.engine := rfl

/-- The arrival that a dispatch adds to the history. -/
def arrival (s : Traffic σ) (phase : Phase) (ref : SessionRef) (env : Envelope)
    (outcome : Outcome) : Arrival :=
  ⟨s.engine.dispatched, phase, ref, env, outcome⟩

/-- A dispatch begins: its message arrives, and its outcome is still to be counted. -/
def arrive (s : Traffic σ) (phase : Phase) (ref : SessionRef) (env : Envelope) : Traffic σ :=
  match s.engine.arrive phase ref env with
  | .error _ => s
  | .ok (outcome, e) =>
      { s with
        engine := e
        underway := s.underway ++ [(env.opcode, outcome)]
        arrivals := s.arrivals ++ [s.arrival phase ref env outcome] }

/-- A dispatch under way ends: its outcome is counted. -/
def settle (s : Traffic σ) (place : Nat) : Traffic σ :=
  match s.underway[place]? with
  | none => s
  | some (id, outcome) =>
      { s with
        engine := s.engine.record id outcome
        underway := s.underway.eraseIdx place }

/-- A whole dispatch. -/
def dispatch (s : Traffic σ) (phase : Phase) (ref : SessionRef) (env : Envelope) :
    Traffic σ :=
  match s.engine.dispatch phase ref env with
  | .error _ => s
  | .ok (outcome, e) =>
      { s with
        engine := e
        arrivals := s.arrivals ++ [s.arrival phase ref env outcome] }

/-- A part of a pass: the world thread takes up to `limit` jobs. -/
def proceed (s : Traffic σ) (limit : Nat) : Traffic σ :=
  let p := s.engine.queue.runUpTo Job.run limit s.engine.scene
  { s with
    engine := { s.engine with queue := p.queue, scene := p.state }
    drained := s.drained ++ p.ran }

/-- A whole pass. -/
def drain (s : Traffic σ) (budget : Nat) : Traffic σ :=
  { s with
    engine := (s.engine.drain budget).2
    drained := s.drained ++ (s.engine.queue.pass Job.run budget s.engine.scene).ran }

/-- The running pool job at a place ends. -/
def finish (s : Traffic σ) (place : Nat) : Traffic σ :=
  { s with
    engine := s.engine.finishPooled place
    pooled := s.pooled ++ match s.engine.pool.finish? place with
      | none => []
      | some (r, _) => [(r.job, r.ended)] }

@[simp] theorem finish_engine (s : Traffic σ) (place : Nat) :
    (s.finish place).engine = s.engine.finishPooled place := rfl

/-- Something happens beside the dispatching thread. -/
def beside (s : Traffic σ) : Background → Traffic σ
  | .finish place => s.finish place
  | b => s.mapEngine fun e => e.happen b

/-- One event. -/
def step (s : Traffic σ) : Event σ → Traffic σ
  | .install t => s.mapEngine fun e => (e.install t).2
  | .connect session => s.mapEngine fun e => (e.connect session).2
  | .disconnect ref => s.mapEngine fun e => e.disconnect ref
  | .dispatch phase ref env => s.dispatch phase ref env
  | .arrive phase ref env => s.arrive phase ref env
  | .settle place => s.settle place
  | .drain budget => s.drain budget
  | .proceed limit => s.proceed limit
  | .closeQueue => s.mapEngine Engine.closeQueue
  | .closePool => s.mapEngine Engine.closePool
  | .beside b => s.beside b

/-- Events happen one after another. -/
def run (s : Traffic σ) (events : List (Event σ)) : Traffic σ :=
  events.foldl step s

/-! ## Dispatches and passes are made of their parts -/

/-- The world thread takes the next job, if there is one. -/
def next (s : Traffic σ) : Traffic σ :=
  match s.engine.queue.pending with
  | [] => s
  | j :: rest =>
      let made := j.make .world s.engine.scene
      { s with
        engine := { s.engine with
          queue := { s.engine.queue with pending := rest }
          scene := made.scene.recordJob made.ended }
        drained := s.drained ++ [(j, made.ended)] }

/-- A dispatch is its arrival and the counting of its outcome. -/
theorem dispatch_eq_settle_arrive
    (s : Traffic σ) (phase : Phase) (ref : SessionRef) (env : Envelope) :
    s.dispatch phase ref env = (s.arrive phase ref env).settle s.underway.length := by
  unfold dispatch arrive Engine.dispatch
  cases s.engine.arrive phase ref env with
  | error fault => simp [settle]
  | ok arrived =>
      obtain ⟨outcome, e⟩ := arrived
      simp [settle, List.eraseIdx_append_of_length_le]

/-- A part of a pass takes jobs one after another. -/
theorem proceed_eq_iterate_next (limit : Nat) (s : Traffic σ) :
    s.proceed limit = next^[limit] s := by
  induction limit generalizing s with
  | zero => simp [proceed, WorldQueue.runUpTo]
  | succ limit ih =>
      rw [Function.iterate_succ_apply, ← ih]
      cases hpending : s.engine.queue.pending with
      | nil =>
          -- A pass over an empty queue stops at once, however much of its budget is left.
          have hpop : s.engine.queue.pop? = none := by simp [WorldQueue.pop?, hpending]
          have hidle : ∀ n, s.proceed n = s := by
            intro n
            cases n <;> simp [proceed, WorldQueue.runUpTo, hpop]
          simp only [next, hpending, hidle]
      | cons j rest =>
          simp [proceed, next, WorldQueue.runUpTo, WorldQueue.pop?, hpending, Job.run]

/-- A whole pass is a part of a pass and a line about it. -/
theorem drain_eq_note_proceed (s : Traffic σ) (budget : Nat) :
    ∃ lines, s.drain budget =
      (s.proceed (WorldQueue.passLimit budget s.engine.queue)).mapEngine fun e =>
        e.note lines :=
  ⟨_, rfl⟩

/-- What changes when the world thread takes a job: it leaves the queue, its call is made unless its
session is gone, and its end is counted. -/
structure TakesJob (s : Traffic σ) (j : Job σ) (ended : JobEnd HandlerError)
    (s' : Traffic σ) : Prop where
  pending : s.engine.queue.pending = j :: s'.engine.queue.pending
  table : s'.engine.table = s.engine.table
  dispatched : s'.engine.dispatched = s.engine.dispatched
  pool : s'.engine.pool = s.engine.pool
  calls : s'.engine.scene.calls = s.engine.scene.calls ++ j.callsMade .world ended
  presence : s'.engine.scene.presence = s.engine.scene.presence
  tally : s'.engine.scene.tally = s.engine.scene.tally.recordJob ended
  gone : ended.isGone = !s.engine.scene.alive j.session
  underway : s'.underway = s.underway
  arrivals : s'.arrivals = s.arrivals
  drained : s'.drained = s.drained ++ [(j, ended)]
  pooled : s'.pooled = s.pooled

theorem takesJob_next {s : Traffic σ} {j : Job σ} {rest : List (Job σ)}
    (hpending : s.engine.queue.pending = j :: rest) :
    TakesJob s j (j.make .world s.engine.scene).ended s.next := by
  have hmake := j.make_spec .world s.engine.scene
  constructor <;>
    simp [next, hpending, hmake.calls, hmake.presence, hmake.tally, hmake.gone]

theorem next_cases (s : Traffic σ) :
    s.next = s ∨ ∃ j ended, TakesJob s j ended s.next := by
  cases hpending : s.engine.queue.pending with
  | nil => exact Or.inl (by simp [next, hpending])
  | cons j rest => exact Or.inr ⟨j, _, takesJob_next hpending⟩

/-- What changes when a dispatch begins: its message has arrived at the engine, and is entered in
the history with an outcome that is still to be counted. -/
structure BeginsDispatch (s : Traffic σ) (phase : Phase) (ref : SessionRef) (env : Envelope)
    (outcome : Outcome) (s' : Traffic σ) : Prop where
  engine : s.engine.arrive phase ref env = .ok (outcome, s'.engine)
  underway : s'.underway = s.underway ++ [(env.opcode, outcome)]
  arrivals : s'.arrivals = s.arrivals ++ [s.arrival phase ref env outcome]
  drained : s'.drained = s.drained
  pooled : s'.pooled = s.pooled

theorem arrive_cases (s : Traffic σ) (phase : Phase) (ref : SessionRef) (env : Envelope) :
    s.arrive phase ref env = s ∨
      ∃ outcome, BeginsDispatch s phase ref env outcome (s.arrive phase ref env) := by
  cases h : s.engine.arrive phase ref env with
  | error fault => exact Or.inl (by simp [arrive, h])
  | ok arrived => exact Or.inr ⟨arrived.1, by constructor <;> simp [arrive, h]⟩

/-! ## What lasts -/

/-- A property of traffic that lasts: whatever happens next, it still holds. -/
structure Lasts (P : Traffic σ → Prop) : Prop where
  note : ∀ s lines, P s → P (s.mapEngine fun e => e.note lines)
  install : ∀ s t, P s → P (s.mapEngine fun e => (e.install t).2)
  connect : ∀ s session, P s → P (s.mapEngine fun e => (e.connect session).2)
  disconnect : ∀ s ref, P s → P (s.mapEngine fun e => e.disconnect ref)
  arrive : ∀ s phase ref env, P s → P (s.arrive phase ref env)
  settle : ∀ s place, P s → P (s.settle place)
  next : ∀ s, P s → P s.next
  closeQueue : ∀ s, P s → P (s.mapEngine Engine.closeQueue)
  closePool : ∀ s, P s → P (s.mapEngine Engine.closePool)
  startPooled : ∀ s place, P s → P (s.mapEngine fun e => e.startPooled place)
  finish : ∀ s place, P s → P (s.finish place)
  advance : ∀ s ms, P s → P (s.mapEngine fun e => e.advance ms)

namespace Lasts

variable {P : Traffic σ → Prop}

theorem proceed (lasts : Lasts P) (limit : Nat) {s : Traffic σ} (h : P s) :
    P (s.proceed limit) := by
  rw [proceed_eq_iterate_next]
  exact Function.Iterate.rec P h lasts.next limit

theorem step (lasts : Lasts P) (event : Event σ) {s : Traffic σ} (h : P s) :
    P (s.step event) := by
  cases event with
  | install t => exact lasts.install s t h
  | connect session => exact lasts.connect s session h
  | disconnect ref => exact lasts.disconnect s ref h
  | dispatch phase ref env =>
      change P (s.dispatch phase ref env)
      rw [dispatch_eq_settle_arrive]
      exact lasts.settle _ _ (lasts.arrive s phase ref env h)
  | arrive phase ref env => exact lasts.arrive s phase ref env h
  | settle place => exact lasts.settle s place h
  | drain budget =>
      obtain ⟨lines, hdrain⟩ := s.drain_eq_note_proceed budget
      change P (s.drain budget)
      rw [hdrain]
      exact lasts.note _ lines (lasts.proceed _ h)
  | proceed limit => exact lasts.proceed limit h
  | closeQueue => exact lasts.closeQueue s h
  | closePool => exact lasts.closePool s h
  | beside b =>
      cases b with
      | start place => exact lasts.startPooled s place h
      | finish place => exact lasts.finish s place h
      | elapse ms => exact lasts.advance s ms h

/-- What lasts and holds at the start of a run holds at its end. -/
theorem run (lasts : Lasts P) (events : List (Event σ)) {s : Traffic σ} (h : P s) :
    P (s.run events) := by
  induction events generalizing s with
  | nil => exact h
  | cons event events ih => exact ih (lasts.step event h)

end Lasts
end Traffic

/-! ## A small table -/

/-- A table with an opcode for each lane. Their handlers add the length of the payload to the
session; then the one that runs in place returns, the one on the pool breaks off, and the one on
the world thread reports a failure. -/
def Table.threeLanes : Table Nat :=
  let adds (name : String) (ending : Ending) : Handler Nat :=
    Handler.raw name fun env _ n => { session := n + env.payload.length, ending, remarks := [] }
  ⟨[⟨1, "ONE", .client, .authed, .inPlace, adds "one" .returned⟩,
    ⟨2, "TWO", .client, .authed, .pool, adds "two" (.brokeOff (some "two"))⟩,
    ⟨3, "THREE", .client, .authed, .world, adds "three" (.failed (.execution "three"))⟩]⟩

end PacketDispatch
