import PacketDispatch.Engine.Scene
import PacketDispatch.Schedule.Pool
import PacketDispatch.Schedule.Ticking
import PacketDispatch.Table.Basic

/-!
# The engine

A message is looked up in the table, checked at the gate, decoded by its handler, and run where its
opcode says: at once, on the worker pool, or on the world thread. Each step that stops a message
writes a line and counts it; none of them ends the session. The table is installed once.
-/

namespace PacketDispatch

/-- Where deferred messages go: to the pool and the world queue, or nowhere. -/
inductive Scheduler
  | standard
  | refusing
  deriving DecidableEq, Repr

/-- An engine with everything that its messages act on. `dispatched` counts the messages that were
given to it and numbers their calls. -/
structure Engine (σ : Type) where
  table : Option (Table σ)
  scheduler : Scheduler
  pool : Pool (Job σ) HandlerError
  queue : WorldQueue (Job σ)
  scene : Scene σ
  dispatched : Nat

/-- What a dispatch must have: a table, and a connected session. -/
inductive DispatchFault
  | noTable
  | noSession
  deriving DecidableEq, Repr

/-- The wording of a fault. -/
def DispatchFault.message : DispatchFault → String
  | .noTable => "opcode table used before initialization"
  | .noSession => "session used after it ended"

/-- What the table and the gate say of a message before anything runs: it goes no further, or it is
a call of a descriptor's handler. -/
inductive Decision (σ : Type)
  | stop (outcome : Outcome)
  | call (d : Descriptor σ) (c : Call σ)

namespace Table

/-- A message is looked up, checked at the gate and decoded, in this order. -/
def decide (t : Table σ) (phase : Phase) (e : Envelope) : Decision σ :=
  match t.lookup e.opcode with
  | none => .stop (.dropped (.unknownOpcode e.opcode))
  | some d =>
    match d.requirement.check phase with
    | .unhandled => .stop .ignored
    | .denied reason => .stop (.dropped (.denied e.opcode d.requirement phase reason))
    | .granted =>
      match d.handler.prepare e with
      | .error fault => .stop (.dropped (.undecodable e.opcode fault))
      | .ok c => .call d c

/-- The lines about a message that goes no further. -/
def stopLines (t : Table σ) (e : Envelope) : Outcome → List Line
  | .ignored =>
    let requirement := ((t.lookup e.opcode).map fun d => d.requirement.text).getD ""
    [⟨.debug, "💤 Ignoring " ++ t.label e.opcode ++ " from session " ++ e.session.text ++
      ", status " ++ requirement⟩]
  | .dropped (.unknownOpcode _) =>
    [⟨.warn, "❓ Received unknown opcode " ++ t.label e.opcode ++ " from session " ++
      e.session.text⟩]
  | .dropped (.denied _ required actual reason) =>
    [⟨.warn, "🚷 Dropped " ++ t.label e.opcode ++ " from session " ++ e.session.text ++ ": " ++
      reason.text ++ " (requires " ++ required.text ++ ", session is " ++ actual.text ++ ")"⟩]
  | .dropped (.undecodable _ fault) =>
    [⟨.warn, "🧨 Dropped " ++ t.label e.opcode ++ " from session " ++ e.session.text ++ ": " ++
      fault.message⟩]
  | _ => []

/-- The line about a handler that failed where its message arrived. -/
def failedLine (t : Table σ) (e : Envelope) (d : Descriptor σ) (error : HandlerError) : Line :=
  ⟨.error, "❌ Handler " ++ d.handler.name ++ " for " ++ t.label e.opcode ++
    " failed on session " ++ e.session.text ++ ": " ++ error.message⟩

/-- The line about a message that was handed on. -/
def scheduledLine (t : Table σ) (e : Envelope) (lane : Lane) : Line :=
  ⟨.trace, "📤 Scheduled " ++ t.label e.opcode ++ " (seq " ++ Text.decimal e.sequence.toNat ++
    ") as " ++ lane.text⟩

/-- The line about a message that nothing had room for. -/
def refusedJobLine (t : Table σ) (e : Envelope) (error : ScheduleError) : Line :=
  ⟨.warn, "🚦 Dropped " ++ t.label e.opcode ++ " from session " ++ e.session.text ++ ": " ++
    error.message⟩

end Table

namespace Engine

/-- An engine without a table, around a pool and a queue. -/
def create (scheduler : Scheduler) (pool : Pool (Job σ) HandlerError)
    (queue : WorldQueue (Job σ)) : Engine σ :=
  ⟨none, scheduler, pool, queue, Scene.empty, 0⟩

/-- An engine without a table, of given sizes; its queue is made first. -/
def ofSizes (scheduler : Scheduler) (permits capacity : Nat) : Except SizeFault (Engine σ) := do
  let queue ← WorldQueue.create capacity
  let pool ← Pool.create permits
  return create scheduler pool queue

/-- The engine with a table from the start. -/
def withTable (e : Engine σ) (t : Table σ) : Engine σ :=
  { e with table := some t }

/-- Lines are written on the calling thread. -/
def note (e : Engine σ) (lines : List Line) : Engine σ :=
  { e with scene := e.scene.writeLines .caller lines }

/-- The first table is installed; a later one is handed back. -/
def install (e : Engine σ) (t : Table σ) : Except (Table σ) Unit × Engine σ :=
  match e.table with
  | some _ =>
    (.error t, e.note [⟨.warn, "⚠️ Opcode table is already installed, ignoring replacement"⟩])
  | none =>
    (.ok (), { e with table := some t }.note
      [⟨.debug, "📚 Installed opcode table with " ++ Text.decimal t.size ++ " descriptors"⟩])

/-- The engine has a table. -/
def ready (e : Engine σ) : Bool :=
  e.table.isSome

/-- The line about a lane that refused a job. -/
def laneRefusalLines (lane : Lane) (error : ScheduleError) : List Line :=
  match lane with
  | .pool => [⟨.warn, "🏊 Worker pool refused job: " ++ error.message⟩]
  | .world => [⟨.warn, "🌍 World queue refused job: " ++ error.message⟩]
  | .inPlace => []

/-- A job is handed to the pool or, from any other lane, to the world queue. -/
def handOff (e : Engine σ) (lane : Lane) (j : Job σ) : Except ScheduleError (Engine σ) :=
  match e.scheduler, lane with
  | .standard, .pool => (e.pool.spawn j).map fun p => { e with pool := p }
  | .standard, _ => (e.queue.push j).map fun q => { e with queue := q }
  | .refusing, .pool => .error .saturated
  | .refusing, _ => .error .closed

/-- The lines about a refused job. -/
def handOffLines (e : Engine σ) (lane : Lane) (error : ScheduleError) : List Line :=
  match e.scheduler with
  | .standard => laneRefusalLines lane error
  | .refusing => []

/-- A call runs where its message arrived. -/
def runInPlace (e : Engine σ) (t : Table σ) (ref : SessionRef) (env : Envelope)
    (d : Descriptor σ) (c : Call σ) : Outcome × Engine σ :=
  match e.scene.call .inPlace e.dispatched ref c with
  | none => (.completed, e)
  | some called =>
    let e := { e with scene := called.scene }
    match called.result with
    | .ok () => (.completed, e)
    | .error error => (.handlerFailed error, e.note [t.failedLine env d error])

/-- A call is handed on as a job. -/
def defer (e : Engine σ) (t : Table σ) (ref : SessionRef) (env : Envelope)
    (lane : Lane) (c : Call σ) : Outcome × Engine σ :=
  let j : Job σ := ⟨e.dispatched, ref, c, env.opcode, env.session, env.sequence⟩
  match e.handOff lane j with
  | .ok e => (.scheduled lane, e.note [t.scheduledLine env lane])
  | .error error =>
    (.dropped (.saturated env.opcode lane),
      e.note (e.handOffLines lane error ++ [t.refusedJobLine env error]))

/-- A message goes as far as it gets. Its outcome is not counted yet. -/
def route (e : Engine σ) (t : Table σ) (phase : Phase) (ref : SessionRef) (env : Envelope) :
    Outcome × Engine σ :=
  match t.decide phase env with
  | .stop outcome => (outcome, e.note (t.stopLines env outcome))
  | .call d c =>
    let e := e.note (c.tailLine? env.opcode).toList
    if d.lane.deferred then e.defer t ref env d.lane c else e.runInPlace t ref env d c

/-- The outcome of a message is counted. -/
def record (e : Engine σ) (id : Opcode) (outcome : Outcome) : Engine σ :=
  { e with scene := e.scene.recordOutcome id outcome }

/-- A message of a session in a phase arrives: it goes as far as it gets, and is numbered. Without a
table or without the session nothing happens. -/
def arrive (e : Engine σ) (phase : Phase) (ref : SessionRef) (env : Envelope) :
    Except DispatchFault (Outcome × Engine σ) :=
  match e.table with
  | none => .error .noTable
  | some t =>
    if e.scene.connected ref then
      let (outcome, routed) := e.route t phase ref env
      .ok (outcome, { routed with dispatched := e.dispatched + 1 })
    else .error .noSession

/-- A message of a session in a phase is dispatched: it arrives, and its outcome is counted. -/
def dispatch (e : Engine σ) (phase : Phase) (ref : SessionRef) (env : Envelope) :
    Except DispatchFault (Outcome × Engine σ) :=
  match e.arrive phase ref env with
  | .error fault => .error fault
  | .ok (outcome, arrived) => .ok (outcome, arrived.record env.opcode outcome)

/-- A client connects. -/
def connect (e : Engine σ) (session : σ) : SessionRef × Engine σ :=
  let (ref, scene) := e.scene.connect session
  (ref, { e with scene := scene })

/-- A client disconnects. -/
def disconnect (e : Engine σ) (ref : SessionRef) : Engine σ :=
  { e with scene := e.scene.disconnect ref }

/-- The world queue takes no more jobs. -/
def closeQueue (e : Engine σ) : Engine σ :=
  { e with queue := e.queue.close }

/-- The pool takes no more jobs. -/
def closePool (e : Engine σ) : Engine σ :=
  { e with pool := e.pool.close }

/-- The clock moves on. -/
def advance (e : Engine σ) (by' : Nat) : Engine σ :=
  { e with scene := { e.scene with now := e.scene.now + by' } }

/-- A pass over the world queue. -/
def drain (e : Engine σ) (budget : Nat) : PassReport × Engine σ :=
  let p := e.queue.pass Job.run budget e.scene
  (p.report, { e with queue := p.queue, scene := p.state }.note (p.report.budgetLines budget))

/-- The waiting pool job at a place gets a thread: its call is made, and it keeps its session while
it is there. -/
def startPooled (e : Engine σ) (place : Nat) : Engine σ :=
  match e.pool.take? place with
  | none => e
  | some (j, pool) =>
    let made := j.make .pool e.scene
    let scene := if made.ended.isGone then made.scene else made.scene.hold j.session
    { e with pool := pool.run j made.ended made.lingers, scene := scene }

/-- The running pool job at a place ends: its end is counted, and its session and its permit are
free again. -/
def finishPooled (e : Engine σ) (place : Nat) : Engine σ :=
  match e.pool.finish? place with
  | none => e
  | some (r, pool) =>
    let scene := if r.ended.isGone then e.scene else e.scene.letGo r.job.session
    { e with pool := pool, scene := scene.recordJob r.ended }

/-- Pool jobs that linger are told to go on. -/
def releasePooled (e : Engine σ) : Engine σ :=
  { e with pool := e.pool.release }

/-- The first running pool job that does not linger. -/
def idlePlace? (e : Engine σ) : Option Nat :=
  e.pool.running.findIdx? fun r => !r.lingers

/-- Running pool jobs that do not linger end, oldest first. The fuel bounds their number. -/
def finishIdle : Nat → Engine σ → Engine σ
  | 0, e => e
  | fuel + 1, e =>
    match e.idlePlace? with
    | none => e
    | some place => finishIdle fuel (e.finishPooled place)

/-- The pool works with some threads until every job has ended or every thread is busy with one that
lingers. The fuel bounds the number of jobs that get a thread. -/
def workPool (threads : Nat) : Nat → Engine σ → Engine σ
  | 0, e => finishIdle e.pool.running.length e
  | fuel + 1, e =>
    let e := finishIdle e.pool.running.length e
    if e.pool.waiting.isEmpty then e
    else if e.pool.running.length < threads then workPool threads fuel (e.startPooled 0)
    else e

/-- The pool works as long as it can. -/
def quiesce (e : Engine σ) (threads : Nat) : Engine σ :=
  workPool threads e.pool.waiting.length e

end Engine
end PacketDispatch
