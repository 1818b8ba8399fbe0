import PacketDispatch.Engine.Background
import PacketDispatch.Replay.Record
import PacketDispatch.Text.Base64
import PacketDispatch.World.Basic
import PacketDispatch.World.Session

/-!
# Replaying a trace

The records of a trace are dispatched in order, each with its recorded phase, and the world ticks
after each. A session begins with its first record; a record whose payload does not decode is
skipped and does not begin one. At the end everything that was handed on is run.
-/

namespace PacketDispatch
namespace Replay

/-- Counts over the records of a trace. -/
structure Summary where
  records : Nat
  sessions : Nat
  completed : Nat
  scheduled : Nat
  ignored : Nat
  handlerFailed : Nat
  dropped : Nat
  skipped : Nat
  deriving DecidableEq, Repr

namespace Summary

/-- The counts before the first record. -/
def zero : Summary :=
  ⟨0, 0, 0, 0, 0, 0, 0, 0⟩

/-- One more outcome. -/
def count (s : Summary) : Outcome → Summary
  | .completed => { s with completed := s.completed + 1 }
  | .scheduled _ => { s with scheduled := s.scheduled + 1 }
  | .ignored => { s with ignored := s.ignored + 1 }
  | .handlerFailed _ => { s with handlerFailed := s.handlerFailed + 1 }
  | .dropped _ => { s with dropped := s.dropped + 1 }

end Summary

/-- A session of a replay: its number in the trace, its place in the scene, and how many of its
messages were dispatched. -/
structure Member where
  number : UInt32
  ref : SessionRef
  sent : Nat
  deriving DecidableEq, Repr

/-- A dispatched record with the number of its message in its session and its outcome. -/
structure Dispatched where
  record : Record
  sequence : UInt64
  outcome : Outcome
  deriving DecidableEq, Repr

/-- A replay between two records. -/
structure Run where
  world : World WorldSession
  members : List Member
  log : List Dispatched
  summary : Summary

/-- When the pool works and time passes: what happens before the outcome of a dispatch is counted,
after each dispatch, after the tick that follows it, and at the end, before the pool is awaited.
Dispatched records are numbered from zero; skipped ones have no number. -/
structure Timing where
  beforeCount : Nat → List Background
  afterDispatch : Nat → List Background
  afterTick : Nat → List Background
  atEnd : List Background

/-- The pool runs each job as soon as it is handed on, and no time passes. -/
def Timing.eager : Timing where
  beforeCount _ := []
  afterDispatch _ := [.start 0, .finish 0]
  afterTick _ := []
  atEnd := []

namespace Run

/-- A replay before its first record. -/
def start (w : World WorldSession) : Run :=
  ⟨w, [], [], Summary.zero⟩

/-- The session with a number, which begins when it is not there yet. -/
def member (r : Run) (number : UInt32) (grace : Nat) : Member × Run :=
  match r.members.find? fun m => m.number == number with
  | some m => (m, r)
  | none =>
    let session : WorldSession :=
      ⟨SessionId.ofNumber number.toNat, number, Login.authed grace⟩
    let (ref, engine) := r.world.engine.connect session
    let m : Member := ⟨number, ref, 0⟩
    (m, { r with world := { r.world with engine := engine }, members := r.members ++ [m] })

/-- One more message of a session is dispatched. -/
def countSent (r : Run) (number : UInt32) : Run :=
  { r with
    members := r.members.map fun m =>
      if m.number = number then { m with sent := m.sent + 1 } else m }

/-- A message is dispatched, and its outcome is counted. Events may come between its arrival and the
counting. -/
def send (r : Run) (events : List Background) (m : Member) (record : Record)
    (payload : List UInt8) : Except DispatchFault Run :=
  let sequence := UInt64.ofNat (m.sent + 1)
  let envelope : Envelope :=
    ⟨record.opcode, payload, SessionId.ofNumber record.session.toNat, sequence⟩
  match r.world.engine.arrive record.phase m.ref envelope with
  | .error fault => .error fault
  | .ok (outcome, arrived) =>
    let engine := (arrived.happenAll events).record record.opcode outcome
    .ok { r with
      world := { r.world with engine := engine }
      log := r.log ++ [⟨record, sequence, outcome⟩]
      summary := r.summary.count outcome }

/-- The line about a record that is skipped. -/
def skipLine (record : Record) (fault : Text.Base64.Fault) : Line :=
  ⟨.warn, "⏭️ Skipping record for opcode " ++ Text.decimal record.opcode.toNat ++ " of session " ++
    Text.decimal record.session.toNat ++ ": " ++ fault.message⟩

/-- A record is skipped. -/
def skip (r : Run) (record : Record) (fault : Text.Base64.Fault) : Run :=
  { r with
    world := r.world.mapEngine fun e => e.note [skipLine record fault]
    summary := { r.summary with skipped := r.summary.skipped + 1 } }

/-- The payload of a record. -/
def payload (record : Record) : Except Text.Base64.Fault (List UInt8) :=
  Text.Base64.decode record.payload.toUTF8.data.toList

/-- Events happen beside the replay. -/
def happen (r : Run) (events : List Background) : Run :=
  { r with world := r.world.mapEngine fun e => e.happenAll events }

/-- The world ticks. -/
def tick (r : Run) : Run :=
  { r with world := r.world.tick.2 }

/-- One record is replayed. -/
def step (timing : Timing) (grace : Nat) (r : Run) (record : Record) : Except DispatchFault Run :=
  match payload record with
  | .error fault => .ok (r.skip record fault)
  | .ok bytes =>
    let place := r.log.length
    let (m, r) := r.member record.session grace
    match (r.countSent record.session).send (timing.beforeCount place) m record bytes with
    | .error fault => .error fault
    | .ok r => .ok (((r.happen (timing.afterDispatch place)).tick).happen (timing.afterTick place))

/-- Records are replayed one after another. -/
def stepAll (timing : Timing) (grace : Nat) : List Record → Run → Except DispatchFault Run
  | [], r => .ok r
  | record :: rest, r =>
    match r.step timing grace record with
    | .error fault => .error fault
    | .ok r => stepAll timing grace rest r

/-- The line about a finished replay. -/
def doneLine (s : Summary) : Line :=
  ⟨.info, "🎞️ Replayed " ++ Text.decimal s.records ++ " records over " ++
    Text.decimal s.sessions ++ " sessions: " ++ Text.decimal s.completed ++ " completed, " ++
    Text.decimal s.scheduled ++ " scheduled, " ++ Text.decimal s.dropped ++ " dropped"⟩

/-- What was handed on is run, and the counts are completed. -/
def finish (timing : Timing) (r : Run) (records : Nat) : Run :=
  let world := (r.world.settle.mapEngine fun e => e.happenAll timing.atEnd).mapEngine
    Engine.awaitPool
  let summary := { r.summary with records := records, sessions := r.members.length }
  { r with
    world := world.mapEngine fun e => e.note [doneLine summary]
    summary := summary }

end Run

/-- A trace is replayed in a world: sessions keep a grace window of the given length, and the pool
works as the timing says. -/
def run (timing : Timing) (grace : Nat) (records : List Record) (w : World WorldSession) :
    Except DispatchFault Run :=
  (Run.stepAll timing grace records (Run.start w)).map fun r => r.finish timing records.length

end Replay
end PacketDispatch
