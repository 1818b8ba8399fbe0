import PacketDispatch.Engine.Basic
import PacketDispatch.Manifest.Load
import PacketDispatch.Rehearsal.Script

/-!
# The stage of a rehearsal

An engine whose sessions are numbered by whoever directs it. A session connects with its first
message, and again with the first one after it was disconnected. After every step the pool works
until each of its threads is idle or busy with a handler that lingers.
-/

namespace PacketDispatch
namespace Rehearsal

/-- An engine, the threads that its pool may use, the sessions that are connected, and how many
messages each number has sent so far. -/
structure Stage where
  engine : Engine Session
  threads : Nat
  seats : List (Session × SessionRef)
  sent : List (Session × Nat)

namespace Stage

/-- A stage before its first step. -/
def start (engine : Engine Session) (threads : Nat) : Stage :=
  ⟨engine, threads, [], []⟩

/-- The pool works as long as it can. -/
def settlePool (s : Stage) : Stage :=
  { s with engine := s.engine.quiesce s.threads }

/-- How many messages a number has sent so far. -/
def sentBy (s : Stage) (number : Session) : Nat :=
  (s.sent.lookup number).getD 0

/-- One more message of a number. -/
def countSent (s : Stage) (number : Session) : Stage :=
  { s with
    sent := (number, s.sentBy number + 1) :: s.sent.filter fun p => p.1 != number }

/-- The session of a number, which connects if it is not there. -/
def seat (s : Stage) (number : Session) : SessionRef × Stage :=
  match s.seats.lookup number with
  | some ref => (ref, s)
  | none =>
    let (ref, engine) := s.engine.connect number
    (ref, { s with engine := engine, seats := (number, ref) :: s.seats })

/-- A message is sent. Its place in the session is counted, whatever number it carries. -/
def send (s : Stage) (number : Session) (phase : Phase) (opcode : Opcode) (payload : List UInt8)
    (sequence : Option UInt64) : Except DispatchFault Outcome × Stage :=
  let s := s.countSent number
  let (ref, s) := s.seat number
  let sequence := sequence.getD (UInt64.ofNat (s.sentBy number))
  match s.engine.dispatch phase ref ⟨opcode, payload, SessionId.ofNumber number, sequence⟩ with
  | .error fault => (.error fault, s)
  | .ok (outcome, engine) => (.ok outcome, { s with engine := engine }.settlePool)

/-- A pass over the world queue. -/
def drain (s : Stage) (budget : Nat) : PassReport × Stage :=
  let (report, engine) := s.engine.drain budget
  (report, { s with engine := engine }.settlePool)

/-- The session of a number is disconnected, if it is there. -/
def disconnect (s : Stage) (number : Session) : Bool × Stage :=
  match s.seats.lookup number with
  | none => (false, s)
  | some ref =>
    (true, { s with
      engine := s.engine.disconnect ref
      seats := s.seats.filter fun p => p.1 != number }.settlePool)

/-- The handlers that linger go on. -/
def release (s : Stage) : Nat × Stage :=
  (s.engine.pool.lingering, { s with engine := s.engine.releasePooled }.settlePool)

/-- The world queue takes no more jobs. -/
def closeQueue (s : Stage) : Stage :=
  { s with engine := s.engine.closeQueue }

/-- The pool takes no more jobs. -/
def closePool (s : Stage) : Stage :=
  { s with engine := s.engine.closePool }

/-- Lines are written, and a table is installed if none is there. -/
def install (s : Stage) (lines : List Line) (t : Table Session) : Bool × Stage :=
  let (result, engine) := (s.engine.note lines).install t
  (result.isOk, { s with engine := engine })

/-- What was written since an earlier stage. -/
def notesSince (s earlier : Stage) : List Note :=
  s.engine.scene.notes.drop earlier.engine.scene.notes.length

end Stage
end Rehearsal
end PacketDispatch
