import PacketDispatch.Engine.Tally
import PacketDispatch.Handler.Basic

/-!
# The scene

What calls act on: the sessions, the clock, the tally, and the records of what happened. A session
lives as long as it is connected or a pool thread is still busy with it; a deferred message of a
session that is gone is discarded.
-/

namespace PacketDispatch

/-- The place of a session in a scene. Places are never used again. -/
abbrev SessionRef := Nat

/-- A session of a scene: its value, whether its client is connected, and how many pool threads are
busy with it. -/
structure Seat (σ : Type) where
  session : σ
  connected : Bool
  holders : Nat

/-- The session is still there. -/
def Seat.alive (s : Seat σ) : Bool :=
  s.connected || s.holders != 0

/-- One handler call: the dispatch that made it, the session it ran against, the lane it ran in, the
call and how it ended. -/
structure CallRecord (σ : Type) where
  ticket : Nat
  session : SessionRef
  lane : Lane
  call : Call σ
  result : Except HandlerError Unit

/-- The thread on which the calls of a lane are made. The thread that dispatches also ticks. -/
def Lane.thread : Lane → Thread
  | .pool => .pool
  | .inPlace | .world => .caller

/-- Everything that calls act on. -/
structure Scene (σ : Type) where
  seats : List (Seat σ)
  now : Instant
  tally : Tally
  calls : List (CallRecord σ)
  notes : List Note

/-- A message that was handed on: the dispatch that made it, its session, its call, and what log
lines say of it. -/
structure Job (σ : Type) where
  ticket : Nat
  session : SessionRef
  call : Call σ
  opcode : Opcode
  sessionId : SessionId
  sequence : UInt64

namespace Scene

/-- A scene without sessions. -/
def empty : Scene σ :=
  ⟨[], 0, Tally.zero, [], []⟩

/-- Entries are written in the journal. -/
def write (s : Scene σ) (thread : Thread) (remarks : List Remark) : Scene σ :=
  { s with notes := s.notes ++ remarks.map fun r => ⟨thread, r⟩ }

/-- Lines are written in the journal. -/
def writeLines (s : Scene σ) (thread : Thread) (lines : List Line) : Scene σ :=
  s.write thread (lines.map .line)

/-- A client connects; its session takes the next place. -/
def connect (s : Scene σ) (session : σ) : SessionRef × Scene σ :=
  (s.seats.length, { s with seats := s.seats ++ [⟨session, true, 0⟩] })

/-- A change of one seat. -/
def modifySeat (s : Scene σ) (ref : SessionRef) (f : Seat σ → Seat σ) : Scene σ :=
  { s with seats := s.seats.modify ref f }

/-- A client disconnects. -/
def disconnect (s : Scene σ) (ref : SessionRef) : Scene σ :=
  s.modifySeat ref fun seat => { seat with connected := false }

/-- A pool thread is busy with a session. -/
def hold (s : Scene σ) (ref : SessionRef) : Scene σ :=
  s.modifySeat ref fun seat => { seat with holders := seat.holders + 1 }

/-- A pool thread is done with a session. -/
def letGo (s : Scene σ) (ref : SessionRef) : Scene σ :=
  s.modifySeat ref fun seat => { seat with holders := seat.holders - 1 }

/-- A session is still there. -/
def alive (s : Scene σ) (ref : SessionRef) : Bool :=
  match s.seats[ref]? with
  | some seat => seat.alive
  | none => false

/-- The client of a session is connected. -/
def connected (s : Scene σ) (ref : SessionRef) : Bool :=
  match s.seats[ref]? with
  | some seat => seat.connected
  | none => false

/-- The value of a session. -/
def session? (s : Scene σ) (ref : SessionRef) : Option σ :=
  s.seats[ref]?.map Seat.session

/-- What a call leaves: the scene, how the call ended, and whether it lingers. -/
structure Called (σ : Type) where
  scene : Scene σ
  result : Except HandlerError Unit
  lingers : Bool

/-- A call runs against a session in a lane. The session changes as its body says, the body's
entries go to the journal, and the call is recorded. Without the session nothing happens. -/
def call (s : Scene σ) (lane : Lane) (ticket : Nat) (ref : SessionRef) (c : Call σ) :
    Option (Called σ) :=
  (s.session? ref).map fun session =>
    let reply := c.body s.now session
    let result := reply.ending.isolated
    let s := s.modifySeat ref fun seat => { seat with session := reply.session }
    let s := s.write lane.thread reply.remarks
    ⟨{ s with calls := s.calls ++ [⟨ticket, ref, lane, c, result⟩] }, result, reply.lingers⟩

/-- The outcome of a dispatch is counted. -/
def recordOutcome (s : Scene σ) (id : Opcode) (outcome : Outcome) : Scene σ :=
  { s with tally := s.tally.recordOutcome id outcome }

/-- The end of a job is counted. -/
def recordJob (s : Scene σ) (e : JobEnd HandlerError) : Scene σ :=
  { s with tally := s.tally.recordJob e }

end Scene

namespace Job

/-- The line about a job whose session is gone. -/
def goneLine (j : Job σ) : Line :=
  ⟨.debug, "👻 Session " ++ j.sessionId.text ++ " is gone, discarding opcode " ++
    Text.hexWord j.opcode.toNat ++ " (seq " ++ Text.decimal j.sequence.toNat ++ ")"⟩

/-- The line about a job whose handler failed. -/
def failedLine (j : Job σ) (error : HandlerError) : Line :=
  ⟨.error, "❌ Handler for opcode " ++ Text.hexWord j.opcode.toNat ++ " failed on session " ++
    j.sessionId.text ++ " (seq " ++ Text.decimal j.sequence.toNat ++ "): " ++ error.message⟩

/-- What making the call of a job leaves: the scene, the job's end, and whether it lingers. -/
structure Made (σ : Type) where
  scene : Scene σ
  ended : JobEnd HandlerError
  lingers : Bool

/-- The call of a job is made in a lane if its session is still there; otherwise the job is
discarded. -/
def make (j : Job σ) (lane : Lane) (s : Scene σ) : Made σ :=
  let gone : Made σ := ⟨s.writeLines lane.thread [j.goneLine], .sessionGone, false⟩
  if s.alive j.session then
    match s.call lane j.ticket j.session j.call with
    | some called =>
      match called.result with
      | .ok () => ⟨called.scene, .completed, called.lingers⟩
      | .error error =>
        ⟨called.scene.writeLines lane.thread [j.failedLine error], .failed error, called.lingers⟩
    | none => gone
  else gone

/-- A job runs on the world thread: its call is made and its end is counted at once. -/
def run : JobRunner (Job σ) (Scene σ) HandlerError :=
  fun j q s =>
    let made := j.make .world s
    ⟨q, made.scene.recordJob made.ended, .ok made.ended⟩

end Job
end PacketDispatch
