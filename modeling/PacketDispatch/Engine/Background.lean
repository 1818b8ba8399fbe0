import PacketDispatch.Engine.Basic

/-!
# The background

What happens beside the thread that dispatches: pool threads take up jobs and finish them, and time
passes. Any list of such events is one way in which they may be timed.
-/

namespace PacketDispatch

/-- An event beside the dispatching thread. Places count waiting or running pool jobs from the
oldest; an event that names a place without a job does nothing. -/
inductive Background
  | start (place : Nat)
  | finish (place : Nat)
  | elapse (ms : Nat)
  deriving DecidableEq, Repr

namespace Engine

/-- An event happens. -/
def happen (e : Engine σ) : Background → Engine σ
  | .start place => e.startPooled place
  | .finish place => e.finishPooled place
  | .elapse ms => e.advance ms

/-- Events happen one after another. -/
def happenAll (e : Engine σ) (events : List Background) : Engine σ :=
  events.foldl happen e

/-- Every accepted pool job is run to its end; none lingers any longer. -/
def awaitPool (e : Engine σ) : Engine σ :=
  let e := e.quiesce e.pool.unfinished
  let e := e.releasePooled
  finishIdle e.pool.running.length e

end Engine
end PacketDispatch
