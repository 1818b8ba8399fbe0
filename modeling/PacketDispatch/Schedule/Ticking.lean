import PacketDispatch.Journal
import PacketDispatch.Schedule.WorldQueue
import PacketDispatch.Text.Numeral

/-!
# The world loop

The world thread runs one pass over its queue at each tick and keeps totals. When it is told to stop
it closes the queue and ticks until nothing waits.
-/

namespace PacketDispatch

/-- The totals of a world loop. -/
structure LoopReport where
  ticks : Nat
  executed : Nat
  failed : Nat
  sessionsGone : Nat
  deriving DecidableEq, Repr

namespace LoopReport

/-- The totals before the first tick. -/
def zero : LoopReport :=
  ⟨0, 0, 0, 0⟩

/-- The totals after one more tick. -/
def absorb (r : LoopReport) (p : PassReport) : LoopReport :=
  ⟨r.ticks + 1, r.executed + p.executed, r.failed + p.failed, r.sessionsGone + p.sessionsGone⟩

end LoopReport

/-- The line about a pass that used up its budget while jobs still wait. -/
def PassReport.budgetLines (budget : Nat) (p : PassReport) : List Line :=
  if 0 < p.remaining ∧ 0 < budget then
    [⟨.debug, "⏳ World queue budget of " ++ Text.decimal budget ++ " reached, " ++
      Text.decimal p.remaining ++ " jobs carried over"⟩]
  else []

/-- The line about a tick that ran a job. -/
def LoopReport.tickLines (r : LoopReport) (p : PassReport) : List Line :=
  if 0 < p.executed then
    [⟨.debug, "🌍 World tick " ++ Text.decimal r.ticks ++ ": " ++ Text.decimal p.executed ++
      " jobs (" ++ Text.decimal p.failed ++ " failed, " ++ Text.decimal p.sessionsGone ++
      " sessions gone), " ++ Text.decimal p.remaining ++ " pending"⟩]
  else []

/-- A world loop between ticks: its budget, its totals, its queue and the state around it. -/
structure WorldLoop (J S : Type) where
  budget : Nat
  report : LoopReport
  queue : WorldQueue J
  state : S

namespace WorldLoop

/-- A loop that has not ticked yet. -/
def start (budget : Nat) (queue : WorldQueue J) (state : S) : WorldLoop J S :=
  ⟨budget, LoopReport.zero, queue, state⟩

/-- What a tick leaves: the loop, and the report of its pass or the reason why a job broke out of
it. A broken pass adds nothing to the totals. -/
structure Ticked (J S : Type) where
  loop : WorldLoop J S
  result : Except String PassReport

/-- One pass over the queue. The lines about it go to the state through `note`. -/
def tick (run : JobRunner J S ε) (note : List Line → S → S) (l : WorldLoop J S) : Ticked J S :=
  let p := l.queue.pass run l.budget l.state
  match p.broken with
  | some reason => ⟨{ l with queue := p.queue, state := p.state }, .error reason⟩
  | none =>
    let report := l.report.absorb p.report
    let lines := p.report.budgetLines l.budget ++ report.tickLines p.report
    ⟨{ l with report := report, queue := p.queue, state := note lines p.state }, .ok p.report⟩

/-- Ticks follow each other until no job waits or one breaks out. The fuel is a bound on the number
of ticks, for loops whose jobs never stop pushing others. -/
def settle (run : JobRunner J S ε) (note : List Line → S → S) :
    Nat → WorldLoop J S → WorldLoop J S × Option String
  | 0, l => (l, none)
  | fuel + 1, l =>
    if l.queue.isEmpty then (l, none)
    else
      let t := l.tick run note
      match t.result with
      | .error reason => (t.loop, some reason)
      | .ok _ => t.loop.settle run note fuel

/-- The loop stops: the queue is closed and what still waits is run. -/
def shutDown (run : JobRunner J S ε) (note : List Line → S → S) (fuel : Nat) (l : WorldLoop J S) :
    WorldLoop J S × Option String :=
  { l with queue := l.queue.close }.settle run note fuel

end WorldLoop
end PacketDispatch
