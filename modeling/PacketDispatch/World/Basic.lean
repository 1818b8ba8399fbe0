import PacketDispatch.Engine.Basic

/-!
# The world

An engine together with the loop that runs its world queue: a tick is a pass over the queue against
the engine's sessions, and the totals of the ticks are kept.
-/

namespace PacketDispatch

/-- An engine, the budget of each tick, and the totals of the ticks so far. -/
structure World (σ : Type) where
  engine : Engine σ
  budget : Nat
  report : LoopReport

namespace World

/-- A world before its first tick. -/
def start (engine : Engine σ) (budget : Nat) : World σ :=
  ⟨engine, budget, LoopReport.zero⟩

/-- The loop of a world, with the engine's scene as the state around it. -/
def loop (w : World σ) : WorldLoop (Job σ) (Scene σ) :=
  ⟨w.budget, w.report, w.engine.queue, w.engine.scene⟩

/-- The world after its loop has come to some state. -/
def withLoop (w : World σ) (l : WorldLoop (Job σ) (Scene σ)) : World σ :=
  { w with
    engine := { w.engine with queue := l.queue, scene := l.state }
    report := l.report }

/-- The lines of the loop are written on the calling thread. -/
def write (lines : List Line) (s : Scene σ) : Scene σ :=
  s.writeLines .caller lines

/-- A tick, with the report of its pass. -/
def tick (w : World σ) : Except String PassReport × World σ :=
  let t := w.loop.tick Job.run write
  (t.result, w.withLoop t.loop)

/-- Ticks follow each other until the queue is empty. Each runs a job at least, so there are no more
of them than there are jobs. -/
def settle (w : World σ) : World σ :=
  w.withLoop (w.loop.settle Job.run write w.engine.queue.size).1

/-- The engine changes. -/
def mapEngine (w : World σ) (f : Engine σ → Engine σ) : World σ :=
  { w with engine := f w.engine }

end World

/-- The lines of a round of the health monitor: the messages since its last round, then those that
were dropped and those whose handler failed since the start. -/
def Tally.healthLines (last now : Tally) : List Line :=
  ⟨.info, "📊 Dispatch health - " ++ Text.decimal (now.received - last.received) ++
    " packets/period | " ++ Text.decimal now.dropped ++ " dropped total | " ++
    Text.decimal now.handlerFailures ++ " handler failures"⟩ ::
  (if 0 < now.saturated then
    [⟨.warn, "🚦 " ++ Text.decimal now.saturated ++
      " packets dropped on saturated schedulers so far"⟩]
  else [])

end PacketDispatch
