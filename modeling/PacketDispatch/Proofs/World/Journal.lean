import PacketDispatch.Proofs.Engine.Clients
import PacketDispatch.Proofs.Engine.Journal
import PacketDispatch.World.Basic

/-!
# Nobody reads the journal of a world

A loop over the world queue hands its state to its jobs and to its lines.  A change of the state that
both of them go through is there at the end of a tick as it was at the start, and ticks that follow
each other leave it there as well.  Entries in front of the journal are such a change.
-/

namespace PacketDispatch

/-! ## Loops that leave something alone -/

namespace WorldLoop

variable {J S ε : Type} {run : JobRunner J S ε} {note : List Line → S → S} {g : S → S}

/-- The loop with a change of the state around it. -/
def mapState (g : S → S) (l : WorldLoop J S) : WorldLoop J S :=
  { l with state := g l.state }

theorem tick_mapState
    (hrun : ∀ job q s, run job q (g s) = { run job q s with state := g (run job q s).state })
    (hnote : ∀ lines s, note lines (g s) = g (note lines s)) (l : WorldLoop J S) :
    (l.mapState g).tick run note =
      ⟨(l.tick run note).loop.mapState g, (l.tick run note).result⟩ := by
  have hpass : l.queue.pass run l.budget (g l.state) = _ :=
    WorldQueue.runUpTo_state hrun _ l.queue l.state
  change l.queue.pass run l.budget (g l.state) = { l.queue.pass run l.budget l.state with
    state := g (l.queue.pass run l.budget l.state).state } at hpass
  simp only [tick, mapState, hpass]
  cases (l.queue.pass run l.budget l.state).broken with
  | some reason => rfl
  | none =>
      simp only [hnote]
      rfl

theorem settle_mapState
    (hrun : ∀ job q s, run job q (g s) = { run job q s with state := g (run job q s).state })
    (hnote : ∀ lines s, note lines (g s) = g (note lines s)) (fuel : Nat) (l : WorldLoop J S) :
    ((l.mapState g).settle run note fuel).1 = (l.settle run note fuel).1.mapState g := by
  induction fuel generalizing l with
  | zero => rfl
  | succ fuel ih =>
      have htick := tick_mapState hrun hnote l
      have hqueue : (l.mapState g).queue = l.queue := rfl
      simp only [settle, hqueue, htick]
      by_cases hempty : l.queue.isEmpty = true
      · rw [if_pos hempty, if_pos hempty]
      · rw [if_neg hempty, if_neg hempty]
        cases (l.tick run note).result with
        | error reason => rfl
        | ok report => exact ih (l.tick run note).loop

end WorldLoop

/-! ## Worlds -/

namespace World

variable {σ : Type}

/-- The world with entries in front of its journal. -/
def afterJournal (w : World σ) (notes : List Note) : World σ :=
  w.mapEngine fun e => e.afterJournal notes

theorem write_afterJournal (s : Scene σ) (notes : List Note) (lines : List Line) :
    write lines (s.afterJournal notes) = (write lines s).afterJournal notes :=
  s.writeLines_afterJournal notes .caller lines

theorem loop_afterJournal (w : World σ) (notes : List Note) :
    (w.afterJournal notes).loop = w.loop.mapState fun s => s.afterJournal notes := rfl

theorem tick_afterJournal (w : World σ) (notes : List Note) :
    (w.afterJournal notes).tick.2 = w.tick.2.afterJournal notes := by
  have htick := WorldLoop.tick_mapState (Job.run_afterJournal notes)
    (fun lines s => write_afterJournal s notes lines) w.loop
  simp only [tick, loop_afterJournal, htick]
  rfl

theorem settle_afterJournal (w : World σ) (notes : List Note) :
    (w.afterJournal notes).settle = w.settle.afterJournal notes := by
  have hsettle := WorldLoop.settle_mapState (Job.run_afterJournal notes)
    (fun lines s => write_afterJournal s notes lines) w.engine.queue.size w.loop
  have hsize : (w.afterJournal notes).engine.queue.size = w.engine.queue.size := rfl
  simp only [settle, loop_afterJournal, hsize, hsettle]
  rfl

/-- Nor does a tick change whose client is connected. -/
theorem clients_tick (w : World σ) :
    w.tick.2.engine.scene.clients = w.engine.scene.clients := by
  have hpass : (w.engine.queue.pass Job.run w.budget w.engine.scene).state.clients =
      w.engine.scene.clients := Engine.clients_runUpTo _ w.engine.queue w.engine.scene
  simp only [tick, WorldLoop.tick, loop]
  cases (w.engine.queue.pass Job.run w.budget w.engine.scene).broken <;> exact hpass

end World
end PacketDispatch
