import PacketDispatch.Proofs.Engine.Precedence
import PacketDispatch.Proofs.Engine.Unseen
import PacketDispatch.Proofs.Schedule.Passing

/-!
# Queues of other sizes

The capacity of the world queue is looked at in one place only, when a job is pushed.  An engine
whose queue is clear takes the next job at any capacity, so there another size makes no difference
but for itself; what happens beside the dispatching thread never sees the queue.
-/

namespace PacketDispatch
namespace Engine

variable {σ : Type} {e : Engine σ}

/-- The engine with room for another number of jobs in its world queue. -/
def resized (e : Engine σ) (capacity : Nat) : Engine σ :=
  { e with queue := { e.queue with capacity := capacity } }

/-- A job finds room in a clear queue of any size. -/
theorem push_of_clear {J : Type} {q : WorldQueue J} (clear : q.Clear) (job : J) :
    q.push job = .ok { q with pending := [job] } := by
  have hsize : q.size = 0 := by
    simp [WorldQueue.size, clear.pending]
  have hroom : ¬ q.capacity ≤ 0 := Nat.not_le_of_gt clear.room
  simp [WorldQueue.push, clear.isOpen, hsize, hroom, clear.pending]

theorem handOff_resized {capacity : Nat} (clear : e.queue.Clear) (room : 0 < capacity)
    (lane : Lane) (j : Job σ) :
    (e.resized capacity).handOff lane j = (e.handOff lane j).map fun e => e.resized capacity := by
  have hclear : (e.resized capacity).queue.Clear := ⟨clear.pending, clear.isOpen, room⟩
  have hpush := push_of_clear clear j
  have hpush' := push_of_clear hclear j
  cases hscheduler : e.scheduler with
  | refusing =>
      have hscheduler' : (e.resized capacity).scheduler = .refusing := hscheduler
      cases lane <;> simp [handOff, hscheduler, hscheduler', Except.map]
  | standard =>
      have hscheduler' : (e.resized capacity).scheduler = .standard := hscheduler
      cases lane with
      | pool =>
          have hpool : (e.resized capacity).pool = e.pool := rfl
          simp only [handOff, hscheduler, hscheduler', hpool]
          cases e.pool.spawn j <;> rfl
      | world | inPlace =>
          simp only [handOff, hscheduler, hscheduler', hpush, hpush']
          rfl

theorem defer_resized {capacity : Nat} (clear : e.queue.Clear) (room : 0 < capacity)
    (t : Table σ) (ref : SessionRef) (env : Envelope) (lane : Lane) (c : Call σ) :
    (e.resized capacity).defer t ref env lane c =
      ((e.defer t ref env lane c).1, (e.defer t ref env lane c).2.resized capacity) := by
  have hhandOff := handOff_resized clear room lane
    ⟨e.dispatched, ref, c, env.opcode, env.session, env.sequence⟩
  have hdispatched : (e.resized capacity).dispatched = e.dispatched := rfl
  simp only [defer, hdispatched, hhandOff]
  cases e.handOff lane ⟨e.dispatched, ref, c, env.opcode, env.session, env.sequence⟩ <;> rfl

theorem runInPlace_resized (e : Engine σ) (capacity : Nat) (t : Table σ) (ref : SessionRef)
    (env : Envelope) (d : Descriptor σ) (c : Call σ) :
    (e.resized capacity).runInPlace t ref env d c =
      ((e.runInPlace t ref env d c).1, (e.runInPlace t ref env d c).2.resized capacity) := by
  unfold runInPlace
  simp only [resized]
  cases e.scene.call .inPlace e.dispatched ref c with
  | none => rfl
  | some called =>
      simp only
      cases called.result <;> rfl

/-- A message goes the same way past a clear queue of any size. -/
theorem route_resized {capacity : Nat} (clear : e.queue.Clear) (room : 0 < capacity)
    (t : Table σ) (phase : Phase) (ref : SessionRef) (env : Envelope) :
    (e.resized capacity).route t phase ref env =
      ((e.route t phase ref env).1, (e.route t phase ref env).2.resized capacity) := by
  unfold route
  cases t.decide phase env with
  | stop outcome => rfl
  | call d c =>
      simp only
      by_cases hdeferred : d.lane.deferred = true
      · rw [if_pos hdeferred, if_pos hdeferred]
        exact defer_resized (e := e.note _) clear room t ref env d.lane c
      · rw [if_neg hdeferred, if_neg hdeferred]
        exact (e.note _).runInPlace_resized capacity t ref env d c

theorem arrive_resized {t : Table σ} {capacity : Nat} (clear : e.queue.Clear)
    (room : 0 < capacity) (installed : e.table = some t) (phase : Phase) (ref : SessionRef)
    (env : Envelope) (live : e.scene.connected ref = true) :
    (e.resized capacity).arrive phase ref env =
      (e.arrive phase ref env).map fun arrived => (arrived.1, arrived.2.resized capacity) := by
  have hinstalled : (e.resized capacity).table = some t := installed
  have hlive : (e.resized capacity).scene.connected ref = true := live
  rw [arrive_of_connected installed live, arrive_of_connected hinstalled hlive,
    route_resized clear room]
  rfl

/-- No message is refused by a clear queue. -/
theorem spared_of_arrive {t : Table σ} {phase : Phase} {ref : SessionRef} {env : Envelope}
    {outcome : Outcome} {arrived : Engine σ} (installed : e.table = some t)
    (standard : e.scheduler = .standard) (clear : e.queue.Clear)
    (h : e.arrive phase ref env = .ok (outcome, arrived)) (id : Opcode) :
    outcome ≠ .dropped (.saturated id .world) := by
  obtain ⟨live, rfl⟩ := route_of_arrive installed h
  intro hfull
  have room : e.HasRoom .world := by
    refine ⟨standard, clear.isOpen, ?_⟩
    rw [WorldQueue.size, clear.pending]
    exact clear.room
  exact (((decides_of_route t phase env live).saturated id .world).mp hfull).2.2.2.2 room

/-! ## Beside the dispatching thread -/

theorem startPooled_resized (e : Engine σ) (capacity place : Nat) :
    (e.resized capacity).startPooled place = (e.startPooled place).resized capacity := by
  unfold startPooled
  simp only [resized]
  cases e.pool.take? place <;> rfl

theorem finishPooled_resized (e : Engine σ) (capacity place : Nat) :
    (e.resized capacity).finishPooled place = (e.finishPooled place).resized capacity := by
  unfold finishPooled
  simp only [resized]
  cases e.pool.finish? place <;> rfl

theorem unseen_resized (capacity : Nat) : Unseen fun e : Engine σ => e.resized capacity where
  pool _ := rfl
  startPooled e place := e.startPooled_resized capacity place
  finishPooled e place := e.finishPooled_resized capacity place
  advance _ _ := rfl
  releasePooled _ := rfl

end Engine
end PacketDispatch
