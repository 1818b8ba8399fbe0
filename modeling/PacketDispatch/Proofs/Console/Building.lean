import PacketDispatch.Console.Basic

/-!
# Worlds from settings

Settings that pass their checks on a machine describe a world: its queue has room and its pool can
be made.  The check of the permits covers those that a machine gets by default.
-/

namespace PacketDispatch
namespace Settings

theorem checkSize_eq_ok_iff {field : String} {value : Nat} :
    checkSize field value = .ok () ↔ 0 < value ∧ value ≤ maxSize := by
  unfold checkSize
  by_cases hzero : value = 0
  · simp [hzero]
  · by_cases hlarge : maxSize < value
    · simp [hzero, hlarge]
    · simp [hzero, hlarge, Nat.pos_of_ne_zero hzero, Nat.le_of_not_lt hlarge]

namespace Dispatch

variable {d : Dispatch} {processors : Nat}

/-- Settings that are valid on a machine, with the permits that they ask for or else those that the
machine gets by default. -/
structure Fits (d : Dispatch) (processors : Nat) : Prop where
  valid : d.validate = .ok ()
  permits : checkSize "worker_permits" (d.permits processors) = .ok ()

theorem capacity_of_validate (h : d.validate = .ok ()) :
    0 < d.worldQueueCapacity ∧ d.worldQueueCapacity ≤ maxSize := by
  cases hcheck : checkSize "world_queue_capacity" d.worldQueueCapacity with
  | ok done => exact checkSize_eq_ok_iff.mp hcheck
  | error fault =>
      cases hworkers : d.workerPermits with
      | none => simp [validate, hworkers, hcheck, bind, Except.bind] at h
      | some permits =>
          cases hpermits : checkSize "worker_permits" permits <;>
            simp [validate, hworkers, hpermits, hcheck, bind, Except.bind] at h

/-- The world that settings describe, before its first tick. -/
def opening (d : Dispatch) (processors : Nat) (t : Table WorldSession) : World WorldSession :=
  World.start ((Engine.create .standard (Pool.start (d.permits processors))
    (WorldQueue.empty d.worldQueueCapacity)).withTable t) d.worldDrainBudget

theorem Fits.buildWorld (h : d.Fits processors) (t : Table WorldSession) :
    Console.buildWorld d processors t = .ok (d.opening processors t) := by
  obtain ⟨hroom, hlarge⟩ := capacity_of_validate h.valid
  have hpermits := (checkSize_eq_ok_iff.mp h.permits).2
  have hqueue : (WorldQueue.create d.worldQueueCapacity :
      Except SizeFault (WorldQueue (Job WorldSession))) =
      .ok (WorldQueue.empty d.worldQueueCapacity) := by
    simp [WorldQueue.create, Nat.ne_of_gt hroom, Nat.not_lt_of_le hlarge]
  have hpool : (Pool.create (d.permits processors) :
      Except SizeFault (Pool (Job WorldSession) HandlerError)) =
      .ok (Pool.start (d.permits processors)) := by
    simp [Pool.create, Nat.not_lt_of_le hpermits]
  simp only [Console.buildWorld, Engine.ofSizes, hqueue, hpool]
  rfl

end Dispatch
end Settings
end PacketDispatch
