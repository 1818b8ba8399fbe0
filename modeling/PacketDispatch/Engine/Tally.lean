import PacketDispatch.Engine.Outcome
import PacketDispatch.Schedule.WorldQueue

/-!
# The tally

Counts of what became of messages, and of the deferred ones when they have run. Drops are also
counted by opcode, for the opcodes that a table could hold.
-/

namespace PacketDispatch

/-- Counters of an engine. `drops` has the opcodes that were dropped, in increasing order, with how
often each was. -/
structure Tally where
  received : Nat
  completed : Nat
  scheduled : Nat
  ignored : Nat
  handlerFailures : Nat
  unknown : Nat
  denied : Nat
  decodeFailures : Nat
  saturated : Nat
  sessionsGone : Nat
  drops : List (Opcode × Nat)
  deriving DecidableEq, Repr

namespace Tally

/-- Nothing counted yet. -/
def zero : Tally :=
  ⟨0, 0, 0, 0, 0, 0, 0, 0, 0, 0, []⟩

/-- How many messages were dropped. -/
def dropped (t : Tally) : Nat :=
  t.unknown + t.denied + t.decodeFailures + t.saturated

/-- One more for an opcode, in the order of opcodes. -/
def bump (id : Opcode) : List (Opcode × Nat) → List (Opcode × Nat)
  | [] => [(id, 1)]
  | (k, n) :: rest =>
    if k = id then (k, n + 1) :: rest
    else if id.toNat < k.toNat then (id, 1) :: (k, n) :: rest
    else (k, n) :: bump id rest

/-- A drop is counted for its opcode when a table could hold that opcode. -/
def countDrop (t : Tally) (id : Opcode) : Tally :=
  if id.toNat < opcodeLimit then { t with drops := bump id t.drops } else t

/-- A dropped message is counted for its reason. -/
def countReason (t : Tally) : DropReason → Tally
  | .unknownOpcode _ => { t with unknown := t.unknown + 1 }
  | .denied _ _ _ _ => { t with denied := t.denied + 1 }
  | .undecodable _ _ => { t with decodeFailures := t.decodeFailures + 1 }
  | .saturated _ _ => { t with saturated := t.saturated + 1 }

/-- The outcome of a dispatched message is counted. -/
def recordOutcome (t : Tally) (id : Opcode) (outcome : Outcome) : Tally :=
  let t := { t with received := t.received + 1 }
  match outcome with
  | .completed => { t with completed := t.completed + 1 }
  | .scheduled _ => { t with scheduled := t.scheduled + 1 }
  | .ignored => { t with ignored := t.ignored + 1 }
  | .handlerFailed _ => { t with handlerFailures := t.handlerFailures + 1 }
  | .dropped reason => (t.countDrop id).countReason reason

/-- The end of a deferred message is counted. -/
def recordJob (t : Tally) : JobEnd ε → Tally
  | .completed => { t with completed := t.completed + 1 }
  | .failed _ => { t with handlerFailures := t.handlerFailures + 1 }
  | .sessionGone => { t with sessionsGone := t.sessionsGone + 1 }

end Tally
end PacketDispatch
