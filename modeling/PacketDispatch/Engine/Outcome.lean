import PacketDispatch.Gate
import PacketDispatch.Handler.Basic
import PacketDispatch.Opcode
import PacketDispatch.Wire.Reader

/-!
# Outcomes

What becomes of a message that is dispatched: it ran, it was handed on, nobody wanted it, its
handler failed, or it was dropped for a reason.
-/

namespace PacketDispatch

/-- Why a message is dropped. -/
inductive DropReason
  | unknownOpcode (opcode : Opcode)
  | denied (opcode : Opcode) (required : Requirement) (actual : Phase) (reason : Refusal)
  | undecodable (opcode : Opcode) (fault : Wire.Fault)
  | saturated (opcode : Opcode) (lane : Lane)
  deriving DecidableEq, Repr

/-- The wording of a reason. -/
def DropReason.message : DropReason → String
  | .unknownOpcode opcode => s!"Unknown opcode {opcode}"
  | .denied opcode required actual reason =>
    s!"Opcode {opcode} requires {required.text} but session is {actual.text}: {reason.text}"
  | .undecodable opcode fault => s!"Failed to decode payload of opcode {opcode}: {fault.message}"
  | .saturated opcode lane => s!"No capacity to schedule opcode {opcode} as {lane.text}"

/-- What becomes of a message. -/
inductive Outcome
  | completed
  | scheduled (lane : Lane)
  | ignored
  | handlerFailed (error : HandlerError)
  | dropped (reason : DropReason)
  deriving DecidableEq, Repr

/-- The message was dropped. -/
def Outcome.isDropped : Outcome → Bool
  | .dropped _ => true
  | _ => false

end PacketDispatch
