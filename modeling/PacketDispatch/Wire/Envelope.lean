import PacketDispatch.Opcode
import PacketDispatch.Session.Id

/-!
# Envelopes

A received message with what the socket layer knows about it.
-/

namespace PacketDispatch

/-- A received message: its opcode and payload, the session it came from, and its number in that
session. -/
structure Envelope where
  opcode : Opcode
  payload : List UInt8
  session : SessionId
  sequence : UInt64
  deriving DecidableEq, Repr

end PacketDispatch
