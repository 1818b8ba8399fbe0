import PacketDispatch.Journal
import PacketDispatch.Session.Login
import PacketDispatch.Wire.Envelope
import PacketDispatch.Wire.Reader

/-!
# Handlers

A handler turns a received message into a call: it decodes the payload first, so that a message
that does not decode never becomes a call. The call runs later against one session and says how it
ended. A body that breaks off is caught and reported as an error of its own kind.
-/

namespace PacketDispatch

/-- Why a call failed. -/
inductive HandlerError
  | execution (reason : String)
  | panicked (reason : String)
  deriving DecidableEq, Repr

/-- The wording of a failure. -/
def HandlerError.message : HandlerError → String
  | .execution reason => "Handler execution error: " ++ reason
  | .panicked reason => "Handler panicked: " ++ reason

/-- How a body ends: it returns, reports a failure, or breaks off, with a text or with something
that is no text. -/
inductive Ending
  | returned
  | failed (error : HandlerError)
  | brokeOff (reason : Option String)
  deriving DecidableEq, Repr

/-- The result of a body that runs isolated: breaking off is a failure like any other. -/
def Ending.isolated : Ending → Except HandlerError Unit
  | .returned => .ok ()
  | .failed error => .error error
  | .brokeOff reason => .error (.panicked (reason.getD "unknown panic payload"))

/-- What a body leaves behind: the session after it, how it ended, what it wrote in the journal,
and whether it stays on a pool thread until it is told to go on. -/
structure Reply (σ : Type) where
  session : σ
  ending : Ending
  remarks : List Remark := []
  lingers : Bool := false

/-- A body runs against a session at a time. -/
abbrev Body (σ : Type) : Type :=
  Instant → σ → Reply σ

/-- A call that is ready to run: the name of the handler that made it, how many bytes of the payload
it left unread, and its body. -/
structure Call (σ : Type) where
  handler : String
  unread : Nat
  body : Body σ

/-- A handler has a name and makes calls of messages. -/
structure Handler (σ : Type) where
  name : String
  prepare : Envelope → Except Wire.Fault (Call σ)

namespace Handler

/-- A handler that takes the message as it is. -/
def raw (name : String) (body : Envelope → Body σ) : Handler σ where
  name := name
  prepare e := .ok ⟨name, 0, body e⟩

/-- A handler of a decoded packet. -/
def typed (name : String) (read : Wire.Reader π) (body : π → Body σ) : Handler σ where
  name := name
  prepare e :=
    match read.run e.payload with
    | (.ok packet, c) => .ok ⟨name, c.remaining, body packet⟩
    | (.error fault, _) => .error fault

/-- A handler that writes one line about the message and does nothing else. -/
def discard (name : String) (level : Level) (notice : Envelope → String) : Handler σ :=
  raw name fun e _ s =>
    { session := s, ending := .returned, remarks := [.line ⟨level, notice e⟩] }

/-- The handler of opcodes that nothing handles. -/
def null : Handler σ :=
  discard "null" .error fun e =>
    "📭 Received unhandled opcode " ++ Text.hexWord e.opcode.toNat ++ " from session " ++
      e.session.text

/-- The handler of opcodes that the socket layer must process itself. -/
def earlyProcess : Handler σ :=
  discard "early_process" .error fun e =>
    "🚧 Opcode " ++ Text.hexWord e.opcode.toNat ++ " from session " ++ e.session.text ++
      " must be processed by the socket layer before dispatch"

/-- The handler of opcodes that only the server sends. -/
def serverSide : Handler σ :=
  discard "server_side" .error fun e =>
    "🚫 Unexpected server-originated opcode " ++ Text.hexWord e.opcode.toNat ++
      " received from client (session " ++ e.session.text ++ ")"

/-- The handler that stands in for a key without game logic. -/
def stub (key : String) : Handler σ :=
  discard key .warn fun e =>
    "🧩 No game logic bound for '" ++ key ++ "', discarding opcode " ++
      Text.hexWord e.opcode.toNat ++ " from session " ++ e.session.text

end Handler

/-- The line about payload bytes that a call left unread, if there are any. -/
def Call.tailLine? (c : Call σ) (opcode : Opcode) : Option Line :=
  if c.unread = 0 then none
  else
    some ⟨.trace, "Unprocessed tail of " ++ Text.decimal c.unread ++ " bytes for opcode " ++
      Text.hexWord opcode.toNat ++ " in " ++ c.handler⟩

end PacketDispatch
