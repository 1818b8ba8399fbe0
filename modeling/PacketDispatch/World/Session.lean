import PacketDispatch.Session.Id
import PacketDispatch.Session.Login

/-!
# Sessions of the world

What the world server keeps of a connected client: its identifier, its account, and how far its
login has come.
-/

namespace PacketDispatch

/-- A connected client. -/
structure WorldSession where
  id : SessionId
  account : UInt32
  login : Login
  deriving DecidableEq, Repr

namespace WorldSession

/-- The phase of a client at a time, as it is passed with its messages. -/
def phaseAt (s : WorldSession) (now : Instant) : Phase :=
  s.login.phaseAt now

/-- The client asks for an action on its login. -/
def perform (s : WorldSession) (action : Login.Action) (now : Instant) :
    Except Login.Refused WorldSession :=
  (s.login.perform action now).map fun l => { s with login := l }

end WorldSession
end PacketDispatch
