/-!
# Session phases

How far a client has come: the phase that the session layer reports with each message.
-/

namespace PacketDispatch

/-- How far a session has progressed. -/
inductive Phase
  | queued
  | authed
  | loggedIn
  | transfer
  | recentlyLoggedOut
  deriving DecidableEq, Repr

namespace Phase

/-- Every phase, in the order of their names. -/
def all : List Phase := [.queued, .authed, .loggedIn, .transfer, .recentlyLoggedOut]

/-- The name of a phase in recorded traces. -/
def name : Phase → String
  | .queued => "Queued"
  | .authed => "Authed"
  | .loggedIn => "LoggedIn"
  | .transfer => "Transfer"
  | .recentlyLoggedOut => "RecentlyLoggedOut"

/-- The words for a phase in messages. -/
def text : Phase → String
  | .queued => "queued"
  | .authed => "authed"
  | .loggedIn => "logged in"
  | .transfer => "in transfer"
  | .recentlyLoggedOut => "recently logged out"

/-- The phase with a name. -/
def ofName? (s : String) : Option Phase :=
  all.find? fun p => p.name == s

end Phase
end PacketDispatch
