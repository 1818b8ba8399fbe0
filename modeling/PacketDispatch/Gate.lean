import PacketDispatch.Session.Phase

/-!
# The gate

Each opcode demands something of the session that sends it. The gate compares the demand with the
phase of the session and grants the message, leaves it unhandled, or denies it with a reason.
-/

namespace PacketDispatch

/-- What an opcode demands of the session that sends it. -/
inductive Requirement
  | never
  | unhandled
  | authed
  | loggedIn
  | loggedInOrRecent
  | transfer
  deriving DecidableEq, Repr

namespace Requirement

/-- Every requirement, in the order of their names. -/
def all : List Requirement :=
  [.never, .unhandled, .authed, .loggedIn, .loggedInOrRecent, .transfer]

/-- The name of a requirement in a table. -/
def name : Requirement → String
  | .never => "Never"
  | .unhandled => "Unhandled"
  | .authed => "Authed"
  | .loggedIn => "LoggedIn"
  | .loggedInOrRecent => "LoggedInOrRecentlyLoggedOut"
  | .transfer => "Transfer"

/-- The name of a requirement in log lines and summaries. -/
def text : Requirement → String
  | .never => "STATUS_NEVER"
  | .unhandled => "STATUS_UNHANDLED"
  | .authed => "STATUS_AUTHED"
  | .loggedIn => "STATUS_LOGGEDIN"
  | .loggedInOrRecent => "STATUS_LOGGEDIN_OR_RECENTLY_LOGGEDOUT"
  | .transfer => "STATUS_TRANSFER"

end Requirement

/-- What an opcode that only the server sends may demand: no session ever meets it. -/
inductive ServerRequirement
  | never
  | unhandled
  deriving DecidableEq, Repr

namespace ServerRequirement

/-- Both requirements, in the order of their names. -/
def all : List ServerRequirement := [.never, .unhandled]

/-- The requirement that the gate checks. -/
def requirement : ServerRequirement → Requirement
  | .never => .never
  | .unhandled => .unhandled

/-- The name of a requirement in a table. -/
def name (r : ServerRequirement) : String :=
  r.requirement.name

/-- The server requirement that a requirement is, if it is one. -/
def of? : Requirement → Option ServerRequirement
  | .never => some .never
  | .unhandled => some .unhandled
  | _ => none

end ServerRequirement

/-- Why a message is denied. -/
inductive Refusal
  | notAllowed
  | inLoginQueue
  | notLoggedIn
  | notLoggedInNorRecent
  | notInTransfer
  deriving DecidableEq, Repr

namespace Refusal

/-- Every reason, in the order of their names. -/
def all : List Refusal :=
  [.notAllowed, .inLoginQueue, .notLoggedIn, .notLoggedInNorRecent, .notInTransfer]

/-- The name of a reason. -/
def name : Refusal → String
  | .notAllowed => "NotAllowed"
  | .inLoginQueue => "InLoginQueue"
  | .notLoggedIn => "NotLoggedIn"
  | .notLoggedInNorRecent => "NotLoggedInNorRecentlyLoggedOut"
  | .notInTransfer => "NotInTransfer"

/-- The words for a reason in messages. -/
def text : Refusal → String
  | .notAllowed => "opcode is not allowed from clients"
  | .inLoginQueue => "the player has not passed the login queue yet"
  | .notLoggedIn => "the player has not logged in yet"
  | .notLoggedInNorRecent => "the player has not logged in yet and not recently logged out"
  | .notInTransfer => "the player is not in transfer"

end Refusal

/-- The gate's answer. -/
inductive Verdict
  | granted
  | unhandled
  | denied (reason : Refusal)
  deriving DecidableEq, Repr

/-- The gate: what a requirement says to a session in a phase. -/
def Requirement.check : Requirement → Phase → Verdict
  | .never, _ => .denied .notAllowed
  | .unhandled, _ => .unhandled
  | .authed, .queued => .denied .inLoginQueue
  | .authed, _ => .granted
  | .loggedIn, .loggedIn | .loggedIn, .transfer => .granted
  | .loggedIn, .queued => .denied .inLoginQueue
  | .loggedIn, _ => .denied .notLoggedIn
  | .loggedInOrRecent, .queued => .denied .inLoginQueue
  | .loggedInOrRecent, .authed => .denied .notLoggedInNorRecent
  | .loggedInOrRecent, _ => .granted
  | .transfer, .transfer => .granted
  | .transfer, .queued => .denied .inLoginQueue
  | .transfer, .loggedIn => .denied .notInTransfer
  | .transfer, _ => .denied .notLoggedIn

end PacketDispatch
