import PacketDispatch.Session.Phase

/-!
# Login tracking

The session layer tracks how far a login has come. After a logout a grace window stays open in
which a few messages are still accepted; it closes by itself when its time is over.
-/

namespace PacketDispatch

/-- A reading of the clock, in milliseconds from some fixed point. -/
abbrev Instant := Nat

/-- The login progress of a session: the last phase entered, the time of the logout that opened the
grace window, and the length of that window in milliseconds. -/
structure Login where
  phase : Phase
  loggedOutAt : Option Instant
  grace : Nat
  deriving DecidableEq, Repr

/-- What a session layer may ask of a login. -/
inductive Login.Action
  | leaveQueue
  | login
  | beginTransfer
  | finishTransfer
  | logout
  deriving DecidableEq, Repr

/-- The words for an action in messages. -/
def Login.Action.text : Login.Action → String
  | .leaveQueue => "leave the login queue"
  | .login => "log in"
  | .beginTransfer => "begin a transfer"
  | .finishTransfer => "finish a transfer"
  | .logout => "log out"

/-- A refused action: the phase it was refused in, and the action. -/
structure Login.Refused where
  phase : Phase
  action : Login.Action
  deriving DecidableEq, Repr

/-- The wording of a refusal. -/
def Login.Refused.message (r : Login.Refused) : String :=
  "Cannot " ++ r.action.text ++ " while session is " ++ r.phase.text

namespace Login

/-- A login that has passed the queue. -/
def authed (grace : Nat) : Login :=
  ⟨.authed, none, grace⟩

/-- A login that waits in the queue. -/
def queued (grace : Nat) : Login :=
  ⟨.queued, none, grace⟩

/-- The phase at a time: the grace window is over once its length has passed since the logout. A
time before the logout counts as no time passed. -/
def phaseAt (l : Login) (now : Instant) : Phase :=
  match l.phase, l.loggedOutAt with
  | .recentlyLoggedOut, some at' => if l.grace ≤ now - at' then .authed else .recentlyLoggedOut
  | phase, _ => phase

/-- The queue is left once. -/
def leaveQueue (l : Login) : Except Refused Login :=
  if l.phase = .queued then .ok { l with phase := .authed }
  else .error ⟨l.phase, .leaveQueue⟩

/-- A login needs an authenticated session, or one whose logout is still recent. -/
def login (l : Login) (now : Instant) : Except Refused Login :=
  match l.phaseAt now with
  | .authed | .recentlyLoggedOut => .ok { l with phase := .loggedIn, loggedOutAt := none }
  | phase => .error ⟨phase, .login⟩

/-- A transfer begins from a logged-in session. -/
def beginTransfer (l : Login) : Except Refused Login :=
  if l.phase = .loggedIn then .ok { l with phase := .transfer }
  else .error ⟨l.phase, .beginTransfer⟩

/-- A transfer ends in a logged-in session. -/
def finishTransfer (l : Login) : Except Refused Login :=
  if l.phase = .transfer then .ok { l with phase := .loggedIn }
  else .error ⟨l.phase, .finishTransfer⟩

/-- A logout opens the grace window. A refusal names the last phase entered, even when the grace
window of that phase is over. -/
def logout (l : Login) (now : Instant) : Except Refused Login :=
  match l.phase with
  | .loggedIn | .transfer => .ok { l with phase := .recentlyLoggedOut, loggedOutAt := some now }
  | phase => .error ⟨phase, .logout⟩

/-- An action at a time. -/
def perform (l : Login) (action : Action) (now : Instant) : Except Refused Login :=
  match action with
  | .leaveQueue => l.leaveQueue
  | .login => l.login now
  | .beginTransfer => l.beginTransfer
  | .finishTransfer => l.finishTransfer
  | .logout => l.logout now

end Login
end PacketDispatch
