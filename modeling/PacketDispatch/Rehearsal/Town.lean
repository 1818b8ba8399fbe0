import PacketDispatch.World.Basic
import PacketDispatch.World.Handlers

/-!
# A town of the world

The world server with a few clients, directed from outside: they connect at the start with logins
that have come to a given phase, send messages, and disconnect. No time passes.
-/

namespace PacketDispatch
namespace Rehearsal

/-- A client of a town: its session, and how many messages it has sent. -/
structure Resident where
  ref : SessionRef
  sent : Nat
  deriving DecidableEq, Repr

/-- A world with the clients that were connected at the start, and the threads that its pool may
use. -/
structure Town where
  world : World WorldSession
  residents : List Resident
  threads : Nat

/-- A login that has come to a phase from its beginning, all at one time. -/
def loginIn (phase : Phase) (grace : Nat) (now : Instant) : Except Login.Refused Login := do
  let l := Login.authed grace
  match phase with
  | .queued => .ok (Login.queued grace)
  | .authed => .ok l
  | .loggedIn => l.login now
  | .transfer => (← l.login now).beginTransfer
  | .recentlyLoggedOut => (← l.login now).logout now

namespace Town

/-- A town without clients. -/
def start (world : World WorldSession) (threads : Nat) : Town :=
  ⟨world, [], threads⟩

/-- A client with an account connects; log lines name it by its place. -/
def settleIn (t : Town) (account : UInt32) (login : Login) : Town :=
  let id : SessionId := ⟨"#" ++ Text.decimal t.residents.length⟩
  let (ref, engine) := t.world.engine.connect ⟨id, account, login⟩
  { t with world := { t.world with engine := engine }, residents := t.residents ++ [⟨ref, 0⟩] }

/-- The pool works as long as it can. -/
def settlePool (t : Town) : Town :=
  { t with world := t.world.mapEngine fun e => e.quiesce t.threads }

/-- The session of a client that is connected. -/
def session? (t : Town) (place : Nat) : Option WorldSession := do
  let r ← t.residents[place]?
  if t.world.engine.scene.connected r.ref then t.world.engine.scene.session? r.ref else none

/-- The phase of each client, for those that are connected. -/
def phases (t : Town) : List (Option Phase) :=
  (List.range t.residents.length).map fun place =>
    (t.session? place).map fun s => s.phaseAt t.world.engine.scene.now

/-- A client sends a message, in its own phase unless another one is given. -/
def send (t : Town) (place : Nat) (phase : Option Phase) (opcode : Opcode)
    (payload : List UInt8) : Option (Except DispatchFault Outcome) × Town :=
  match t.residents[place]?, t.session? place with
  | some r, some session =>
    let phase := phase.getD (session.phaseAt t.world.engine.scene.now)
    let envelope : Envelope := ⟨opcode, payload, session.id, UInt64.ofNat (r.sent + 1)⟩
    let t := { t with residents := t.residents.modify place fun r => { r with sent := r.sent + 1 } }
    match t.world.engine.dispatch phase r.ref envelope with
    | .error fault => (some (.error fault), t)
    | .ok (outcome, engine) =>
      (some (.ok outcome), { t with world := { t.world with engine := engine } }.settlePool)
  | _, _ => (none, t)

/-- A client asks for an action on its login, without a message. -/
def perform (t : Town) (place : Nat) (action : Login.Action) :
    Option (Except Login.Refused Unit) × Town :=
  match t.residents[place]?, t.session? place with
  | some r, some session =>
    match session.perform action t.world.engine.scene.now with
    | .error refused => (some (.error refused), t)
    | .ok session =>
      let world := t.world.mapEngine fun e =>
        { e with scene := e.scene.modifySeat r.ref fun seat => { seat with session := session } }
      (some (.ok ()), { t with world := world })
  | _, _ => (none, t)

/-- A client disconnects. -/
def disconnect (t : Town) (place : Nat) : Town :=
  match t.residents[place]? with
  | some r => { t with world := t.world.mapEngine fun e => e.disconnect r.ref }.settlePool
  | none => t

/-- A tick. -/
def tick (t : Town) : Except String PassReport × Town :=
  let (result, world) := t.world.tick
  (result, { t with world := world }.settlePool)

/-- Ticks until the queue is empty. -/
def settle (t : Town) : Town :=
  { t with world := t.world.settle }.settlePool

/-- What was written since an earlier state of the town. -/
def notesSince (t earlier : Town) : List Note :=
  t.world.engine.scene.notes.drop earlier.world.engine.scene.notes.length

end Town
end Rehearsal
end PacketDispatch
