import PacketDispatch.Handler.Bindings
import PacketDispatch.Manifest.Load
import PacketDispatch.Manifest.Production
import PacketDispatch.Wire.Packet
import PacketDispatch.World.Session

/-!
# Handlers of the world

The handlers that the world server brings itself. The other keys of the production manifest get
stubs, so the table that is loaded with them is complete.
-/

namespace PacketDispatch
namespace WorldSession

/-- A line about an account. -/
def accountLine (s : WorldSession) (level : Level) (sign rest : String) : Line :=
  ⟨level, sign ++ " Account " ++ Text.decimal s.account.toNat ++ " " ++ rest⟩

/-- A body that ends well with one line about the account. -/
def tells (s : WorldSession) (level : Level) (sign rest : String) : Reply WorldSession :=
  { session := s, ending := .returned, remarks := [.line (s.accountLine level sign rest)] }

/-- A body that fails for a reason and changes nothing. -/
def fails (s : WorldSession) (reason : String) : Reply WorldSession :=
  { session := s, ending := .failed (.execution reason) }

/-- A name is asked for. -/
def onNameQuery (p : Wire.NameQuery) : Body WorldSession :=
  fun _ s => s.tells .debug "🔎" ("queried name of " ++ Text.decimal p.guid.toNat)

/-- A character is deleted, if the message names one. -/
def onCharDelete (p : Wire.CharDelete) : Body WorldSession :=
  fun _ s =>
    if p.guid = 0 then s.fails "cannot delete an empty guid"
    else s.tells .info "🗑️" ("deleting character " ++ Text.decimal p.guid.toNat)

/-- A character gets a new name. -/
def onCharRename (p : Wire.CharRename) : Body WorldSession :=
  fun _ s =>
    s.tells .info "✏️" ("renaming character " ++ Text.decimal p.guid.toNat ++ " to " ++ p.name)

/-- A mover skips time. -/
def onMoveTimeSkipped (p : Wire.MoveTimeSkipped) : Body WorldSession :=
  fun _ s =>
    s.tells .trace "⏩" ("mover " ++ Text.decimal p.mover.toNat ++ " skipped " ++
      Text.decimal p.skipped.toNat ++ "ms")

/-- Player combat is switched. -/
def onTogglePvp (p : Wire.TogglePvp) : Body WorldSession :=
  fun _ s =>
    match p.enable with
    | some true => s.tells .debug "⚔️" "set PvP to true"
    | some false => s.tells .debug "⚔️" "set PvP to false"
    | none => s.tells .debug "⚔️" "toggled PvP"

/-- The client logs out; the line names the phase after that. -/
def onLogoutRequest : Envelope → Body WorldSession :=
  fun _ now s =>
    match s.perform .logout now with
    | .error refused => s.fails refused.message
    | .ok s => s.tells .info "👋" ("logged out (" ++ (s.phaseAt now).text ++ ")")

/-- The client enters the world. -/
def onPlayerLogin : Envelope → Body WorldSession :=
  fun _ now s =>
    match s.perform .login now with
    | .error refused => s.fails refused.message
    | .ok s => s.tells .info "🎮" "entered the world"

/-- The handlers with game logic, each named for its key, in the order of binding. -/
def handlers : List (Handler WorldSession) :=
  [Handler.typed "name_query" Wire.NameQuery.read onNameQuery,
    Handler.typed "char_delete" Wire.CharDelete.read onCharDelete,
    Handler.typed "char_rename" Wire.CharRename.read onCharRename,
    Handler.typed "move_time_skipped" Wire.MoveTimeSkipped.read onMoveTimeSkipped,
    Handler.typed "toggle_pvp" Wire.TogglePvp.read onTogglePvp,
    Handler.raw "logout_request" onLogoutRequest,
    Handler.raw "player_login" onPlayerLogin]

/-- The bindings before keys without game logic are stubbed, with the lines about them. -/
def boundHandlers : Bindings WorldSession × List Line :=
  Bindings.initial.bindAll (handlers.map fun h => (h.name, h))

/-- How many keys of the world server have no game logic. -/
def stubCount : Nat :=
  (boundHandlers.1.stubUnbound Manifest.production).2

/-- The bindings of the world server. -/
def bindings : Bindings WorldSession :=
  boundHandlers.1.stubbed Manifest.production

/-- The lines about the bindings. -/
def bindingLines : List Line :=
  boundHandlers.2 ++ Bindings.stubLines stubCount ++
    [⟨.debug, "🧩 " ++ Text.decimal stubCount ++ " handler keys have no game logic yet"⟩]

/-- The production manifest, loaded with the bindings of the world server. -/
def opening : Manifest.Load WorldSession :=
  Manifest.load Manifest.production bindings

end WorldSession
end PacketDispatch
