import PacketDispatch.Handler.Bindings
import PacketDispatch.Wire.Packet

/-!
# Scripted handlers

A rehearsal runs the dispatcher with handlers that do as they are told. A scripted handler leaves a
mark of each call, with the number of the session and what it was called with, and then ends in the
way of its deed.
-/

namespace PacketDispatch

namespace Wire

/-- A query, as it is marked. -/
def NameQuery.mark (p : NameQuery) : String :=
  "name_query guid=" ++ Text.decimal p.guid.toNat

/-- A deletion, as it is marked. -/
def CharDelete.mark (p : CharDelete) : String :=
  "char_delete guid=" ++ Text.decimal p.guid.toNat

/-- A new name, as it is marked. -/
def CharRename.mark (p : CharRename) : String :=
  "char_rename guid=" ++ Text.decimal p.guid.toNat ++ " name=" ++ p.name

/-- Skipped time, as it is marked. -/
def MoveTimeSkipped.mark (p : MoveTimeSkipped) : String :=
  "move_time_skipped mover=" ++ Text.decimal p.mover.toNat ++ " skipped=" ++
    Text.decimal p.skipped.toNat

/-- A switch of player combat, as it is marked. -/
def TogglePvp.mark (p : TogglePvp) : String :=
  "toggle_pvp enable=" ++
    match p.enable with
    | some true => "true"
    | some false => "false"
    | none => "none"

/-- A new character with a name and a race, a packet of rehearsals alone. -/
structure CharCreate where
  name : String
  race : UInt8
  deriving DecidableEq, Repr

/-- A name and a byte. -/
def CharCreate.read : Reader CharCreate := do
  let name ← cstring
  let race ← byte
  return ⟨name, race⟩

/-- A new character, as it is marked. -/
def CharCreate.mark (p : CharCreate) : String :=
  "char_create name=" ++ p.name ++ " race=" ++ Text.decimal p.race.toNat

end Wire

/-- A message that is not decoded, as it is marked. -/
def Envelope.mark (e : Envelope) : String :=
  "raw opcode=" ++ Text.decimal e.opcode.toNat ++ " seq=" ++ Text.decimal e.sequence.toNat ++
    " session=" ++ e.session.text ++ " payload=" ++ Text.hexBytes e.payload

namespace Rehearsal

/-- A session of a rehearsal is its number. -/
abbrev Session := Nat

/-- The way in which a scripted handler ends. One that lingers stays on its pool thread until it is
told to go on; anywhere else it ends well at once. -/
inductive Deed
  | succeed
  | fail (error : HandlerError)
  | breakOff (reason : Option String)
  | linger
  deriving DecidableEq, Repr

/-- How a body ends that does a deed. -/
def Deed.ending : Deed → Ending
  | .succeed | .linger => .returned
  | .fail error => .failed error
  | .breakOff reason => .brokeOff reason

/-- The deed is to linger. -/
def Deed.lingers : Deed → Bool
  | .linger => true
  | _ => false

/-- A body that leaves a mark and does a deed. -/
def Deed.body (d : Deed) (mark : String) : Body Session :=
  fun _ number =>
    { session := number
      ending := d.ending
      remarks := [.mark (Text.decimal number ++ ":" ++ mark)]
      lingers := d.lingers }

/-- What a scripted handler decodes its messages to. -/
inductive Form
  | raw
  | nameQuery
  | charDelete
  | charRename
  | moveTimeSkipped
  | togglePvp
  | charCreate
  deriving DecidableEq, Repr

/-- The mark of a message that is decoded, with the place after its last field. -/
def Form.read? : Form → Option (Wire.Reader String)
  | .raw => none
  | .nameQuery => some (Wire.NameQuery.mark <$> Wire.NameQuery.read)
  | .charDelete => some (Wire.CharDelete.mark <$> Wire.CharDelete.read)
  | .charRename => some (Wire.CharRename.mark <$> Wire.CharRename.read)
  | .moveTimeSkipped => some (Wire.MoveTimeSkipped.mark <$> Wire.MoveTimeSkipped.read)
  | .togglePvp => some (Wire.TogglePvp.mark <$> Wire.TogglePvp.read)
  | .charCreate => some (Wire.CharCreate.mark <$> Wire.CharCreate.read)

/-- The part that a handler plays: one that is scripted, or one of those that every dispatcher
has. -/
inductive Role
  | scripted (name : String) (form : Form) (deed : Deed)
  | null
  | earlyProcess
  | serverSide
  deriving DecidableEq, Repr

/-- The handler that plays a part. -/
def Role.handler : Role → Handler Session
  | .scripted name form deed =>
    match form.read? with
    | some read => Handler.typed name read deed.body
    | none => Handler.raw name fun e => deed.body e.mark
  | .null => Handler.null
  | .earlyProcess => Handler.earlyProcess
  | .serverSide => Handler.serverSide

/-- A handler that leaves no mark and ends well. -/
def silent (name : String) : Handler Session :=
  Handler.raw name fun _ _ number => { session := number, ending := .returned }

/-- A handler that decodes a query, leaves no mark and ends well. -/
def silentQuery (name : String) : Handler Session :=
  Handler.typed name Wire.NameQuery.read fun _ _ number =>
    { session := number, ending := .returned }

/-- What a single call of a handler gives: its result or the fault of its payload, and what was
written. -/
structure Tried where
  result : Except Wire.Fault (Except HandlerError Unit)
  remarks : List Remark

/-- A handler is called once with a message, for the first session. -/
def tryOut (h : Handler Session) (e : Envelope) : Tried :=
  match h.prepare e with
  | .error fault => ⟨.error fault, []⟩
  | .ok c =>
    let reply := c.body 0 1
    ⟨.ok reply.ending.isolated, (c.tailLine? e.opcode).toList.map .line ++ reply.remarks⟩

end Rehearsal
end PacketDispatch
