import PacketDispatch.Json.Parser
import PacketDispatch.Opcode
import PacketDispatch.Session.Phase

/-!
# Recorded messages

A trace is a JSON array of recorded messages. A record is an object with the fields `session`,
`state`, `opcode` and `payload`, or an array of their values in this order. The payload may be
missing; fields with other names are ignored; a field given twice is refused.
-/

namespace PacketDispatch
namespace Replay

/-- A recorded message: the number of its session in the trace, the phase of that session, the
opcode, and the payload as base64 text. -/
structure Record where
  session : UInt32
  phase : Phase
  opcode : Opcode
  payload : String
  deriving DecidableEq, Repr

/-- The fields of a record. -/
inductive Field
  | session
  | phase
  | opcode
  | payload
  deriving DecidableEq, Repr

/-- The field with a name. -/
def Field.ofName? (name : String) : Option Field :=
  if name == "session" then some .session
  else if name == "state" then some .phase
  else if name == "opcode" then some .opcode
  else if name == "payload" then some .payload
  else none

/-- A number that fits in 32 bits. -/
def word? (v : Json) : Option UInt32 :=
  v.natural?.bind fun n => if n < UInt32.size then some (UInt32.ofNat n) else none

/-- A phase by its name, or as the only member of an object whose value is null. -/
def phase? : Json → Option Phase
  | .string (.text name) => Phase.ofName? name
  | .object [(.text name, .null)] => Phase.ofName? name
  | _ => none

/-- A record from the values of its fields; only the payload may be missing. -/
def Record.ofValues? (session phase opcode payload : Option Json) : Option Record := do
  let session ← word? (← session)
  let phase ← phase? (← phase)
  let opcode ← word? (← opcode)
  let payload ← match payload with
    | none => some ""
    | some v => v.text?
  some ⟨session, phase, opcode, payload⟩

/-- The values among the members that belong to a field. -/
def valuesOf (members : List (Json.Literal × Json)) (field : Field) : List Json :=
  members.filterMap fun m =>
    match m.1 with
    | .text name => if Field.ofName? name = some field then some m.2 else none
    | .unpaired => none

/-- The value of a field that is given at most once. -/
def valueOf? (members : List (Json.Literal × Json)) (field : Field) : Option (Option Json) :=
  match valuesOf members field with
  | [] => some none
  | [v] => some (some v)
  | _ => none

/-- A record as it is written in a trace. Every name must be a text. -/
def Record.ofJson? : Json → Option Record
  | .object members => do
    if members.any fun m => m.1 == .unpaired then none
    let session ← valueOf? members .session
    let phase ← valueOf? members .phase
    let opcode ← valueOf? members .opcode
    let payload ← valueOf? members .payload
    ofValues? session phase opcode payload
  | .array [session, phase, opcode] => ofValues? (some session) (some phase) (some opcode) none
  | .array [session, phase, opcode, payload] =>
    ofValues? (some session) (some phase) (some opcode) (some payload)
  | _ => none

/-- The records of a trace, if all of it is well formed. -/
def parseTrace (text : String) : Option (List Record) := do
  let v ← Json.parse text
  let items ← v.items?
  items.mapM Record.ofJson?

end Replay
end PacketDispatch
