import PacketDispatch.Gate
import PacketDispatch.Opcode

/-!
# Manifest rows

A manifest lists opcodes with what each demands, how it runs, and the key of its handler. A row of
the server has neither lane nor key, and only a row on the world lane may say why it is there.
-/

namespace PacketDispatch

/-- What a manifest says about the messages of an opcode. -/
inductive Manifest.Kind
  | client (requirement : Requirement) (lane : Lane) (key : String)
  | server (requirement : ServerRequirement)
  deriving DecidableEq, Repr

/-- A row of a manifest. -/
structure Manifest.Row where
  id : Opcode
  name : String
  kind : Manifest.Kind
  rationale : Option String := none
  deriving DecidableEq, Repr

namespace Manifest

/-- The key that is bound to the null handler from the start. -/
def nullKey : String := "null"

/-- The key that is bound to the early-process handler from the start. -/
def earlyKey : String := "early_process"

/-- Why a row cannot be written. -/
inductive RowFault
  | serverRequirement
  | rationaleOffLane
  deriving DecidableEq, Repr

/-- The wording of a fault. -/
def RowFault.message : RowFault → String
  | .serverRequirement => "server opcodes may only use STATUS_NEVER or STATUS_UNHANDLED"
  | .rationaleOffLane => "only thread-unsafe client opcodes carry a serialization rationale"

namespace Row

/-- The row of an opcode that clients send. -/
def client (id : Opcode) (name : String) (requirement : Requirement) (lane : Lane) (key : String) :
    Row where
  id := id
  name := name
  kind := .client requirement lane key

/-- The row of an opcode that the server sends. -/
def server (id : Opcode) (name : String) (requirement : ServerRequirement) : Row where
  id := id
  name := name
  kind := .server requirement

/-- The row of an opcode that the server sends, for a requirement that must be one of the server's
two. -/
def server? (id : Opcode) (name : String) (requirement : Requirement) : Except RowFault Row :=
  match ServerRequirement.of? requirement with
  | some r => .ok (server id name r)
  | none => .error .serverRequirement

/-- The row with the reason why its messages run on the world thread. -/
def because (r : Row) (reason : String) : Row :=
  { r with rationale := some reason }

/-- The row with a reason, which only a row on the world lane may have. -/
def because? (r : Row) (reason : String) : Except RowFault Row :=
  match r.kind with
  | .client _ .world _ => .ok (r.because reason)
  | _ => .error .rationaleOffLane

/-- The side that sends the messages of a row. -/
def origin (r : Row) : Origin :=
  match r.kind with
  | .client _ _ _ => .client
  | .server _ => .server

/-- What a row demands. -/
def requirement (r : Row) : Requirement :=
  match r.kind with
  | .client requirement _ _ => requirement
  | .server requirement => requirement.requirement

/-- The lane of a client row. -/
def lane? (r : Row) : Option Lane :=
  match r.kind with
  | .client _ lane _ => some lane
  | .server _ => none

/-- The handler key of a client row. -/
def key? (r : Row) : Option String :=
  match r.kind with
  | .client _ _ key => some key
  | .server _ => none

/-- The beginning of the names that the other side's opcodes have by custom. -/
def foreignStart : Origin → List Char
  | .client => ['S', 'M', 'S', 'G', '_']
  | .server => ['C', 'M', 'S', 'G', '_']

/-- A row's name says the other side sends it. -/
def mismatched (r : Row) : Bool :=
  (foreignStart r.origin).isPrefixOf r.name.toList

end Row

/-- The first row with a name. -/
def find? (rows : List Row) (name : String) : Option Row :=
  rows.find? fun r => r.name == name

/-- The rows whose names say the other side sends them. -/
def mismatches (rows : List Row) : List Row :=
  rows.filter Row.mismatched

end Manifest
end PacketDispatch
