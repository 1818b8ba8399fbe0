import PacketDispatch.Handler.Basic
import PacketDispatch.Gate
import PacketDispatch.Text.Quoted

/-!
# The opcode table

Opcodes with what they demand, how they run and who handles them. The first registration of an
opcode wins; the others are refused with a reason. Descriptors are kept in the order of their
opcodes.
-/

namespace PacketDispatch

/-- What a table knows about an opcode. -/
structure Descriptor (σ : Type) where
  id : Opcode
  name : String
  origin : Origin
  requirement : Requirement
  lane : Lane
  handler : Handler σ

/-- The descriptor as a reader of logs sees it. -/
def Descriptor.debugText (d : Descriptor σ) : String :=
  "OpcodeDescriptor \x7b id: " ++ Text.hexWord d.id.toNat ++ ", name: " ++ Text.quoted d.name ++
    ", direction: " ++ d.origin.name ++ ", status: " ++ d.requirement.name ++ ", concurrency: " ++
    d.lane.name ++ ", handler: " ++ Text.quoted d.handler.name ++ " \x7d"

/-- Why an opcode is not registered. -/
inductive RegistrationError
  | missingValue (name : String)
  | outOfRange (id : Opcode) (name : String)
  | duplicate (id : Opcode) (existing attempted : String)
  | unbound (id : Opcode) (name key : String)
  deriving DecidableEq, Repr

/-- The wording of a refusal. -/
def RegistrationError.message : RegistrationError → String
  | .missingValue name => s!"Opcode {name} does not have a value"
  | .outOfRange id name => s!"Tried to set handler for an invalid opcode {id} ({name})"
  | .duplicate id existing attempted =>
    s!"Tried to override handler of {existing} with {attempted} (opcode {id})"
  | .unbound id name key => s!"Handler '{key}' for {name} (opcode {id}) is not bound"

/-- Descriptors in increasing order of their opcodes. -/
structure Table (σ : Type) where
  descriptors : List (Descriptor σ)

namespace Table

/-- The table without opcodes. -/
def empty : Table σ :=
  ⟨[]⟩

/-- The descriptor of an opcode. -/
def lookup (t : Table σ) (id : Opcode) : Option (Descriptor σ) :=
  t.descriptors.find? fun d => d.id == id

/-- How many opcodes are registered. -/
def size (t : Table σ) : Nat :=
  t.descriptors.length

/-- No opcode is registered. -/
def isEmpty (t : Table σ) : Bool :=
  t.descriptors.isEmpty

/-- The label of an opcode in log lines. -/
def label (t : Table σ) (id : Opcode) : String :=
  Opcode.label ((t.lookup id).map Descriptor.name) id

/-- How the messages of an opcode run; those of an unknown opcode have nowhere else to go than the
place they arrived at. -/
def laneOf (t : Table σ) (id : Opcode) : Lane :=
  match t.lookup id with
  | some d => d.lane
  | none => .inPlace

/-- A descriptor goes before the first one with a greater opcode. -/
def insertInOrder (d : Descriptor σ) : List (Descriptor σ) → List (Descriptor σ)
  | [] => [d]
  | e :: rest => if d.id.toNat < e.id.toNat then d :: e :: rest else e :: insertInOrder d rest

/-- Why an opcode cannot be registered under a name: it has no value, it is not valid, or it is
registered already. -/
def refusal? (t : Table σ) (id : Opcode) (name : String) : Option RegistrationError :=
  if id = nullOpcode then some (.missingValue name)
  else if opcodeLimit ≤ id.toNat then some (.outOfRange id name)
  else (t.lookup id).map fun d => .duplicate id d.name name

/-- The table with one more descriptor, unless its opcode cannot be registered. -/
def register (t : Table σ) (d : Descriptor σ) : Except RegistrationError (Table σ) :=
  match t.refusal? d.id d.name with
  | some error => .error error
  | none => .ok ⟨insertInOrder d t.descriptors⟩

/-- What can be registered: an opcode that clients send, with its handler, or one that the server
sends. -/
inductive Registration (σ : Type)
  | client (id : Opcode) (name : String) (requirement : Requirement) (lane : Lane)
      (handler : Handler σ)
  | server (id : Opcode) (name : String) (requirement : ServerRequirement)

/-- The descriptor that a registration stands for. An opcode of the server runs nowhere: its handler
only reports that a client sent it. -/
def Registration.descriptor : Registration σ → Descriptor σ
  | .client id name requirement lane handler => ⟨id, name, .client, requirement, lane, handler⟩
  | .server id name requirement =>
    ⟨id, name, .server, requirement.requirement, .inPlace, Handler.serverSide⟩

/-- The table after a registration, or the reason why it was refused. -/
def add (t : Table σ) (r : Registration σ) : Except RegistrationError (Table σ) :=
  t.register r.descriptor

/-- The line about a registration that was accepted. -/
def acceptedLine : Registration σ → Line
  | .client _ name requirement lane _ =>
    ⟨.debug, "📝 Registered client opcode " ++ name ++ " (" ++ requirement.text ++ ", " ++
      lane.text ++ ")"⟩
  | .server _ name _ => ⟨.debug, "📝 Registered server opcode " ++ name⟩

/-- The line about a registration that was refused. -/
def refusedLine (t : Table σ) : RegistrationError → Line
  | .duplicate id existing attempted =>
    let handler := ((t.lookup id).map fun d => d.handler.name).getD ""
    ⟨.error, s!"❌ Tried to override handler of {existing} ({handler}) with {attempted} (opcode {id})"⟩
  | error => ⟨.error, "❌ " ++ error.message⟩

/-- The line about a registration. -/
def addLine (t : Table σ) (r : Registration σ) : Line :=
  match t.add r with
  | .ok _ => acceptedLine r
  | .error error => t.refusedLine error

/-- The line about a finished table. -/
def builtLine (t : Table σ) : Line :=
  ⟨.info, "📚 Opcode table built with " ++ Text.decimal t.size ++ " descriptors"⟩

/-- Registrations one after another: the table they leave, the answer to each, and the lines about
them. -/
def addAll (t : Table σ) :
    List (Registration σ) → Table σ × List (Option RegistrationError) × List Line
  | [] => (t, [], [])
  | r :: rest =>
    match t.add r with
    | .ok t' =>
      let (last, answers, lines) := t'.addAll rest
      (last, none :: answers, t.addLine r :: lines)
    | .error error =>
      let (last, answers, lines) := t.addAll rest
      (last, some error :: answers, t.addLine r :: lines)

/-- The table as a reader of logs sees it. -/
def debugText (t : Table σ) : String :=
  "OpcodeRegistry \x7b slots: " ++ Text.decimal opcodeLimit ++ ", registered: " ++
    Text.decimal t.size ++ " \x7d"

end Table
end PacketDispatch
