import PacketDispatch.Json.Basic
import PacketDispatch.Toml.Basic

/-!
# Settings as values

What settings can be read from, whatever notation they were written in: fields by name in a table or
by place in a list, and the scalars that a field may take.
-/

namespace PacketDispatch
namespace Settings

/-- A value from which settings are read. A scalar that no field takes is `other`. -/
inductive Value
  | natural (n : Nat)
  | text (s : String)
  | flag (b : Bool)
  | list (items : List Value)
  | table (fields : List (String × Value))
  | other

namespace Value

/-- The part of a value that belongs to a field: by its name in a table, by its place in a list. -/
def part? (name : String) (place : Nat) : Value → Option Value
  | .table fields => fields.lookup name
  | .list items => items[place]?
  | _ => none

/-- The value has parts. -/
def hasParts : Value → Bool
  | .table _ | .list _ => true
  | _ => false

/-- A number that fits in 64 bits. -/
def count? : Value → Option Nat
  | .natural n => if n < UInt64.size then some n else none
  | _ => none

/-- A text. -/
def text? : Value → Option String
  | .text s => some s
  | _ => none

/-- A truth value. -/
def flag? : Value → Option Bool
  | .flag b => some b
  | _ => none

/-- The value of a field: its default when the field is missing, nothing when it cannot be read. -/
def field (v : Value) (name : String) (place : Nat) (read : Value → Option α) (default : α) :
    Option α :=
  match v.part? name place with
  | some part => read part
  | none => some default

mutual

/-- The value of a JSON tree. When a name is repeated the last member counts, so the members are
turned round. -/
def ofJson : Json → Value
  | .number (.natural n) => .natural n
  | .string (.text s) => .text s
  | .bool b => .flag b
  | .array items => .list (ofItems items)
  | .object members => .table (ofMembers members).reverse
  | _ => .other

/-- The values of JSON items. -/
def ofItems : List Json → List Value
  | [] => []
  | v :: rest => ofJson v :: ofItems rest

/-- The fields of JSON members. -/
def ofMembers : List (Json.Literal × Json) → List (String × Value)
  | [] => []
  | (.text name, v) :: rest => (name, ofJson v) :: ofMembers rest
  | (.unpaired, _) :: rest => ofMembers rest

end

mutual

/-- The value of a TOML tree. A date has parts, but none that a field could take. -/
def ofToml : Toml → Value
  | .integer (.ofNat n) => .natural n
  | .string s => .text s
  | .boolean b => .flag b
  | .array items => .list (ofTomlItems items)
  | .table entries => .table (ofTomlEntries entries)
  | .datetime => .table []
  | _ => .other

/-- The values of TOML items. -/
def ofTomlItems : List Toml → List Value
  | [] => []
  | v :: rest => ofToml v :: ofTomlItems rest

/-- The fields of TOML entries. -/
def ofTomlEntries : List (String × Toml) → List (String × Value)
  | [] => []
  | (name, v) :: rest => (name, ofToml v) :: ofTomlEntries rest

end

end Value
end Settings
end PacketDispatch
