/-!
# JSON values

A JSON text as a tree. Numbers keep the difference between an integer and any other spelling, and
strings keep whether their escapes stand for a text at all, because readers of records care.
-/

namespace PacketDispatch

/-- A number as it is spelled. -/
inductive Json.Number
  /-- Digits only. -/
  | natural (n : Nat)
  /-- A minus sign and digits. -/
  | negated (n : Nat)
  /-- A spelling with a fraction or an exponent. -/
  | fractional
  deriving DecidableEq, Repr

/-- A string literal: a text, or escapes that leave a surrogate without its partner. -/
inductive Json.Literal
  | text (s : String)
  | unpaired
  deriving DecidableEq, Repr

/-- A JSON value. Members of an object stay in the order of the text, repeated names included. -/
inductive Json
  | null
  | bool (b : Bool)
  | number (n : Json.Number)
  | string (s : Json.Literal)
  | array (items : List Json)
  | object (members : List (Json.Literal × Json))

namespace Json

/-- A natural number as a value. -/
def ofNat (n : Nat) : Json :=
  .number (.natural n)

/-- A text as a value. -/
def ofText (s : String) : Json :=
  .string (.text s)

/-- An object with the given members. -/
def ofMembers (members : List (String × Json)) : Json :=
  .object (members.map fun m => (.text m.1, m.2))

/-- A value or null. -/
def ofOption (encode : α → Json) : Option α → Json
  | some a => encode a
  | none => .null

/-- The text of a string. -/
def text? : Json → Option String
  | .string (.text s) => some s
  | _ => none

/-- The number of a value spelled with digits only. -/
def natural? : Json → Option Nat
  | .number (.natural n) => some n
  | _ => none

/-- The truth value. -/
def bool? : Json → Option Bool
  | .bool b => some b
  | _ => none

/-- The items of an array. -/
def items? : Json → Option (List Json)
  | .array items => some items
  | _ => none

/-- The last member of an object that has the name. -/
def member? (name : String) : Json → Option Json
  | .object members => (members.reverse.find? fun m => m.1 == .text name).map Prod.snd
  | _ => none

end Json
end PacketDispatch
