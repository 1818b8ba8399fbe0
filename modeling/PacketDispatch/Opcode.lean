import PacketDispatch.Text.Numeral
import PacketDispatch.Text.Blank

/-!
# Opcodes

The number that says what kind of message a packet holds, how a person writes one down, and how a
log line names one.
-/

namespace PacketDispatch

/-- The type of a message, a 32-bit word on the wire. -/
abbrev Opcode := UInt32

/-- Opcodes at or above this number are never valid. -/
def opcodeLimit : Nat := 0x51F

/-- The opcode that stands for "no value". -/
def nullOpcode : Opcode := 0

/-- Which side sends a message of an opcode. -/
inductive Origin
  | client
  | server
  deriving DecidableEq, Repr

namespace Origin

/-- Every side, in the order of their names in a table. -/
def all : List Origin := [.client, .server]

/-- The name of the direction that messages of a side take. -/
def name : Origin → String
  | .client => "ClientToServer"
  | .server => "ServerToClient"

/-- The word for a side. -/
def text : Origin → String
  | .client => "client"
  | .server => "server"

end Origin

/-- How a message runs: where it arrives, on the worker pool, or on the world thread. -/
inductive Lane
  | inPlace
  | pool
  | world
  deriving DecidableEq, Repr

namespace Lane

/-- Every lane, in the order of their names in a table. -/
def all : List Lane := [.inPlace, .pool, .world]

/-- The name of a lane in a table. -/
def name : Lane → String
  | .inPlace => "InPlace"
  | .pool => "ThreadSafe"
  | .world => "ThreadUnsafe"

/-- The name of a lane in log lines and summaries. -/
def text : Lane → String
  | .inPlace => "PROCESS_INPLACE"
  | .pool => "PROCESS_THREADSAFE"
  | .world => "PROCESS_THREADUNSAFE"

/-- A deferred message does not run before its dispatch returns. -/
def deferred : Lane → Bool
  | .inPlace => false
  | .pool | .world => true

end Lane

namespace Opcode

/-- The label of an opcode in log lines: its registered name, its number in both bases. An opcode
without a name is unknown when it is below the limit and invalid otherwise. -/
def label (name : Option String) (id : Opcode) : String :=
  let shown :=
    if id.toNat < opcodeLimit then name.getD "UNKNOWN OPCODE" else "INVALID OPCODE"
  "[" ++ shown ++ " " ++ Text.hexWord id.toNat ++ " (" ++ Text.decimal id.toNat ++ ")]"

/-- Why a text is no number. -/
inductive NumberFault
  | empty
  | badDigit
  | tooLarge
  deriving DecidableEq, Repr

/-- The wording of a fault. -/
def NumberFault.message : NumberFault → String
  | .empty => "cannot parse integer from empty string"
  | .badDigit => "invalid digit found in string"
  | .tooLarge => "number too large to fit in target type"

/-- The value of a digit in a base, letters in either case. -/
def digitValue? (base : Nat) (c : Char) : Option Nat :=
  let n := c.toNat
  let v :=
    if 48 ≤ n ∧ n ≤ 57 then some (n - 48)
    else if 65 ≤ n ∧ n ≤ 90 then some (n - 55)
    else if 97 ≤ n ∧ n ≤ 122 then some (n - 87)
    else none
  v.filter (· < base)

/-- Digits are read from the left. A character that is no digit is reported where it stands, unless
the digits before it are already too large together with it. -/
def readDigits (base : Nat) : Nat → List Char → Except NumberFault Nat
  | seen, [] => .ok seen
  | seen, c :: rest =>
    match digitValue? base c with
    | none => .error .badDigit
    | some d =>
      if seen * base + d < UInt32.size then readDigits base (seen * base + d) rest
      else .error .tooLarge

/-- A number in a base, with one plus sign allowed in front. -/
def readNumber (base : Nat) (cs : List Char) : Except NumberFault Nat :=
  match cs with
  | [] => .error .empty
  | '+' :: [] => .error .badDigit
  | '+' :: rest => readDigits base 0 rest
  | cs => readDigits base 0 cs

/-- What a person writes for an opcode: hexadecimal after `0x` or `0X`, else decimal, with blanks
around it. -/
def parse (text : String) : Except NumberFault Opcode :=
  let number :=
    match Text.trimList text.toList with
    | '0' :: 'x' :: rest => readNumber 16 rest
    | '0' :: 'X' :: rest => readNumber 16 rest
    | cs => readNumber 10 cs
  number.map UInt32.ofNat

/-- The report of a text that names no opcode; it quotes the text without its blanks. -/
def parseMessage (text : String) (fault : NumberFault) : String :=
  "invalid opcode '" ++ Text.trim text ++ "': " ++ fault.message

end Opcode
end PacketDispatch
