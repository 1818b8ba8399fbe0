/-!
# Reading payloads

A payload is read from front to back, multi-byte numbers least significant byte first. A reader
keeps its place also after a failed read, so a failure inside a composite read leaves the parts
before it consumed.
-/

namespace PacketDispatch
namespace Wire

/-- Why a payload does not decode. Positions count bytes from the start of the payload. -/
inductive Fault
  | truncated (position needed remaining : Nat)
  | unterminated (position : Nat)
  | badText (position : Nat)
  | malformed (reason : String)
  deriving DecidableEq, Repr

/-- The wording of a fault. -/
def Fault.message : Fault → String
  | .truncated position needed remaining =>
    s!"Payload truncated at byte {position}: needed {needed}, {remaining} remaining"
  | .unterminated position => s!"String starting at byte {position} is not NUL-terminated"
  | .badText position => s!"String starting at byte {position} is not valid UTF-8"
  | .malformed reason => "Malformed payload: " ++ reason

/-- A place in a payload: how many bytes are behind it, and the bytes ahead. -/
structure Cursor where
  position : Nat
  rest : List UInt8
  deriving DecidableEq, Repr

namespace Cursor

/-- The place before the first byte. -/
def start (payload : List UInt8) : Cursor :=
  ⟨0, payload⟩

/-- How many bytes are ahead. -/
def remaining (c : Cursor) : Nat :=
  c.rest.length

/-- The place `n` bytes further on. -/
def advance (c : Cursor) (n : Nat) : Cursor :=
  ⟨c.position + n, c.rest.drop n⟩

end Cursor

/-- A read takes a place to a value or a fault, and to the place after it. -/
def Reader (α : Type) : Type :=
  Cursor → Except Fault α × Cursor

namespace Reader

/-- A value without reading. -/
def pure (a : α) : Reader α :=
  fun c => (.ok a, c)

/-- A fault without reading. -/
def fail (fault : Fault) : Reader α :=
  fun c => (.error fault, c)

/-- A read followed by one that depends on its value; a fault ends the read where it stands. -/
def bind (r : Reader α) (next : α → Reader β) : Reader β :=
  fun c =>
    match r c with
    | (.ok a, c') => next a c'
    | (.error fault, c') => (.error fault, c')

instance : Monad Reader where
  pure := Reader.pure
  bind := Reader.bind

/-- The value of a read at the start of a payload, with the place after it. -/
def run (r : Reader α) (payload : List UInt8) : Except Fault α × Cursor :=
  r (Cursor.start payload)

end Reader

/-- The next `n` bytes; when there are fewer, nothing is consumed. -/
def bytes (n : Nat) : Reader (List UInt8) :=
  fun c =>
    if c.remaining < n then (.error (.truncated c.position n c.remaining), c)
    else (.ok (c.rest.take n), c.advance n)

/-- The number whose bytes are given least significant first. -/
def littleEndian : List UInt8 → Nat
  | [] => 0
  | b :: rest => b.toNat + 256 * littleEndian rest

/-- The lowest `n` bytes of a number, least significant first. -/
def toLittleEndian : Nat → Nat → List UInt8
  | 0, _ => []
  | n + 1, v => UInt8.ofNat (v % 256) :: toLittleEndian n (v / 256)

/-- One byte. -/
def byte : Reader UInt8 := do
  let bs ← bytes 1
  return UInt8.ofNat (littleEndian bs)

/-- One byte as a truth value; any byte but zero is true. -/
def flag : Reader Bool := do
  let b ← byte
  return b != 0

/-- A 32-bit number. -/
def word32 : Reader UInt32 := do
  let bs ← bytes 4
  return UInt32.ofNat (littleEndian bs)

/-- A 64-bit number. -/
def word64 : Reader UInt64 := do
  let bs ← bytes 8
  return UInt64.ofNat (littleEndian bs)

/-- The bytes that a mask announces, from the given places upwards. A place whose bit is clear is
zero and takes no byte. -/
def maskedBytes (mask : UInt8) : List Nat → Reader (List UInt8)
  | [] => return []
  | place :: places => do
    let b ← if mask.toNat.testBit place then byte else Reader.pure 0
    let more ← maskedBytes mask places
    return b :: more

/-- A packed identifier: a mask with one bit for each byte that is present, then those bytes from
the lowest up. -/
def packedGuid : Reader UInt64 := do
  let mask ← byte
  let bs ← maskedBytes mask (List.range 8)
  return UInt64.ofNat (littleEndian bs)

/-- The mask of bytes: a bit for each byte that is not zero, the lowest bit for the first. -/
def presence : List UInt8 → Nat
  | [] => 0
  | b :: rest => (if b = 0 then 0 else 1) + 2 * presence rest

/-- The packed form of an identifier, with a bit and a byte for each of its bytes that is not
zero. -/
def packGuid (guid : UInt64) : List UInt8 :=
  let bs := toLittleEndian 8 guid.toNat
  UInt8.ofNat (presence bs) :: bs.filter (· != 0)

/-- A text up to the next zero byte, which is consumed with it. When no zero byte is ahead nothing
is consumed; when the bytes before it are no UTF-8, they are consumed all the same. -/
def cstring : Reader String :=
  fun c =>
    let content := c.rest.takeWhile (· != 0)
    if content.length < c.remaining then
      match String.fromUTF8? ⟨content.toArray⟩ with
      | some text => (.ok text, c.advance (content.length + 1))
      | none => (.error (.badText c.position), c.advance (content.length + 1))
    else (.error (.unterminated c.position), c)

/-- The bytes of a text with a zero byte after them. -/
def cstringBytes (text : String) : List UInt8 :=
  text.toUTF8.data.toList ++ [0]

end Wire
end PacketDispatch
