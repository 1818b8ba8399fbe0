import PacketDispatch.Wire.Reader

/-!
# Client packets

The messages that have a decoded form, each with the reader of its payload. Bytes after the last
field are left unread.
-/

namespace PacketDispatch
namespace Wire

/-- A character asks for the name that goes with an identifier. -/
structure NameQuery where
  guid : UInt64
  deriving DecidableEq, Repr

/-- A character is to be deleted. -/
structure CharDelete where
  guid : UInt64
  deriving DecidableEq, Repr

/-- A character is to get a new name. -/
structure CharRename where
  guid : UInt64
  name : String
  deriving DecidableEq, Repr

/-- A mover reports skipped time in milliseconds. -/
structure MoveTimeSkipped where
  mover : UInt64
  skipped : UInt32
  deriving DecidableEq, Repr

/-- Player combat is switched to a value, or over when no value is given. -/
structure TogglePvp where
  enable : Option Bool
  deriving DecidableEq, Repr

/-- The longest character name, in bytes. -/
def maxNameBytes : Nat := 12

/-- An identifier. -/
def NameQuery.read : Reader NameQuery := do
  let guid ← word64
  return ⟨guid⟩

/-- An identifier. -/
def CharDelete.read : Reader CharDelete := do
  let guid ← word64
  return ⟨guid⟩

/-- An identifier and a name of one to twelve bytes. -/
def CharRename.read : Reader CharRename := do
  let guid ← word64
  let name ← cstring
  if name.utf8ByteSize = 0 ∨ maxNameBytes < name.utf8ByteSize then
    let size := name.utf8ByteSize
    Reader.fail (.malformed s!"character name must be 1-12 bytes, got {size}")
  else
    return ⟨guid, name⟩

/-- A packed identifier and a 32-bit number. -/
def MoveTimeSkipped.read : Reader MoveTimeSkipped := do
  let mover ← packedGuid
  let skipped ← word32
  return ⟨mover, skipped⟩

/-- An optional truth value: an empty payload has none. -/
def TogglePvp.read : Reader TogglePvp :=
  fun c =>
    if c.remaining = 0 then (.ok ⟨none⟩, c)
    else Reader.bind flag (fun b => Reader.pure ⟨some b⟩) c

end Wire
end PacketDispatch
