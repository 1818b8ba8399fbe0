/-!
# Sizes

How many jobs a queue may have room for, and how many permits a pool may have. The limits are those
of the runtime library, and so are the words in which it says that a size is impossible.
-/

namespace PacketDispatch

/-- The largest size that a queue or a pool may have. -/
def maxSize : Nat := 0x1FFFFFFFFFFFFFFF

/-- Why a queue or a pool of some size is impossible. -/
inductive SizeFault
  | noRoom
  | tooLarge
  deriving DecidableEq, Repr

/-- The wording of a fault. -/
def SizeFault.message : SizeFault → String
  | .noRoom => "mpsc bounded channel requires buffer > 0"
  | .tooLarge => s!"a semaphore may not have more than MAX_PERMITS permits ({maxSize})"

end PacketDispatch
