import PacketDispatch.Text.Numeral

/-!
# Session identifiers

The text by which log lines name a session.
-/

namespace PacketDispatch

/-- The identifier of a session. -/
structure SessionId where
  text : String
  deriving DecidableEq, Repr

/-- The identifier whose 128 bits are a number: groups of 8, 4, 4, 4 and 12 hexadecimal digits. -/
def SessionId.ofNumber (n : Nat) : SessionId :=
  ⟨Text.hexFixed 8 (n >>> 96) ++ "-" ++ Text.hexFixed 4 ((n >>> 80) % 0x10000) ++ "-" ++
    Text.hexFixed 4 ((n >>> 64) % 0x10000) ++ "-" ++ Text.hexFixed 4 ((n >>> 48) % 0x10000) ++
    "-" ++ Text.hexFixed 12 (n % 0x1000000000000)⟩

end PacketDispatch
