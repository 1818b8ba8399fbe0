/-!
# Numerals

Numbers written in a base from 2 to 16, most significant digit first, and the bytes of a payload
written as pairs of hexadecimal digits.
-/

namespace PacketDispatch
namespace Text

/-- The digits of `n`, least significant first; zero has no digits. -/
def digitsFromLow (base : Nat) (n : Nat) : List Nat :=
  if h : 1 < base ∧ 0 < n then
    have : n / base < n := Nat.div_lt_self h.2 h.1
    n % base :: digitsFromLow base (n / base)
  else
    []
termination_by n

/-- The digits of `n`, most significant first; zero is the single digit zero. -/
def digits (base : Nat) (n : Nat) : List Nat :=
  if n = 0 then [0] else (digitsFromLow base n).reverse

/-- The character of a digit below sixteen, letters in upper case. -/
def upperDigit (d : Nat) : Char :=
  if d < 10 then Char.ofNat (48 + d) else Char.ofNat (55 + d)

/-- The character of a digit below sixteen, letters in lower case. -/
def lowerDigit (d : Nat) : Char :=
  if d < 10 then Char.ofNat (48 + d) else Char.ofNat (87 + d)

/-- Zeros are put in front until the numeral has `width` characters. -/
def padZeros (width : Nat) (cs : List Char) : List Char :=
  List.replicate (width - cs.length) '0' ++ cs

/-- The decimal numeral of `n`. -/
def decimal (n : Nat) : String :=
  String.ofList ((digits 10 n).map upperDigit)

/-- At least four upper-case hexadecimal digits after `0x`. -/
def hexWord (n : Nat) : String :=
  "0x" ++ String.ofList (padZeros 4 ((digits 16 n).map upperDigit))

/-- Exactly `width` lower-case hexadecimal digits of a number below `16 ^ width`. -/
def hexFixed (width : Nat) (n : Nat) : String :=
  String.ofList (padZeros width ((digits 16 n).map lowerDigit))

/-- Two lower-case hexadecimal digits for each byte. -/
def hexBytes (bytes : List UInt8) : String :=
  String.ofList (bytes.flatMap fun b => [lowerDigit (b.toNat / 16), lowerDigit (b.toNat % 16)])

end Text
end PacketDispatch
