/-!
# Base64

The standard alphabet with required padding: text is read in quads of four symbols, only the last
quad may be padded, and the bits that its last symbol leaves over must be zero.
-/

namespace PacketDispatch
namespace Text
namespace Base64

/-- Why a text is not base64. Offsets count bytes of the text. -/
inductive Fault
  | badSymbol (offset : Nat) (symbol : UInt8)
  | badLength (length : Nat)
  | badLastSymbol (offset : Nat) (symbol : UInt8)
  | badPadding
  deriving DecidableEq, Repr

/-- The wording of a fault. -/
def Fault.message : Fault → String
  | .badSymbol offset symbol => s!"Invalid symbol {symbol}, offset {offset}."
  | .badLength length => s!"Invalid input length: {length}"
  | .badLastSymbol offset symbol => s!"Invalid last symbol {symbol}, offset {offset}."
  | .badPadding => "Invalid padding"

/-- The padding symbol, an equals sign. -/
def pad : UInt8 := 61

/-- The six bits that a symbol stands for: `A` to `Z`, `a` to `z`, `0` to `9`, `+`, `/`. -/
def value? (b : UInt8) : Option Nat :=
  let n := b.toNat
  if 65 ≤ n ∧ n ≤ 90 then some (n - 65)
  else if 97 ≤ n ∧ n ≤ 122 then some (n - 97 + 26)
  else if 48 ≤ n ∧ n ≤ 57 then some (n - 48 + 52)
  else if n = 43 then some 62
  else if n = 47 then some 63
  else none

/-- The three bytes of four symbol values. -/
def tripleOf (a b c d : Nat) : List UInt8 :=
  let v := ((a * 64 + b) * 64 + c) * 64 + d
  [UInt8.ofNat (v / 65536), UInt8.ofNat (v / 256 % 256), UInt8.ofNat (v % 256)]

/-- The value of the symbol at an offset, or the fault that names it. -/
def symbolAt (offset : Nat) (b : UInt8) : Except Fault Nat :=
  match value? b with
  | some v => .ok v
  | none => .error (.badSymbol offset b)

/-- Symbols of the last quad up to its padding, with the padding's first offset and length.
A padding symbol before the third place, or a symbol after padding, is out of place. -/
def lastSymbols (start : Nat) :
    (place : Nat) → (firstPad : Option Nat) → (pads : Nat) → List UInt8 →
    Except Fault (List (Nat × UInt8) × Nat)
  | _, _, pads, [] => .ok ([], pads)
  | place, firstPad, pads, b :: rest =>
    if b = pad then
      if place < 2 then .error (.badSymbol (start + place) b)
      else lastSymbols start (place + 1) (firstPad.or (some place)) (pads + 1) rest
    else
      match firstPad with
      | some first => .error (.badSymbol (start + first) pad)
      | none => do
        let v ← symbolAt (start + place) b
        let (more, total) ← lastSymbols start (place + 1) none pads rest
        .ok ((v, b) :: more, total)

/-- The bytes of the last quad, which may be short or padded. -/
def decodeLast (start : Nat) (quad : List UInt8) : Except Fault (List UInt8) := do
  let (symbols, pads) ← lastSymbols start 0 none 0 quad
  if !quad.isEmpty && symbols.length < 2 then
    .error (.badLength (start + symbols.length))
  else if (symbols.length + pads) % 4 ≠ 0 then
    .error .badPadding
  else
    match symbols with
    | [(a, _), (b, last)] =>
      if b % 16 ≠ 0 then .error (.badLastSymbol (start + 1) last)
      else .ok ((tripleOf a b 0 0).take 1)
    | [(a, _), (b, _), (c, last)] =>
      if c % 4 ≠ 0 then .error (.badLastSymbol (start + 2) last)
      else .ok ((tripleOf a b c 0).take 2)
    | [(a, _), (b, _), (c, _), (d, _)] => .ok (tripleOf a b c d)
    | _ => .ok []

/-- Quads before the last are decoded without padding; what remains is the last quad. -/
def decodeFrom (start : Nat) : List UInt8 → Except Fault (List UInt8)
  | a :: b :: c :: d :: next :: rest => do
    let a ← symbolAt start a
    let b ← symbolAt (start + 1) b
    let c ← symbolAt (start + 2) c
    let d ← symbolAt (start + 3) d
    let more ← decodeFrom (start + 4) (next :: rest)
    .ok (tripleOf a b c d ++ more)
  | quad => decodeLast start quad

/-- A single symbol after the last full quad is reported as a symbol when it is not one of the
alphabet, before any other fault. -/
def strayEnd (bytes : List UInt8) : Option Fault :=
  if bytes.length % 4 = 1 then
    match bytes.getLast? with
    | some b =>
      if b ≠ pad ∧ value? b = none then some (.badSymbol (bytes.length - 1) b) else none
    | none => none
  else
    none

/-- The bytes that a base64 text stands for. -/
def decode (text : List UInt8) : Except Fault (List UInt8) :=
  match strayEnd text with
  | some fault => .error fault
  | none => decodeFrom 0 text

/-- The symbol of six bits. -/
def symbol (v : Nat) : UInt8 :=
  if v < 26 then UInt8.ofNat (65 + v)
  else if v < 52 then UInt8.ofNat (71 + v)
  else if v < 62 then UInt8.ofNat (v - 4)
  else if v = 62 then 43
  else 47

/-- The base64 text of bytes: four symbols for each three bytes, the end filled up with padding. -/
def encode : List UInt8 → List UInt8
  | a :: b :: c :: rest =>
    let v := (a.toNat * 256 + b.toNat) * 256 + c.toNat
    symbol (v / 262144) :: symbol (v / 4096 % 64) :: symbol (v / 64 % 64) :: symbol (v % 64) ::
      encode rest
  | [a, b] =>
    let v := a.toNat * 1024 + b.toNat * 4
    [symbol (v / 4096), symbol (v / 64 % 64), symbol (v % 64), pad]
  | [a] =>
    let v := a.toNat * 16
    [symbol (v / 64), symbol (v % 64), pad, pad]
  | [] => []

end Base64
end Text
end PacketDispatch
