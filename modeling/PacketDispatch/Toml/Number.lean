/-!
# Numbers and dates of TOML

Integers of 64 bits in four bases, floats, and dates and times. Each reader takes the longest text
of its form from the front of the input; a value out of range is refused.
-/

namespace PacketDispatch
namespace Toml

/-- The value of a digit in a base up to sixteen. -/
def digitIn? (base : Nat) (c : Char) : Option Nat :=
  let n := c.toNat
  let v :=
    if 48 ≤ n ∧ n ≤ 57 then some (n - 48)
    else if 65 ≤ n ∧ n ≤ 70 then some (n - 55)
    else if 97 ≤ n ∧ n ≤ 102 then some (n - 87)
    else none
  v.filter (· < base)

/-- Digits after the first one; an underscore may stand between two digits. -/
def moreDigits (base : Nat) : List Char → Option (List Nat × List Char)
  | [] => some ([], [])
  | '_' :: c :: rest =>
    match digitIn? base c with
    | some d => (moreDigits base rest).map fun r => (d :: r.1, r.2)
    | none => none
  | c :: rest =>
    match digitIn? base c with
    | some d => (moreDigits base rest).map fun r => (d :: r.1, r.2)
    | none => if c == '_' then none else some ([], c :: rest)

/-- One digit or more. -/
def digits? (base : Nat) : List Char → Option (List Nat × List Char)
  | [] => none
  | c :: rest =>
    match digitIn? base c with
    | some d => (moreDigits base rest).map fun r => (d :: r.1, r.2)
    | none => none

/-- The number of digits, most significant first. -/
def valueOf (base : Nat) (ds : List Nat) : Nat :=
  ds.foldl (fun n d => n * base + d) 0

/-- A sign, if one is next: whether it is a minus, and the input after it. -/
def sign : List Char → Bool × List Char
  | '+' :: rest => (false, rest)
  | '-' :: rest => (true, rest)
  | cs => (false, cs)

/-- The digits of a decimal number: a zero alone, or digits that do not start with zero. -/
def wholeDigits? : List Char → Option (List Nat × List Char)
  | '0' :: rest => some ([0], rest)
  | cs => digits? 10 cs

/-- The first integer that is too large for 64 bits with a sign. -/
def integerBound : Nat := 0x8000000000000000

/-- An integer in a base, after the letters that name the base. -/
def basedInteger? (base : Nat) (cs : List Char) : Option (Int × List Char) := do
  let (ds, rest) ← digits? base cs
  if valueOf base ds < integerBound then some (valueOf base ds, rest) else none

/-- A decimal integer with a sign or without. -/
def decimalInteger? (cs : List Char) : Option (Int × List Char) := do
  let (minus, cs) := sign cs
  let (ds, rest) ← wholeDigits? cs
  let n := valueOf 10 ds
  if minus then
    if n ≤ integerBound then some (-n, rest) else none
  else if n < integerBound then some (n, rest)
  else none

/-- An integer. -/
def integer? : List Char → Option (Int × List Char)
  | '0' :: 'x' :: rest => basedInteger? 16 rest
  | '0' :: 'o' :: rest => basedInteger? 8 rest
  | '0' :: 'b' :: rest => basedInteger? 2 rest
  | cs => decimalInteger? cs

/-- The fraction of a float, if a point is next: its digits. -/
def fraction? : List Char → Option (List Nat × List Char)
  | '.' :: rest => digits? 10 rest
  | _ => none

/-- The exponent of a float, if its letter is next. -/
def exponent? : List Char → Option (Int × List Char)
  | e :: rest =>
    if e == 'e' || e == 'E' then do
      let (minus, rest) := sign rest
      let (ds, rest) ← digits? 10 rest
      let n := valueOf 10 ds
      some (if minus then -n else n, rest)
    else none
  | [] => none

/-- The least number that is rounded to infinity: half a step above the largest float of 64
bits. -/
def overflowBound : Nat := (1 <<< 1024) - (1 <<< 970)

/-- The number `n` with its point moved `e` places to the right is rounded to infinity. Its count of
digits decides unless it is close to the bound, which has 309 digits. -/
def overflows (n : Nat) (e : Int) : Bool :=
  let size : Int := (Nat.toDigits 10 n).length + e
  if n = 0 then false
  else if size < 300 then false
  else if 320 < size then true
  else
    match e with
    | .ofNat k => overflowBound ≤ n * Nat.pow 10 k
    | .negSucc k => overflowBound * Nat.pow 10 (k + 1) ≤ n

/-- A word is next. -/
def word? (word : List Char) (cs : List Char) : Option (List Char) :=
  if word.isPrefixOf cs then some (cs.drop word.length) else none

/-- A float without digits: infinity or no number, with a sign or without. -/
def specialFloat? (cs : List Char) : Option (List Char) :=
  let cs := (sign cs).2
  (word? ['i', 'n', 'f'] cs).orElse fun _ => word? ['n', 'a', 'n'] cs

/-- A float with digits: a fraction, an exponent or both must follow the whole part, and a positive
value must not be rounded to infinity. -/
def digitFloat? (cs : List Char) : Option (List Char) := do
  let (minus, cs) := sign cs
  let (whole, cs) ← wholeDigits? cs
  let (decimals, e, rest) ←
    match fraction? cs with
    | some (decimals, rest) =>
      match exponent? rest with
      | some (e, rest) => some (decimals, e, rest)
      | none => some (decimals, 0, rest)
    | none => (exponent? cs).map fun r => ([], r.1, r.2)
  if !minus && overflows (valueOf 10 (whole ++ decimals)) (e - decimals.length) then none
  else some rest

/-- The input after a float. -/
def float? (cs : List Char) : Option (List Char) :=
  (digitFloat? cs).orElse fun _ => specialFloat? cs

/-- The number of exactly `count` decimal digits. -/
def fixedNumber? : Nat → Nat → List Char → Option (Nat × List Char)
  | 0, seen, cs => some (seen, cs)
  | count + 1, seen, c :: rest =>
    match digitIn? 10 c with
    | some d => fixedNumber? count (seen * 10 + d) rest
    | none => none
  | _ + 1, _, [] => none

/-- A number of two digits between two bounds. -/
def twoDigits? (low high : Nat) (cs : List Char) : Option (Nat × List Char) :=
  (fixedNumber? 2 0 cs).filter fun r => low ≤ r.1 && r.1 ≤ high

/-- A character is next. -/
def char? (c : Char) : List Char → Option (List Char)
  | d :: rest => if d == c then some rest else none
  | [] => none

/-- How many days a month has. -/
def daysIn (year month : Nat) : Nat :=
  if month = 2 then
    if year % 4 = 0 ∧ (year % 100 ≠ 0 ∨ year % 400 = 0) then 29 else 28
  else if month = 4 ∨ month = 6 ∨ month = 9 ∨ month = 11 then 30
  else 31

/-- The input after a date of the calendar. -/
def date? (cs : List Char) : Option (List Char) := do
  let (year, cs) ← fixedNumber? 4 0 cs
  let (month, cs) ← twoDigits? 1 12 (← char? '-' cs)
  let (day, cs) ← twoDigits? 1 31 (← char? '-' cs)
  if day ≤ daysIn year month then some cs else none

/-- The input after the fraction of a second, if there is one. -/
def skipSecondFraction (cs : List Char) : List Char :=
  match cs with
  | '.' :: rest =>
    let after := rest.dropWhile fun c => (digitIn? 10 c).isSome
    if after.length < rest.length then after else cs
  | _ => cs

/-- The input after a time of day; a second may be a leap second. -/
def time? (cs : List Char) : Option (List Char) := do
  let (_, cs) ← twoDigits? 0 23 cs
  let (_, cs) ← twoDigits? 0 59 (← char? ':' cs)
  let (_, cs) ← twoDigits? 0 60 (← char? ':' cs)
  some (skipSecondFraction cs)

/-- The input after the offset of a time, if there is one. -/
def skipOffset (cs : List Char) : List Char :=
  match cs with
  | 'Z' :: rest => rest
  | 'z' :: rest => rest
  | c :: rest =>
    if c == '+' || c == '-' then
      let offset := do
        let (_, cs) ← twoDigits? 0 23 rest
        let (_, cs) ← twoDigits? 0 59 (← char? ':' cs)
        some cs
      offset.getD cs
    else cs
  | [] => []

/-- A character between a date and a time. -/
def isDateGap (c : Char) : Bool :=
  c == 'T' || c == 't' || c == ' '

/-- The input after a date, a time, or both with a gap between them and perhaps an offset. -/
def datetime? (cs : List Char) : Option (List Char) :=
  match date? cs with
  | some rest =>
    match rest with
    | c :: after =>
      if isDateGap c then
        match time? after with
        | some rest => some (skipOffset rest)
        | none => some rest
      else some rest
    | [] => some []
  | none => time? cs

end Toml
end PacketDispatch
