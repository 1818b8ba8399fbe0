import PacketDispatch.Json.Basic

/-!
# Reading JSON

A recogniser for the JSON grammar that builds the value. It refuses what the grammar refuses:
leading zeros, control characters inside strings, trailing commas, comments, and anything but
blanks after the value.
-/

namespace PacketDispatch
namespace Json

/-- The four characters that may stand between tokens. -/
def isSpace (c : Char) : Bool :=
  c == ' ' || c == '\n' || c == '\t' || c == '\r'

/-- The input after any spaces. -/
def skipSpace (cs : List Char) : List Char :=
  cs.dropWhile isSpace

/-- The value of a hexadecimal digit in either case. -/
def hexValue? (c : Char) : Option Nat :=
  let n := c.toNat
  if 48 ≤ n ∧ n ≤ 57 then some (n - 48)
  else if 65 ≤ n ∧ n ≤ 70 then some (n - 55)
  else if 97 ≤ n ∧ n ≤ 102 then some (n - 87)
  else none

/-- The sixteen bits of four hexadecimal digits. -/
def unit? (a b c d : Char) : Option Nat := do
  let a ← hexValue? a
  let b ← hexValue? b
  let c ← hexValue? c
  let d ← hexValue? d
  some (((a * 16 + b) * 16 + c) * 16 + d)

/-- What a character after a backslash stands for, other than `u`. -/
def simpleEscape? (c : Char) : Option Nat :=
  match c.toNat with
  | 0x22 => some 0x22
  | 0x5C => some 0x5C
  | 0x2F => some 0x2F
  | 0x62 => some 0x08
  | 0x66 => some 0x0C
  | 0x6E => some 0x0A
  | 0x72 => some 0x0D
  | 0x74 => some 0x09
  | _ => none

/-- The code points and escaped units of a string after its opening quote, last one first, with
the input after the closing quote. -/
def stringUnits : List Nat → List Char → Option (List Nat × List Char)
  | _, [] => none
  | seen, c :: rest =>
    if c.toNat = 0x22 then some (seen, rest)
    else if c.toNat < 0x20 then none
    else if c.toNat = 0x5C then
      match rest with
      | 'u' :: a :: b :: c :: d :: rest =>
        match unit? a b c d with
        | some u => stringUnits (u :: seen) rest
        | none => none
      | e :: rest =>
        match simpleEscape? e with
        | some u => stringUnits (u :: seen) rest
        | none => none
      | [] => none
    else stringUnits (c.toNat :: seen) rest

/-- A high surrogate followed by a low one is a single code point; any other surrogate leaves no
text. -/
def joinUnits : List Nat → Option (List Char)
  | [] => some []
  | u :: rest =>
    if 0xD800 ≤ u ∧ u < 0xDC00 then
      match rest with
      | low :: rest =>
        if 0xDC00 ≤ low ∧ low < 0xE000 then
          (joinUnits rest).map (Char.ofNat (0x10000 + (u - 0xD800) * 0x400 + (low - 0xDC00)) :: ·)
        else none
      | [] => none
    else if 0xDC00 ≤ u ∧ u < 0xE000 then none
    else (joinUnits rest).map (Char.ofNat u :: ·)

/-- A string after its opening quote. -/
def stringBody (cs : List Char) : Option (Literal × List Char) :=
  match stringUnits [] cs with
  | some (units, rest) =>
    match joinUnits units.reverse with
    | some text => some (.text (String.ofList text), rest)
    | none => some (.unpaired, rest)
  | none => none

/-- The decimal number of a run of digits. -/
def decimalOf (cs : List Char) : Nat :=
  cs.foldl (fun n c => n * 10 + (c.toNat - 48)) 0

/-- The digits of a whole part: a single zero, or a run that does not start with zero. -/
def wholePart (cs : List Char) : Option (Nat × List Char) :=
  match cs with
  | '0' :: rest =>
    match rest with
    | d :: _ => if d.isDigit then none else some (0, rest)
    | [] => some (0, rest)
  | d :: _ =>
    if d.isDigit then some (decimalOf (cs.takeWhile Char.isDigit), cs.dropWhile Char.isDigit)
    else none
  | [] => none

/-- At least one digit. -/
def someDigits (cs : List Char) : Option (List Char) :=
  match cs with
  | d :: _ => if d.isDigit then some (cs.dropWhile Char.isDigit) else none
  | [] => none

/-- A fraction, if a point is next. -/
def fraction (cs : List Char) : Option (Bool × List Char) :=
  match cs with
  | '.' :: rest => (someDigits rest).map (true, ·)
  | _ => some (false, cs)

/-- An exponent, if its letter is next. -/
def exponent (cs : List Char) : Option (Bool × List Char) :=
  match cs with
  | e :: rest =>
    if e == 'e' || e == 'E' then
      match rest with
      | s :: digits =>
        if s == '+' || s == '-' then (someDigits digits).map (true, ·)
        else (someDigits rest).map (true, ·)
      | [] => none
    else some (false, cs)
  | [] => some (false, cs)

/-- A number with its sign, fraction and exponent. -/
def numberToken (cs : List Char) : Option (Number × List Char) := do
  let (negative, cs) := match cs with
    | '-' :: rest => (true, rest)
    | _ => (false, cs)
  let (whole, cs) ← wholePart cs
  let (pointed, cs) ← fraction cs
  let (scaled, cs) ← exponent cs
  let number := if pointed || scaled then .fractional
    else if negative then .negated whole else .natural whole
  some (number, cs)

/-- The input after an expected word. -/
def expect (word : List Char) (cs : List Char) : Option (List Char) :=
  if word.isPrefixOf cs then some (cs.drop word.length) else none

mutual

/-- A value with no space before it. The fuel bounds the tokens read. -/
def value : Nat → List Char → Option (Json × List Char)
  | 0, _ => none
  | fuel + 1, cs =>
    match cs with
    | [] => none
    | c :: rest =>
      if c == '[' then
        match skipSpace rest with
        | ']' :: rest => some (.array [], rest)
        | rest => (items fuel [] rest).map fun r => (.array r.1, r.2)
      else if c.toNat = 0x7B then
        match skipSpace rest with
        | [] => none
        | d :: after =>
          if d.toNat = 0x7D then some (.object [], after)
          else (members fuel [] (d :: after)).map fun r => (.object r.1, r.2)
      else if c.toNat = 0x22 then (stringBody rest).map fun r => (.string r.1, r.2)
      else if c == 't' then (expect ['r', 'u', 'e'] rest).map (.bool true, ·)
      else if c == 'f' then (expect ['a', 'l', 's', 'e'] rest).map (.bool false, ·)
      else if c == 'n' then (expect ['u', 'l', 'l'] rest).map (.null, ·)
      else (numberToken cs).map fun r => (.number r.1, r.2)

/-- One or more items of an array and its closing bracket. -/
def items : Nat → List Json → List Char → Option (List Json × List Char)
  | 0, _, _ => none
  | fuel + 1, seen, cs =>
    match value fuel cs with
    | none => none
    | some (v, rest) =>
      match skipSpace rest with
      | ',' :: rest => items fuel (v :: seen) (skipSpace rest)
      | ']' :: rest => some ((v :: seen).reverse, rest)
      | _ => none

/-- One or more members of an object and its closing brace. -/
def members : Nat → List (Literal × Json) → List Char → Option (List (Literal × Json) × List Char)
  | 0, _, _ => none
  | fuel + 1, seen, cs =>
    match cs with
    | [] => none
    | q :: rest =>
      if q.toNat ≠ 0x22 then none
      else
        match stringBody rest with
        | none => none
        | some (name, rest) =>
          match skipSpace rest with
          | ':' :: rest =>
            match value fuel (skipSpace rest) with
            | none => none
            | some (v, rest) =>
              match skipSpace rest with
              | [] => none
              | c :: after =>
                if c == ',' then members fuel ((name, v) :: seen) (skipSpace after)
                else if c.toNat = 0x7D then some (((name, v) :: seen).reverse, after)
                else none
          | _ => none

end

/-- The value of a whole text; only spaces may surround it. -/
def parse (s : String) : Option Json :=
  let cs := s.toList
  match value (cs.length + 1) (skipSpace cs) with
  | some (v, rest) => if (skipSpace rest).isEmpty then some v else none
  | none => none

end Json
end PacketDispatch
