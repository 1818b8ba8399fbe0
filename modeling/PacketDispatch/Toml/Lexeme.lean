/-!
# Lexemes of TOML

Blanks, comments, line ends, strings and keys. A reader of a lexeme takes the input to a value and
the input after it; it takes as much as the lexeme can hold.
-/

namespace PacketDispatch
namespace Toml

/-- The input after a line end: a line feed, with or without a carriage return before it. -/
def newline? : List Char → Option (List Char)
  | '\n' :: rest => some rest
  | '\r' :: '\n' :: rest => some rest
  | _ => none

/-- A blank inside a line: a space or a tab. -/
def isBlank (c : Char) : Bool :=
  c == ' ' || c == '\t'

/-- The input after any blanks. -/
def skipBlanks (cs : List Char) : List Char :=
  cs.dropWhile isBlank

/-- A character that a comment may hold: any but the control characters, of which only the tab is
allowed. -/
def isCommentChar (c : Char) : Bool :=
  c == '\t' || (0x20 ≤ c.toNat && c.toNat != 0x7F)

/-- The input after a comment, if one is next. -/
def skipComment : List Char → List Char
  | '#' :: rest => rest.dropWhile isCommentChar
  | cs => cs

/-- The end of a statement: blanks, perhaps a comment, and a line end or the end of the input. -/
def lineEnd? (cs : List Char) : Option (List Char) :=
  match skipComment (skipBlanks cs) with
  | [] => some []
  | cs => newline? cs

/-- Blanks, line ends and comments between the items of an array. The fuel bounds the lines. -/
def skipLayout : Nat → List Char → List Char
  | 0, cs => cs
  | fuel + 1, cs =>
    let cs := skipBlanks cs
    let after := skipComment cs
    match newline? after with
    | some rest => skipLayout fuel rest
    | none => cs

/-- The value of a hexadecimal digit in either case. -/
def hexDigit? (c : Char) : Option Nat :=
  let n := c.toNat
  if 48 ≤ n ∧ n ≤ 57 then some (n - 48)
  else if 65 ≤ n ∧ n ≤ 70 then some (n - 55)
  else if 97 ≤ n ∧ n ≤ 102 then some (n - 87)
  else none

/-- The number of exactly `count` hexadecimal digits. -/
def hexNumber? : Nat → Nat → List Char → Option (Nat × List Char)
  | 0, seen, cs => some (seen, cs)
  | count + 1, seen, c :: rest =>
    match hexDigit? c with
    | some d => hexNumber? count (seen * 16 + d) rest
    | none => none
  | _ + 1, _, [] => none

/-- A code point that is a character: neither a surrogate nor past the last one. -/
def charOf? (n : Nat) : Option Char :=
  if n < 0xD800 ∨ (0xE000 ≤ n ∧ n < 0x110000) then some (Char.ofNat n) else none

/-- The character of an escape after its backslash. -/
def escape? : List Char → Option (Char × List Char)
  | [] => none
  | c :: rest =>
    match c.toNat with
    | 0x62 => some ('\x08', rest)
    | 0x74 => some ('\t', rest)
    | 0x6E => some ('\n', rest)
    | 0x66 => some ('\x0c', rest)
    | 0x72 => some ('\r', rest)
    | 0x22 => some (c, rest)
    | 0x5C => some (c, rest)
    | 0x75 => do
      let (n, rest) ← hexNumber? 4 0 rest
      some (← charOf? n, rest)
    | 0x55 => do
      let (n, rest) ← hexNumber? 8 0 rest
      some (← charOf? n, rest)
    | _ => none

/-- The two ways of quoting: with escapes, and without. -/
inductive Quote
  | basic
  | literal
  deriving DecidableEq, Repr

/-- The mark of a quote. -/
def Quote.mark : Quote → Char
  | .basic => '"'
  | .literal => '\''

/-- A quote has escapes. -/
def Quote.escapes : Quote → Bool
  | .basic => true
  | .literal => false

/-- A character that stands for itself inside a quote; marks and backslashes are looked at
before. -/
def isPlain (c : Char) : Bool :=
  isCommentChar c

/-- The characters of a quoted text on one line after its first mark, last one first. The fuel
bounds the characters. -/
def lineText (q : Quote) : Nat → List Char → List Char → Option (List Char × List Char)
  | 0, _, _ => none
  | _ + 1, _, [] => none
  | fuel + 1, seen, c :: rest =>
    if c == q.mark then some (seen, rest)
    else if q.escapes && c == '\\' then
      match escape? rest with
      | some (e, rest) => lineText q fuel (e :: seen) rest
      | none => none
    else if isPlain c then lineText q fuel (c :: seen) rest
    else none

/-- The input after blanks and line ends. The fuel bounds the lines. -/
def skipLines : Nat → List Char → List Char
  | 0, cs => skipBlanks cs
  | fuel + 1, cs =>
    match newline? (skipBlanks cs) with
    | some rest => skipLines fuel rest
    | none => skipBlanks cs

/-- The input after a backslash at the end of a line: the line end with blanks before it, and all
blanks and line ends after it. -/
def joinLines? (cs : List Char) : Option (List Char) :=
  (newline? (skipBlanks cs)).map fun rest => skipLines rest.length rest

/-- How many marks are next. -/
def markCount (q : Quote) (cs : List Char) : Nat :=
  (cs.takeWhile (· == q.mark)).length

/-- The characters of a quoted text over several lines, last one first. One or two marks belong to
the text; of three or more the last three end it, and at most two belong to the text before
them. -/
def blockText (q : Quote) : Nat → List Char → List Char → Option (List Char × List Char)
  | 0, _, _ => none
  | _ + 1, _, [] => none
  | fuel + 1, seen, c :: rest =>
    if c == q.mark then
      let marks := markCount q (c :: rest)
      if marks < 3 then
        blockText q fuel (List.replicate marks q.mark ++ seen) ((c :: rest).drop marks)
      else
        let inside := min (marks - 3) 2
        some (List.replicate inside q.mark ++ seen, (c :: rest).drop (inside + 3))
    else if q.escapes && c == '\\' then
      match joinLines? rest with
      | some rest => blockText q fuel seen rest
      | none =>
        match escape? rest with
        | some (e, rest) => blockText q fuel (e :: seen) rest
        | none => none
    else if isPlain c then blockText q fuel (c :: seen) rest
    else
      match newline? (c :: rest) with
      | some rest => blockText q fuel ('\n' :: seen) rest
      | none => none

/-- The text of a reader that has its characters last one first. -/
def textOf (r : Option (List Char × List Char)) : Option (String × List Char) :=
  r.map fun (seen, rest) => (String.ofList seen.reverse, rest)

/-- A quoted text on one line, after its first mark. -/
def lineString? (q : Quote) (cs : List Char) : Option (String × List Char) :=
  textOf (lineText q (cs.length + 1) [] cs)

/-- A quoted text over several lines, after its three marks; a line end right after them is not part
of the text. -/
def blockString? (q : Quote) (cs : List Char) : Option (String × List Char) :=
  textOf (blockText q (cs.length + 1) [] ((newline? cs).getD cs))

/-- A quoted text after its first mark: over several lines when two more marks follow. -/
def string? (q : Quote) (cs : List Char) : Option (String × List Char) :=
  match cs with
  | a :: b :: rest =>
    if a == q.mark && b == q.mark then blockString? q rest else lineString? q cs
  | _ => lineString? q cs

/-- A character of a key without quotes. -/
def isKeyChar (c : Char) : Bool :=
  (c.toNat < 128 && c.isAlphanum) || c == '-' || c == '_'

/-- One part of a key, quoted on one line or without quotes. -/
def simpleKey? (cs : List Char) : Option (String × List Char) :=
  match cs with
  | [] => none
  | c :: rest =>
    if c == Quote.basic.mark then lineString? .basic rest
    else if c == Quote.literal.mark then lineString? .literal rest
    else if isKeyChar c then
      some (String.ofList (cs.takeWhile isKeyChar), cs.dropWhile isKeyChar)
    else none

/-- The parts of a key, with points between them and blanks around each. The fuel bounds the
parts. -/
def keyParts : Nat → List Char → Option (List String × List Char)
  | 0, _ => none
  | fuel + 1, cs =>
    match simpleKey? (skipBlanks cs) with
    | none => none
    | some (part, rest) =>
      match skipBlanks rest with
      | '.' :: rest => (keyParts fuel rest).map fun r => (part :: r.1, r.2)
      | rest => some ([part], rest)

/-- A key may have fewer parts than this. -/
def maxKeyParts : Nat := 80

/-- The parts of a key; one with too many of them is refused. -/
def key? (cs : List Char) : Option (List String × List Char) :=
  (keyParts (cs.length + 1) cs).filter fun r => r.1.length < maxKeyParts

end Toml
end PacketDispatch
