import PacketDispatch.Json.Basic
import PacketDispatch.Text.Numeral

/-!
# Writing JSON

Compact and indented text of a value. Members of an object are written in the order of their
names; a name orders by its code points.
-/

namespace PacketDispatch
namespace Json

/-- How one character is written inside a string. -/
def escapedChar (c : Char) : List Char :=
  match c.toNat with
  | 0x22 => ['\\', c]
  | 0x5C => ['\\', '\\']
  | 0x08 => ['\\', 'b']
  | 0x09 => ['\\', 't']
  | 0x0A => ['\\', 'n']
  | 0x0C => ['\\', 'f']
  | 0x0D => ['\\', 'r']
  | n =>
    if n < 0x20 then ['\\', 'u', '0', '0', Text.lowerDigit (n / 16), Text.lowerDigit (n % 16)]
    else [c]

/-- A text as a string literal. -/
def stringText (s : String) : String :=
  "\"" ++ String.ofList (s.toList.flatMap escapedChar) ++ "\""

/-- A literal; one that stands for no text is written as an empty string. -/
def literalText : Literal → String
  | .text s => stringText s
  | .unpaired => "\"\""

/-- The name of a member, for ordering. -/
def literalKey : Literal → String
  | .text s => s
  | .unpaired => ""

/-- A number. A spelling that was not kept is written as zero. -/
def numberText : Number → String
  | .natural n => Text.decimal n
  | .negated n => "-" ++ Text.decimal n
  | .fractional => "0"

mutual

/-- The values with every object's members in the order of their names. -/
def sorted : Json → Json
  | .array items => .array (sortedItems items)
  | .object members =>
    .object ((sortedMembers members).mergeSort fun a b => literalKey a.1 ≤ literalKey b.1)
  | v => v

/-- The items of an array, each sorted. -/
def sortedItems : List Json → List Json
  | [] => []
  | v :: rest => sorted v :: sortedItems rest

/-- The members of an object, each value sorted. -/
def sortedMembers : List (Literal × Json) → List (Literal × Json)
  | [] => []
  | (name, v) :: rest => (name, sorted v) :: sortedMembers rest

end

mutual

/-- The text of a value without spaces. -/
def compactOf : Json → String
  | .null => "null"
  | .bool b => if b then "true" else "false"
  | .number n => numberText n
  | .string s => literalText s
  | .array items => "[" ++ compactItems items ++ "]"
  | .object members => "\x7b" ++ compactMembers members ++ "\x7d"

/-- Items with commas between them. -/
def compactItems : List Json → String
  | [] => ""
  | [v] => compactOf v
  | v :: rest => compactOf v ++ "," ++ compactItems rest

/-- Members with commas between them. -/
def compactMembers : List (Literal × Json) → String
  | [] => ""
  | [(name, v)] => literalText name ++ ":" ++ compactOf v
  | (name, v) :: rest => literalText name ++ ":" ++ compactOf v ++ "," ++ compactMembers rest

end

/-- The start of a line at a depth of nesting, two spaces for each level. -/
def margin (depth : Nat) : String :=
  "\n" ++ String.ofList (List.replicate (2 * depth) ' ')

mutual

/-- The text of a value over several lines. -/
def indentedOf (depth : Nat) : Json → String
  | .array [] => "[]"
  | .array items => "[" ++ indentedItems (depth + 1) items ++ margin depth ++ "]"
  | .object [] => "\x7b\x7d"
  | .object members => "\x7b" ++ indentedMembers (depth + 1) members ++ margin depth ++ "\x7d"
  | .null => "null"
  | .bool b => if b then "true" else "false"
  | .number n => numberText n
  | .string s => literalText s

/-- Items, each on a line of its own. -/
def indentedItems (depth : Nat) : List Json → String
  | [] => ""
  | [v] => margin depth ++ indentedOf depth v
  | v :: rest => margin depth ++ indentedOf depth v ++ "," ++ indentedItems depth rest

/-- Members, each on a line of its own. -/
def indentedMembers (depth : Nat) : List (Literal × Json) → String
  | [] => ""
  | [(name, v)] => margin depth ++ literalText name ++ ": " ++ indentedOf depth v
  | (name, v) :: rest =>
    margin depth ++ literalText name ++ ": " ++ indentedOf depth v ++ "," ++
      indentedMembers depth rest

end

/-- The text of a value on one line. -/
def compact (v : Json) : String :=
  compactOf (sorted v)

/-- The text of a value over several lines, two spaces for each level. -/
def indented (v : Json) : String :=
  indentedOf 0 (sorted v)

end Json
end PacketDispatch
