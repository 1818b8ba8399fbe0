import PacketDispatch.Text.Numeral
import PacketDispatch.Text.Shown

/-!
# Quoted text

A text between double quotes, with the characters that would be unclear written as escapes. The
form is meant for reading: quotes and backslashes are escaped, so the end of the text is certain.
-/

namespace PacketDispatch
namespace Text

/-- How one character is written inside quotes. -/
def quotedChar (c : Char) : List Char :=
  match c.toNat with
  | 0x00 => ['\\', '0']
  | 0x09 => ['\\', 't']
  | 0x0A => ['\\', 'n']
  | 0x0D => ['\\', 'r']
  | 0x22 => ['\\', c]
  | 0x5C => ['\\', c]
  | n =>
    if isShown c then [c]
    else ['\\', 'u', '\x7b'] ++ (digits 16 n).map lowerDigit ++ ['\x7d']

/-- The text in double quotes. -/
def quoted (s : String) : String :=
  "\"" ++ String.ofList (s.toList.flatMap quotedChar) ++ "\""

end Text
end PacketDispatch
