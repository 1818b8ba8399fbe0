import PacketDispatch.Toml.Lexeme
import PacketDispatch.Toml.Number
import PacketDispatch.Toml.Tree

/-!
# Reading TOML

A document is a list of statements, one a line: a key with its value, a header of a table, or a
header of a table in an array. The statements are put into a tree as they are read.
-/

namespace PacketDispatch
namespace Toml

/-- Arrays and tables between braces may be nested this deep. -/
def maxNesting : Nat := 79

/-- A scalar: its first character says which one it is. A date is tried before a number. -/
def scalar? (cs : List Char) : Option (Toml × List Char) :=
  match cs with
  | [] => none
  | c :: rest =>
    if c == Quote.basic.mark then (string? .basic rest).map fun r => (.string r.1, r.2)
    else if c == Quote.literal.mark then (string? .literal rest).map fun r => (.string r.1, r.2)
    else if c == 't' then (word? ['t', 'r', 'u', 'e'] cs).map (.boolean true, ·)
    else if c == 'f' then (word? ['f', 'a', 'l', 's', 'e'] cs).map (.boolean false, ·)
    else
      match datetime? cs with
      | some rest => some (.datetime, rest)
      | none =>
        match float? cs with
        | some rest => some (.float, rest)
        | none => (integer? cs).map fun r => (.integer r.1, r.2)

mutual

/-- A value with no blank before it. The fuel bounds the characters read, and `room` how deep arrays
and tables may still be nested. -/
def value : Nat → Nat → List Char → Option (Toml × List Char)
  | 0, _, _ => none
  | fuel + 1, room, cs =>
    match cs with
    | [] => none
    | c :: rest =>
      if c == '[' then
        match room with
        | 0 => none
        | room + 1 => (items fuel room [] rest).map fun r => (.array r.1, r.2)
      else if c.toNat = 0x7B then
        match room with
        | 0 => none
        | room + 1 =>
          match skipBlanks rest with
          | [] => none
          | d :: after =>
            if d.toNat = 0x7D then some (.table [], after)
            else (pairs fuel room [] rest).map fun r => (.table (Node.entriesToToml r.1), r.2)
      else scalar? cs

/-- The items of an array after those read already, with its closing bracket. -/
def items : Nat → Nat → List Toml → List Char → Option (List Toml × List Char)
  | 0, _, _, _ => none
  | fuel + 1, room, seen, cs =>
    match skipLayout fuel cs with
    | ']' :: rest => some (seen.reverse, rest)
    | cs =>
      match value fuel room cs with
      | none => none
      | some (v, rest) =>
        match skipLayout fuel rest with
        | ',' :: rest => items fuel room (v :: seen) rest
        | ']' :: rest => some ((v :: seen).reverse, rest)
        | _ => none

/-- One or more keys with their values between braces, with the closing brace. -/
def pairs : Nat → Nat → Entries → List Char → Option (Entries × List Char)
  | 0, _, _, _ => none
  | fuel + 1, room, seen, cs =>
    match key? cs with
    | some (key, '=' :: rest) =>
      match value fuel room (skipBlanks rest) with
      | none => none
      | some (v, rest) =>
        match seen.assign? key v with
        | none => none
        | some seen =>
          match skipBlanks rest with
          | [] => none
          | c :: after =>
            if c == ',' then pairs fuel room seen after
            else if c.toNat = 0x7D then some (seen, after)
            else none
    | _ => none

end

/-- A statement of a document. -/
inductive Statement
  | assign (key : List String) (v : Toml)
  | table (key : List String)
  | item (key : List String)

/-- A header after its opening bracket; two brackets stand for a table in an array. -/
def header? (cs : List Char) : Option (Statement × List Char) :=
  match cs with
  | '[' :: rest =>
    match key? rest with
    | some (key, ']' :: ']' :: rest) => some (.item key, rest)
    | _ => none
  | cs =>
    match key? cs with
    | some (key, ']' :: rest) => some (.table key, rest)
    | _ => none

/-- A key with its value. -/
def assignment? (cs : List Char) : Option (Statement × List Char) :=
  match key? cs with
  | some (key, '=' :: rest) =>
    (value (rest.length + 1) maxNesting (skipBlanks rest)).map fun r => (.assign key r.1, r.2)
  | _ => none

/-- One statement with no blank before it. -/
def statement? : List Char → Option (Statement × List Char)
  | '[' :: rest => header? rest
  | cs => assignment? cs

/-- The tree so far, and the path of the table that is open. -/
structure Document where
  entries : Entries
  path : List String

namespace Document

/-- The document before its first statement. -/
def empty : Document :=
  ⟨[], []⟩

/-- A statement is put into the tree. -/
def add? (d : Document) : Statement → Option Document
  | .assign key v => (d.entries.assignAt? d.path key v).map fun es => { d with entries := es }
  | .table key => (d.entries.openTable? key).map fun es => ⟨es, key⟩
  | .item key => (d.entries.openItem? key).map fun es => ⟨es, key⟩

end Document

/-- The rest of a document. Lines may be empty or hold a comment only. The fuel bounds the lines. -/
def lines : Nat → Document → List Char → Option Document
  | 0, _, _ => none
  | fuel + 1, d, cs =>
    match skipBlanks cs with
    | [] => some d
    | cs =>
      match lineEnd? cs with
      | some rest => lines fuel d rest
      | none => do
        let (s, rest) ← statement? cs
        lines fuel (← d.add? s) (← lineEnd? rest)

/-- The input without the mark that may stand at the start of a file. -/
def dropMark : List Char → List Char
  | c :: rest => if c.toNat = 0xFEFF then rest else c :: rest
  | [] => []

/-- The table of a document. -/
def parse (text : String) : Option Toml :=
  let cs := dropMark text.toList
  (lines (cs.length + 1) Document.empty cs).map fun d => .table (Node.entriesToToml d.entries)

end Toml
end PacketDispatch
