import PacketDispatch.Settings.Value
import PacketDispatch.Text.Quoted

/-!
# Logging settings

Which lines are written and in what form. The level is kept as it was given, and checked later.
-/

namespace PacketDispatch
namespace Settings

/-- Logging settings. -/
structure Logging where
  level : String := "info"
  jsonFormat : Bool := false
  deriving DecidableEq, Repr

namespace Logging

/-- The levels that there are. -/
def levels : List String :=
  ["trace", "debug", "info", "warn", "error"]

/-- The level is one that there is. -/
def isValid (s : Logging) : Bool :=
  levels.contains s.level

/-- The report of a level that there is not. -/
def refusal (s : Logging) : String :=
  "Invalid log level: " ++ s.level ++ ". Must be one of: [" ++
    String.intercalate ", " (levels.map Text.quoted) ++ "]"

/-- The settings in a table or a list; fields that are missing have their defaults. -/
def ofValue? (v : Value) : Option Logging :=
  let d : Logging := {}
  if v.hasParts then do
    let level ← v.field "level" 0 Value.text? d.level
    let jsonFormat ← v.field "json_format" 1 Value.flag? d.jsonFormat
    some ⟨level, jsonFormat⟩
  else none

/-- The settings as lines of a file. -/
def fileLines (s : Logging) : List String :=
  ["[logging]",
    "level = " ++ Text.quoted s.level,
    "json_format = " ++ (if s.jsonFormat then "true" else "false")]

end Logging
end Settings
end PacketDispatch
